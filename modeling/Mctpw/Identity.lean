import Mctpw.EndpointSignals
import Mctpw.Formation
import Mctpw.MessageLog

set_option autoImplicit false

/- Whether an endpoint has one DeviceID over a whole run. -/
namespace Mctpw

open Runs Strings

/-- Where a DeviceID comes up: an object a scan is given, a signal about an endpoint,
or a message. -/
inductive Occasion
  | listed
  | added
  | removed
  | received (tagOwner : Bool) (msgTag : UInt8) (payload : ByteArray)

def Label.occasion : Label → Option Occasion
  | .resume _ _ _ => some .listed
  | .signal _ ⟨_, .interfacesAdded _ _⟩ => some .added
  | .signal _ ⟨_, .interfacesRemoved _ _⟩ => some .removed
  | .signal _ ⟨_, .messageReceived _ _ msgTag tagOwner payload⟩ =>
      some (.received tagOwner msgTag payload)
  | _ => none

/-- What an event is told on account of. -/
def EventType.occasion : EventType → Occasion
  | .deviceAdded => .added
  | .deviceRemoved => .removed

/-- On such an occasion the run has come across the endpoint of that EID behind the name. -/
def Occurs (start : System) (labels : List Label) (occasion : Occasion) (name : String)
    (eid : UInt8) : Prop :=
  ∃ state label, Visits System.step start labels state label ∧ label.occasion = some occasion ∧
    FormsFor state name eid label

/-- Whatever a DeviceID is formed for is in the cache by then, or on network 0. -/
def NetworkKnown (network : String → UInt8) (s : System) (label : Label) : Prop :=
  ∀ name eid, FormsFor s name eid label →
    (s.lib.networkIDCache.find name).isSome ∨ network name = 0

/-- The cache holds no wrong network. -/
def CacheRight (network : String → UInt8) (s : MCTPImpl) : Prop :=
  ∀ name value, s.networkIDCache.find name = some value → value = network name

def Files (eids : EndpointMapExtended) (device : DeviceID) (name : String) : Prop :=
  ∃ bus, eids.find device = some (bus, name)

/-- The EID and network of an endpoint decide its DeviceID wherever it occurs. The EID is
the one spelled by the path it is filed, told or erased for, or the source of the message. -/
structure OneIdentity {σ : Type} (serviceOf : String → σ) (networkID : σ → UInt8) (start : System)
    (labels : List Label) (t : MCTPImpl) : Prop where
  formed : ∀ name eid device, .identified name eid device ∈ t.trace →
    (∃ occasion, Occurs start labels occasion name eid) ∧
      device = DeviceID.make eid (networkID (serviceOf name))
  filed : ∀ device name, Files t.endpointMap device name →
    ∃ eid, (Occurs start labels .listed name eid ∨ Occurs start labels .added name eid) ∧
      device = DeviceID.make eid (networkID (serviceOf name))
  told : ∀ event, .networkChange event ∈ t.trace →
    ∃ name, Occurs start labels event.type.occasion name event.eid ∧
      event.deviceId = DeviceID.make event.eid (networkID (serviceOf name))
  received : ∀ device tagOwner msgTag payload, .extReceived device tagOwner msgTag payload ∈ t.trace →
    ∃ name eid, Occurs start labels (.received tagOwner msgTag payload) name eid ∧
      device = DeviceID.make eid (networkID (serviceOf name))
  erased : ∀ state next env sender objectPath interfaces eid,
    Visits System.step start labels state
      (.signal env ⟨sender, .interfacesRemoved objectPath interfaces⟩) →
    state.step (.signal env ⟨sender, .interfacesRemoved objectPath interfaces⟩) = some next →
    FormsFor state sender eid (.signal env ⟨sender, .interfacesRemoved objectPath interfaces⟩) →
      next.lib.endpointMap =
        state.lib.endpointMap.erase (DeviceID.make eid (networkID (serviceOf sender)))
  addressed : ∀ state next env sender objectPath interfaces eid,
    Visits System.step start labels state
      (.signal env ⟨sender, .interfacesRemoved objectPath interfaces⟩) →
    state.step (.signal env ⟨sender, .interfacesRemoved objectPath interfaces⟩) = some next →
    FormsFor state sender eid (.signal env ⟨sender, .interfacesRemoved objectPath interfaces⟩) →
      ∀ device name, Files state.lib.endpointMap device name → serviceOf name = serviceOf sender →
        device.mctpEID = eid → next.lib.endpointMap.find device = none
  apart : ∀ name name' eid eid' device device', .identified name eid device ∈ t.trace →
    .identified name' eid' device' ∈ t.trace →
    (device = device' ↔ eid = eid' ∧ networkID (serviceOf name) = networkID (serviceOf name'))

/-- The step forms the device, from the EID it comes across and the network it knows. -/
def Forms (s : System) (label : Label) (occasion : Occasion) (name : String) (eid : UInt8)
    (device : DeviceID) : Prop :=
  label.occasion = some occasion ∧ FormsFor s name eid label ∧
    device = DeviceID.make eid ((s.lib.networkIDCache.find name).getD 0)

/-- Every DeviceID the library holds or has handed out is one it is known to have
formed, for the service it is filed under where it is filed. -/
structure Sourced (known : Occasion → String → UInt8 → DeviceID → Prop) (s : System) : Prop where
  entries : ∀ device name, Files s.lib.endpointMap device name →
    ∃ eid, known .listed name eid device ∨ known .added name eid device
  scans : ∀ eids bus rest, .getManagedObjects eids bus rest ∈ s.scans →
    ∀ device name, Files eids device name → ∃ eid, known .listed name eid device
  bodies : ∀ name device, .newEID name device ∈ s.lib.spawned →
    ∃ eid, known .added name eid device
  removals : ∀ device, .eidRemoved device ∈ s.lib.spawned →
    ∃ name eid, known .removed name eid device
  events : ∀ event, .networkChange event ∈ s.lib.trace →
    event.eid = event.deviceId.mctpEID ∧
      ∃ name eid, known event.type.occasion name eid event.deviceId
  received : ∀ device tagOwner msgTag payload,
    .extReceived device tagOwner msgTag payload ∈ s.lib.trace →
      ∃ name eid, known (.received tagOwner msgTag payload) name eid device

/-- A DeviceID is formed on one of the occasions only. -/
theorem FormsFor.occasion {s : System} {label : Label} {name : String} {eid : UInt8}
    (forms : FormsFor s name eid label) : ∃ occasion, label.occasion = some occasion := by
  cases label with
  | resume index env reply => exact ⟨_, rfl⟩
  | signal env msg =>
      obtain ⟨sender, signal⟩ := msg
      cases signal with
      | interfacesAdded objectPath values => exact ⟨_, rfl⟩
      | interfacesRemoved objectPath interfaces => exact ⟨_, rfl⟩
      | messageReceived messageType srcEid msgTag tagOwner payload => exact ⟨_, rfl⟩
      | propertiesChanged intfName changed => exact forms.2.2.2.elim
      | other member => exact forms.2.2.2.elim
  | _ => exact forms.elim

theorem Files.of_erase {eids : EndpointMapExtended} {erased device : DeviceID} {name : String}
    (filed : Files (eids.erase erased) device name) : Files eids device name := by
  obtain ⟨bus, found⟩ := filed
  rw [UnorderedMap.find_erase] at found
  split at found
  · cases found
  · exact ⟨bus, found⟩

namespace MCTPImpl

/-- What a coroutine leaves filed, and what it takes along into its next suspension. -/
structure Carries (outcome : Progress × MCTPImpl) (filed collected : DeviceID → String → Prop) :
    Prop where
  filed : ∀ device name, Files outcome.2.endpointMap device name → filed device name
  collected : ∀ eids bus rest, outcome.1 = .suspended (.getManagedObjects eids bus rest) →
    ∀ device name, Files eids device name → collected device name

theorem Carries.mono {outcome : Progress × MCTPImpl} {filed collected filed' collected' :
    DeviceID → String → Prop} (carries : Carries outcome filed collected)
    (files : ∀ device name, filed device name → filed' device name)
    (collects : ∀ device name, collected device name → collected' device name) :
    Carries outcome filed' collected' where
  filed device name held := files device name (carries.filed device name held)
  collected eids bus rest waits device name held :=
    collects device name (carries.collected eids bus rest waits device name held)

theorem scanService_files {env : Env} {bus : Bus} {values : DictType Interfaces}
    {eids : EndpointMapExtended} {s : MCTPImpl} {device : DeviceID} {name : String}
    (filed : Files (scanService env bus values eids s).1 device name) :
    Files eids device name ∨
      (name = bus.2 ∧ Filed env bus ((s.networkIDCache.find bus.2).getD 0) values s device) := by
  obtain ⟨id, found⟩ := filed
  have scanned := scanService_find env bus values eids s device
  rw [getNetworkID_fst] at scanned
  by_cases given : Filed env bus ((s.networkIDCache.find bus.2).getD 0) values s device
  · rw [scanned.1 given] at found
    exact .inr ⟨(congrArg Prod.snd (Option.some.inj found)).symm, given⟩
  · rw [scanned.2 given] at found
    exact .inl ⟨id, found⟩

theorem finishDetect_carries (env : Env) (s : MCTPImpl) :
    Carries (finishDetect env s) (Files s.endpointMap) fun _ _ => False where
  filed device name held := by
    obtain ⟨_, _, same⟩ := finishDetect_reports env s
    rwa [same] at held
  collected eids bus rest waits := absurd waits (finishDetect_not_suspended env s _)

theorem buildMatchingEndpointMap_carries (env : Env) (eids : EndpointMapExtended) (buses : List Bus)
    (s : MCTPImpl) :
    Carries (buildMatchingEndpointMap env eids buses s)
      (fun device name => Files s.endpointMap device name ∨ Files eids device name)
      (Files eids) := by
  unfold buildMatchingEndpointMap
  cases buses with
  | nil =>
      exact (finishDetect_carries env { s with endpointMap := eids }).mono
        (fun device name held => .inr held) fun _ _ => False.elim
  | cons bus rest =>
      refine ⟨fun device name held => .inl held, ?_⟩
      intro eids' bus' rest' waits device name held
      cases waits
      exact held

theorem findBuses_carries (env : Env) (buses : List Bus) (services : List String) (s : MCTPImpl) :
    Carries (findBuses env buses services s) (Files s.endpointMap) fun _ _ => False := by
  obtain ⟨_, read, ⟨_, _, same⟩, outcome⟩ := findBuses_cases env buses services s
  have map : read.endpointMap = s.endpointMap := by rw [same]
  have empty : ∀ device name, ¬ Files ∅ device name := by
    rintro device name ⟨_, found⟩
    cases found
  rw [← map]
  rcases outcome with built | ⟨_, _, _, asked⟩
  · rw [built]
    exact (buildMatchingEndpointMap_carries env ∅ buses { read with isInitialisationsDone := true }).mono
      (fun device name held => held.resolve_right (empty device name)) empty
  · rw [asked]
    refine ⟨fun device name held => held, ?_⟩
    intro eids bus rest waits
    cases waits

/-- What the service a coroutine has been waiting for adds to what it was carrying. -/
inductive Gathers (env : Env) (s : MCTPImpl) : Scan → Reply → DeviceID → String → Prop
  | carried {eids : EndpointMapExtended} {device : DeviceID} {name : String} (bus : Bus)
      (rest : List Bus) (reply : Reply) : Files eids device name →
      Gathers env s (.getManagedObjects eids bus rest) reply device name
  | given {values : DictType Interfaces} {device : DeviceID} (eids : EndpointMapExtended) (bus : Bus)
      (rest : List Bus) : Filed env bus ((s.networkIDCache.find bus.2).getD 0) values s device →
      Gathers env s (.getManagedObjects eids bus rest) (.managedObjects (.ok values)) device bus.2

theorem resume_carries {env : Env} {scan : Scan} {reply : Reply} {s : MCTPImpl}
    {outcome : Progress × MCTPImpl} (resumed : resume env scan reply s = some outcome) :
    Carries outcome
      (fun device name => Files s.endpointMap device name ∨ Gathers env s scan reply device name)
      (Gathers env s scan reply) := by
  have resumes := resume_resumes resumed
  cases resumes with
  | unlisted failed =>
      exact (finishDetect_carries env { s with isInitialisationsDone := true }).mono
        (fun device name held => .inl held) fun _ _ => False.elim
  | listed services =>
      exact (findBuses_carries env _ _ s).mono (fun device name held => .inl held)
        fun _ _ => False.elim
  | owned buses service rest reply uniqueName matched =>
      refine (findBuses_carries env buses rest _).mono (fun device name held => .inl ?_)
        fun _ _ => False.elim
      rwa [matchService_endpointMap] at held
  | skipped eids bus rest failed =>
      have carried : ∀ device name, Files eids device name → Gathers env s
          (.getManagedObjects eids bus rest) (.managedObjects (.error failed)) device name :=
        fun device name held => .carried bus rest _ held
      exact (buildMatchingEndpointMap_carries env eids rest s).mono
        (fun device name held => held.imp_right (carried device name)) carried
  | scanned eids bus rest values =>
      have gathered : ∀ device name, Files (scanService env bus values eids s).1 device name →
          Gathers env s (.getManagedObjects eids bus rest) (.managedObjects (.ok values)) device name := by
        intro device name held
        rcases scanService_files held with old | ⟨rfl, given⟩
        · exact .carried bus rest _ old
        · exact .given eids bus rest given
      obtain ⟨_, _, _, _, same⟩ := scanService_emits env bus values eids s
      have map : (scanService env bus values eids s).2.endpointMap = s.endpointMap := by rw [same]
      refine (buildMatchingEndpointMap_carries env _ rest _).mono (fun device name held => ?_) gathered
      rw [map] at held
      exact held.imp_right (gathered device name)

/-- A removal that is handled erases the key of the EID its path spells, on the network
known for its sender. -/
theorem onMCTPEvent_erased {env : Env} {sender objectPath : String} {interfaces : List String}
    {s : MCTPImpl} {eid : UInt8} (done : s.isInitialisationsDone = true)
    (matched : sender ∈ s.matchedBuses) (under : startsWith objectPath endpointPrefix = true)
    (spelled : pathEID objectPath = some eid) (held : supportedMessageTypes ∈ interfaces) :
    (onMCTPEvent env ⟨sender, .interfacesRemoved objectPath interfaces⟩ s).2.endpointMap =
      s.endpointMap.erase (DeviceID.make eid ((s.networkIDCache.find sender).getD 0)) := by
  have formed : (getDeviceIDFromPath env objectPath sender s).1 =
      .ok (DeviceID.make eid ((s.networkIDCache.find sender).getD 0)) := by
    rw [getDeviceIDFromPath_fst, getNetworkID_fst, spelled]
  obtain ⟨_, _, _, _, looked⟩ := getDeviceIDFromPath_emits env objectPath sender s
  obtain ⟨_, _, erased⟩ := onEIDRemoved_eq (DeviceID.make eid ((s.networkIDCache.find sender).getD 0))
    (getDeviceIDFromPath env objectPath sender s).2
  rw [onMCTPEvent_removed done matched under held formed, erased, looked]

end MCTPImpl

section Provenance

variable {known : Occasion → String → UInt8 → DeviceID → Prop} {network : String → UInt8}
  {s t : System} {label : Label}

/-- What was known before a step, and what the step forms. -/
def Learnt (known : Occasion → String → UInt8 → DeviceID → Prop) (s : System) (label : Label)
    (occasion : Occasion) (name : String) (eid : UInt8) (device : DeviceID) : Prop :=
  known occasion name eid device ∨ Forms s label occasion name eid device

theorem Sourced.mono {known' : Occasion → String → UInt8 → DeviceID → Prop}
    (sourced : Sourced known s)
    (later : ∀ occasion name eid device, known occasion name eid device →
      known' occasion name eid device) : Sourced known' s where
  entries device name filed := by
    obtain ⟨eid, old⟩ := sourced.entries device name filed
    exact ⟨eid, old.imp (later _ _ _ _) (later _ _ _ _)⟩
  scans eids bus rest running device name filed := by
    obtain ⟨eid, old⟩ := sourced.scans eids bus rest running device name filed
    exact ⟨eid, later _ _ _ _ old⟩
  bodies name device queued := by
    obtain ⟨eid, old⟩ := sourced.bodies name device queued
    exact ⟨eid, later _ _ _ _ old⟩
  removals device queued := by
    obtain ⟨name, eid, old⟩ := sourced.removals device queued
    exact ⟨name, eid, later _ _ _ _ old⟩
  events event member := by
    obtain ⟨same, name, eid, old⟩ := sourced.events event member
    exact ⟨same, name, eid, later _ _ _ _ old⟩
  received device tagOwner msgTag payload member := by
    obtain ⟨name, eid, old⟩ := sourced.received device tagOwner msgTag payload member
    exact ⟨name, eid, later _ _ _ _ old⟩

/-- A DeviceID handed to the extended callback is formed by the message it came with. -/
theorem step_extReceived (alone : OneCallback s.lib) (reads : ReadsNetworks network label)
    (quiet : label ≠ .body) (stepped : s.step label = some t) {device : DeviceID} {tagOwner : Bool}
    {msgTag : UInt8} {payload : ByteArray}
    (member : .extReceived device tagOwner msgTag payload ∈ t.lib.trace) :
    .extReceived device tagOwner msgTag payload ∈ s.lib.trace ∨
      ∃ name eid, Forms s label (.received tagOwner msgTag payload) name eid device := by
  obtain ⟨_, effects, grown, formed, names⟩ := step_identifies reads quiet stepped
  obtain ⟨words, handed, few⟩ := System.step_hands alone stepped
  rw [grown] at member
  refine (List.mem_append.mp member).imp_right fun new => ?_
  obtain ⟨name, eid, identified⟩ := formed _ new
  refine ⟨name, eid, ?_, (names name eid).mp ⟨device, identified⟩, formed _ identified⟩
  have fresh : words = effects.filter Effect.isDelivery := by
    simpa [delivered, MCTPImpl.history, grown] using handed.symm
  have word : .extReceived device tagOwner msgTag payload ∈ words := by
    rw [fresh]
    exact List.mem_filter.mpr ⟨new, rfl⟩
  rcases few with rfl | ⟨only, rfl, hands⟩
  · cases word
  · cases List.mem_singleton.mp word
    cases hands
    rfl

/-- A step other than a body keeps history sourced when what it holds afterwards was
held before or has just been formed. -/
theorem Sourced.of_held (sourced : Sourced known s) (alone : OneCallback s.lib)
    (reads : ReadsNetworks network label) (quiet : label ≠ .body) (stepped : s.step label = some t)
    (entries : ∀ device name, Files t.lib.endpointMap device name →
      Files s.lib.endpointMap device name ∨ ∃ eid, Learnt known s label .listed name eid device)
    (scans : ∀ eids bus rest, .getManagedObjects eids bus rest ∈ t.scans →
      .getManagedObjects eids bus rest ∈ s.scans ∨ ∀ device name, Files eids device name →
        ∃ eid, Learnt known s label .listed name eid device)
    (bodies : ∀ name device, .newEID name device ∈ t.lib.spawned →
      .newEID name device ∈ s.lib.spawned ∨ ∃ eid, Forms s label .added name eid device)
    (removals : ∀ device, .eidRemoved device ∈ t.lib.spawned →
      .eidRemoved device ∈ s.lib.spawned ∨ ∃ name eid, Forms s label .removed name eid device) :
    Sourced (Learnt known s label) t := by
  refine ⟨?_, ?_, ?_, ?_, ?_, ?_⟩
  · intro device name filed
    rcases entries device name filed with before | ⟨eid, listed⟩
    · obtain ⟨eid, old⟩ := sourced.entries device name before
      exact ⟨eid, old.imp .inl .inl⟩
    · exact ⟨eid, .inl listed⟩
  · intro eids bus rest running device name filed
    rcases scans eids bus rest running with before | listed
    · obtain ⟨eid, old⟩ := sourced.scans eids bus rest before device name filed
      exact ⟨eid, .inl old⟩
    · exact listed device name filed
  · intro name device queued
    rcases bodies name device queued with before | ⟨eid, added⟩
    · obtain ⟨eid, old⟩ := sourced.bodies name device before
      exact ⟨eid, .inl old⟩
    · exact ⟨eid, .inr added⟩
  · intro device queued
    rcases removals device queued with before | ⟨name, eid, removed⟩
    · obtain ⟨name, eid, old⟩ := sourced.removals device before
      exact ⟨name, eid, .inl old⟩
    · exact ⟨name, eid, .inr removed⟩
  · intro event member
    obtain ⟨_, effects, grown, formed, _⟩ := step_identifies reads quiet stepped
    rw [grown] at member
    rcases List.mem_append.mp member with before | new
    · obtain ⟨same, name, eid, old⟩ := sourced.events event before
      exact ⟨same, name, eid, .inl old⟩
    · exact (formed _ new).elim
  · intro device tagOwner msgTag payload member
    rcases step_extReceived alone reads quiet stepped member with before | ⟨name, eid, received⟩
    · obtain ⟨name, eid, old⟩ := sourced.received device tagOwner msgTag payload before
      exact ⟨name, eid, .inl old⟩
    · exact ⟨name, eid, .inr received⟩

/-- Nothing more is filed or collected. -/
theorem Sourced.of_spawned (sourced : Sourced known s) (alone : OneCallback s.lib)
    (reads : ReadsNetworks network label) (quiet : label ≠ .body) (stepped : s.step label = some t)
    (entries : ∀ device name, Files t.lib.endpointMap device name →
      Files s.lib.endpointMap device name)
    (scans : ∀ eids bus rest, .getManagedObjects eids bus rest ∈ t.scans →
      .getManagedObjects eids bus rest ∈ s.scans)
    {more : List Spawned} (spawned : t.lib.spawned = s.lib.spawned ++ more)
    (bodies : ∀ name device, .newEID name device ∈ more →
      ∃ eid, Forms s label .added name eid device)
    (removals : ∀ device, .eidRemoved device ∈ more →
      ∃ name eid, Forms s label .removed name eid device) : Sourced (Learnt known s label) t := by
  refine sourced.of_held alone reads quiet stepped
    (fun device name filed => .inl (entries device name filed))
    (fun eids bus rest running => .inl (scans eids bus rest running)) ?_ ?_
  · intro name device queued
    rw [spawned] at queued
    exact (List.mem_append.mp queued).imp_right (bodies name device)
  · intro device queued
    rw [spawned] at queued
    exact (List.mem_append.mp queued).imp_right (removals device)

/-- Nothing but the history has changed. -/
theorem Sourced.of_same (sourced : Sourced known s) (alone : OneCallback s.lib)
    (reads : ReadsNetworks network label) (quiet : label ≠ .body) (stepped : s.step label = some t)
    (map : t.lib.endpointMap = s.lib.endpointMap) (spawned : t.lib.spawned = s.lib.spawned)
    (scans : ∀ eids bus rest, .getManagedObjects eids bus rest ∈ t.scans →
      .getManagedObjects eids bus rest ∈ s.scans) : Sourced (Learnt known s label) t := by
  have added : t.lib.spawned = s.lib.spawned ++ [] := by rw [spawned, List.append_nil]
  refine sourced.of_spawned alone reads quiet stepped ?_ scans added (by simp) (by simp)
  intro device name filed
  rwa [map] at filed

theorem sourced_resume {index : Nat} {env : Env} {reply : Reply} (sourced : Sourced known s)
    (alone : OneCallback s.lib) (reads : ReadsNetworks network (.resume index env reply))
    (stepped : s.step (.resume index env reply) = some t) :
    Sourced (Learnt known s (.resume index env reply)) t := by
  obtain ⟨scan, progress, lib, waiting, resumed, rfl, left⟩ := System.step_resume stepped
  have spawned := MCTPImpl.resume_spawned resumed
  have gathered : ∀ device name, MCTPImpl.Gathers env s.lib scan reply device name →
      ∃ eid, Learnt known s (.resume index env reply) .listed name eid device := by
    intro device name gathers
    cases gathers with
    | carried bus rest reply held =>
        obtain ⟨eid, old⟩ := sourced.scans _ bus rest (List.mem_of_getElem? waiting) device name held
        exact ⟨eid, .inl old⟩
    | given eids bus rest filed =>
        obtain ⟨object, member, eid, selected, rfl⟩ := filed
        have accepted := (MCTPImpl.acceptObject_eq_some_iff env bus.2 object s.lib eid).mpr selected
        exact ⟨eid, .inr ⟨rfl, ⟨eids, bus, rest, _, object, waiting, rfl, rfl, member,
          MCTPImpl.acceptObject_eq_some.mp accepted⟩, rfl⟩⟩
  have carries := MCTPImpl.resume_carries resumed
  refine sourced.of_held alone reads (by simp) stepped
    (fun device name filed => (carries.filed device name filed).imp_right (gathered device name))
    ?_ (fun _ _ queued => .inl (spawned ▸ queued)) (fun _ queued => .inl (spawned ▸ queued))
  intro eids bus rest running
  rcases left with ⟨next, rfl, scans⟩ | ⟨ec, rfl, scans⟩
  · rw [scans] at running
    rcases List.mem_or_eq_of_mem_set running with before | same
    · exact .inl before
    · refine .inr fun device name held => gathered device name ?_
      exact carries.collected eids bus rest (by rw [same]) device name held
  · rw [scans] at running
    exact .inl (List.mem_of_mem_eraseIdx running)

theorem sourced_signal {env : Env} {msg : Message} (sourced : Sourced known s)
    (alone : OneCallback s.lib) (reads : ReadsNetworks network (.signal env msg))
    (stepped : s.step (.signal env msg) = some t) :
    Sourced (Learnt known s (.signal env msg)) t := by
  obtain ⟨_, _, same⟩ := System.step_signal stepped
  have lib : t.lib = (MCTPImpl.onMCTPEvent env msg s.lib).2 := by rw [same]
  have running : ∀ eids bus rest, .getManagedObjects eids bus rest ∈ t.scans →
      .getManagedObjects eids bus rest ∈ s.scans := by
    rw [same]
    exact fun _ _ _ => id
  have quiet : Label.signal env msg ≠ .body := by simp
  have unchanged : t.lib.endpointMap = s.lib.endpointMap → t.lib.spawned = s.lib.spawned →
      Sourced (Learnt known s (.signal env msg)) t :=
    fun map spawned => sourced.of_same alone reads quiet stepped map spawned running
  obtain ⟨sender, signal⟩ := msg
  have looked := fun objectPath => MCTPImpl.getDeviceIDFromPath_emits env objectPath sender s.lib
  have handles := MCTPImpl.onMCTPEvent_handles env ⟨sender, signal⟩ s.lib
  generalize (MCTPImpl.onMCTPEvent env ⟨sender, signal⟩ s.lib).2 = after at handles lib
  cases handles with
  | ignored => exact unchanged (by rw [lib]) (by rw [lib])
  | newService values =>
      refine unchanged ?_ ?_ <;> rw [lib]
      · exact MCTPImpl.onNewService_endpointMap env sender s.lib
      · exact MCTPImpl.onNewService_spawned env sender s.lib
  | looked objectPath =>
      obtain ⟨_, _, _, _, emitted⟩ := looked objectPath
      exact unchanged (by rw [lib, emitted]) (by rw [lib, emitted])
  | newEID objectPath values device added done matched under formed supported =>
      cases added
      obtain ⟨_, _, _, _, emitted⟩ := looked objectPath
      obtain ⟨eid, spelled, made⟩ := MCTPImpl.getDeviceIDFromPath_ok formed
      rw [MCTPImpl.getNetworkID_fst] at made
      have spawned : t.lib.spawned = s.lib.spawned ++ [.newEID sender device] := by rw [lib]
      refine sourced.of_spawned alone reads quiet stepped ?_ running spawned ?_ ?_
      · intro device' name filed
        rwa [lib, emitted] at filed
      · intro name device' last
        cases List.mem_singleton.mp last
        exact ⟨eid, rfl, ⟨rfl, done, matched, under, spelled, supported⟩, made⟩
      · intro device' last
        cases List.mem_singleton.mp last
  | eidRemoved objectPath interfaces device removed done matched under formed held =>
      cases removed
      obtain ⟨_, _, _, _, emitted⟩ := looked objectPath
      obtain ⟨eid, spelled, made⟩ := MCTPImpl.getDeviceIDFromPath_ok formed
      rw [MCTPImpl.getNetworkID_fst] at made
      obtain ⟨more, notices, erased⟩ := MCTPImpl.onEIDRemoved_eq device
        (MCTPImpl.getDeviceIDFromPath env objectPath sender s.lib).2
      have spawned : t.lib.spawned = s.lib.spawned ++ more := by rw [lib, erased, emitted]
      refine sourced.of_spawned alone reads quiet stepped ?_ running spawned ?_ ?_
      · intro device' name filed
        rw [lib, erased, emitted] at filed
        exact filed.of_erase
      · intro name device' new
        cases notices _ new
      · intro device' new
        cases notices _ new
        exact ⟨sender, eid, rfl, ⟨rfl, done, matched, under, spelled, held⟩, made⟩
  | serviceRemoved => exact unchanged (by rw [lib]) (by rw [lib])
  | message messageType srcEid msgTag tagOwner payload =>
      obtain ⟨_, _, _, _, emitted⟩ := MCTPImpl.onMessageReceived_emits env sender messageType srcEid
        msgTag tagOwner payload s.lib
      exact unchanged (by rw [lib, emitted]) (by rw [lib, emitted])
  | ownEID => exact unchanged (by rw [lib]; rfl) (by rw [lib]; rfl)

/-- A body's delivery is about the device it was spawned for. -/
theorem sourced_body (sourced : Sourced known s) (stepped : s.step .body = some t) :
    Sourced known t := by
  obtain ⟨body, rest, queued, rfl⟩ := System.step_body stepped
  have head : body ∈ s.lib.spawned := by rw [queued]; exact List.mem_cons_self ..
  have tail : ∀ other ∈ rest, other ∈ s.lib.spawned := by
    rw [queued]
    exact fun other => List.mem_cons_of_mem body
  have told : ∃ event, (MCTPImpl.runSpawned body { s.lib with spawned := rest }).trace =
      s.lib.trace ++ [.networkChange event] ∧ event.eid = event.deviceId.mctpEID ∧
        ∃ name eid, known event.type.occasion name eid event.deviceId := by
    cases body with
    | newEID name device => exact ⟨_, rfl, rfl, name, sourced.bodies name device head⟩
    | eidRemoved device => exact ⟨_, rfl, rfl, sourced.removals device head⟩
  obtain ⟨event, grown, source⟩ := told
  have spawned := MCTPImpl.runSpawned_spawned body rest s.lib
  refine ⟨?_, sourced.scans, ?_, ?_, ?_, ?_⟩
  · rintro device name ⟨bus, found⟩
    rcases MCTPImpl.runSpawned_find found with before | ⟨_, rfl, entry⟩
    · exact sourced.entries device name ⟨bus, before⟩
    · cases entry
      obtain ⟨eid, added⟩ := sourced.bodies name device head
      exact ⟨eid, .inr added⟩
  · intro name device member
    rw [spawned] at member
    exact sourced.bodies name device (tail _ member)
  · intro device member
    rw [spawned] at member
    exact sourced.removals device (tail _ member)
  · intro other member
    rw [grown] at member
    rcases List.mem_append.mp member with before | new
    · exact sourced.events other before
    · cases List.mem_singleton.mp new
      exact source
  · intro device tagOwner msgTag payload member
    rw [grown] at member
    rcases List.mem_append.mp member with before | new
    · exact sourced.received device tagOwner msgTag payload before
    · cases List.mem_singleton.mp new

theorem sourced_step (sourced : Sourced known s) (alone : OneCallback s.lib)
    (reads : ReadsNetworks network label) (stepped : s.step label = some t) :
    Sourced (Learnt known s label) t := by
  cases label with
  | body => exact (sourced_body sourced stepped).mono fun _ _ _ _ => .inl
  | resume index env reply => exact sourced_resume sourced alone reads stepped
  | signal env msg => exact sourced_signal sourced alone reads stepped
  | detect =>
      refine sourced.of_same alone reads (by simp) stepped ?_ ?_ ?_ <;> cases stepped
      · rfl
      · rfl
      · intro eids bus rest running
        rcases List.mem_append.mp running with before | last
        · exact before
        · cases List.mem_singleton.mp last
  | registerResponder env specVersion =>
      obtain ⟨_, _, _, same⟩ := MCTPImpl.registerResponder_reports env specVersion s.lib
      have after := System.step_registerResponder stepped
      rw [same] at after
      exact sourced.of_same alone reads (by simp) stepped (by rw [after]) (by rw [after])
        (by rw [after]; exact fun _ _ _ => id)
  | getOwnEIDs env callback =>
      obtain ⟨_, _, _, same⟩ := MCTPImpl.getOwnEIDs_reports env callback s.lib
      refine sourced.of_same alone reads (by simp) stepped ?_ ?_ ?_ <;> cases stepped
      · rw [same]
      · rw [same]
      · exact fun _ _ _ => id
  | setExtendedReceiveCallback callback =>
      refine sourced.of_same alone reads (by simp) stepped ?_ ?_ ?_ <;> cases stepped
      · dsimp only [MCTPImpl.setExtendedReceiveCallback]
        split <;> rfl
      · dsimp only [MCTPImpl.setExtendedReceiveCallback]
        split <;> rfl
      · exact fun _ _ _ => id
  | send request devID =>
      obtain ⟨_, _, same⟩ := MCTPImpl.send_reports request devID s.lib
      refine sourced.of_same alone reads (by simp) stepped ?_ ?_ ?_ <;> cases stepped
      · rw [same]
      · rw [same]
      · exact fun _ _ _ => id

/-- The devices the steps of a run form. -/
def Formed (start : System) (labels : List Label) (occasion : Occasion) (name : String) (eid : UInt8)
    (device : DeviceID) : Prop :=
  ∃ state label, Visits System.step start labels state label ∧
    Forms state label occasion name eid device

variable {start : System} {labels : List Label}

theorem Formed.occurs {occasion : Occasion} {name : String} {eid : UInt8} {device : DeviceID}
    (formed : Formed start labels occasion name eid device) :
    Occurs start labels occasion name eid := by
  obtain ⟨state, label, visits, occasion, forms, _⟩ := formed
  exact ⟨state, label, visits, occasion, forms⟩

theorem Formed.eid_eq {occasion : Occasion} {name : String} {eid : UInt8} {device : DeviceID}
    (formed : Formed start labels occasion name eid device) : device.mctpEID = eid := by
  obtain ⟨_, _, _, _, _, rfl⟩ := formed
  exact DeviceID.mctpEID_make eid _

/-- One more step forms what it forms. -/
theorem formed_snoc (run : Run System.step Any start labels s) :
    Formed start (labels ++ [label]) = Learnt (Formed start labels) s label := by
  funext occasion name eid device
  apply propext
  constructor
  · rintro ⟨state, other, visits, forms⟩
    rcases visits.snoc_cases with before | ⟨rfl, here⟩
    · exact .inl ⟨state, other, before, forms⟩
    · cases run.deterministic here
      exact .inr forms
  · rintro (⟨state, other, visits, forms⟩ | forms)
    · exact ⟨state, other, visits.later [label], forms⟩
    · exact ⟨s, label, .now run, forms⟩

/-- The history records the devices a step forms, and no others. -/
theorem step_identified_iff (reads : ReadsNetworks network label) (stepped : s.step label = some t)
    (name : String) (eid : UInt8) (device : DeviceID) :
    .identified name eid device ∈ t.lib.trace ↔
      .identified name eid device ∈ s.lib.trace ∨
        ∃ occasion, Forms s label occasion name eid device := by
  by_cases body : label = .body
  · subst body
    obtain ⟨body, rest, _, rfl⟩ := System.step_body stepped
    obtain ⟨_, event, same⟩ := MCTPImpl.runSpawned_eq body rest s.lib
    have none : ∀ occasion, ¬ Forms s .body occasion name eid device := fun _ forms => forms.2.1.elim
    rw [same]
    simp [none]
  · obtain ⟨_, effects, grown, formed, names⟩ := step_identifies reads body stepped
    rw [grown, List.mem_append]
    refine or_congr_right ⟨fun new => ?_, ?_⟩
    · have forms := (names name eid).mp ⟨device, new⟩
      obtain ⟨occasion, happened⟩ := forms.occasion
      exact ⟨occasion, happened, forms, formed _ new⟩
    · rintro ⟨occasion, _, forms, rfl⟩
      obtain ⟨device, new⟩ := (names name eid).mpr forms
      cases formed _ new
      exact new

/-- The history of a run records the devices its steps form, and no others. -/
theorem identified_iff {host : ByteOrder.Endian} {config : MCTPConfiguration}
    {networkChangeCb rxCb : Bool}
    (run : Run System.step (fun _ label => ReadsNetworks network label)
      (.construct host config networkChangeCb rxCb) labels t)
    (name : String) (eid : UInt8) (device : DeviceID) :
    .identified name eid device ∈ t.lib.trace ↔
      ∃ occasion, Formed (.construct host config networkChangeCb rxCb) labels occasion name eid
        device := by
  induction run with
  | nil =>
      refine iff_of_false (fun member => nomatch member) ?_
      rintro ⟨_, _, _, ⟨before, after, split, _⟩, _⟩
      simp at split
  | snoc before reads stepped ih =>
      rw [step_identified_iff reads stepped, ih, formed_snoc (before.mono fun _ _ _ => trivial)]
      simp only [Learnt, exists_or]

theorem sourced_construct (host : ByteOrder.Endian) (config : MCTPConfiguration)
    (networkChangeCb rxCb : Bool) (known : Occasion → String → UInt8 → DeviceID → Prop) :
    Sourced known (.construct host config networkChangeCb rxCb) := by
  refine ⟨?_, ?_, ?_, ?_, ?_, ?_⟩
  · rintro device name ⟨_, found⟩
    cases found
  · intro eids bus rest member
    cases member
  · intro name device member
    cases member
  · intro device member
    cases member
  · intro event member
    cases member
  · intro device tagOwner msgTag payload member
    cases member

theorem run_sourced {host : ByteOrder.Endian} {config : MCTPConfiguration}
    {networkChangeCb rxCb : Bool}
    (run : Run System.step (fun _ label => ReadsNetworks network label)
      (.construct host config networkChangeCb rxCb) labels t) :
    Sourced (Formed (.construct host config networkChangeCb rxCb) labels) t := by
  induction run with
  | nil => exact sourced_construct host config networkChangeCb rxCb _
  | snoc before reads stepped ih =>
      rw [formed_snoc (before.mono fun _ _ _ => trivial)]
      exact sourced_step ih (run_oneCallback before) reads stepped

theorem CacheRight.identifies {forms : String → UInt8 → Prop} {s t : MCTPImpl}
    (right : CacheRight network s) (identifies : MCTPImpl.Identifies network s t forms) :
    CacheRight network t := by
  intro name value found
  rcases identifies.learnt name value found with old | learnt
  · exact right name value old
  · exact learnt

theorem cacheRight_step (right : CacheRight network s.lib) (reads : ReadsNetworks network label)
    (stepped : s.step label = some t) : CacheRight network t.lib := by
  by_cases body : label = .body
  · subst body
    obtain ⟨body, rest, _, rfl⟩ := System.step_body stepped
    obtain ⟨_, event, same⟩ := MCTPImpl.runSpawned_eq body rest s.lib
    rw [same]
    exact right
  · exact right.identifies (step_identifies reads body stepped)

/-- Once the networks are known they are the ones the cache gives. -/
theorem NetworkKnown.cached (known : NetworkKnown network s label) (right : CacheRight network s.lib)
    {name : String} {eid : UInt8} (forms : FormsFor s name eid label) :
    (s.lib.networkIDCache.find name).getD 0 = network name := by
  cases cached : s.lib.networkIDCache.find name with
  | some value => exact right name value cached
  | none =>
      rcases known name eid forms with held | zero
      · rw [cached] at held
        cases held
      · exact zero.symm

section Identity

variable {σ : Type} {serviceOf : String → σ} {networkID : σ → UInt8} {host : ByteOrder.Endian}
  {config : MCTPConfiguration} {networkChangeCb rxCb : Bool}

theorem run_cacheRight
    (run : Run System.step (fun _ label => ReadsNetworks network label)
      (.construct host config networkChangeCb rxCb) labels t) : CacheRight network t.lib := by
  refine run.invariant (fun s => CacheRight network s.lib) ?_ ?_
  · intro name value found
    cases found
  · exact fun _ _ _ right reads stepped => cacheRight_step right reads stepped

/-- A DeviceID formed over a run that always knows the network carries the right one. -/
theorem formed_right
    (run : Run System.step (fun s label => ReadsNetworks network label ∧ NetworkKnown network s label)
      (.construct host config networkChangeCb rxCb) labels t)
    {occasion : Occasion} {name : String} {eid : UInt8} {device : DeviceID}
    (formed : Formed (.construct host config networkChangeCb rxCb) labels occasion name eid device) :
    device = DeviceID.make eid (network name) := by
  obtain ⟨state, label, visits, _, forms, rfl⟩ := formed
  obtain ⟨_, _, _, _, front, ⟨_, known⟩, _, _⟩ := visits.admitted run
  rw [known.cached (run_cacheRight (front.mono fun _ _ admitted => admitted.1)) forms]

/-- Knowing the networks keeps every device right. -/
theorem oneIdentity_of_known
    (run : Run System.step
      (fun s label => ReadsNetworks (fun name => networkID (serviceOf name)) label ∧
        NetworkKnown (fun name => networkID (serviceOf name)) s label)
      (.construct host config networkChangeCb rxCb) labels t) :
    OneIdentity serviceOf networkID (.construct host config networkChangeCb rxCb) labels t.lib := by
  have reads := run.mono fun _ _ admitted => admitted.1
  have sourced := run_sourced reads
  have right : ∀ {name eid device}, .identified name eid device ∈ t.lib.trace →
      device = DeviceID.make eid (networkID (serviceOf name)) := by
    intro name eid device member
    obtain ⟨occasion, formed⟩ := (identified_iff reads name eid device).mp member
    exact formed_right run formed
  have erased : ∀ state next env sender objectPath interfaces eid,
      Visits System.step (.construct host config networkChangeCb rxCb) labels state
        (.signal env ⟨sender, .interfacesRemoved objectPath interfaces⟩) →
      state.step (.signal env ⟨sender, .interfacesRemoved objectPath interfaces⟩) = some next →
      FormsFor state sender eid (.signal env ⟨sender, .interfacesRemoved objectPath interfaces⟩) →
        next.lib.endpointMap =
          state.lib.endpointMap.erase (DeviceID.make eid (networkID (serviceOf sender))) := by
    intro state next env sender objectPath interfaces eid visits stepped forms
    obtain ⟨_, _, _, _, front, ⟨_, known⟩, _, _⟩ := visits.admitted run
    have cached := known.cached (run_cacheRight (front.mono fun _ _ admitted => admitted.1)) forms
    obtain ⟨_, done, matched, under, spelled, held⟩ := forms
    obtain ⟨_, _, rfl⟩ := System.step_signal stepped
    rw [← cached]
    exact MCTPImpl.onMCTPEvent_erased done matched under spelled held
  refine ⟨?_, ?_, ?_, ?_, erased, ?_, ?_⟩
  · intro name eid device member
    obtain ⟨occasion, formed⟩ := (identified_iff reads name eid device).mp member
    exact ⟨⟨occasion, formed.occurs⟩, right member⟩
  · intro device name filed
    obtain ⟨eid, formed⟩ := sourced.entries device name filed
    exact ⟨eid, formed.imp Formed.occurs Formed.occurs,
      formed.elim (formed_right run) (formed_right run)⟩
  · intro event member
    obtain ⟨same, name, eid, formed⟩ := sourced.events event member
    cases formed.eid_eq
    rw [same]
    exact ⟨name, formed.occurs, formed_right run formed⟩
  · intro device tagOwner msgTag payload member
    obtain ⟨name, eid, formed⟩ := sourced.received device tagOwner msgTag payload member
    exact ⟨name, eid, formed.occurs, formed_right run formed⟩
  · intro state next env sender objectPath interfaces eid visits stepped forms device name filed
      same addressed
    rw [erased state next env sender objectPath interfaces eid visits stepped forms]
    obtain ⟨before, after, _, rfl, front, _, _, _⟩ := visits.admitted run
    obtain ⟨eid', formed⟩ := (run_sourced (front.mono fun _ _ admitted => admitted.1)).entries
      device name filed
    have made := formed.elim (formed_right front) (formed_right front)
    have spelled : device.mctpEID = eid' := formed.elim Formed.eid_eq Formed.eid_eq
    have key : device = DeviceID.make eid (networkID (serviceOf sender)) := by
      rw [made, ← spelled, addressed, same]
    rw [UnorderedMap.find_erase, if_pos key]
  · intro name name' eid eid' device device' member member'
    rw [right member, right member', DeviceID.make_inj]

end Identity

/-- An endpoint has one identity over a run with constant networks exactly when
no DeviceID is formed on a first lookup, but of a network 0. -/
theorem oneIdentity_iff {σ : Type} (serviceOf : String → σ) (networkID : σ → UInt8)
    {host : ByteOrder.Endian} {config : MCTPConfiguration} {networkChangeCb rxCb : Bool}
    {labels : List Label} {t : System}
    (run : Run System.step
      (fun _ label => ReadsNetworks (fun name => networkID (serviceOf name)) label)
      (System.construct host config networkChangeCb rxCb) labels t) :
    OneIdentity serviceOf networkID (.construct host config networkChangeCb rxCb) labels t.lib ↔
      Run System.step
        (fun s label => ReadsNetworks (fun name => networkID (serviceOf name)) label ∧
          NetworkKnown (fun name => networkID (serviceOf name)) s label)
        (System.construct host config networkChangeCb rxCb) labels t := by
  refine ⟨fun identity => ?_, oneIdentity_of_known⟩
  refine run.visited fun state label visits reads => ⟨reads, ?_⟩
  intro name eid forms
  obtain ⟨occasion, happened⟩ := forms.occasion
  have recorded := (identified_iff run name eid _).mpr
    ⟨occasion, state, label, visits, happened, forms, rfl⟩
  have right := (identity.formed name eid _ recorded).2
  have network := (DeviceID.make_inj.mp right).2
  cases cached : state.lib.networkIDCache.find name with
  | some value => exact .inl rfl
  | none =>
      rw [cached] at network
      exact .inr network.symm

end Provenance

namespace Slot

/-- A service on network 7. -/
def networkEnv : Env :=
  { env with readByte := fun property => if property.name = "NetworkID" then some 7 else none }

def distantPath : String := "/xyz/openbmc_project/mctp/device/9"

/-- A discovery that files the endpoint. -/
def networkDiscovery : List Label :=
  [.detect, .resume 0 networkEnv (.object (.ok [service])),
    .resume 0 networkEnv (.nameOwner (.ok owner)),
    .resume 0 networkEnv (.managedObjects (.ok [(path, object)]))]

def networkReady : System := (exec System.step start networkDiscovery).get (by decide)

/-- A discovery that finds nothing yet and one that files endpoint 8, a removal whose path
has no EID, endpoint 9 announced, endpoint 8 removed, and a message of endpoint 9. The
first and the third come to know network 7 under either name of the service. -/
def moving : List Label :=
  [.detect, .resume 0 networkEnv (.object (.ok [service])),
    .resume 0 networkEnv (.nameOwner (.ok owner)), .resume 0 networkEnv (.managedObjects (.ok []))] ++
  networkDiscovery ++
  [.signal networkEnv ⟨owner, .interfacesRemoved "/xyz/openbmc_project/mctp/device/x"
      [supportedMessageTypes]⟩,
    .signal networkEnv ⟨owner, .interfacesAdded distantPath object⟩, .body,
    .signal networkEnv ⟨owner, .interfacesRemoved path [supportedMessageTypes]⟩, .body,
    .setExtendedReceiveCallback true,
    .signal networkEnv ⟨owner, .messageReceived 1 9 0 true [1]⟩]

def moved : System := (exec System.step start moving).get (by decide)

/-- Whatever world a label of this bus brings along is that of the network. -/
theorem moving_reads (label : Label) (member : label ∈ moving) : ReadsNetworks (fun _ => 7) label := by
  simp only [moving, networkDiscovery, List.cons_append, List.nil_append, List.mem_cons,
    List.not_mem_nil, or_false] at member
  intro other same name
  rcases member with rfl | rfl | rfl | rfl | rfl | rfl | rfl | rfl | rfl | rfl | rfl | rfl | rfl |
    rfl | rfl <;> cases same <;> rfl

theorem moved_known : Run System.step (fun s label => NetworkKnown (fun _ => 7) s label) start moving
    moved := by
  have idle : ∀ {s label}, (∀ name eid, ¬ FormsFor s name eid label) →
      NetworkKnown (fun _ => 7) s label := fun none name eid forms => (none name eid forms).elim
  have signalled : ∀ {env signal} {s : System}, (s.lib.networkIDCache.find owner).isSome →
      NetworkKnown (fun _ => 7) s (.signal env ⟨owner, signal⟩) :=
    fun held name eid forms => .inl (forms.1 ▸ held)
  have asking : ∀ {index env reply} {s : System}, (∀ values, reply ≠ .managedObjects (.ok values)) →
      NetworkKnown (fun _ => 7) s (.resume index env reply) := by
    rintro index env reply s other name eid ⟨_, _, _, values, _, _, came, _⟩
    exact absurd came (other values)
  refine .cons (idle fun _ _ => id) rfl (.cons (asking nofun) rfl (.cons (asking nofun) rfl
    (.cons (idle ?_) rfl (.cons (idle fun _ _ => id) rfl (.cons (asking nofun) rfl
    (.cons (asking nofun) rfl (.cons ?_ rfl (.cons (idle ?_) rfl (.cons (signalled ?_) rfl
    (.cons (idle fun _ _ => id) rfl (.cons (signalled ?_) rfl (.cons (idle fun _ _ => id) rfl
    (.cons (idle fun _ _ => id) rfl (.cons (signalled ?_) rfl .nil))))))))))))))
  · rintro name eid ⟨_, _, _, values, object, _, came, _, member, _⟩
    cases came
    cases member
  · rintro name eid ⟨_, bus, _, _, _, waits, _, named, _⟩
    cases waits
    rw [named]
    exact .inl rfl
  · rintro name eid ⟨_, _, _, _, spelled, _⟩
    cases spelled
  · rfl
  · rfl
  · rfl

/-- Under either name of the service its endpoints are filed, told, erased and heard on
network 7. -/
theorem oneIdentity_moved : OneIdentity (fun _ => ()) (fun _ => 7) start moving moved.lib := by
  have run := (moved_known.mono fun _ _ _ => trivial).admitted fun _ => moving_reads
  refine (oneIdentity_iff (fun _ => ()) (fun _ => 7) run).mpr ?_
  exact moved_known.visited fun state label ⟨before, after, split, _⟩ known =>
    ⟨moving_reads label (by simp [split]), known⟩

example : moved.lib.endpointMap.find (DeviceID.make 8 7) = none ∧
    moved.lib.endpointMap.find (DeviceID.make 9 7) = some (0, owner) ∧
    moved.lib.trace.filter (fun effect => effect.isDelivery) =
      [.extReceived (DeviceID.make 9 7) true 0 [1]] := by
  decide

theorem firstLookup_wrongNetwork :
    Run System.step (fun _ label => ReadsNetworks (fun _ => 7) label) start networkDiscovery
        networkReady ∧
      networkReady.lib.endpointMap.find (DeviceID.make 8 0) = some (2, service) ∧
      ¬ OneIdentity (fun _ => ()) (fun _ => 7) start networkDiscovery networkReady.lib := by
  have done : exec System.step start networkDiscovery = some networkReady := rfl
  have found : networkReady.lib.endpointMap.find (DeviceID.make 8 0) = some (2, service) := by decide
  have reads : ∀ label ∈ networkDiscovery, ReadsNetworks (fun _ => 7) label :=
    fun label member => moving_reads label (by simp [moving, member])
  refine ⟨(Run.of_exec done).admitted fun _ => reads, found, ?_⟩
  intro identity
  obtain ⟨eid, _, same⟩ := identity.filed _ service ⟨2, found⟩
  have network := (DeviceID.make_inj.mp same).2
  cases network

end Slot

end Mctpw
