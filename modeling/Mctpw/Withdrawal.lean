import Mctpw.System

set_option autoImplicit false

/- Whether everything the library routes to stays reachable through a matched
service when services are withdrawn. -/
namespace Mctpw

open Runs Strings

/-- Some entry of a map names the service. -/
def EntryNames (eids : EndpointMapExtended) (name : String) : Prop :=
  ∃ device bus, eids.find device = some (bus, name)

/-- The services a suspended scan will file endpoints under. The one whose owner
it is asking for is still to be matched. -/
def Scan.Names : Scan → String → Prop
  | .getObject, _ => False
  | .getNameOwner buses service _, name => name ≠ service ∧ ∃ id, (id, name) ∈ buses
  | .getManagedObjects eids bus rest, name => EntryNames eids name ∨ ∃ id, (id, name) ∈ bus :: rest

/-- Names the library routes to, or is about to. -/
inductive Uses (s : System) (name : String) : Prop
  | entry : EntryNames s.lib.endpointMap name → Uses s name
  | body (device : DeviceID) : .newEID name device ∈ s.lib.spawned → Uses s name
  | scan (scan : Scan) : scan ∈ s.scans → scan.Names name → Uses s name

/-- The connection that the name stands for is matched. -/
def Backed (unique : String → Option String) (s : MCTPImpl) (name : String) : Prop :=
  ∃ owner ∈ s.matchedBuses, unique name = some owner

/-- GetNameOwner succeeds and tells the owner, and a sender goes by its unique name. -/
def Answered (unique : String → Option String) (s : System) : Label → Prop
  | .resume index _ (.nameOwner reply) =>
      ∀ buses service rest, s.scans[index]? = some (.getNameOwner buses service rest) →
        ∃ owner, reply = .ok owner ∧ unique service = some owner
  | .signal _ msg => unique msg.sender = some msg.sender
  | _ => True

/-- A withdrawal of the base object that onInterfaceRemoved gets to see. -/
def Withdraws (s : System) (sender : String) : Label → Prop
  | .signal _ ⟨sender', .interfacesRemoved objectPath interfaces⟩ =>
      sender' = sender ∧ objectPath = basePath ∧ baseInterface ∈ interfaces ∧
        s.lib.isInitialisationsDone = true ∧ sender ∈ s.lib.matchedBuses
  | _ => False

/-- No name that the library uses stands for a service being withdrawn. -/
def WithdrawsUnused (unique : String → Option String) (s : System) (label : Label) : Prop :=
  ∀ sender, Withdraws s sender label → ∀ name, Uses s name → unique name ≠ some sender

/-- Names a coroutine leaves in the map or takes along into its next suspension. -/
def Mentions (progress : Progress) (t : MCTPImpl) (name : String) : Prop :=
  EntryNames t.endpointMap name ∨ ∃ scan, progress = .suspended scan ∧ scan.Names name

/-- Everything used is backed. -/
def AllBacked (unique : String → Option String) (s : System) : Prop :=
  ∀ name, Uses s name → Backed unique s.lib name

/-- What a route is good for. -/
structure RouteSafety (unique : String → Option String) (s : MCTPImpl) : Prop where
  routed : ∀ device bus name, s.endpointMap.find device = some (bus, name) → Backed unique s name
  gone : ∀ sender, sender ∉ s.matchedBuses → ∀ device bus name,
    s.endpointMap.find device = some (bus, name) → unique name ≠ some sender
  sends : ∀ request device, MCTPImpl.sendRefused request device s ∨
    ∃ name, Backed unique s name ∧ MCTPImpl.Addresses request device name s

/-- What has become of a service once its withdrawal is handled. -/
structure Forgotten (unique : String → Option String) (sender : String) (before after : MCTPImpl) :
    Prop where
  unmatched : sender ∉ after.matchedBuses
  unrouted : ∀ device bus name, after.endpointMap.find device = some (bus, name) →
    unique name ≠ some sender
  refused : ∀ device, (∀ bus name, before.endpointMap.find device = some (bus, name) →
    unique name = some sender) → ∀ request, MCTPImpl.sendRefused request device after

/-- The library and, beside it, who owns the well-known names of its bus now. -/
structure OnBus where
  system : System
  owners : String → Option String

inductive BusLabel
  | library (label : Label)
  | nameOwnerChanged (name : String) (newOwner : Option String)

namespace OnBus

def step (s : OnBus) : BusLabel → Option OnBus
  | .library label => (s.system.step label).map fun next => { s with system := next }
  | .nameOwnerChanged name newOwner =>
      some { s with owners := Function.update s.owners name newOwner }

/-- A unique name stands for its connection, a well-known one for its owner. -/
def uniqueName (s : OnBus) (name : String) : Option String :=
  if startsWith name ":" then some name else s.owners name

/-- What the library may count on. -/
def Promised (s : OnBus) : BusLabel → Prop
  | .library label => Answered s.uniqueName s.system label
  | .nameOwnerChanged _ _ => True

/-- A withdrawn service is not used, and a name in use passes to matched connections only. -/
def KeepsRoutes (s : OnBus) : BusLabel → Prop
  | .library label => WithdrawsUnused s.uniqueName s.system label
  | .nameOwnerChanged name newOwner => Uses s.system name →
      startsWith name ":" ∨ ∃ owner ∈ s.system.lib.matchedBuses, newOwner = some owner

theorem step_library {s t : OnBus} {label : Label} (stepped : s.step (.library label) = some t) :
    s.system.step label = some t.system ∧ t.uniqueName = s.uniqueName := by
  obtain ⟨next, taken, rfl⟩ := Option.map_eq_some_iff.mp stepped
  exact ⟨taken, rfl⟩

theorem uniqueName_passed (s : OnBus) {name : String} (newOwner : Option String)
    (wellKnown : ¬ startsWith name ":" = true) :
    uniqueName { s with owners := Function.update s.owners name newOwner } name = newOwner := by
  simp [uniqueName, wellKnown]

theorem uniqueName_kept (s : OnBus) {name other : String} (newOwner : Option String)
    (kept : startsWith other ":" = true ∨ other ≠ name) :
    uniqueName { s with owners := Function.update s.owners name newOwner } other =
      s.uniqueName other := by
  rcases kept with connection | different
  · simp [uniqueName, connection]
  · simp [uniqueName, Function.update_of_ne different]

end OnBus

namespace MCTPImpl

variable {env : Env} {name : String}

theorem Emits.endpointMap_eq {allowed : Effect → Prop} {s t : MCTPImpl} (emits : Emits allowed s t) :
    t.endpointMap = s.endpointMap := by
  obtain ⟨_, _, _, _, rfl⟩ := emits
  rfl

theorem finishDetect_mentions {s : MCTPImpl}
    (mentions : Mentions (finishDetect env s).1 (finishDetect env s).2 name) :
    EntryNames s.endpointMap name := by
  rcases mentions with filed | ⟨scan, waits, _⟩
  · rwa [(finishDetect_reports env s).emits.endpointMap_eq] at filed
  · exact absurd waits (finishDetect_not_suspended env s scan)

theorem buildMatchingEndpointMap_mentions {eids : EndpointMapExtended} {buses : List Bus}
    {s : MCTPImpl}
    (mentions : Mentions (buildMatchingEndpointMap env eids buses s).1
      (buildMatchingEndpointMap env eids buses s).2 name) :
    EntryNames s.endpointMap name ∨ EntryNames eids name ∨ ∃ id, (id, name) ∈ buses := by
  unfold buildMatchingEndpointMap at mentions
  cases buses with
  | nil => exact .inr (.inl (finishDetect_mentions mentions))
  | cons bus rest =>
      rcases mentions with filed | ⟨scan, waits, named⟩
      · exact .inl filed
      · cases waits
        exact .inr named

theorem findBuses_mentions {buses : List Bus} {services : List String} {s : MCTPImpl}
    (mentions : Mentions (findBuses env buses services s).1 (findBuses env buses services s).2 name) :
    EntryNames s.endpointMap name ∨ ∃ id, (id, name) ∈ buses := by
  obtain ⟨_, read, reads, outcome⟩ := findBuses_cases env buses services s
  have map := reads.emits_of_busId.endpointMap_eq
  rw [← map]
  rcases outcome with built | ⟨_, _, _, asked⟩
  · rw [built] at mentions
    rcases buildMatchingEndpointMap_mentions mentions with filed | ⟨_, _, found⟩ | listed
    · exact .inl filed
    · simp at found
    · exact .inr listed
  · rw [asked] at mentions
    rcases mentions with filed | ⟨scan, waits, named⟩
    · exact .inl filed
    · cases waits
      obtain ⟨different, id, listed⟩ := named
      rcases List.mem_append.mp listed with before | last
      · exact .inr ⟨id, before⟩
      · cases List.mem_singleton.mp last
        exact absurd rfl different

theorem scanObjects_names {bus : Bus} {nwid : UInt8} {values : DictType Interfaces}
    {eids : EndpointMapExtended} {s : MCTPImpl}
    (filed : EntryNames (scanObjects env bus nwid values eids s).1 name) :
    EntryNames eids name ∨ name = bus.2 := by
  obtain ⟨device, id, found⟩ := filed
  rcases scanObjects_find found with before | ⟨same, _⟩
  · exact .inl ⟨device, id, before⟩
  · exact .inr (congrArg Prod.snd same)

/-- A coroutine mentions no name but those of the map and of the scan, and the
service whose owner it was asking for. -/
theorem resume_mentions {scan : Scan} {reply : Reply} {s t : MCTPImpl} {progress : Progress}
    (resumed : resume env scan reply s = some (progress, t)) (mentions : Mentions progress t name) :
    EntryNames s.endpointMap name ∨ scan.Names name ∨
      ∃ buses rest, scan = .getNameOwner buses name rest := by
  have resumes := resume_resumes resumed
  generalize whole : (progress, t) = outcome at resumes
  obtain rfl : t = outcome.2 := congrArg Prod.snd whole
  obtain rfl : progress = outcome.1 := congrArg Prod.fst whole
  cases resumes with
  | unlisted failed =>
      have filed := finishDetect_mentions mentions
      exact .inl filed
  | listed services =>
      rcases findBuses_mentions mentions with filed | ⟨_, listed⟩
      · exact .inl filed
      · cases listed
  | owned buses service rest reply uniqueName matched =>
      rcases findBuses_mentions mentions with filed | listed
      · exact .inl (by rwa [matchService_endpointMap] at filed)
      · by_cases same : name = service
        · exact .inr (.inr ⟨buses, rest, by rw [same]⟩)
        · exact .inr (.inl ⟨same, listed⟩)
  | skipped eids bus rest failed =>
      rcases buildMatchingEndpointMap_mentions mentions with filed | found | ⟨id, listed⟩
      · exact .inl filed
      · exact .inr (.inl (.inl found))
      · exact .inr (.inl (.inr ⟨id, List.mem_cons_of_mem _ listed⟩))
  | scanned eids bus rest values =>
      rcases buildMatchingEndpointMap_mentions mentions with filed | found | ⟨id, listed⟩
      · rw [(scanService_emits env bus values eids s).endpointMap_eq] at filed
        exact .inl filed
      · rcases scanObjects_names found with old | rfl
        · exact .inr (.inl (.inl old))
        · exact .inr (.inl (.inr ⟨bus.1, List.mem_cons_self ..⟩))
      · exact .inr (.inl (.inr ⟨id, List.mem_cons_of_mem _ listed⟩))

end MCTPImpl

variable {unique : String → Option String} {s t : System}

theorem Backed.mono {s t : MCTPImpl} {name : String} (grown : s.matchedBuses ⊆ t.matchedBuses)
    (backed : Backed unique s name) : Backed unique t name := by
  obtain ⟨owner, matched, owned⟩ := backed
  exact ⟨owner, grown matched, owned⟩

theorem EntryNames.of_erase {eids : EndpointMapExtended} {device : DeviceID} {name : String}
    (filed : EntryNames (eids.erase device) name) : EntryNames eids name := by
  obtain ⟨device', bus, found⟩ := filed
  rw [UnorderedMap.find_erase] at found
  split at found
  · cases found
  · exact ⟨device', bus, found⟩

/-- No new use and no service lost. -/
theorem AllBacked.of_subset (all : AllBacked unique s)
    (uses : ∀ name, Uses t name → Uses s name ∨ Backed unique t.lib name)
    (grown : s.lib.matchedBuses ⊆ t.lib.matchedBuses) : AllBacked unique t := by
  intro name used
  rcases uses name used with before | backed
  · exact (all name before).mono grown
  · exact backed

/-- Nothing more is filed or started, the services named by the bodies spawned
are backed, and no service is lost. -/
theorem AllBacked.of_spawned (all : AllBacked unique s)
    (entries : ∀ name, EntryNames t.lib.endpointMap name → EntryNames s.lib.endpointMap name)
    (scans : ∀ scan ∈ t.scans, scan ∈ s.scans)
    {more : List Spawned} (spawned : t.lib.spawned = s.lib.spawned ++ more)
    (bodies : ∀ name device, .newEID name device ∈ more → Backed unique t.lib name)
    (grown : s.lib.matchedBuses ⊆ t.lib.matchedBuses) : AllBacked unique t := by
  refine all.of_subset ?_ grown
  intro name used
  cases used with
  | entry filed => exact .inl (.entry (entries name filed))
  | scan scan running named => exact .inl (.scan scan (scans scan running) named)
  | body device queued =>
      rw [spawned] at queued
      exact (List.mem_append.mp queued).imp (.body device) (bodies name device)

theorem Uses.congr {name : String} (used : Uses t name)
    (map : t.lib.endpointMap = s.lib.endpointMap) (spawned : t.lib.spawned = s.lib.spawned)
    (scans : ∀ scan ∈ t.scans, scan.Names name → scan ∈ s.scans) : Uses s name := by
  cases used with
  | entry filed => exact .entry (map ▸ filed)
  | body device queued => exact .body device (spawned ▸ queued)
  | scan scan running named => exact .scan scan (scans scan running named) named

/-- Nothing is filed, spawned or started, and no service lost. -/
theorem AllBacked.of_same (all : AllBacked unique s)
    (map : t.lib.endpointMap = s.lib.endpointMap) (spawned : t.lib.spawned = s.lib.spawned)
    (scans : ∀ name, ∀ scan ∈ t.scans, scan.Names name → scan ∈ s.scans)
    (grown : s.lib.matchedBuses ⊆ t.lib.matchedBuses) : AllBacked unique t :=
  all.of_subset (fun name used => .inl (used.congr map spawned (scans name))) grown

theorem allBacked_emits {allowed : Effect → Prop} (all : AllBacked unique s) {lib : MCTPImpl}
    (emits : MCTPImpl.Emits allowed s.lib lib) : AllBacked unique { s with lib := lib } := by
  obtain ⟨_, _, _, _, rfl⟩ := emits
  exact all.of_same rfl rfl (fun _ _ running _ => running) (Finset.Subset.refl _)

theorem allBacked_resume {index : Nat} {env : Env} {reply : Reply} (all : AllBacked unique s)
    (answered : Answered unique s (.resume index env reply))
    (stepped : s.step (.resume index env reply) = some t) : AllBacked unique t := by
  obtain ⟨scan, progress, lib, waiting, resumed, rfl, left⟩ := System.step_resume stepped
  have running : scan ∈ s.scans := List.mem_of_getElem? waiting
  have matched := MCTPImpl.resume_matchedBuses resumed
  have grown : s.lib.matchedBuses ⊆ t.lib.matchedBuses := by
    rw [matched]
    split
    · exact Finset.subset_insert _ _
    · exact Finset.Subset.refl _
  have mentioned : ∀ name, Mentions progress t.lib name → Uses s name ∨ Backed unique t.lib name := by
    intro name mentions
    rcases MCTPImpl.resume_mentions resumed mentions with filed | named | ⟨buses, rest, rfl⟩
    · exact .inl (.entry filed)
    · exact .inl (.scan scan running named)
    · -- The reply tells the owner of the service that was waited for.
      cases reply with
      | nameOwner reply =>
          obtain ⟨owner, rfl, owned⟩ := answered buses name rest waiting
          refine .inr ⟨owner, ?_, owned⟩
          rw [matched]
          exact Finset.mem_insert_self _ _
      | object => cases resumed
      | managedObjects => cases resumed
  refine all.of_subset ?_ grown
  intro name used
  cases used with
  | entry filed => exact mentioned name (.inl filed)
  | body device queued =>
      rw [MCTPImpl.resume_spawned resumed] at queued
      exact .inl (.body device queued)
  | scan other stays named =>
      rcases left with ⟨next, rfl, scans⟩ | ⟨ec, rfl, scans⟩
      · rw [scans] at stays
        rcases List.mem_or_eq_of_mem_set stays with before | rfl
        · exact .inl (.scan other before named)
        · exact mentioned name (.inr ⟨other, rfl, named⟩)
      · rw [scans] at stays
        exact .inl (.scan other (List.mem_of_mem_eraseIdx stays) named)

theorem allBacked_signal {env : Env} {msg : Message} (all : AllBacked unique s)
    (answered : Answered unique s (.signal env msg)) (unused : WithdrawsUnused unique s (.signal env msg))
    (stepped : s.step (.signal env msg) = some t) : AllBacked unique t := by
  obtain ⟨_, _, rfl⟩ := System.step_signal stepped
  have handles := MCTPImpl.onMCTPEvent_handles env msg s.lib
  generalize (MCTPImpl.onMCTPEvent env msg s.lib).2 = lib at handles ⊢
  cases handles with
  | ignored => exact all
  | newService values =>
      refine all.of_same (MCTPImpl.onNewService_endpointMap env msg.sender s.lib)
        (MCTPImpl.onNewService_spawned env msg.sender s.lib) (fun _ _ running _ => running) ?_
      obtain ⟨_, _, same⟩ := MCTPImpl.onNewService_reports env msg.sender s.lib
      rw [same]
      change _ ⊆ (s.lib.matchService msg.sender).matchedBuses
      rw [MCTPImpl.matchService_matchedBuses]
      exact Finset.subset_insert _ _
  | looked objectPath =>
      exact allBacked_emits all (MCTPImpl.getDeviceIDFromPath_emits env objectPath msg.sender s.lib)
  | newEID objectPath values device _ _ matched =>
      obtain ⟨_, _, _, _, looked⟩ :=
        MCTPImpl.getDeviceIDFromPath_emits env objectPath msg.sender s.lib
      rw [looked]
      refine all.of_spawned (fun _ => id) (fun _ => id) rfl ?_ (Finset.Subset.refl _)
      intro name device' last
      cases List.mem_singleton.mp last
      exact ⟨msg.sender, matched, answered⟩
  | eidRemoved objectPath interfaces device =>
      have looked := allBacked_emits all
        (MCTPImpl.getDeviceIDFromPath_emits env objectPath msg.sender s.lib)
      obtain ⟨more, notices, same⟩ := MCTPImpl.onEIDRemoved_eq device
        (MCTPImpl.getDeviceIDFromPath env objectPath msg.sender s.lib).2
      rw [same]
      refine looked.of_spawned (fun _ => EntryNames.of_erase) (fun _ => id) rfl ?_
        (Finset.Subset.refl _)
      intro name device' new
      cases notices _ new
  | serviceRemoved interfaces signal held done matched =>
      intro name used
      have before : Uses s name := used.congr rfl rfl fun _ running _ => running
      have withdraws : Withdraws s msg.sender (.signal env msg) := by
        obtain ⟨sender, _⟩ := msg
        cases signal
        exact ⟨rfl, rfl, held, done, matched⟩
      obtain ⟨owner, present, owned⟩ := all name before
      have other : owner ≠ msg.sender := fun same => unused _ withdraws name before (same ▸ owned)
      exact ⟨owner, Finset.mem_erase.mpr ⟨other, present⟩, owned⟩
  | message messageType srcEid msgTag tagOwner payload =>
      exact allBacked_emits all (MCTPImpl.onMessageReceived_emits env msg.sender messageType srcEid
        msgTag tagOwner payload s.lib)
  | ownEID callback eid =>
      exact allBacked_emits all (.emit s.lib (Effect.OwnReport.ownEID callback msg.sender eid))

theorem allBacked_body (all : AllBacked unique s) (stepped : s.step .body = some t) :
    AllBacked unique t := by
  obtain ⟨body, rest, queued, rfl⟩ := System.step_body stepped
  have head : body ∈ s.lib.spawned := by rw [queued]; exact List.mem_cons_self ..
  have tail : ∀ other ∈ rest, other ∈ s.lib.spawned := by
    rw [queued]
    exact fun other => List.mem_cons_of_mem body
  have spawned := MCTPImpl.runSpawned_spawned body rest s.lib
  refine all.of_subset ?_ ?_
  · intro name used
    left
    cases used with
    | body device waiting =>
        rw [spawned] at waiting
        exact .body device (tail _ waiting)
    | scan scan running named => exact .scan scan running named
    | entry filed =>
        obtain ⟨device, bus, found⟩ := filed
        rcases MCTPImpl.runSpawned_find found with before | ⟨serviceName, rfl, entry⟩
        · exact .entry ⟨device, bus, before⟩
        · cases entry
          exact .body device head
  · obtain ⟨_, _, same⟩ := MCTPImpl.runSpawned_eq body rest s.lib
    rw [same]

theorem allBacked_step {label : Label} (all : AllBacked unique s) (answered : Answered unique s label)
    (unused : WithdrawsUnused unique s label) (stepped : s.step label = some t) :
    AllBacked unique t := by
  cases label with
  | detect =>
      cases stepped
      refine all.of_same rfl rfl ?_ (Finset.Subset.refl _)
      intro name scan running named
      rcases List.mem_append.mp running with before | last
      · exact before
      · cases List.mem_singleton.mp last
        exact named.elim
  | resume index env reply => exact allBacked_resume all answered stepped
  | signal env msg => exact allBacked_signal all answered unused stepped
  | body => exact allBacked_body all stepped
  | registerResponder env specVersion =>
      rw [System.step_registerResponder stepped]
      obtain ⟨_, _, _, same⟩ := MCTPImpl.registerResponder_reports env specVersion s.lib
      rw [same]
      exact all.of_same rfl rfl (fun _ _ running _ => running) (Finset.Subset.refl _)
  | getOwnEIDs env callback =>
      cases stepped
      obtain ⟨_, _, _, same⟩ := MCTPImpl.getOwnEIDs_reports env callback s.lib
      rw [same]
      exact all.of_same rfl rfl (fun _ _ running _ => running) (Finset.Subset.refl _)
  | setExtendedReceiveCallback callback =>
      cases stepped
      unfold MCTPImpl.setExtendedReceiveCallback
      split
      · exact all
      · exact all.of_same rfl rfl (fun _ _ running _ => running) (Finset.Subset.refl _)
  | send request devID =>
      cases stepped
      exact allBacked_emits all (MCTPImpl.send_reports request devID s.lib).emits

theorem routeSafety_of_allBacked (all : AllBacked unique s) : RouteSafety unique s.lib := by
  have routed : ∀ device bus name, s.lib.endpointMap.find device = some (bus, name) →
      Backed unique s.lib name :=
    fun device bus name found => all name (.entry ⟨device, bus, found⟩)
  refine ⟨routed, ?_, ?_⟩
  · intro sender unmatched device bus name found owned
    obtain ⟨owner, matched, owned'⟩ := routed device bus name found
    rw [owned] at owned'
    exact unmatched (Option.some.inj owned' ▸ matched)
  · intro request device
    cases found : s.lib.endpointMap.find device with
    | none => exact .inl (MCTPImpl.send_unknown request device s.lib found)
    | some entry =>
        exact .inr ⟨entry.2, routed device entry.1 entry.2 found,
          MCTPImpl.send_known request device s.lib entry found⟩

/-- A withdrawal that is handled takes the service off the matched ones, and nothing else. -/
theorem step_withdraws {sender : String} {label : Label} (withdraws : Withdraws s sender label)
    (stepped : s.step label = some t) :
    t.lib = { s.lib with matchedBuses := s.lib.matchedBuses.erase sender } := by
  match label, withdraws with
  | .signal env ⟨_, .interfacesRemoved _ interfaces⟩, withdraws =>
      obtain ⟨rfl, rfl, held, done, matched⟩ := withdraws
      obtain ⟨_, _, rfl⟩ := System.step_signal stepped
      have outside : ¬ startsWith basePath endpointPrefix = true :=
        fun under => endpointPath_ne_base under rfl
      simp only [MCTPImpl.onMCTPEvent_interfacesRemoved done, matched, not_true_eq_false, ↓reduceIte,
        MCTPImpl.onInterfaceRemoved, if_neg outside, held]

/-- Nothing was routed to a service withdrawn unused. -/
theorem forgotten_of_unused {sender : String} {label : Label} (withdraws : Withdraws s sender label)
    (unused : WithdrawsUnused unique s label) (stepped : s.step label = some t) :
    Forgotten unique sender s.lib t.lib := by
  have same := step_withdraws withdraws stepped
  have map : t.lib.endpointMap = s.lib.endpointMap := by rw [same]
  refine ⟨by simp [same], ?_, ?_⟩
  · intro device bus name found
    rw [map] at found
    exact unused sender withdraws name (.entry ⟨device, bus, found⟩)
  · intro device only request
    apply MCTPImpl.send_unknown
    rw [map]
    cases found : s.lib.endpointMap.find device with
    | none => rfl
    | some entry =>
        have used : Uses s entry.2 := .entry ⟨device, entry.1, found⟩
        exact absurd (only entry.1 entry.2 found) (unused sender withdraws entry.2 used)

theorem allBacked_onBus {s t : OnBus} {label : BusLabel} (all : AllBacked s.uniqueName s.system)
    (promised : s.Promised label) (keeps : s.KeepsRoutes label) (stepped : s.step label = some t) :
    AllBacked t.uniqueName t.system := by
  cases label with
  | library label =>
      obtain ⟨taken, same⟩ := OnBus.step_library stepped
      rw [same]
      exact allBacked_step all promised keeps taken
  | nameOwnerChanged name newOwner =>
      cases stepped
      intro other used
      obtain ⟨owner, matched, owned⟩ := all other used
      by_cases passed : ¬ startsWith other ":" = true ∧ other = name
      · obtain ⟨wellKnown, rfl⟩ := passed
        obtain ⟨owner', matched', new⟩ := (keeps used).resolve_left wellKnown
        exact ⟨owner', matched', by rw [OnBus.uniqueName_passed s newOwner wellKnown, new]⟩
      · refine ⟨owner, matched, ?_⟩
        rwa [OnBus.uniqueName_kept s newOwner (by tauto)]

/-- Routes stay safe over every run in which no service is withdrawn while the library
uses a name that stands for it, and a withdrawn service is forgotten. -/
theorem routes_safe {host : ByteOrder.Endian} {config : MCTPConfiguration}
    {networkChangeCb rxCb : Bool} {owners : String → Option String} {labels : List BusLabel} {t : OnBus}
    (run : Run OnBus.step (fun s label => s.Promised label ∧ s.KeepsRoutes label)
      ⟨.construct host config networkChangeCb rxCb, owners⟩ labels t) :
    RouteSafety t.uniqueName t.system.lib ∧
      ∀ state label sender next,
        Visits OnBus.step ⟨.construct host config networkChangeCb rxCb, owners⟩ labels state
          (.library label) →
        Withdraws state.system sender label → state.step (.library label) = some next →
        Forgotten next.uniqueName sender state.system.lib next.system.lib := by
  constructor
  · apply routeSafety_of_allBacked
    refine run.invariant (fun s => AllBacked s.uniqueName s.system) ?_ ?_
    · intro name used
      cases used with
      | entry filed =>
          obtain ⟨_, _, found⟩ := filed
          cases found
      | body device queued => cases queued
      | scan scan running => cases running
    · intro state label next all admitted stepped
      exact allBacked_onBus all admitted.1 admitted.2 stepped
  · intro state label sender next visits withdraws stepped
    obtain ⟨_, _, _, _, _, ⟨_, keeps⟩, _, _⟩ := visits.admitted run
    obtain ⟨taken, same⟩ := OnBus.step_library stepped
    rw [same]
    exact forgotten_of_unused withdraws keeps taken

namespace Slot

/-- Another connection, that the service moves to. -/
def successor : String := ":1.9"

def onBus : OnBus := ⟨start, fun name => if name = service then some owner else none⟩

def withdrawn : Label := .signal env ⟨owner, .interfacesRemoved basePath [baseInterface]⟩

/-- The scan files the endpoint; the service announces itself from another connection,
which takes the name over before the first one withdraws. -/
def succession : List BusLabel :=
  [.library .detect, .library (.resume 0 env (.object (.ok [service]))),
    .library (.resume 0 env (.nameOwner (.ok owner))),
    .library (.resume 0 env (.managedObjects (.ok [(path, object)]))),
    .library (.signal env ⟨successor, .interfacesAdded basePath
      [(bindingToInterface .mctpOverSmBus, [])]⟩),
    .nameOwnerChanged service (some successor), .library withdrawn]

def succeeded : OnBus := (exec OnBus.step onBus succession).get (by decide)

theorem succession_run :
    Run OnBus.step (fun s label => s.Promised label ∧ s.KeepsRoutes label) onBus succession
      succeeded := by
  have unseen : ∀ {s : OnBus} {label}, (∀ sender, ¬ Withdraws s.system sender label) →
      s.KeepsRoutes (.library label) := fun none sender withdraws => (none sender withdraws).elim
  refine .cons ⟨trivial, unseen fun _ => id⟩ rfl (.cons ⟨trivial, unseen fun _ => id⟩ rfl
    (.cons ⟨?_, unseen fun _ => id⟩ rfl (.cons ⟨trivial, unseen fun _ => id⟩ rfl
    (.cons ⟨rfl, unseen fun _ => id⟩ rfl (.cons ⟨trivial, ?_⟩ rfl (.cons ⟨rfl, ?_⟩ rfl .nil))))))
  · intro buses asked rest waiting
    cases waiting
    exact ⟨owner, rfl, rfl⟩
  · exact fun _ => .inr ⟨successor, by decide, rfl⟩
  · rintro sender ⟨same, _⟩ name used
    cases used with
    | entry filed =>
        obtain ⟨key, bus, found⟩ := filed
        change ((∅ : EndpointMapExtended).assign (DeviceID.make 8 0) (2, service)).find key =
          some (bus, name) at found
        rw [UnorderedMap.find_assign] at found
        split at found
        · cases found
          rw [← same]
          decide
        · cases found
    | body key queued => cases queued
    | scan scan running => cases running

/-- The withdrawal is handled, and the endpoint stays with the service where it is now. -/
theorem routes_safe_succeeded :
    RouteSafety succeeded.uniqueName succeeded.system.lib ∧
      ∀ state label sender next, Visits OnBus.step onBus succession state (.library label) →
        Withdraws state.system sender label → state.step (.library label) = some next →
        Forgotten next.uniqueName sender state.system.lib next.system.lib :=
  routes_safe succession_run

example : succeeded.system.lib.endpointMap.find (DeviceID.make 8 0) = some (2, service) ∧
    succeeded.system.lib.matchedBuses = {successor} := by
  decide

/-- The service is withdrawn while its endpoint is in the map. -/
def desertion : List BusLabel := (discovery ++ [added, .body, withdrawn]).map .library

def deserted : OnBus := (exec OnBus.step onBus desertion).get (by decide)

theorem route_survives_service :
    Run OnBus.step OnBus.Promised onBus desertion deserted ∧
      deserted.system.scans.isEmpty ∧ deserted.system.lib.spawned = [] ∧
      deserted.system.lib.matchedBuses = ∅ ∧
      ¬ RouteSafety deserted.uniqueName deserted.system.lib := by
  have found : deserted.system.lib.endpointMap.find (DeviceID.make 8 0) = some (0, owner) := by decide
  have empty : deserted.system.lib.matchedBuses = ∅ := by decide
  refine ⟨?_, rfl, rfl, empty, ?_⟩
  · refine .cons trivial rfl (.cons trivial rfl (.cons ?_ rfl (.cons trivial rfl
      (.cons rfl rfl (.cons trivial rfl (.cons rfl rfl .nil))))))
    intro buses asked rest waiting
    cases waiting
    exact ⟨owner, rfl, rfl⟩
  · intro safe
    obtain ⟨_, matched, _⟩ := safe.routed _ _ _ found
    rw [empty] at matched
    cases matched

end Slot

end Mctpw
