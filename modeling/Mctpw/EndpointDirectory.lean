import Mctpw.Base.Directory
import Mctpw.EndpointSignals
import Mctpw.ScanWork

set_option autoImplicit false

/- The library as a directory of endpoints: the services it has matched are its
members, and every label makes a few changes that a directory allows. -/
namespace Mctpw

open Runs Strings DeferredSet Directory

abbrev EndpointChange := Change String DeviceID Bus

def Spawned.notice : Spawned → Notice DeviceID Bus
  | .newEID serviceName extendedEID => .file extendedEID (0, serviceName)
  | .eidRemoved deviceID => .gone deviceID

/-- The application is told of an endpoint. -/
def Effect.isNetworkChange : Effect → Bool
  | .networkChange _ => true
  | _ => false

/-- The coroutine is still finding its services. -/
def Scan.searches : Scan → Bool
  | .getManagedObjects _ _ _ => false
  | _ => true

def Progress.searches : Progress → Bool
  | .suspended scan => scan.searches
  | _ => false

def Progress.waits : Progress → Bool
  | .suspended _ => true
  | _ => false

/-- The map a coroutine has with its reply, if it has come to have one. -/
def Scan.gathered (env : Env) (s : MCTPImpl) : Scan → Reply → Option EndpointMapExtended
  | .getObject, .object (.error _) => none
  | .getManagedObjects eids bus _, .managedObjects (.ok values) =>
      some (MCTPImpl.scanService env bus values eids s).1
  | .getManagedObjects eids _ _, _ => some eids
  | _, _ => some ∅

/-- A coroutine whose search is over has opened the directory. -/
def Scan.opening (scan : Scan) (progress : Progress) : List EndpointChange :=
  if scan.searches && !progress.searches then [.opening] else []

/-- One that returns publishes what it has. -/
def Progress.published (progress : Progress) (eids : Option EndpointMapExtended) :
    List EndpointChange :=
  if progress.waits then [] else eids.toList.map fun eids => .publish eids.find

/-- A signal asks for a change when it passes every check on its way. -/
inductive Message.Asks (env : Env) (msg : Message) (s : MCTPImpl) : EndpointChange → Prop
  | introduced (values : Interfaces) : msg.signal = .interfacesAdded basePath values →
      s.isInitialisationsDone = true →
      (values.lookup (bindingToInterface s.config.bindingType)).isSome →
      Asks env msg s (.join msg.sender)
  | left (interfaces : List String) : msg.signal = .interfacesRemoved basePath interfaces →
      s.isInitialisationsDone = true → msg.sender ∈ s.matchedBuses → baseInterface ∈ interfaces →
      Asks env msg s (.leave msg.sender)
  | announced (objectPath : String) (values : Interfaces) (properties : Properties)
      (device : DeviceID) : msg.signal = .interfacesAdded objectPath values → Listening s →
      msg.sender ∈ s.matchedBuses → startsWith objectPath endpointPrefix = true →
      values.lookup supportedMessageTypes = some properties →
      supportsType s.config.type properties = .ok true →
      (MCTPImpl.getDeviceIDFromPath env objectPath msg.sender s).1 = .ok device →
      Asks env msg s (.announce msg.sender device (0, msg.sender))
  | withdrawn (objectPath : String) (interfaces : List String) (device : DeviceID) :
      msg.signal = .interfacesRemoved objectPath interfaces → s.isInitialisationsDone = true →
      msg.sender ∈ s.matchedBuses → startsWith objectPath endpointPrefix = true →
      supportedMessageTypes ∈ interfaces →
      (MCTPImpl.getDeviceIDFromPath env objectPath msg.sender s).1 = .ok device →
      Asks env msg s (.withdraw msg.sender device)

/-- A call of the application. -/
def Label.isCall : Label → Bool
  | .resume _ _ _ => false
  | .signal _ _ => false
  | .body => false
  | _ => true

/-- The changes a label makes in a state. -/
inductive Label.Makes (s : System) : Label → List EndpointChange → Prop
  | call {label : Label} : label.isCall = true → Makes s label []
  | body : Makes s .body [.tell]
  | scanned {index : Nat} {env : Env} {reply : Reply} (scan : Scan) (progress : Progress)
      (lib : MCTPImpl) : s.scans[index]? = some scan →
      MCTPImpl.resume env scan reply s.lib = some (progress, lib) →
      Makes s (.resume index env reply)
        ((MCTPImpl.matchedBy scan reply).toList.map .join ++ scan.opening progress ++
          progress.published (scan.gathered env s.lib reply))
  | asked {env : Env} {msg : Message} (change : EndpointChange) : msg.Asks env s.lib change →
      Makes s (.signal env msg) [change]
  | unasked {env : Env} {msg : Message} : (∀ change, ¬ msg.Asks env s.lib change) →
      Makes s (.signal env msg) []

theorem Progress.ended {progress : Progress} (ended : ∀ scan, progress ≠ .suspended scan) :
    progress.waits = false ∧ progress.searches = false := by
  cases progress with
  | suspended scan => exact absurd rfl (ended scan)
  | _ => exact ⟨rfl, rfl⟩

namespace Effect

theorem networkChange_beside : Beside isNetworkChange where
  get _ := rfl
  identified _ _ _ := rfl
  register _ _ _ := rfl
  ownEID _ _ _ := rfl
  matched _ := rfl

theorem Reception.not_networkChange {effect : Effect} (reception : effect.Reception) :
    effect.isNetworkChange = false := by
  cases reception with
  | inspected => rfl
  | delivery delivery =>
      cases delivery with
      | read read =>
          cases read
          rfl
      | _ => rfl

theorem Sending.not_networkChange {effect : Effect} (sending : effect.Sending) :
    effect.isNetworkChange = false := by
  cases sending <;> rfl

end Effect

theorem deviceEvents_untold {effects : List Effect}
    (untold : ∀ effect ∈ effects, effect.isNetworkChange = false) : deviceEvents effects = [] := by
  apply List.filterMap_eq_nil_iff.mpr
  intro effect member
  cases effect with
  | networkChange event => cases untold _ member
  | _ => rfl

namespace MCTPImpl

/-- The directory the library keeps. -/
def directory (s : MCTPImpl) : Directory.State String DeviceID Bus where
  listens := s.networkChangeCallback
  opened := s.isInitialisationsDone
  members := {service | service ∈ s.matchedBuses}
  table := s.endpointMap.find
  queue := s.spawned.map Spawned.notice
  log := deviceEvents s.trace

variable {allowed : Effect → Prop} {s t : MCTPImpl}

theorem Emits.directory_eq (emits : Emits allowed s t)
    (untold : ∀ effect, allowed effect → effect.isNetworkChange = false) :
    t.directory = s.directory := by
  obtain ⟨effects, _, _, fine, rfl⟩ := emits
  have quiet := deviceEvents_untold fun effect member => untold effect (fine effect member)
  simp only [directory, deviceEvents_append, quiet, List.append_nil]

theorem emit_directory (s : MCTPImpl) (effect : Effect) (untold : effect.isNetworkChange = false) :
    (s.emit effect).directory = s.directory := by
  have emits : Emits (· = effect) s (s.emit effect) := .emit s rfl
  refine emits.directory_eq ?_
  rintro _ rfl
  exact untold

theorem finishDetect_directory (env : Env) (s : MCTPImpl) :
    (finishDetect env s).2.directory = s.directory :=
  (finishDetect_reports env s).emits.directory_eq fun _ => Effect.networkChange_beside.finishing

theorem matchService_changes (s : MCTPImpl) (serviceName : String) :
    Changes s.directory [.join serviceName] (s.matchService serviceName).directory := by
  have joined : (s.matchService serviceName).directory =
      Directory.change s.directory (.join serviceName) := by
    unfold matchService
    split
    · rename_i already
      have same : insert serviceName {service | service ∈ s.matchedBuses} =
          {service | service ∈ s.matchedBuses} := Set.insert_eq_of_mem already
      simp only [Directory.change, directory, same]
    · have told : deviceEvents (s.trace ++ [.matched serviceName]) = deviceEvents s.trace := by
        rw [deviceEvents_append]
        exact List.append_nil _
      simp only [Directory.change, directory, told, Finset.mem_insert]
      rfl
  rw [joined]
  exact .of_one trivial

/-- The build is over exactly when it publishes. -/
theorem buildMatchingEndpointMap_changes (env : Env) (eids : EndpointMapExtended) (buses : List Bus)
    (opened : s.isInitialisationsDone = true) :
    Changes s.directory ((buildMatchingEndpointMap env eids buses s).1.published (some eids))
        (buildMatchingEndpointMap env eids buses s).2.directory ∧
      (buildMatchingEndpointMap env eids buses s).1.searches = false := by
  unfold buildMatchingEndpointMap
  cases buses with
  | nil =>
      dsimp only
      obtain ⟨returned, found⟩ :=
        Progress.ended (finishDetect_not_suspended env { s with endpointMap := eids })
      refine ⟨?_, found⟩
      rw [finishDetect_directory, Progress.published, returned]
      exact .of_one opened
  | cons bus rest =>
      refine ⟨?_, rfl⟩
      dsimp only
      rw [emit_directory s (.call (getManagedObjects bus.2)) rfl]
      exact .nil

/-- The search opens the directory, and publishes an empty map where it finds nothing. -/
theorem findBuses_changes (env : Env) (buses : List Bus) (services : List String) {scan : Scan}
    (searching : scan.searches = true) (s : MCTPImpl) :
    Changes s.directory
      (scan.opening (findBuses env buses services s).1 ++
        (findBuses env buses services s).1.published (some ∅))
      (findBuses env buses services s).2.directory := by
  obtain ⟨_, read, reads, outcome⟩ := findBuses_cases env buses services s
  have same : read.directory = s.directory :=
    reads.emits_of_busId.directory_eq fun _ => Effect.networkChange_beside.read
  rcases outcome with built | ⟨_, service, _, asked⟩
  · obtain ⟨changes, found⟩ := buildMatchingEndpointMap_changes
      (s := { read with isInitialisationsDone := true }) env ∅ buses rfl
    have opens : Changes s.directory [.opening]
        { read with isInitialisationsDone := true }.directory := by
      rw [← same]
      exact .of_one trivial
    rw [built, Scan.opening, searching, found]
    exact opens.append changes
  · rw [asked, Scan.opening, searching]
    dsimp only [Progress.searches, Scan.searches, Progress.published, Progress.waits]
    rw [emit_directory read (.call (getNameOwner service)) rfl, same]
    exact .nil

theorem resume_changes {env : Env} {scan : Scan} {reply : Reply} {outcome : Progress × MCTPImpl}
    (before : Opened (.suspended scan) s) (resumed : resume env scan reply s = some outcome) :
    Changes s.directory ((matchedBy scan reply).toList.map .join ++ scan.opening outcome.1 ++
      outcome.1.published (scan.gathered env s reply)) outcome.2.directory := by
  cases resume_resumes resumed with
  | unlisted failed =>
      obtain ⟨returned, found⟩ :=
        Progress.ended (finishDetect_not_suspended env { s with isInitialisationsDone := true })
      rw [finishDetect_directory, Progress.published, Scan.opening, returned, found]
      exact .of_one trivial
  | listed services => exact findBuses_changes env [] services rfl s
  | owned buses service rest reply name matched =>
      have gathered : (Scan.getNameOwner buses service rest).gathered env s reply = some ∅ := by
        cases reply <;> rfl
      rw [matched, gathered, List.append_assoc]
      exact (matchService_changes s name).append
        (findBuses_changes env buses rest rfl (s.matchService name))
  | skipped eids bus rest failed =>
      exact (buildMatchingEndpointMap_changes env eids rest before).1
  | scanned eids bus rest values =>
      have looked := scanService_emits env bus values eids s
      have opened : (scanService env bus values eids s).2.isInitialisationsDone = true := by
        obtain ⟨_, _, _, _, same⟩ := looked
        rw [same]
        exact before
      have changes := (buildMatchingEndpointMap_changes env (scanService env bus values eids s).1 rest
        opened).1
      rwa [looked.directory_eq fun _ => Effect.networkChange_beside.lookup] at changes

theorem newEID_changes {sender : String} (done : s.isInitialisationsDone = true)
    (matched : sender ∈ s.matchedBuses) (device : DeviceID) :
    Changes s.directory [.announce sender device (0, sender)]
      { s with spawned := s.spawned ++ [Spawned.newEID sender device] }.directory := by
  have queued : { s with spawned := s.spawned ++ [Spawned.newEID sender device] }.directory =
      Directory.change s.directory (.announce sender device (0, sender)) := by
    simp [Directory.change, directory, Spawned.notice]
  rw [queued]
  exact .of_one ⟨done, matched⟩

theorem serviceRemoved_changes {sender : String} (done : s.isInitialisationsDone = true)
    (matched : sender ∈ s.matchedBuses) :
    Changes s.directory [.leave sender]
      { s with matchedBuses := s.matchedBuses.erase sender }.directory := by
  have gone : { s with matchedBuses := s.matchedBuses.erase sender }.directory =
      Directory.change s.directory (.leave sender) := by
    have same : {service | service ∈ s.matchedBuses.erase sender} =
        {service | service ∈ s.matchedBuses} \ {sender} := by
      ext service
      simp [and_comm]
    simp only [Directory.change, directory, same]
  rw [gone]
  exact .of_one ⟨done, matched⟩

/-- A removal is a withdrawal, told if somebody listens. -/
theorem onEIDRemoved_changes {sender : String} (done : s.isInitialisationsDone = true)
    (matched : sender ∈ s.matchedBuses) (device : DeviceID) :
    Changes s.directory [.withdraw sender device] (onEIDRemoved device s).directory := by
  have gone : (onEIDRemoved device s).directory =
      Directory.change s.directory (.withdraw sender device) := by
    have erased : (s.endpointMap.erase device).find =
        Function.update s.endpointMap.find device none := by
      funext other
      rw [UnorderedMap.find_erase, Function.update_apply]
    unfold onEIDRemoved
    cases held : s.endpointMap.find device with
    | none =>
        have absent : Function.update s.endpointMap.find device none = s.endpointMap.find :=
          Function.update_eq_self_iff.mpr held.symm
        simp [Directory.change, Directory.notices, directory, held, absent]
    | some entry =>
        cases listens : s.networkChangeCallback <;>
          simp [Directory.change, Directory.notices, directory, held, erased, listens,
            Spawned.notice]
  rw [gone]
  exact .of_one ⟨done, matched⟩

/-- The EID of a DeviceID formed for a path is the one the path spells. -/
theorem pathEID_of_formed {env : Env} {objectPath serviceName : String} {device : DeviceID}
    (formed : (getDeviceIDFromPath env objectPath serviceName s).1 = .ok device) :
    pathEID objectPath = some device.mctpEID := by
  obtain ⟨eid, spelled, rfl⟩ := getDeviceIDFromPath_ok formed
  rw [spelled, DeviceID.mctpEID_make]

theorem lookup_directory (env : Env) (objectPath sender : String) (s : MCTPImpl) :
    (getDeviceIDFromPath env objectPath sender s).2.directory = s.directory :=
  (getDeviceIDFromPath_emits env objectPath sender s).directory_eq
    fun _ => Effect.networkChange_beside.lookup

/-- What a signal asks for is what handling it changes. -/
theorem onMCTPEvent_grants {env : Env} {msg : Message} {change : EndpointChange}
    (asks : msg.Asks env s change) :
    Changes s.directory [change] (onMCTPEvent env msg s).2.directory := by
  obtain ⟨sender, signal⟩ := msg
  cases asks with
  | introduced values added done binding =>
      obtain ⟨properties, held⟩ := Option.isSome_iff_exists.mp binding
      subst added
      simp only [onMCTPEvent_interfacesAdded done, onNewInterface, ↓reduceIte, held]
      rw [(onNewService_reports env sender s).emits.directory_eq
        fun _ => Effect.networkChange_beside.finishing]
      exact matchService_changes s sender
  | left interfaces removed done matched held =>
      subst removed
      have apart : startsWith basePath endpointPrefix = false := by decide
      simp only [onMCTPEvent_interfacesRemoved done, matched, not_true_eq_false, ↓reduceIte,
        onInterfaceRemoved, apart, Bool.false_eq_true, held]
      exact serviceRemoved_changes done matched
  | announced objectPath values properties device added listening matched under held supported formed =>
      subst added
      rw [onMCTPEvent_added listening matched under held supported formed]
      obtain ⟨_, _, _, _, same⟩ := getDeviceIDFromPath_emits env objectPath sender s
      have queued : s.spawned = (getDeviceIDFromPath env objectPath sender s).2.spawned := by
        rw [same]
      rw [← lookup_directory env objectPath sender s, queued]
      exact newEID_changes (by rw [same]; exact listening.done) (by rw [same]; exact matched) device
  | withdrawn objectPath interfaces device removed done matched under held formed =>
      subst removed
      rw [onMCTPEvent_removed done matched under held formed]
      obtain ⟨_, _, _, _, same⟩ := getDeviceIDFromPath_emits env objectPath sender s
      rw [← lookup_directory env objectPath sender s]
      exact onEIDRemoved_changes (by rw [same]; exact done) (by rw [same]; exact matched) device

/-- A signal that asks for nothing leaves the directory alone. -/
theorem onMCTPEvent_unasked {env : Env} {msg : Message}
    (unasked : ∀ change, ¬ msg.Asks env s change) :
    (onMCTPEvent env msg s).2.directory = s.directory := by
  have handles := onMCTPEvent_handles env msg s
  generalize (onMCTPEvent env msg s).2 = t at handles ⊢
  cases handles with
  | ignored => rfl
  | newService values added done binding =>
      exact absurd (.introduced values added done binding) (unasked _)
  | looked objectPath => exact lookup_directory env objectPath msg.sender s
  | newEID objectPath values device added done matched under formed supports listens =>
      obtain ⟨properties, held, supported⟩ := supports
      exact absurd (.announced objectPath values properties device added ⟨done, listens⟩ matched under
        held supported formed) (unasked _)
  | eidRemoved objectPath interfaces device removed done matched under formed held =>
      exact absurd (.withdrawn objectPath interfaces device removed done matched under held formed)
        (unasked _)
  | serviceRemoved interfaces removed base done matched =>
      exact absurd (.left interfaces removed done matched base) (unasked _)
  | message messageType srcEid msgTag tagOwner payload =>
      exact (onMessageReceived_emits env msg.sender messageType srcEid msgTag tagOwner payload
        s).directory_eq fun _ => Effect.Reception.not_networkChange
  | ownEID callback eid => exact emit_directory s (.ownEID callback msg.sender eid) rfl

theorem onMCTPEvent_changes (env : Env) (msg : Message) (s : System) :
    ∃ made, (Label.signal env msg).Makes s made ∧
      Changes s.lib.directory made (onMCTPEvent env msg s.lib).2.directory := by
  by_cases asks : ∃ change, msg.Asks env s.lib change
  · obtain ⟨change, asks⟩ := asks
    exact ⟨[change], .asked change asks, onMCTPEvent_grants asks⟩
  · rw [not_exists] at asks
    refine ⟨[], .unasked asks, ?_⟩
    rw [onMCTPEvent_unasked asks]
    exact .nil

theorem runSpawned_changes {body : Spawned} {rest : List Spawned} (queued : s.spawned = body :: rest) :
    Changes s.directory [.tell] (runSpawned body { s with spawned := rest }).directory := by
  have told : (runSpawned body { s with spawned := rest }).directory =
      Directory.change s.directory .tell := by
    cases body with
    | newEID serviceName device =>
        have filed : (s.endpointMap.emplace device (0, serviceName)).find =
            Function.update s.endpointMap.find device
              (some ((s.endpointMap.find device).getD (0, serviceName))) := by
          funext other
          rw [UnorderedMap.find_emplace, Function.update_apply]
        simp only [runSpawned, emit, directory, deviceEvents_append, filed, queued, List.map_cons,
          Spawned.notice, Directory.change]
        rfl
    | eidRemoved device =>
        simp only [runSpawned, emit, directory, deviceEvents_append, queued, List.map_cons,
          Spawned.notice, Directory.change]
        rfl
  rw [told]
  refine .of_one ?_
  simp [Allows, directory, queued]

end MCTPImpl

namespace System

/-- Every coroutine past its search has opened the directory. -/
def Underway (s : System) : Prop := ∀ scan ∈ s.scans, MCTPImpl.Opened (.suspended scan) s.lib

variable {s t : System}

/-- What cannot close the directory keeps the coroutines underway. -/
theorem Underway.of_scans (underway : s.Underway)
    (opened : s.lib.isInitialisationsDone = true → t.lib.isInitialisationsDone = true)
    (scans : t.scans = s.scans) : t.Underway := by
  intro scan member
  rw [scans] at member
  exact (underway scan member).mono opened

/-- A label makes changes its directory allows. It publishes only where a coroutine
ends that some label has started. -/
structure Making (s t : System) (label : Label) (made : List EndpointChange) : Prop where
  makes : label.Makes s made
  changes : Changes s.lib.directory made t.lib.directory
  ended : made.countP publishes + t.scans.length ≤
    s.scans.length + if label.isDetect then 1 else 0

/-- A label beside the directory. -/
theorem Underway.aside {label : Label} (underway : s.Underway) (called : label.isCall = true)
    (same : t.lib.directory = s.lib.directory) (scans : t.scans = s.scans) :
    t.Underway ∧ ∃ made, Making s t label made := by
  have opened : t.lib.isInitialisationsDone = s.lib.isInitialisationsDone :=
    congrArg Directory.State.opened same
  refine ⟨underway.of_scans (fun done => opened.trans done) scans, [], .call called, ?_, ?_⟩
  · rw [same]
    exact .nil
  · rw [scans, List.countP_nil]
    omega

/-- Of the changes of a coroutine the last may publish, where it returns. -/
theorem countP_publishes (joined : Option String) (scan : Scan) (progress : Progress)
    (eids : Option EndpointMapExtended) :
    (joined.toList.map .join ++ scan.opening progress ++ progress.published eids :
      List EndpointChange).countP publishes ≤ if progress.waits then 0 else 1 := by
  have silent : (joined.toList.map .join ++ scan.opening progress :
      List EndpointChange).countP publishes = 0 := by
    unfold Scan.opening
    cases joined <;> split <;> rfl
  rw [List.countP_append, silent, Nat.zero_add, Progress.published]
  split
  · exact Nat.le_refl 0
  · exact (List.countP_le_length).trans (by cases eids <;> simp)

theorem resume_making {index : Nat} {env : Env} {reply : Reply} (underway : s.Underway)
    (stepped : s.step (.resume index env reply) = some t) :
    t.Underway ∧ ∃ made, Making s t (.resume index env reply) made := by
  obtain ⟨scan, progress, lib, waiting, resumed, rfl, left⟩ := step_resume stepped
  have before := underway scan (List.mem_of_getElem? waiting)
  have opens := (MCTPImpl.resume_resumes resumed).opens before
  obtain ⟨within, _⟩ := List.getElem?_eq_some_iff.mp waiting
  have published := countP_publishes (MCTPImpl.matchedBy scan reply) scan progress
    (scan.gathered env s.lib reply)
  refine ⟨?_, _, .scanned scan progress t.lib waiting resumed,
    MCTPImpl.resume_changes before resumed, ?_⟩
  · intro other member
    rcases left with ⟨next, rfl, scans⟩ | ⟨ec, _, scans⟩
    · rw [scans] at member
      rcases List.mem_or_eq_of_mem_set member with member | rfl
      · exact (underway other member).mono opens.kept
      · exact opens.opened
    · rw [scans] at member
      exact (underway other (List.mem_of_mem_eraseIdx member)).mono opens.kept
  · refine (Nat.add_le_add_right published _).trans ?_
    rcases left with ⟨next, rfl, scans⟩ | ⟨ec, rfl, scans⟩
    · rw [scans, List.length_set]
      simp [Progress.waits]
    · rw [scans, List.length_eraseIdx_of_lt within]
      simp only [Progress.waits, Bool.false_eq_true, ↓reduceIte]
      omega

/-- Every label is a few changes of the directory. -/
theorem step_making {label : Label} (underway : s.Underway) (stepped : s.step label = some t) :
    t.Underway ∧ ∃ made, Making s t label made := by
  cases label with
  | detect =>
      cases stepped
      have same := MCTPImpl.emit_directory { s.lib with mctpChangesWatch := true }
        (.call (getObject (bindingToInterface s.lib.config.bindingType))) rfl
      refine ⟨?_, [], .call rfl, ?_, by simp [Label.isDetect]⟩
      · intro scan member
        rcases List.mem_append.mp member with member | last
        · exact (underway scan member).mono id
        · rw [List.mem_singleton.mp last]
          trivial
      · dsimp only [MCTPImpl.detectMctpEndpoints]
        rw [same]
        exact .nil
  | resume index env reply => exact resume_making underway stepped
  | signal env msg =>
      obtain ⟨_, _, rfl⟩ := step_signal stepped
      obtain ⟨made, makes, changes⟩ := MCTPImpl.onMCTPEvent_changes env msg s
      have silent : made.countP publishes = 0 := by
        cases makes with
        | call called => cases called
        | asked change asks => cases asks <;> rfl
        | unasked => rfl
      refine ⟨underway.of_scans ?_ rfl, made, makes, changes, by simp [silent]⟩
      exact fun done => (MCTPImpl.onMCTPEvent_gate env msg s.lib).1.trans done
  | body =>
      obtain ⟨body, rest, queued, rfl⟩ := step_body stepped
      refine ⟨underway.of_scans ?_ rfl, [.tell], .body, MCTPImpl.runSpawned_changes queued, ?_⟩
      · obtain ⟨_, _, same⟩ := MCTPImpl.runSpawned_eq body rest s.lib
        rw [same]
        exact id
      · simp [publishes]
  | registerResponder env specVersion =>
      rw [step_registerResponder stepped]
      obtain ⟨_, reports⟩ := MCTPImpl.registerResponder_reports env specVersion s.lib
      have same := reports.emits.directory_eq fun _ => Effect.networkChange_beside.registration
      exact underway.aside rfl same rfl
  | getOwnEIDs env callback =>
      cases stepped
      obtain ⟨_, reports⟩ := MCTPImpl.getOwnEIDs_reports env callback s.lib
      have same := reports.emits.directory_eq fun _ => Effect.networkChange_beside.ownReport
      exact underway.aside rfl same rfl
  | setExtendedReceiveCallback callback =>
      cases stepped
      dsimp only [MCTPImpl.setExtendedReceiveCallback]
      split <;> exact underway.aside rfl rfl rfl
  | send request devID =>
      cases stepped
      have same := (MCTPImpl.send_reports request devID s.lib).emits.directory_eq
        fun _ => Effect.Sending.not_networkChange
      exact underway.aside rfl same rfl

theorem underway_construct (host : ByteOrder.Endian) (config : MCTPConfiguration)
    (networkChangeCb rxCb : Bool) : (construct host config networkChangeCb rxCb).Underway := by
  intro scan member
  cases member

theorem run_underway {admits : System → Label → Prop} {labels : List Label}
    (underway : s.Underway) (run : Run step admits s labels t) : t.Underway :=
  run.invariant Underway underway fun _ _ _ underway _ stepped => (step_making underway stepped).1

theorem run_makes {labels : List Label} (underway : s.Underway) (run : Run step Any s labels t) :
    ∃ made : List EndpointChange,
      WrittenInTurn (fun past label words => ∃ u, Run step Any s past u ∧ label.Makes u words)
        labels made ∧ Changes s.lib.directory made t.lib.directory := by
  induction run with
  | nil => exact ⟨[], .nil, .nil⟩
  | snoc before _ stepped ih =>
      obtain ⟨made, written, changes⟩ := ih
      obtain ⟨_, more, making⟩ := step_making (run_underway underway before) stepped
      exact ⟨made ++ more, written.snoc ⟨_, before, making.makes⟩, changes.append making.changes⟩

/-- What is told and to be told of a device, its entry and the coroutines that may
still file it are paid for by what has been told and by the discoveries begun. -/
theorem step_accounted {label : Label} (underway : s.Underway) (stepped : s.step label = some t)
    (device : DeviceID) :
    removals t.lib.directory device + filed t.lib.directory device + t.scans.length +
        additions s.lib.directory device ≤
      removals s.lib.directory device + filed s.lib.directory device + s.scans.length +
        (if label.isDetect then 1 else 0) + additions t.lib.directory device := by
  obtain ⟨_, made, making⟩ := step_making underway stepped
  have account := making.changes.accounted device
  have ended := making.ended
  omega

end System

variable {host : ByteOrder.Endian} {config : MCTPConfiguration} {networkChangeCb rxCb : Bool}
  {labels : List Label} {t : System}

/-- The coroutines are underway all along. -/
theorem System.always_underway
    (run : Run System.step Any (System.construct host config networkChangeCb rxCb) labels t) :
    Run System.step (fun s _ => s.Underway) (System.construct host config networkChangeCb rxCb)
      labels t :=
  (run.keeping System.Underway (System.underway_construct host config networkChangeCb rxCb)
    fun _ _ _ underway _ stepped => (System.step_making underway stepped).1).mono
      fun _ _ both => both.1

/-- The library is a directory: from its construction on, any run of it is a run of
the directory it keeps, of changes that are allowed there and that its labels make
one after the other, each in the state it is taken in. -/
theorem directory_simulates
    (run : Run System.step Any (System.construct host config networkChangeCb rxCb) labels t) :
    ∃ made : List EndpointChange,
      WrittenInTurn (fun past label words => ∃ s : System,
        Run System.step Any (System.construct host config networkChangeCb rxCb) past s ∧
          label.Makes s words) labels made ∧
      Changes (fresh networkChangeCb) made t.lib.directory := by
  have initial : (System.construct host config networkChangeCb rxCb).lib.directory =
      fresh networkChangeCb := by
    have none : {service | service ∈ (∅ : Finset String)} = (∅ : Set String) := by
      ext service
      simp
    simp only [System.construct, MCTPImpl.construct, MCTPImpl.directory, none]
    rfl
  rw [← initial]
  exact System.run_makes (System.underway_construct host config networkChangeCb rxCb) run

namespace Slot

/-- Announced, filed and removed again. -/
def replugging : List Label := discovery ++ [added, .body, removed, .body]

def replugged : System := (exec System.step start replugging).get (by decide)

theorem replugged_run : Run System.step Any start replugging replugged := .of_exec rfl

/-- Removed and announced once more. -/
def replacing : List Label := replugging ++ [added, .body]

def restored : System := (exec System.step start replacing).get (by decide)

theorem directory_simulates_restored :
    ∃ made : List EndpointChange,
      WrittenInTurn (fun past label words => ∃ s : System,
        Run System.step Any start past s ∧ label.Makes s words) replacing made ∧
      Changes (fresh true) made restored.lib.directory :=
  directory_simulates (.of_exec (show exec System.step start replacing = some restored from rfl))

end Slot

/-- Until some coroutine has found out about the services, whatever signals arrive,
nothing is filed, nothing waits for its turn and nobody has been told anything. -/
theorem unopened_silent
    (run : Run System.step Any (System.construct host config networkChangeCb rxCb) labels t)
    (unopened : t.lib.isInitialisationsDone = false) :
    t.lib.endpointMap = ∅ ∧ t.lib.spawned = [] ∧ ∀ event, .networkChange event ∉ t.lib.trace := by
  obtain ⟨_, _, changes⟩ :=
    System.run_makes (System.underway_construct host config networkChangeCb rxCb) run
  have shut : Shut (System.construct host config networkChangeCb rxCb).lib.directory :=
    fun _ => ⟨rfl, rfl, rfl⟩
  obtain ⟨table, queue, log⟩ := changes.shut shut unopened
  refine ⟨UnorderedMap.ext fun device => congrFun table device, List.map_eq_nil_iff.mp queue, ?_⟩
  intro event member
  have silent := List.filterMap_eq_nil_iff.mp log _ member
  obtain ⟨type, eid, device⟩ := event
  cases type <;> cases silent

namespace Slot

/-- The endpoint is announced while the services are still being asked for. -/
def early : System := (exec System.step start [.detect, added, removed]).get (by decide)

theorem early_run : Run System.step Any start [.detect, added, removed] early := .of_exec rfl

theorem unopened_silent_early :
    early.lib.endpointMap = ∅ ∧ early.lib.spawned = [] ∧
      ∀ event, .networkChange event ∉ early.lib.trace :=
  unopened_silent early_run (by decide)

end Slot

/-- What a body tells when it runs. -/
def Spawned.event (body : Spawned) : Kind × DeviceID := body.notice.entry

theorem stream_directory (s : MCTPImpl) :
    stream s.directory = deviceEvents s.trace ++ s.spawned.map Spawned.event := by
  rw [stream, MCTPImpl.directory, List.map_map]
  rfl

theorem removals_directory (s : MCTPImpl) (device : DeviceID) :
    removals s.directory device =
      (deviceEvents s.trace).count (.removed, device) + s.spawned.count (.eidRemoved device) := by
  have queued : (s.spawned.map Spawned.event).count (.removed, device) =
      s.spawned.count (.eidRemoved device) := by
    rw [List.count, List.count, List.countP_map]
    apply List.countP_congr
    intro body _
    cases body <;> simp [Spawned.event, Spawned.notice, Notice.entry]
  rw [removals, stream_directory, List.count_append, queued]

/-- The application is told of no more removals of a device than it has been told of
additions and discoveries have ended: each undoes one of them. -/
theorem removals_accounted
    (run : Run System.step Any (System.construct host config networkChangeCb rxCb) labels t)
    (device : DeviceID) :
    (deviceEvents t.lib.trace).count (.removed, device) + t.lib.spawned.count (.eidRemoved device) +
        (if (t.lib.endpointMap.find device).isSome then 1 else 0) + t.scans.length ≤
      (deviceEvents t.lib.trace).count (.added, device) + System.detects labels := by
  have account := (System.always_underway run).covered
    (fun s => removals s.lib.directory device + filed s.lib.directory device + s.scans.length)
    (fun s => additions s.lib.directory device) (fun label => if label.isDetect then 1 else 0)
    fun _ _ _ underway stepped => System.step_accounted underway stepped device
  rw [System.sum_indicator, removals_directory] at account
  have initial : removals (System.construct host config networkChangeCb rxCb).lib.directory device +
      filed (System.construct host config networkChangeCb rxCb).lib.directory device +
      (System.construct host config networkChangeCb rxCb).scans.length = 0 := rfl
  have entry : filed t.lib.directory device =
      if (t.lib.endpointMap.find device).isSome then 1 else 0 := rfl
  have told : additions t.lib.directory device =
      (deviceEvents t.lib.trace).count (.added, device) := rfl
  rw [initial, entry, told] at account
  rw [System.detects]
  omega

namespace Slot

theorem removals_accounted_replugged :
    (deviceEvents replugged.lib.trace).count (.removed, device) +
        replugged.lib.spawned.count (.eidRemoved device) +
        (if (replugged.lib.endpointMap.find device).isSome then 1 else 0) +
        replugged.scans.length ≤
      (deviceEvents replugged.lib.trace).count (.added, device) + System.detects replugging :=
  removals_accounted replugged_run device

end Slot

/-- The signal the word of a device is an answer to. -/
inductive Label.Notes : Kind × DeviceID → Label → Prop
  | added {device : DeviceID} (env : Env) (sender objectPath : String) (values : Interfaces) :
      MCTPImpl.pathEID objectPath = some device.mctpEID →
      Notes (.added, device) (.signal env ⟨sender, .interfacesAdded objectPath values⟩)
  | removed {device : DeviceID} (env : Env) (sender objectPath : String)
      (interfaces : List String) : MCTPImpl.pathEID objectPath = some device.mctpEID →
      Notes (.removed, device) (.signal env ⟨sender, .interfacesRemoved objectPath interfaces⟩)

/-- What a label adds to the words told and to be told. -/
theorem Label.Makes.noted {s : System} {label : Label} {made : List EndpointChange}
    (makes : label.Makes s made) {before after : Directory.State String DeviceID Bus}
    (changes : Changes before made after) :
    ∃ words, stream after = stream before ++ words ∧
      (words = [] ∨ ∃ word, words = [word] ∧ label.Notes word) := by
  have nothing : (∀ one ∈ made, ∀ state, produced state one = []) →
      ∃ words, stream after = stream before ++ words ∧
        (words = [] ∨ ∃ word, words = [word] ∧ label.Notes word) :=
    fun silent => ⟨[], by rw [changes.silent silent, List.append_nil], .inl rfl⟩
  cases makes with
  | call => exact nothing (by simp)
  | unasked => exact nothing (by simp)
  | body => exact nothing (by simp [produced])
  | scanned scan progress =>
      refine nothing fun one member state => ?_
      simp only [Scan.opening, Progress.published, List.mem_append, List.mem_map] at member
      rcases member with (⟨service, _, rfl⟩ | opens) | published
      · rfl
      · split at opens
        · cases List.mem_singleton.mp opens
          rfl
        · cases opens
      · split at published
        · cases published
        · obtain ⟨eids, _, rfl⟩ := List.mem_map.mp published
          rfl
  | @asked env msg change asks =>
      obtain ⟨sender, signal⟩ := msg
      cases asks with
      | introduced => exact nothing (by simp [produced])
      | left => exact nothing (by simp [produced])
      | announced objectPath values properties device added _ _ _ _ _ formed =>
          subst added
          rw [changes.one_inv, stream_change]
          exact ⟨_, rfl, .inr ⟨_, rfl, .added env sender objectPath values
            (MCTPImpl.pathEID_of_formed formed)⟩⟩
      | withdrawn objectPath interfaces device removed _ _ _ _ formed =>
          subst removed
          rw [changes.one_inv, stream_change]
          refine ⟨_, rfl, ?_⟩
          simp only [produced, notices]
          split
          · exact .inr ⟨_, rfl, .removed env sender objectPath interfaces
              (MCTPImpl.pathEID_of_formed formed)⟩
          · exact .inl rfl

/-- The application is told of devices in the order of the signals, once for each
signal at most and of nothing else, however late the bodies run. -/
theorem notices_in_order
    (run : Run System.step Any (System.construct host config networkChangeCb rxCb) labels t) :
    ∃ signals, List.Sublist signals labels ∧
      List.Forall₂ Label.Notes (deviceEvents t.lib.trace ++ t.lib.spawned.map Spawned.event)
        signals := by
  rw [← stream_directory]
  refine (System.always_underway run).caused (fun s => stream s.lib.directory) Label.Notes rfl ?_
  intro state label next underway stepped
  obtain ⟨_, made, making⟩ := System.step_making underway stepped
  exact making.makes.noted making.changes

namespace Slot

theorem notices_in_order_replugged :
    ∃ signals, List.Sublist signals replugging ∧
      List.Forall₂ Label.Notes
        (deviceEvents replugged.lib.trace ++ replugged.lib.spawned.map Spawned.event) signals :=
  notices_in_order replugged_run

example : deviceEvents replugged.lib.trace = [(.added, device), (.removed, device)] := by decide

end Slot

end Mctpw
