import Mctpw.Formation
import Mctpw.LatestRoute

set_option autoImplicit false

/- A run with a networkChangeCallback beside the same run without one. -/
namespace Mctpw

open Runs Strings

namespace MCTPImpl

/-- `t` is `s` without the callback, with nothing spawned and a history of its own. -/
def Muted (s t : MCTPImpl) : Prop :=
  ∃ trace, t = { s with
    networkChangeCallback := false
    spawned := []
    trace := trace }

/-- The same outcome, and states that are the same but for the muting. -/
structure MutedResult {α : Type} (left right : α × MCTPImpl) : Prop where
  outcome : right.1 = left.1
  state : Muted left.2 right.2

variable {s t s' t' : MCTPImpl} {allowed : Effect → Prop}

theorem Muted.reports (muted : Muted s t) (left : Reports allowed s s')
    (right : Reports allowed t t') : Muted s' t' := by
  obtain ⟨trace, rfl⟩ := muted
  obtain ⟨_, _, rfl⟩ := left
  obtain ⟨effects, _, rfl⟩ := right
  exact ⟨trace ++ effects, rfl⟩

theorem Muted.emit (muted : Muted s t) (effect : Effect) :
    Muted (s.emit effect) (t.emit effect) := by
  obtain ⟨trace, rfl⟩ := muted
  exact ⟨trace ++ [effect], rfl⟩

theorem Muted.opened (muted : Muted s t) :
    Muted { s with isInitialisationsDone := true } { t with isInitialisationsDone := true } := by
  obtain ⟨trace, rfl⟩ := muted
  exact ⟨trace, rfl⟩

theorem Muted.filed (muted : Muted s t) (eids : EndpointMapExtended) :
    Muted { s with endpointMap := eids } { t with endpointMap := eids } := by
  obtain ⟨trace, rfl⟩ := muted
  exact ⟨trace, rfl⟩

theorem Muted.config (muted : Muted s t) : t.config = s.config := by
  obtain ⟨_, rfl⟩ := muted
  rfl

theorem Muted.host (muted : Muted s t) : t.host = s.host := by
  obtain ⟨_, rfl⟩ := muted
  rfl

theorem matchService_muted (muted : Muted s t) (serviceName : String) :
    Muted (s.matchService serviceName) (t.matchService serviceName) := by
  obtain ⟨trace, rfl⟩ := muted
  unfold matchService
  dsimp only
  split <;> exact ⟨_, rfl⟩

theorem getNetworkID_muted (muted : Muted s t) (env : Env) (serviceName : String) :
    MutedResult (getNetworkID env serviceName s) (getNetworkID env serviceName t) := by
  obtain ⟨trace, rfl⟩ := muted
  unfold getNetworkID readPropertyValue
  dsimp only
  cases s.networkIDCache.find serviceName with
  | some networkID => exact ⟨rfl, _, rfl⟩
  | none => cases env.readByte (networkIDProperty serviceName) <;> exact ⟨rfl, _, rfl⟩

theorem getDeviceIDFromPath_muted (muted : Muted s t) (env : Env) (objectPath serviceName : String) :
    MutedResult (getDeviceIDFromPath env objectPath serviceName s)
      (getDeviceIDFromPath env objectPath serviceName t) := by
  obtain ⟨outcome, state⟩ := getNetworkID_muted muted env serviceName
  unfold getDeviceIDFromPath
  dsimp only
  rw [outcome]
  cases findLastOf '/' objectPath.toList with
  | none => exact ⟨rfl, muted⟩
  | some slashLoc =>
      dsimp only
      split
      · exact ⟨rfl, muted⟩
      · cases stoi 10 (objectPath.toList.drop (slashLoc + 1)) with
        | error failed => exact ⟨rfl, state⟩
        | ok value => exact ⟨rfl, state.emit _⟩

theorem getBusId_muted (muted : Muted s t) (env : Env) (serviceName : String) :
    MutedResult (getBusId env serviceName s) (getBusId env serviceName t) := by
  obtain ⟨trace, rfl⟩ := muted
  unfold getBusId readPropertyValue
  dsimp only
  cases s.config.bindingType with
  | mctpOverSmBus =>
      dsimp only
      split
      · exact ⟨rfl, _, rfl⟩
      · split
        · split <;> exact ⟨rfl, _, rfl⟩
        · exact ⟨rfl, _, rfl⟩
  | mctpOverPcieVdm =>
      dsimp only
      split <;> exact ⟨rfl, _, rfl⟩
  | _ => exact ⟨rfl, _, rfl⟩

theorem scanObjects_muted (muted : Muted s t) (env : Env) (bus : Bus) (nwid : UInt8)
    (values : DictType Interfaces) (eids : EndpointMapExtended) :
    MutedResult (scanObjects env bus nwid values eids s)
      (scanObjects env bus nwid values eids t) := by
  induction values generalizing eids s t with
  | nil => exact ⟨rfl, muted⟩
  | cons object rest ih =>
      have state : Muted (acceptObject env bus.2 object s).2 (acceptObject env bus.2 object t).2 :=
        muted.reports (acceptObject_reports env bus.2 object s)
          (acceptObject_reports env bus.2 object t)
      unfold scanObjects
      dsimp only
      rw [acceptObject_fst_congr env bus.2 object muted.host muted.config]
      cases (acceptObject env bus.2 object s).1 with
      | none => exact ih state eids
      | some eid => exact ih (state.emit _) _

theorem scanService_muted (muted : Muted s t) (env : Env) (bus : Bus) (values : DictType Interfaces)
    (eids : EndpointMapExtended) :
    MutedResult (scanService env bus values eids s) (scanService env bus values eids t) := by
  obtain ⟨outcome, state⟩ := getNetworkID_muted muted env bus.2
  unfold scanService
  dsimp only
  rw [outcome]
  exact scanObjects_muted state env bus _ values eids

theorem registerResponderService_muted (muted : Muted s t) (env : Env) (serviceName : String) :
    MutedResult (registerResponderService env serviceName s)
      (registerResponderService env serviceName t) := by
  obtain ⟨trace, rfl⟩ := muted
  have same : registerCall { s with
      networkChangeCallback := false
      spawned := []
      trace := trace } serviceName = s.registerCall serviceName := rfl
  unfold registerResponderService
  rw [same]
  dsimp only
  split
  · exact ⟨rfl, _, rfl⟩
  · cases s.registerCall serviceName <;> exact ⟨rfl, _, rfl⟩

theorem registerServices_muted (muted : Muted s t) (env : Env) (services : List String)
    (status : ErrorCode) :
    MutedResult (registerServices env services status s)
      (registerServices env services status t) := by
  induction services generalizing status s t with
  | nil => exact ⟨rfl, muted⟩
  | cons serviceName rest ih =>
      obtain ⟨outcome, state⟩ := registerResponderService_muted muted env serviceName
      unfold registerServices
      dsimp only
      rw [outcome]
      cases (registerResponderService env serviceName s).1 with
      | error fault => exact ⟨rfl, state⟩
      | ok status => exact ih state status

theorem registerResponder_muted (muted : Muted s t) (env : Env) (specVersion : List VersionFields) :
    MutedResult (registerResponder env specVersion s) (registerResponder env specVersion t) := by
  unfold registerResponder
  split
  · exact ⟨rfl, muted⟩
  · obtain ⟨trace, rfl⟩ := muted
    exact registerServices_muted ⟨trace, rfl⟩ env _ _

theorem triggerGetOwnEID_muted (muted : Muted s t) (env : Env) (serviceName : String) :
    Muted (triggerGetOwnEID env serviceName s) (triggerGetOwnEID env serviceName t) :=
  muted.reports (triggerGetOwnEID_reports env serviceName s)
    (triggerGetOwnEID_reports env serviceName t)

theorem getOwnEIDs_muted (muted : Muted s t) (env : Env) (callback : Option Nat) :
    Muted (getOwnEIDs env callback s) (getOwnEIDs env callback t) := by
  unfold getOwnEIDs
  cases callback with
  | none => exact muted
  | some callback =>
      obtain ⟨trace, rfl⟩ := muted
      have kept : Muted { s with eidChangeCallback := some callback }
          { s with
            networkChangeCallback := false
            spawned := []
            trace := trace
            eidChangeCallback := some callback } := ⟨trace, rfl⟩
      exact kept.reports (triggerAll_reports env _ _) (triggerAll_reports env _ _)

theorem finishDetect_muted (muted : Muted s t) (env : Env) :
    MutedResult (finishDetect env s) (finishDetect env t) := by
  have registered : MutedResult
      (if s.responderVersions.isEmpty then (Except.ok ErrorCode.success, s)
        else registerResponder env s.responderVersions s)
      (if t.responderVersions.isEmpty then (Except.ok ErrorCode.success, t)
        else registerResponder env t.responderVersions t) := by
    have versions : t.responderVersions = s.responderVersions := by
      obtain ⟨_, rfl⟩ := muted
      rfl
    rw [versions]
    split
    · exact ⟨rfl, muted⟩
    · exact registerResponder_muted muted env _
  obtain ⟨outcome, state⟩ := registered
  unfold finishDetect
  dsimp only
  rw [outcome]
  split
  · exact ⟨rfl, state⟩
  · refine ⟨rfl, ?_⟩
    have kept := getOwnEIDs_muted state env
    obtain ⟨trace, same⟩ := id state
    rw [same] at kept ⊢
    exact kept _

/-- The map under construction is the same, whatever the member map holds. -/
theorem buildMatchingEndpointMap_muted (muted : Muted s t) (env : Env) (eids : EndpointMapExtended)
    (buses : List Bus) :
    MutedResult (buildMatchingEndpointMap env eids buses s)
      (buildMatchingEndpointMap env eids buses t) := by
  unfold buildMatchingEndpointMap
  split
  · exact finishDetect_muted (muted.filed eids) env
  · exact ⟨rfl, muted.emit _⟩

theorem findBuses_muted (muted : Muted s t) (env : Env) (buses : List Bus) (services : List String) :
    MutedResult (findBuses env buses services s) (findBuses env buses services t) := by
  induction services generalizing s t with
  | nil => exact buildMatchingEndpointMap_muted muted.opened env ∅ buses
  | cons service rest ih =>
      obtain ⟨outcome, state⟩ := getBusId_muted muted env service
      unfold findBuses
      dsimp only
      rw [outcome]
      cases (getBusId env service s).1 with
      | error fault => exact ih state
      | ok bus => exact ⟨rfl, state.emit _⟩

/-- A coroutine goes the same way in both. -/
theorem resume_muted (muted : Muted s t) {env : Env} {scan : Scan} {reply : Reply}
    {result : Progress × MCTPImpl} (resumed : resume env scan reply s = some result) :
    ∃ result', resume env scan reply t = some result' ∧ MutedResult result result' := by
  unfold resume at resumed ⊢
  split at resumed
  · cases resumed
    exact ⟨_, rfl, finishDetect_muted muted.opened env⟩
  · cases resumed
    exact ⟨_, rfl, findBuses_muted muted env _ _⟩
  · cases resumed
    exact ⟨_, rfl, findBuses_muted (matchService_muted muted _) env _ _⟩
  · cases resumed
    exact ⟨_, rfl, findBuses_muted (matchService_muted muted _) env _ _⟩
  · cases resumed
    exact ⟨_, rfl, buildMatchingEndpointMap_muted muted env _ _⟩
  · cases resumed
    rename_i eids bus rest values
    obtain ⟨outcome, state⟩ := scanService_muted muted env bus values eids
    refine ⟨_, rfl, ?_⟩
    rw [outcome]
    exact buildMatchingEndpointMap_muted state env _ _
  · cases resumed

theorem onNewService_muted (muted : Muted s t) (env : Env) (serviceName : String) :
    MutedResult (onNewService env serviceName s) (onNewService env serviceName t) := by
  obtain ⟨outcome, state⟩ :=
    registerResponderService_muted (matchService_muted muted serviceName) env serviceName
  unfold onNewService
  dsimp only
  rw [outcome]
  split
  · exact ⟨rfl, state⟩
  · exact ⟨rfl, triggerGetOwnEID_muted state env serviceName⟩

/-- Announced or not, nothing is inserted yet. -/
theorem onNewEID_muted (muted : Muted s t) (serviceName : String) (device : DeviceID) :
    Muted (onNewEID serviceName device s) (onNewEID serviceName device t) := by
  obtain ⟨trace, rfl⟩ := muted
  unfold onNewEID
  split <;> exact ⟨trace, rfl⟩

theorem onNewInterface_muted (muted : Muted s t) (env : Env) (sender objectPath : String)
    (values : Interfaces) :
    MutedResult (onNewInterface env sender objectPath values s)
      (onNewInterface env sender objectPath values t) := by
  have matched : t.matchedBuses = s.matchedBuses := by
    obtain ⟨_, rfl⟩ := muted
    rfl
  obtain ⟨outcome, state⟩ := getDeviceIDFromPath_muted muted env objectPath sender
  unfold onNewInterface
  dsimp only
  rw [matched, muted.config, outcome]
  split
  · split
    · exact onNewService_muted muted env sender
    · exact ⟨rfl, muted⟩
  · split
    · exact ⟨rfl, muted⟩
    · split
      · split
        · exact ⟨rfl, muted⟩
        · split
          · exact ⟨rfl, muted⟩
          · exact ⟨rfl, muted⟩
          · split
            · exact ⟨rfl, state⟩
            · exact ⟨rfl, onNewEID_muted state sender _⟩
      · exact ⟨rfl, muted⟩

/-- A removal erases with or without somebody to tell. -/
theorem onEIDRemoved_muted (muted : Muted s t) (device : DeviceID) :
    Muted (onEIDRemoved device s) (onEIDRemoved device t) := by
  obtain ⟨trace, rfl⟩ := muted
  unfold onEIDRemoved
  dsimp only
  cases s.endpointMap.find device with
  | none => exact ⟨trace, rfl⟩
  | some entry =>
      dsimp only
      split <;> exact ⟨trace, rfl⟩

theorem onInterfaceRemoved_muted (muted : Muted s t) (env : Env) (sender objectPath : String)
    (interfaces : List String) :
    Muted (onInterfaceRemoved env sender objectPath interfaces s)
      (onInterfaceRemoved env sender objectPath interfaces t) := by
  obtain ⟨outcome, state⟩ := getDeviceIDFromPath_muted muted env objectPath sender
  unfold onInterfaceRemoved
  dsimp only
  rw [outcome]
  split
  · split
    · split
      · exact state
      · exact onEIDRemoved_muted state _
    · exact muted
  · split
    · split
      · obtain ⟨trace, rfl⟩ := muted
        exact ⟨trace, rfl⟩
      · exact muted
    · exact muted

theorem deliver_muted (muted : Muted s t) (env : Env) (sender : String) (srcEid msgTag : UInt8)
    (tagOwner : Bool) (payload : ByteArray) :
    Muted (deliver env sender srcEid msgTag tagOwner payload s)
      (deliver env sender srcEid msgTag tagOwner payload t) := by
  have plain : Muted
      (if s.receiveCallback then s.emit (.received srcEid tagOwner msgTag payload) else s)
      (if t.receiveCallback then t.emit (.received srcEid tagOwner msgTag payload) else t) := by
    obtain ⟨trace, rfl⟩ := muted
    dsimp only
    split <;> exact ⟨_, rfl⟩
  have extended : t.extReceiveCallback = s.extReceiveCallback := by
    obtain ⟨_, rfl⟩ := muted
    rfl
  unfold deliver
  dsimp only
  rw [extended]
  split
  · obtain ⟨outcome, state⟩ := getNetworkID_muted plain env sender
    rw [outcome]
    exact (state.emit _).emit _
  · exact plain

theorem onMessageReceived_muted (muted : Muted s t) (env : Env) (sender : String)
    (messageType srcEid msgTag : UInt8) (tagOwner : Bool) (payload : ByteArray) :
    MutedResult (onMessageReceived env sender messageType srcEid msgTag tagOwner payload s)
      (onMessageReceived env sender messageType srcEid msgTag tagOwner payload t) := by
  have filter : vendorHeaderMatches env payload t = vendorHeaderMatches env payload s := by
    obtain ⟨_, rfl⟩ := muted
    rfl
  have listens : t.receiveCallback = s.receiveCallback ∧
      t.extReceiveCallback = s.extReceiveCallback := by
    obtain ⟨_, rfl⟩ := muted
    exact ⟨rfl, rfl⟩
  unfold onMessageReceived
  dsimp only
  rw [filter, listens.1, listens.2, muted.config]
  split
  · exact ⟨rfl, muted⟩
  · split
    · exact ⟨rfl, muted⟩
    · split
      · split
        · exact ⟨rfl, muted.emit _⟩
        · exact ⟨rfl, muted.emit _⟩
        · exact ⟨rfl, deliver_muted (muted.emit _) env sender srcEid msgTag tagOwner payload⟩
      · exact ⟨rfl, deliver_muted muted env sender srcEid msgTag tagOwner payload⟩

theorem onPropertiesChanged_muted (muted : Muted s t) (sender intfName : String)
    (changed : Properties) :
    MutedResult (onPropertiesChanged sender intfName changed s)
      (onPropertiesChanged sender intfName changed t) := by
  have reported : t.eidChangeCallback = s.eidChangeCallback := by
    obtain ⟨_, rfl⟩ := muted
    rfl
  unfold onPropertiesChanged
  rw [reported]
  split
  · split
    · split
      · exact ⟨rfl, muted.emit _⟩
      · exact ⟨rfl, muted⟩
    · exact ⟨rfl, muted⟩
  · exact ⟨rfl, muted⟩

/-- A signal is handled in the same way by both. -/
theorem onMCTPEvent_muted (muted : Muted s t) (env : Env) (msg : Message) :
    MutedResult (onMCTPEvent env msg s) (onMCTPEvent env msg t) := by
  have shared : t.isInitialisationsDone = s.isInitialisationsDone ∧
      t.matchedBuses = s.matchedBuses := by
    obtain ⟨_, rfl⟩ := muted
    exact ⟨rfl, rfl⟩
  unfold onMCTPEvent
  rw [shared.1, shared.2]
  split
  · exact ⟨rfl, muted⟩
  · split
    · exact onNewInterface_muted muted env msg.sender _ _
    · split
      · exact ⟨rfl, muted⟩
      · exact ⟨rfl, onInterfaceRemoved_muted muted env msg.sender _ _⟩
    · split
      · exact ⟨rfl, muted⟩
      · exact onMessageReceived_muted muted env msg.sender _ _ _ _ _
    · split
      · exact ⟨rfl, muted⟩
      · exact onPropertiesChanged_muted muted msg.sender _ _
    · exact ⟨rfl, muted⟩

end MCTPImpl

/-- The coroutines wait at the same calls. -/
structure MutedSystem (s t : System) : Prop where
  scans : t.scans = s.scans
  lib : MCTPImpl.Muted s.lib t.lib

/-- An insertion that is run finds its device in the map already. -/
def FindsFiled (s : System) : Label → Prop
  | .body => ∀ serviceName device rest, s.lib.spawned = .newEID serviceName device :: rest →
      device ∈ s.lib.endpointMap.keySet
  | _ => True

section Step

variable {s t next : System} (muted : MutedSystem s t)

include muted

theorem settle_muted {index : Nat} {left right : Progress × MCTPImpl}
    (same : MCTPImpl.MutedResult left right) (settled : s.settle index left = some next) :
    ∃ next', t.settle index right = some next' ∧ MutedSystem next next' := by
  obtain ⟨progress, lib⟩ := left
  obtain ⟨progress', lib'⟩ := right
  obtain ⟨rfl, state⟩ := same
  cases progress' with
  | suspended scan =>
      cases settled
      exact ⟨_, rfl, congrArg (List.set · index scan) muted.scans, state⟩
  | returned ec =>
      cases settled
      exact ⟨_, rfl, congrArg (List.eraseIdx · index) muted.scans, state⟩
  | raised fault => cases settled

theorem unwind_muted {α : Type} {left right : Except Fault α × MCTPImpl}
    (same : MCTPImpl.MutedResult left right) (unwound : s.unwind left = some next) :
    ∃ next', t.unwind right = some next' ∧ MutedSystem next next' := by
  obtain ⟨defined, rfl⟩ := System.unwind_some unwound
  obtain ⟨outcome, lib⟩ := left
  obtain ⟨outcome', lib'⟩ := right
  obtain ⟨rfl, state⟩ := same
  refine ⟨{ t with lib := lib' }, ?_, muted.scans, state⟩
  unfold System.unwind
  split
  · rename_i same
    cases same
    exact absurd rfl defined
  · rename_i same
    cases same
    rfl

/-- Whatever is not a body can happen without the callback too. -/
theorem step_muted {label : Label} (other : label.isBody = false)
    (stepped : s.step label = some next) :
    ∃ next', t.step label = some next' ∧ MutedSystem next next' := by
  obtain ⟨scans, lib⟩ := id muted
  cases label with
  | detect =>
      cases stepped
      refine ⟨_, rfl, ?_, ?_⟩
      · simp only [MCTPImpl.detectMctpEndpoints, scans]
      · obtain ⟨trace, same⟩ := lib
        rw [same]
        exact ⟨_, rfl⟩
  | resume index env reply =>
      simp only [System.step, scans] at stepped ⊢
      split at stepped
      · cases stepped
      · obtain ⟨result, resumed, settled⟩ := Option.bind_eq_some_iff.mp stepped
        obtain ⟨result', resumed', same⟩ := MCTPImpl.resume_muted lib resumed
        rw [resumed', Option.bind_some]
        exact settle_muted muted same settled
  | signal env msg =>
      have watch : t.lib.mctpChangesWatch = s.lib.mctpChangesWatch := by
        obtain ⟨_, same⟩ := lib
        rw [same]
      simp only [System.step, watch] at stepped ⊢
      split at stepped
      · rename_i watching
        rw [if_pos watching]
        exact unwind_muted muted (MCTPImpl.onMCTPEvent_muted lib env msg) stepped
      · cases stepped
  | body => cases other
  | registerResponder env specVersion =>
      exact unwind_muted muted (MCTPImpl.registerResponder_muted lib env specVersion) stepped
  | getOwnEIDs env callback =>
      cases stepped
      exact ⟨_, rfl, scans, MCTPImpl.getOwnEIDs_muted lib env callback⟩
  | setExtendedReceiveCallback callback =>
      cases stepped
      refine ⟨_, rfl, scans, ?_⟩
      obtain ⟨trace, same⟩ := lib
      rw [same]
      unfold MCTPImpl.setExtendedReceiveCallback
      dsimp only
      split <;> exact ⟨trace, rfl⟩
  | send request devID =>
      cases stepped
      refine ⟨_, rfl, scans, ?_⟩
      exact lib.reports (MCTPImpl.send_reports request devID _) (MCTPImpl.send_reports request devID _)

/-- A body that finds its device filed has no effect on the map. -/
theorem body_muted (found : FindsFiled s .body) (stepped : s.step .body = some next) :
    MutedSystem next t := by
  obtain ⟨body, rest, queued, rfl⟩ := System.step_body stepped
  obtain ⟨scans, trace, same⟩ := muted
  refine ⟨scans, trace, ?_⟩
  cases body with
  | newEID serviceName device =>
      have held := found serviceName device rest queued
      simp only [MCTPImpl.runSpawned, UnorderedMap.emplace_present held]
      exact same
  | eidRemoved device => exact same

end Step

/-- As long as insertions find their devices filed, the endpoint map and the
devices that can be sent to are those of a run without the callback; the first
that does not find its device leaves another map. -/
theorem endpointMap_unheard {host : ByteOrder.Endian} {config : MCTPConfiguration} {rxCb : Bool}
    {labels : List Label} {s : System}
    (run : Run System.step FindsFiled (.construct host config true rxCb) labels s) :
    ∃ t, Run System.step Any (.construct host config false rxCb)
        (labels.filter fun label => !label.isBody) t ∧
      t.lib.endpointMap = s.lib.endpointMap ∧
      (∀ device service, RoutedTo device service t.lib ↔ RoutedTo device service s.lib) ∧
      ∀ next, s.step .body = some next → ¬ FindsFiled s .body →
        next.lib.endpointMap ≠ t.lib.endpointMap := by
  have initial : MutedSystem (.construct host config true rxCb) (.construct host config false rxCb) :=
    ⟨rfl, [], rfl⟩
  obtain ⟨t, run', muted⟩ := run.simulates MutedSystem (fun label : Label => !label.isBody) initial
    (by
      intro state state' label next muted _ shown stepped
      have other : label.isBody = false := by simpa using shown
      exact step_muted muted other stepped)
    (by
      intro state state' label next muted found hidden stepped
      cases label with
      | body => exact body_muted muted found stepped
      | _ => cases hidden)
  have same : t.lib.endpointMap = s.lib.endpointMap := by
    obtain ⟨_, trace, eq⟩ := muted
    rw [eq]
  refine ⟨t, run', same, ?_, ?_⟩
  · intro device service
    rw [routedTo_iff_filed, routedTo_iff_filed, same]
  · intro next stepped missed equal
    obtain ⟨body, rest, queued, rfl⟩ := System.step_body stepped
    apply missed
    intro serviceName device rest' queued'
    rw [queued] at queued'
    cases queued'
    have filed : device ∈ (s.lib.endpointMap.emplace device (0, serviceName)).keySet := by
      rw [UnorderedMap.keySet_emplace]
      exact Set.mem_insert _ _
    rw [← same, ← equal]
    exact filed

namespace Slot

/-- The scan files the endpoint, and then it is announced. -/
def announcedTwice : List Label :=
  [.detect, .resume 0 env (.object (.ok [service])), .resume 0 env (.nameOwner (.ok owner)),
    .resume 0 env (.managedObjects (.ok [(path, object)])), added, .body]

def refiled : System := (exec System.step start announcedTwice).get (by decide)

theorem endpointMap_unheard_refiled :
    ∃ t, Run System.step Any (.construct .little config false false)
        (announcedTwice.filter fun label => !label.isBody) t ∧
      t.lib.endpointMap = refiled.lib.endpointMap := by
  have run : Run System.step FindsFiled start announcedTwice refiled := by
    iterate 5 refine .cons trivial rfl ?_
    refine .cons ?_ rfl .nil
    rintro serviceName device rest ⟨⟩
    rfl
  obtain ⟨t, run', same, _⟩ := endpointMap_unheard run
  exact ⟨t, run', same⟩

def deaf : System :=
  (exec System.step (.construct .little config false false) (discovery ++ [added])).get (by decide)

/-- Nothing is outstanding in either run; only the one with the callback has the
announced endpoint. -/
theorem endpointMap_heard :
    Run System.step Any start (discovery ++ [added, .body]) plugged ∧
      Run System.step Any (.construct .little config false false)
        ((discovery ++ [added, .body]).filter fun label => !label.isBody) deaf ∧
      plugged.lib.spawned = [] ∧ deaf.lib.spawned = [] ∧
      deaf.lib.endpointMap ≠ plugged.lib.endpointMap := by
  refine ⟨.of_exec rfl, .of_exec rfl, rfl, rfl, ?_⟩
  intro same
  have lost : (deaf.lib.endpointMap.find device) = plugged.lib.endpointMap.find device := by
    rw [same]
  cases lost

end Slot

end Mctpw
