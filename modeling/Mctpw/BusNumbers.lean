import Mctpw.Base.Oblivious
import Mctpw.EndpointView

set_option autoImplicit false

/- The bus number beside each service in the endpoint map has no bearing on
anything the library does. -/
namespace Mctpw

open Runs Strings

/-- The maps hold the same devices at the same services, on whatever bus. -/
def SameServices (eids eids' : EndpointMapExtended) : Prop :=
  ∀ device, (eids.find device).map Prod.snd = (eids'.find device).map Prod.snd

theorem SameServices.refl (eids : EndpointMapExtended) : SameServices eids eids := fun _ => rfl

theorem SameServices.trans {eids eids' eids'' : EndpointMapExtended}
    (first : SameServices eids eids') (second : SameServices eids' eids'') :
    SameServices eids eids'' := fun device => (first device).trans (second device)

theorem SameServices.assign {eids eids' : EndpointMapExtended} (same : SameServices eids eids')
    (device : DeviceID) {bus bus' : Bus} (service : bus.2 = bus'.2) :
    SameServices (eids.assign device bus) (eids'.assign device bus') := by
  intro other
  rw [UnorderedMap.find_assign, UnorderedMap.find_assign]
  split
  · exact congrArg some service
  · exact same other

theorem SameServices.erase {eids eids' : EndpointMapExtended} (same : SameServices eids eids')
    (device : DeviceID) : SameServices (eids.erase device) (eids'.erase device) := by
  intro other
  rw [UnorderedMap.find_erase, UnorderedMap.find_erase]
  split
  · rfl
  · exact same other

theorem SameServices.emplace {eids eids' : EndpointMapExtended} (same : SameServices eids eids')
    (device : DeviceID) (bus : Bus) :
    SameServices (eids.emplace device bus) (eids'.emplace device bus) := by
  intro other
  have held := same device
  rw [UnorderedMap.find_emplace, UnorderedMap.find_emplace]
  split
  · cases left : eids.find device with
    | none =>
        rw [left, Option.map_none, eq_comm, Option.map_eq_none_iff] at held
        rw [held]
    | some entry =>
        rw [left, Option.map_some, eq_comm, Option.map_eq_some_iff] at held
        obtain ⟨entry', right, service⟩ := held
        rw [right, Option.getD_some, Option.getD_some, Option.map_some, Option.map_some, service]
  · exact same other

namespace MCTPImpl

/-- The library with another map and another count of I3C buses. -/
@[simps]
def renumber (eids : EndpointMapExtended) (busId : Int) (s : MCTPImpl) : MCTPImpl :=
  { s with endpointMap := eids, i3cBusId := busId }

section

variable (eids : EndpointMapExtended) (busId : Int)

@[simp] theorem renumber_emit (s : MCTPImpl) (effect : Effect) :
    (renumber eids busId s).emit effect = renumber eids busId (s.emit effect) := rfl

theorem getNetworkID_oblivious (env : Env) (serviceName : String) :
    Oblivious (renumber eids busId) (getNetworkID env serviceName) := by
  intro s
  cases known : s.networkIDCache.find serviceName with
  | some networkID => simp [getNetworkID, known]
  | none =>
      cases read : env.readByte (networkIDProperty serviceName) with
      | none => simp [getNetworkID, readPropertyValue, known, read]
      | some networkID =>
          simp only [getNetworkID, readPropertyValue, known, read, renumber_networkIDCache]
          rfl

theorem getDeviceIDFromPath_oblivious (env : Env) (objectPath serviceName : String) :
    Oblivious (renumber eids busId) (getDeviceIDFromPath env objectPath serviceName) := by
  intro s
  unfold getDeviceIDFromPath
  rw [getNetworkID_oblivious eids busId env serviceName s]
  dsimp only
  cases findLastOf '/' objectPath.toList with
  | none => rfl
  | some slashLoc =>
      by_cases low : slashLoc < 2
      · simp only [if_pos low]
      · simp only [if_neg low]
        cases stoi 10 (objectPath.toList.drop (slashLoc + 1)) <;> rfl

theorem vendorMatches_oblivious (env : Env) (service objectPath : String) :
    Oblivious (renumber eids busId) (vendorMatches env service objectPath) := by
  intro s
  unfold vendorMatches
  simp only [readPropertyValue, renumber_config, renumber_host, renumber_emit]
  cases s.config.vendorId with
  | none => rfl
  | some vendorId =>
      cases env.readString (vendorIdProperty service objectPath) with
      | none => rfl
      | some text =>
          dsimp only
          cases stoi 16 text.toList with
          | error failed => rfl
          | ok value =>
              by_cases other : UInt16.ofInt value ≠ ByteOrder.be16toh s.host vendorId
              · simp only [if_pos other]
              · simp only [if_neg other]
                cases s.config.vendorMessageType with
                | none => rfl
                | some vendor =>
                    cases env.readUint16s (messageTypeProperty service objectPath) <;> rfl

theorem acceptObject_oblivious (env : Env) (service : String) (object : String × Interfaces) :
    Oblivious (renumber eids busId) (acceptObject env service object) := by
  intro s
  have vendor : (if s.config.type = .vdpci then
        vendorMatches env service object.1 (renumber eids busId s)
      else (.ok true, renumber eids busId s)) =
      ((if s.config.type = .vdpci then vendorMatches env service object.1 s
          else (.ok true, s)).1,
        renumber eids busId (if s.config.type = .vdpci then
          vendorMatches env service object.1 s else (.ok true, s)).2) := by
    split
    · exact vendorMatches_oblivious eids busId env service object.1 s
    · rfl
  unfold acceptObject
  simp only [renumber_config, vendor]
  generalize (if s.config.type = .vdpci then vendorMatches env service object.1 s
    else (.ok true, s)) = outcome
  cases object.2.lookup endpointInterface with
  | none => rfl
  | some _ =>
      cases object.2.lookup supportedMessageTypes with
      | none => rfl
      | some properties =>
          dsimp only
          cases supportsType s.config.type properties with
          | error fault => rfl
          | ok supported =>
              cases supported with
              | false => rfl
              | true =>
                  dsimp only
                  cases outcome.1 with
                  | error fault => rfl
                  | ok accepted =>
                      cases accepted with
                      | false => rfl
                      | true => cases splitEID object.1 <;> rfl

theorem scanObjects_oblivious (env : Env) (bus : Bus) (nwid : UInt8)
    (values : DictType Interfaces) (filed : EndpointMapExtended) :
    Oblivious (renumber eids busId) (scanObjects env bus nwid values filed) := by
  induction values generalizing filed with
  | nil => exact .const filed
  | cons object rest ih =>
      intro s
      unfold scanObjects
      dsimp only
      rw [acceptObject_oblivious eids busId env bus.2 object s]
      dsimp only
      cases (acceptObject env bus.2 object s).1 with
      | none => exact ih filed _
      | some eid =>
          simp only [renumber_emit]
          exact ih _ _

theorem scanService_oblivious (env : Env) (bus : Bus) (values : DictType Interfaces)
    (filed : EndpointMapExtended) :
    Oblivious (renumber eids busId) (scanService env bus values filed) :=
  (getNetworkID_oblivious eids busId env bus.2).bind fun nwid =>
    scanObjects_oblivious eids busId env bus nwid values filed

theorem renumber_matchService (s : MCTPImpl) (serviceName : String) :
    (renumber eids busId s).matchService serviceName =
      renumber eids busId (s.matchService serviceName) := by
  by_cases already : serviceName ∈ s.matchedBuses
  · simp [matchService, already]
  · simp only [matchService, renumber_matchedBuses, if_neg already]
    rfl

theorem registerResponderService_oblivious (env : Env) (serviceName : String) :
    Oblivious (renumber eids busId) (registerResponderService env serviceName) := by
  intro s
  have same : registerCall (renumber eids busId s) serviceName = s.registerCall serviceName := rfl
  unfold registerResponderService
  simp only [renumber_responderVersions, same]
  split
  · rfl
  · cases s.registerCall serviceName <;> rfl

theorem registerServices_oblivious (env : Env) (services : List String) (status : ErrorCode) :
    Oblivious (renumber eids busId) (registerServices env services status) := by
  induction services generalizing status with
  | nil => exact .const _
  | cons serviceName rest ih =>
      intro s
      unfold registerServices
      rw [registerResponderService_oblivious eids busId env serviceName s]
      dsimp only
      cases (registerResponderService env serviceName s).1 with
      | error fault => rfl
      | ok status' => exact ih status' _

theorem registerResponder_oblivious (env : Env) (specVersion : List VersionFields) :
    Oblivious (renumber eids busId) (registerResponder env specVersion) := by
  intro s
  unfold registerResponder
  split
  · rfl
  · exact registerServices_oblivious eids busId env _ .success
      { s with responderVersions := specVersion }

theorem triggerGetOwnEID_commute (env : Env) (serviceName : String) :
    Function.Commute (triggerGetOwnEID env serviceName) (renumber eids busId) := by
  intro s
  unfold triggerGetOwnEID
  simp only [readPropertyValue, renumber_eidChangeCallback]
  cases s.eidChangeCallback with
  | none => rfl
  | some callback => cases env.readByte (eidProperty serviceName) <;> rfl

theorem getOwnEIDs_commute (env : Env) (callback : Option Nat) :
    Function.Commute (getOwnEIDs env callback) (renumber eids busId) := by
  intro s
  cases callback with
  | none => rfl
  | some callback =>
      exact Oblivious.commute_foldl (fun name => triggerGetOwnEID_commute eids busId env name)
        (env.order s.matchedBuses) { s with eidChangeCallback := some callback }

theorem finishDetect_oblivious (env : Env) :
    Oblivious (renumber eids busId) (finishDetect env) := by
  intro s
  have registered : (if s.responderVersions.isEmpty then (.ok .success, renumber eids busId s)
      else registerResponder env s.responderVersions (renumber eids busId s)) =
      ((if s.responderVersions.isEmpty then (.ok .success, s)
          else registerResponder env s.responderVersions s).1,
        renumber eids busId (if s.responderVersions.isEmpty then (.ok .success, s)
          else registerResponder env s.responderVersions s).2) := by
    split
    · rfl
    · exact registerResponder_oblivious eids busId env _ s
  unfold finishDetect
  simp only [renumber_responderVersions, registered]
  generalize (if s.responderVersions.isEmpty then (.ok .success, s)
    else registerResponder env s.responderVersions s) = outcome
  cases outcome.1 with
  | error fault => rfl
  | ok ec => exact Prod.ext rfl (getOwnEIDs_commute eids busId env _ outcome.2)

theorem onNewService_oblivious (env : Env) (serviceName : String) :
    Oblivious (renumber eids busId) (onNewService env serviceName) := by
  intro s
  unfold onNewService
  dsimp only
  rw [renumber_matchService eids busId s serviceName,
    registerResponderService_oblivious eids busId env serviceName _]
  dsimp only
  cases (registerResponderService env serviceName (s.matchService serviceName)).1 with
  | error fault => rfl
  | ok ec => exact Prod.ext rfl (triggerGetOwnEID_commute eids busId env serviceName _)

theorem onNewEID_commute (serviceName : String) (device : DeviceID) :
    Function.Commute (onNewEID serviceName device) (renumber eids busId) := by
  intro s
  unfold onNewEID
  simp only [renumber_networkChangeCallback]
  split <;> rfl

theorem onNewInterface_oblivious (env : Env) (sender objectPath : String) (values : Interfaces) :
    Oblivious (renumber eids busId) (onNewInterface env sender objectPath values) := by
  intro s
  have looked := getDeviceIDFromPath_oblivious eids busId env objectPath sender s
  unfold onNewInterface
  simp only [renumber_config, renumber_matchedBuses, looked]
  by_cases base : objectPath = basePath
  · simp only [if_pos base]
    cases values.lookup (bindingToInterface s.config.bindingType) with
    | none => rfl
    | some _ => exact onNewService_oblivious eids busId env sender s
  · by_cases stranger : sender ∉ s.matchedBuses
    · simp only [if_neg base, if_pos stranger]
    · by_cases under : startsWith objectPath endpointPrefix = true
      · simp only [if_neg base, if_neg stranger, if_pos under]
        cases values.lookup supportedMessageTypes with
        | none => rfl
        | some properties =>
            dsimp only
            cases supportsType s.config.type properties with
            | error fault => rfl
            | ok supported =>
                cases supported with
                | false => rfl
                | true =>
                    dsimp only
                    cases (getDeviceIDFromPath env objectPath sender s).1 with
                    | error fault => rfl
                    | ok device =>
                        exact Prod.ext rfl (onNewEID_commute eids busId sender device _)
      · simp only [if_neg base, if_neg stranger, if_neg under]

theorem deliver_commute (env : Env) (sender : String) (srcEid msgTag : UInt8) (tagOwner : Bool)
    (payload : ByteArray) : Function.Commute (deliver env sender srcEid msgTag tagOwner payload)
      (renumber eids busId) := by
  intro s
  have plain : (if s.receiveCallback then
        (renumber eids busId s).emit (.received srcEid tagOwner msgTag payload)
      else renumber eids busId s) = renumber eids busId (if s.receiveCallback then
        s.emit (.received srcEid tagOwner msgTag payload) else s) := by
    split <;> rfl
  unfold deliver
  simp only [renumber_receiveCallback, renumber_extReceiveCallback, plain]
  generalize (if s.receiveCallback then s.emit (.received srcEid tagOwner msgTag payload)
    else s) = handed
  split
  · rw [getNetworkID_oblivious eids busId env sender handed]
    rfl
  · rfl

theorem onMessageReceived_oblivious (env : Env) (sender : String)
    (messageType srcEid msgTag : UInt8) (tagOwner : Bool) (payload : ByteArray) :
    Oblivious (renumber eids busId)
      (onMessageReceived env sender messageType srcEid msgTag tagOwner payload) := by
  intro s
  have filter : vendorHeaderMatches env payload (renumber eids busId s) =
      vendorHeaderMatches env payload s := rfl
  have delivered := deliver_commute eids busId env sender srcEid msgTag tagOwner payload
  unfold onMessageReceived
  simp only [renumber_receiveCallback, renumber_extReceiveCallback, renumber_config, filter,
    renumber_emit]
  split
  · rfl
  · split
    · rfl
    · split
      · split
        · rfl
        · rfl
        · exact Prod.ext rfl (delivered _)
      · exact Prod.ext rfl (delivered s)

theorem onPropertiesChanged_oblivious (sender intfName : String) (changed : Properties) :
    Oblivious (renumber eids busId) (onPropertiesChanged sender intfName changed) := by
  intro s
  unfold onPropertiesChanged
  simp only [renumber_eidChangeCallback]
  cases s.eidChangeCallback with
  | none => rfl
  | some callback =>
      cases changed.lookup "Eid" with
      | none => rfl
      | some value =>
          by_cases base : intfName = baseInterface
          · simp only [if_pos base]
            cases value <;> rfl
          · simp only [if_neg base]

end

/-- `t` is `s` but for the numbers of buses. -/
def Alike (s t : MCTPImpl) : Prop :=
  ∃ eids busId, SameServices s.endpointMap eids ∧ t = renumber eids busId s

variable {s t : MCTPImpl}

theorem Alike.endpointMap (alike : Alike s t) : SameServices s.endpointMap t.endpointMap := by
  obtain ⟨_, _, same, rfl⟩ := alike
  exact same

theorem Alike.config (alike : Alike s t) : t.config = s.config := by
  obtain ⟨_, _, _, rfl⟩ := alike
  rfl

theorem Alike.trace (alike : Alike s t) : t.trace = s.trace := by
  obtain ⟨_, _, _, rfl⟩ := alike
  rfl

theorem Alike.of_commute {update : MCTPImpl → MCTPImpl} (alike : Alike s t)
    (commute : ∀ eids busId, Function.Commute update (renumber eids busId)) :
    Alike (update s) (update t) := by
  obtain ⟨eids, busId, same, rfl⟩ := alike
  have kept : (update s).endpointMap = s.endpointMap := by
    have unchanged := commute s.endpointMap s.i3cBusId s
    change update s = _ at unchanged
    rw [unchanged]
    rfl
  exact ⟨eids, busId, by rwa [kept], commute eids busId s⟩

theorem Alike.of_oblivious {α : Type} {f : MCTPImpl → α × MCTPImpl} (alike : Alike s t)
    (oblivious : ∀ eids busId, Oblivious (renumber eids busId) f) :
    (f t).1 = (f s).1 ∧ Alike (f s).2 (f t).2 := by
  refine ⟨?_, alike.of_commute fun eids busId => (oblivious eids busId).snd⟩
  obtain ⟨eids, busId, _, rfl⟩ := alike
  rw [oblivious eids busId s]

theorem Alike.emit (alike : Alike s t) (effect : Effect) : Alike (s.emit effect) (t.emit effect) := by
  have commute : ∀ eids busId,
      Function.Commute (fun state : MCTPImpl => state.emit effect) (renumber eids busId) :=
    fun eids busId state => renumber_emit eids busId state effect
  exact alike.of_commute commute

theorem Alike.filed (alike : Alike s t) {eids eids' : EndpointMapExtended}
    (same : SameServices eids eids') :
    Alike { s with endpointMap := eids } { t with endpointMap := eids' } := by
  obtain ⟨_, busId, _, rfl⟩ := alike
  exact ⟨eids', busId, same, rfl⟩

/-- The number read is of no account, only whether there is one. -/
theorem getBusId_alike (alike : Alike s t) (env : Env) (serviceName : String) :
    ((∃ fault, (getBusId env serviceName s).1 = .error fault ∧
        (getBusId env serviceName t).1 = .error fault) ∨
      ∃ bus bus', (getBusId env serviceName s).1 = .ok bus ∧
        (getBusId env serviceName t).1 = .ok bus') ∧
      Alike (getBusId env serviceName s).2 (getBusId env serviceName t).2 := by
  obtain ⟨eids, busId, same, rfl⟩ := alike
  unfold getBusId readPropertyValue
  simp only [renumber_config, renumber_emit]
  cases s.config.bindingType with
  | mctpOverSmBus =>
      dsimp only
      split
      · exact ⟨.inl ⟨_, rfl, rfl⟩, eids, busId, same, rfl⟩
      · split
        · split
          · exact ⟨.inr ⟨_, _, rfl, rfl⟩, eids, busId, same, rfl⟩
          · exact ⟨.inl ⟨_, rfl, rfl⟩, eids, busId, same, rfl⟩
        · exact ⟨.inr ⟨_, _, rfl, rfl⟩, eids, busId, same, rfl⟩
  | mctpOverPcieVdm =>
      dsimp only
      split
      · exact ⟨.inl ⟨_, rfl, rfl⟩, eids, busId, same, rfl⟩
      · exact ⟨.inr ⟨_, _, rfl, rfl⟩, eids, busId, same, rfl⟩
  | mctpOverI3C => exact ⟨.inr ⟨_, _, rfl, rfl⟩, eids, busId + 1, same, rfl⟩
  | _ => exact ⟨.inl ⟨_, rfl, rfl⟩, eids, busId, same, rfl⟩

end MCTPImpl

/-- The coroutines wait at the same call, with the same left to do. -/
inductive Scan.Alike : Scan → Scan → Prop
  | getObject : Alike .getObject .getObject
  | getNameOwner {buses buses' : List Bus} (service : String) (rest : List String) :
      buses.map Prod.snd = buses'.map Prod.snd →
      Alike (.getNameOwner buses service rest) (.getNameOwner buses' service rest)
  | getManagedObjects {eids eids' : EndpointMapExtended} {bus bus' : Bus} {rest rest' : List Bus} :
      SameServices eids eids' → bus.2 = bus'.2 → rest.map Prod.snd = rest'.map Prod.snd →
      Alike (.getManagedObjects eids bus rest) (.getManagedObjects eids' bus' rest')

inductive Progress.Alike : Progress → Progress → Prop
  | suspended {scan scan' : Scan} : scan.Alike scan' → Alike (.suspended scan) (.suspended scan')
  | same (progress : Progress) : (∀ scan, progress ≠ .suspended scan) → Alike progress progress

namespace MCTPImpl

variable {s t : MCTPImpl}

/-- The coroutines leave the processor in the same way, and leave the same behind. -/
structure AlikeOutcome (left right : Progress × MCTPImpl) : Prop where
  progress : left.1.Alike right.1
  state : Alike left.2 right.2

theorem finishDetect_alike (alike : Alike s t) (env : Env) :
    AlikeOutcome (finishDetect env s) (finishDetect env t) := by
  obtain ⟨progress, state⟩ := alike.of_oblivious fun eids busId =>
    finishDetect_oblivious eids busId env
  refine ⟨?_, state⟩
  rw [progress]
  exact .same _ (finishDetect_not_suspended env s)

theorem buildMatchingEndpointMap_alike (alike : Alike s t) (env : Env)
    {eids eids' : EndpointMapExtended} (same : SameServices eids eids') {buses buses' : List Bus}
    (services : buses.map Prod.snd = buses'.map Prod.snd) :
    AlikeOutcome (buildMatchingEndpointMap env eids buses s)
      (buildMatchingEndpointMap env eids' buses' t) := by
  cases buses with
  | nil =>
      cases buses' with
      | nil => exact finishDetect_alike (alike.filed same) env
      | cons bus' rest' => cases services
  | cons bus rest =>
      cases buses' with
      | nil => cases services
      | cons bus' rest' =>
          obtain ⟨service, later⟩ := List.cons.inj services
          refine ⟨.suspended (.getManagedObjects same service later), ?_⟩
          rw [buildMatchingEndpointMap, buildMatchingEndpointMap, ← service]
          exact alike.emit _

theorem findBuses_alike (alike : Alike s t) (env : Env) {buses buses' : List Bus}
    (found : buses.map Prod.snd = buses'.map Prod.snd) (services : List String) :
    AlikeOutcome (findBuses env buses services s) (findBuses env buses' services t) := by
  induction services generalizing s t with
  | nil =>
      have opened : Alike { s with isInitialisationsDone := true }
          { t with isInitialisationsDone := true } := by
        obtain ⟨eids, busId, same, rfl⟩ := alike
        exact ⟨eids, busId, same, rfl⟩
      exact buildMatchingEndpointMap_alike opened env (.refl ∅) found
  | cons service rest ih =>
      obtain ⟨outcome, state⟩ := getBusId_alike alike env service
      unfold findBuses
      dsimp only
      rcases outcome with ⟨fault, left, right⟩ | ⟨bus, bus', left, right⟩
      · rw [left, right]
        exact ih state
      · rw [left, right]
        refine ⟨.suspended (.getNameOwner service rest ?_), state.emit _⟩
        rw [List.map_append, List.map_append, found]
        rfl

/-- The objects of one service go the same way into maps that hold the same services. -/
theorem scanObjects_alike (env : Env) {bus bus' : Bus} (service : bus.2 = bus'.2) (nwid : UInt8)
    (values : DictType Interfaces) {eids eids' : EndpointMapExtended}
    (same : SameServices eids eids') (s : MCTPImpl) :
    SameServices (scanObjects env bus nwid values eids s).1
        (scanObjects env bus' nwid values eids' s).1 ∧
      (scanObjects env bus' nwid values eids' s).2 = (scanObjects env bus nwid values eids s).2 := by
  induction values generalizing eids eids' s with
  | nil => exact ⟨same, rfl⟩
  | cons object rest ih =>
      unfold scanObjects
      dsimp only
      rw [← service]
      cases (acceptObject env bus.2 object s).1 with
      | none => exact ih same _
      | some eid => exact ih (same.assign _ service) _

theorem scanService_alike (alike : Alike s t) (env : Env) {bus bus' : Bus}
    (service : bus.2 = bus'.2) (values : DictType Interfaces) {eids eids' : EndpointMapExtended}
    (same : SameServices eids eids') :
    SameServices (scanService env bus values eids s).1 (scanService env bus' values eids' t).1 ∧
      Alike (scanService env bus values eids s).2 (scanService env bus' values eids' t).2 := by
  obtain ⟨filed, state⟩ := alike.of_oblivious fun eids busId =>
    scanService_oblivious eids busId env bus' values eids'
  have swapped := scanObjects_alike env service (getNetworkID env bus.2 s).1 values same
    (getNetworkID env bus.2 s).2
  have unfolded : scanService env bus' values eids' s =
      scanObjects env bus' (getNetworkID env bus.2 s).1 values eids' (getNetworkID env bus.2 s).2 := by
    unfold scanService
    rw [service]
  rw [unfolded] at filed state
  rw [filed]
  rw [swapped.2] at state
  exact ⟨swapped.1, state⟩

/-- Taken up with the same answer, the coroutines go the same way. -/
theorem resume_alike (alike : Alike s t) {env : Env} {scan scan' : Scan} {reply : Reply}
    (waiting : scan.Alike scan') {result : Progress × MCTPImpl}
    (resumed : resume env scan reply s = some result) :
    ∃ result', resume env scan' reply t = some result' ∧ AlikeOutcome result result' := by
  have matched (name : String) : Alike (s.matchService name) (t.matchService name) := by
    obtain ⟨eids, busId, same, rfl⟩ := alike
    exact ⟨eids, busId, by rwa [matchService_endpointMap], renumber_matchService eids busId s name⟩
  cases waiting with
  | getObject =>
      cases reply with
      | object answer =>
          cases answer with
          | error failed =>
              cases resumed
              have opened : Alike { s with isInitialisationsDone := true }
                  { t with isInitialisationsDone := true } := by
                obtain ⟨eids, busId, same, rfl⟩ := alike
                exact ⟨eids, busId, same, rfl⟩
              exact ⟨_, rfl, finishDetect_alike opened env⟩
          | ok services =>
              cases resumed
              exact ⟨_, rfl, findBuses_alike alike env rfl services⟩
      | _ => cases resumed
  | getNameOwner service rest found =>
      cases reply with
      | nameOwner answer =>
          cases answer with
          | error failed =>
              cases resumed
              exact ⟨_, rfl, findBuses_alike (matched service) env found rest⟩
          | ok uniqueName =>
              cases resumed
              exact ⟨_, rfl, findBuses_alike (matched uniqueName) env found rest⟩
      | _ => cases resumed
  | getManagedObjects same service later =>
      cases reply with
      | managedObjects answer =>
          cases answer with
          | error failed =>
              cases resumed
              exact ⟨_, rfl, buildMatchingEndpointMap_alike alike env same later⟩
          | ok values =>
              cases resumed
              obtain ⟨filed, state⟩ := scanService_alike alike env service values same
              exact ⟨_, rfl, buildMatchingEndpointMap_alike state env filed later⟩
      | _ => cases resumed

theorem onEIDRemoved_alike (alike : Alike s t) (device : DeviceID) :
    Alike (onEIDRemoved device s) (onEIDRemoved device t) := by
  obtain ⟨eids, busId, same, rfl⟩ := alike
  have held := same device
  unfold onEIDRemoved
  simp only [renumber_endpointMap, renumber_networkChangeCallback]
  cases left : s.endpointMap.find device with
  | none =>
      rw [left, Option.map_none, eq_comm, Option.map_eq_none_iff] at held
      rw [held]
      exact ⟨eids, busId, same, rfl⟩
  | some entry =>
      rw [left, Option.map_some, eq_comm, Option.map_eq_some_iff] at held
      obtain ⟨entry', right, _⟩ := held
      rw [right]
      dsimp only
      split <;> exact ⟨eids.erase device, busId, same.erase device, rfl⟩

theorem onInterfaceRemoved_alike (alike : Alike s t) (env : Env) (sender objectPath : String)
    (interfaces : List String) : Alike (onInterfaceRemoved env sender objectPath interfaces s)
      (onInterfaceRemoved env sender objectPath interfaces t) := by
  obtain ⟨outcome, state⟩ := alike.of_oblivious fun eids busId =>
    getDeviceIDFromPath_oblivious eids busId env objectPath sender
  unfold onInterfaceRemoved
  dsimp only
  rw [outcome]
  split
  · split
    · split
      · exact state
      · exact onEIDRemoved_alike state _
    · exact alike
  · split
    · split
      · obtain ⟨eids, busId, same, rfl⟩ := alike
        exact ⟨eids, busId, same, rfl⟩
      · exact alike
    · exact alike

/-- A signal is handled the same way. -/
theorem onMCTPEvent_alike (alike : Alike s t) (env : Env) (msg : Message) :
    (onMCTPEvent env msg t).1 = (onMCTPEvent env msg s).1 ∧
      Alike (onMCTPEvent env msg s).2 (onMCTPEvent env msg t).2 := by
  have shared : t.isInitialisationsDone = s.isInitialisationsDone ∧
      t.matchedBuses = s.matchedBuses := by
    obtain ⟨_, _, _, rfl⟩ := alike
    exact ⟨rfl, rfl⟩
  unfold onMCTPEvent
  rw [shared.1, shared.2]
  split
  · exact ⟨rfl, alike⟩
  · split
    · exact alike.of_oblivious fun eids busId => onNewInterface_oblivious eids busId env _ _ _
    · split
      · exact ⟨rfl, alike⟩
      · exact ⟨rfl, onInterfaceRemoved_alike alike env msg.sender _ _⟩
    · split
      · exact ⟨rfl, alike⟩
      · exact alike.of_oblivious fun eids busId =>
          onMessageReceived_oblivious eids busId env _ _ _ _ _ _
    · split
      · exact ⟨rfl, alike⟩
      · exact alike.of_oblivious fun eids busId => onPropertiesChanged_oblivious eids busId _ _ _
    · exact ⟨rfl, alike⟩

theorem runSpawned_alike (alike : Alike s t) (body : Spawned) :
    Alike (runSpawned body s) (runSpawned body t) := by
  obtain ⟨eids, busId, same, rfl⟩ := alike
  cases body with
  | newEID serviceName device =>
      exact ⟨eids.emplace device (0, serviceName), busId, same.emplace device _, rfl⟩
  | eidRemoved device => exact ⟨eids, busId, same, rfl⟩

theorem send_alike (alike : Alike s t) (request : SendRequest) (devID : DeviceID) :
    Alike (send request devID s) (send request devID t) := by
  have held := alike.endpointMap devID
  cases left : s.endpointMap.find devID with
  | some entry =>
      rw [left, Option.map_some, eq_comm, Option.map_eq_some_iff] at held
      obtain ⟨entry', right, service⟩ := held
      rw [send_known request devID s entry left, send_known request devID t entry' right, service]
      exact alike.emit _
  | none =>
      rw [left, Option.map_none, eq_comm, Option.map_eq_none_iff] at held
      cases request with
      | sendAsync callback msgTag tagOwner request =>
          simp only [send, sendAsync, left, held]
          split
          · exact alike.emit _
          · exact alike
      | sendReceiveAsync callback request timeout =>
          simp only [send, sendReceiveAsync, left, held]
          split
          · exact alike.emit _
          · exact alike
      | _ =>
          simp only [send, sendYield, sendReceiveYield, sendReceiveBlocked, left, held]
          exact alike

end MCTPImpl

section

variable {α β : Type} {related : α → β → Prop} {left : List α} {right : List β}

theorem forall₂_set (all : List.Forall₂ related left right) {value : α} {value' : β}
    (new : related value value') (index : Nat) :
    List.Forall₂ related (left.set index value) (right.set index value') := by
  induction all generalizing index with
  | nil => exact .nil
  | cons first rest ih =>
      cases index with
      | zero => exact .cons new rest
      | succ index => exact .cons first (ih index)

theorem forall₂_eraseIdx (all : List.Forall₂ related left right) (index : Nat) :
    List.Forall₂ related (left.eraseIdx index) (right.eraseIdx index) := by
  induction all generalizing index with
  | nil => exact .nil
  | cons first rest ih =>
      cases index with
      | zero => exact rest
      | succ index => exact .cons first (ih index)

theorem forall₂_getElem? (all : List.Forall₂ related left right) {index : Nat} {value : α}
    (there : left[index]? = some value) : ∃ value', right[index]? = some value' ∧
      related value value' := by
  induction all generalizing index with
  | nil => cases there
  | cons first rest ih =>
      cases index with
      | zero =>
          cases there
          exact ⟨_, rfl, first⟩
      | succ index => exact ih there

end

/-- The systems are the same but for the numbers of buses: they hold the same devices
at the same services, have done the same, and have the same left to do. -/
structure AlikeSystem (s t : System) : Prop where
  lib : s.lib.Alike t.lib
  scans : List.Forall₂ Scan.Alike s.scans t.scans

namespace System

variable {s t next : System}

theorem settle_alike (alike : AlikeSystem s t) {index : Nat} {left right : Progress × MCTPImpl}
    (same : MCTPImpl.AlikeOutcome left right) (settled : s.settle index left = some next) :
    ∃ next', t.settle index right = some next' ∧ AlikeSystem next next' := by
  obtain ⟨progress, lib⟩ := left
  obtain ⟨progress', lib'⟩ := right
  obtain ⟨moved, state⟩ := same
  cases moved with
  | suspended waiting =>
      cases settled
      exact ⟨_, rfl, state, forall₂_set alike.scans waiting index⟩
  | same progress ended =>
      cases progress with
      | suspended scan => exact absurd rfl (ended scan)
      | returned ec =>
          cases settled
          exact ⟨_, rfl, state, forall₂_eraseIdx alike.scans index⟩
      | raised fault => cases settled

theorem unwind_alike {α : Type} (alike : AlikeSystem s t) {left right : Except Fault α × MCTPImpl}
    (outcome : right.1 = left.1) (state : left.2.Alike right.2)
    (unwound : s.unwind left = some next) :
    ∃ next', t.unwind right = some next' ∧ AlikeSystem next next' := by
  obtain ⟨defined, rfl⟩ := unwind_some unwound
  obtain ⟨_, lib⟩ := left
  obtain ⟨_, lib'⟩ := right
  cases outcome
  refine ⟨{ t with lib := lib' }, ?_, state, alike.scans⟩
  unfold unwind
  split
  · rename_i same
    cases same
    exact absurd rfl defined
  · rename_i same
    cases same
    rfl

theorem detect_alike (alike : AlikeSystem s t) (stepped : s.step .detect = some next) :
    ∃ next', t.step .detect = some next' ∧ AlikeSystem next next' := by
  obtain ⟨lib, scans⟩ := alike
  cases stepped
  refine ⟨_, rfl, ?_, List.rel_append scans (.cons .getObject .nil)⟩
  have watching : MCTPImpl.Alike { s.lib with mctpChangesWatch := true }
      { t.lib with mctpChangesWatch := true } := by
    obtain ⟨eids, busId, same, eq⟩ := lib
    rw [eq]
    exact ⟨eids, busId, same, rfl⟩
  have asked := watching.emit (.call (getObject (bindingToInterface s.lib.config.bindingType)))
  rw [← lib.config] at asked
  simpa only [MCTPImpl.detectMctpEndpoints, lib.config] using asked

theorem resume_alike (alike : AlikeSystem s t) {index : Nat} {env : Env} {reply : Reply}
    (stepped : s.step (.resume index env reply) = some next) :
    ∃ next', t.step (.resume index env reply) = some next' ∧ AlikeSystem next next' := by
  simp only [step] at stepped ⊢
  split at stepped
  · cases stepped
  · rename_i scan waiting
    obtain ⟨scan', waiting', same⟩ := forall₂_getElem? alike.scans waiting
    obtain ⟨result, resumed, settled⟩ := Option.bind_eq_some_iff.mp stepped
    obtain ⟨result', resumed', outcome⟩ := MCTPImpl.resume_alike alike.lib same resumed
    rw [waiting']
    simp only [resumed', Option.bind_some]
    exact settle_alike alike outcome settled

theorem body_alike (alike : AlikeSystem s t) (stepped : s.step .body = some next) :
    ∃ next', t.step .body = some next' ∧ AlikeSystem next next' := by
  obtain ⟨⟨eids, busId, same, eq⟩, scans⟩ := alike
  obtain ⟨body, rest, queued, rfl⟩ := step_body stepped
  have queued' : t.lib.spawned = body :: rest := by
    rw [eq]
    exact queued
  have waiting : MCTPImpl.Alike { s.lib with spawned := rest } { t.lib with spawned := rest } := by
    rw [eq]
    exact ⟨eids, busId, same, rfl⟩
  exact ⟨{ t with lib := MCTPImpl.runSpawned body { t.lib with spawned := rest } },
    by simp only [step, queued'], MCTPImpl.runSpawned_alike waiting body, scans⟩

/-- Whatever happens to one can happen to the other, and leaves them alike. -/
theorem step_alike (alike : AlikeSystem s t) {label : Label} (stepped : s.step label = some next) :
    ∃ next', t.step label = some next' ∧ AlikeSystem next next' := by
  obtain ⟨lib, scans⟩ := id alike
  cases label with
  | detect => exact detect_alike alike stepped
  | resume index env reply => exact resume_alike alike stepped
  | signal env msg =>
      have watch : t.lib.mctpChangesWatch = s.lib.mctpChangesWatch := by
        obtain ⟨_, _, _, same⟩ := lib
        rw [same]
        rfl
      obtain ⟨outcome, state⟩ := MCTPImpl.onMCTPEvent_alike lib env msg
      simp only [step, watch] at stepped ⊢
      split at stepped
      · rename_i watching
        rw [if_pos watching]
        exact unwind_alike alike outcome state stepped
      · cases stepped
  | body => exact body_alike alike stepped
  | registerResponder env specVersion =>
      obtain ⟨outcome, state⟩ := lib.of_oblivious fun eids busId =>
        MCTPImpl.registerResponder_oblivious eids busId env specVersion
      exact unwind_alike alike outcome state stepped
  | getOwnEIDs env callback =>
      cases stepped
      exact ⟨_, rfl, lib.of_commute fun eids busId =>
        MCTPImpl.getOwnEIDs_commute eids busId env callback, scans⟩
  | setExtendedReceiveCallback callback =>
      cases stepped
      refine ⟨_, rfl, ?_, scans⟩
      obtain ⟨eids, busId, same, eq⟩ := lib
      rw [eq]
      unfold MCTPImpl.setExtendedReceiveCallback
      simp only [MCTPImpl.renumber_receiveCallback]
      split <;> exact ⟨eids, busId, same, rfl⟩
  | send request devID =>
      cases stepped
      exact ⟨_, rfl, MCTPImpl.send_alike lib request devID, scans⟩

end System

/-- What the bus numbers are can never be told from what the library does: from
states that differ in them only, the same can happen, with the same calls and the
same callbacks, and the states after it differ in them only. -/
theorem busNumbers_unobservable {s t next : System} {labels : List Label}
    (alike : AlikeSystem s t) (run : Run System.step Any s labels next) :
    ∃ next', Run System.step Any t labels next' ∧ AlikeSystem next next' ∧
      next'.lib.trace = next.lib.trace := by
  induction run with
  | nil => exact ⟨t, .nil, alike, alike.lib.trace⟩
  | snoc _ _ stepped ih =>
      obtain ⟨middle, before, same, _⟩ := ih
      obtain ⟨next', stepped', same'⟩ := System.step_alike same stepped
      exact ⟨next', .snoc before trivial stepped', same', same'.lib.trace⟩

namespace Slot

/-- The endpoint is filed under another bus number. -/
def renumbered : System :=
  { plugged with lib :=
      plugged.lib.renumber (plugged.lib.endpointMap.assign (DeviceID.make 8 0) (7, owner)) 3 }

theorem renumbered_alike : AlikeSystem plugged renumbered := by
  refine ⟨⟨_, _, ?_, rfl⟩, .nil⟩
  intro device
  rw [UnorderedMap.find_assign]
  split
  · rename_i same
    subst same
    decide
  · rfl

theorem busNumbers_unobservable_removed :
    ∃ next', Run System.step Any renumbered [removed] next' ∧
      AlikeSystem unplugged next' ∧ next'.lib.trace = unplugged.lib.trace := by
  have done : exec System.step plugged [removed] = some unplugged := by
    simp only [unplugged, Option.some_get]
  exact busNumbers_unobservable renumbered_alike (.of_exec done)

end Slot

end Mctpw
