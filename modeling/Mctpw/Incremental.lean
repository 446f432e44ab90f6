import Mctpw.Operations
import Mctpw.Rediscovery

set_option autoImplicit false

/- One service added to the map beside a discovery of all of them. -/
namespace Mctpw

open Runs

namespace Direct

variable (world : Elsewhere)

theorem findBusLoop_append (first second : List String) (buses : List Bus) (at_ : Env × MCTPImpl) :
    findBusLoop world (first ++ second) buses at_ =
      findBusLoop world second (findBusLoop world first buses at_).1
        (findBusLoop world first buses at_).2 := by
  induction first generalizing buses at_ with
  | nil => rfl
  | cons service rest ih =>
      rw [List.cons_append, findBusLoop, findBusLoop]
      split <;> exact ih _ _

theorem buildMatchingEndpointMap_append (first second : List Bus) (eids : EndpointMapExtended)
    (at_ : Env × MCTPImpl) :
    buildMatchingEndpointMap world (first ++ second) eids at_ =
      buildMatchingEndpointMap world second (buildMatchingEndpointMap world first eids at_).1
        (buildMatchingEndpointMap world first eids at_).2 := by
  induction first generalizing eids at_ with
  | nil => rfl
  | cons bus rest ih =>
      rw [List.cons_append, buildMatchingEndpointMap, buildMatchingEndpointMap]
      dsimp only
      split <;> exact ih _ _

/-- The search asks for owners alone, and the build for objects. -/
theorem findBusLoop_congr {world world' : Elsewhere} (owners : world.nameOwner = world'.nameOwner)
    (services : List String) (buses : List Bus) (at_ : Env × MCTPImpl) :
    findBusLoop world services buses at_ = findBusLoop world' services buses at_ := by
  induction services generalizing buses at_ with
  | nil => rfl
  | cons service rest ih =>
      rw [findBusLoop, findBusLoop]
      split
      · exact ih _ _
      · rw [ih, addUniqueNameToMatchedServices, addUniqueNameToMatchedServices, owners]

theorem buildMatchingEndpointMap_congr {world world' : Elsewhere}
    (objects : world.managedObjects = world'.managedObjects) (buses : List Bus)
    (eids : EndpointMapExtended) (at_ : Env × MCTPImpl) :
    buildMatchingEndpointMap world buses eids at_ =
      buildMatchingEndpointMap world' buses eids at_ := by
  induction buses generalizing eids at_ with
  | nil => rfl
  | cons bus rest ih =>
      rw [buildMatchingEndpointMap, buildMatchingEndpointMap]
      dsimp only
      rw [objects]
      split <;> exact ih _ _

end Direct

namespace MCTPImpl

variable {s t : MCTPImpl}

/-- With the same ids remembered the same network is answered, and the same are
remembered afterwards. -/
theorem getNetworkID_congr (env : Env) (service : String)
    (cache : t.networkIDCache = s.networkIDCache) :
    (getNetworkID env service t).1 = (getNetworkID env service s).1 ∧
      (getNetworkID env service t).2.networkIDCache =
        (getNetworkID env service s).2.networkIDCache := by
  unfold getNetworkID
  rw [cache]
  cases s.networkIDCache.find service with
  | some networkID => exact ⟨rfl, cache⟩
  | none =>
      dsimp only [readPropertyValue]
      cases env.readByte (networkIDProperty service) with
      | none => exact ⟨rfl, cache⟩
      | some networkID =>
          refine ⟨rfl, ?_⟩
          simp only [emit, cache]

theorem scanService_cache (env : Env) (entry : Bus) (values : DictType Interfaces)
    (eids : EndpointMapExtended) (s : MCTPImpl) :
    (scanService env entry values eids s).2.networkIDCache =
      (getNetworkID env entry.2 s).2.networkIDCache := by
  obtain ⟨_, _, same⟩ := scanObjects_reports env entry (getNetworkID env entry.2 s).1 values eids
    (getNetworkID env entry.2 s).2
  unfold scanService
  dsimp only
  rw [same]

/-- The objects a scan files are the same in every state that answers alike. -/
theorem scanService_eids_congr (env : Env) (entry : Bus) (values : DictType Interfaces)
    (eids : EndpointMapExtended) (settings : t.settings = s.settings)
    (cache : t.networkIDCache = s.networkIDCache) :
    (scanService env entry values eids t).1 = (scanService env entry values eids s).1 := by
  apply UnorderedMap.ext
  intro device
  obtain ⟨filed, other⟩ := scanService_find env entry values eids s device
  obtain ⟨filed', other'⟩ := scanService_find env entry values eids t device
  have host : t.host = s.host := congrArg Prod.fst settings
  have both : Filed env entry (getNetworkID env entry.2 t).1 values t device ↔
      Filed env entry (getNetworkID env entry.2 s).1 values s device := by
    unfold Filed
    rw [(getNetworkID_congr env entry.2 cache).1, host, config_of_settings settings]
  rw [both] at filed' other'
  by_cases given : Filed env entry (getNetworkID env entry.2 s).1 values s device
  · rw [filed given, filed' given]
  · rw [other given, other' given]

/-- A scan goes over what is filed already. -/
theorem scanService_over (env : Env) (entry : Bus) (values : DictType Interfaces)
    (eids : EndpointMapExtended) (s : MCTPImpl) (device : DeviceID) :
    (scanService env entry values eids s).1.find device =
      ((scanService env entry values ∅ s).1.find device).or (eids.find device) := by
  obtain ⟨filed, other⟩ := scanService_find env entry values eids s device
  obtain ⟨alone, none⟩ := scanService_find env entry values ∅ s device
  by_cases given : Filed env entry (getNetworkID env entry.2 s).1 values s device
  · rw [filed given, alone given, Option.some_or]
  · rw [other given, none given, UnorderedMap.find_empty, Option.none_or]

end MCTPImpl

namespace SteadyBus

/-- addToEidMap from end to end. -/
def add (bus : SteadyBus) (service : String) (s : MCTPImpl) : MCTPImpl :=
  let asked := s.addToEidMap bus.env service
  match asked.1 with
  | none => asked.2
  | some entry => asked.2.insertEids bus.env entry (bus.managedObjects service)

/-- The bus on which one more service is found, after the others. -/
def withService (bus : SteadyBus) (service : String) : SteadyBus :=
  { bus with services := bus.services ++ [service] }

/-- What a scan of the service alone would file. -/
def offers (bus : SteadyBus) (service : String) (s : MCTPImpl) : EndpointMapExtended :=
  match (MCTPImpl.getBusId bus.env service s).1, bus.managedObjects service with
  | .ok id, .ok values =>
      (MCTPImpl.scanService bus.env (UInt32.ofInt id, service) values ∅ s).1
  | _, _ => ∅

variable (bus : SteadyBus) {s t : MCTPImpl}

theorem offers_service {service : String} {device : DeviceID} {entry : Bus}
    (offered : (bus.offers service s).find device = some entry) : entry.2 = service := by
  unfold offers at offered
  split at offered
  · rename_i id values _ _
    obtain ⟨filed, other⟩ := MCTPImpl.scanService_find bus.env (UInt32.ofInt id, service) values ∅ s
      device
    by_cases given : MCTPImpl.Filed bus.env (UInt32.ofInt id, service)
      (MCTPImpl.getNetworkID bus.env service s).1 values s device
    · rw [filed given] at offered
      cases offered
      rfl
    · rw [other given] at offered
      cases offered
  · cases offered

/-- An addition fills the map up with what the service offers, and matches nothing. -/
theorem add_fills (service : String) (s : MCTPImpl) :
    (bus.add service s).endpointMap = s.endpointMap.insertAll (bus.offers service s) ∧
      (bus.add service s).matchedBuses = s.matchedBuses := by
  obtain ⟨_, _, _, same⟩ := MCTPImpl.getBusId_reports bus.env service s
  have read := getBusId_searched bus.env service s
  unfold add offers MCTPImpl.addToEidMap
  dsimp only
  cases (MCTPImpl.getBusId bus.env service s).1 with
  | error fault =>
      dsimp only
      rw [same, UnorderedMap.insertAll_empty]
      exact ⟨rfl, rfl⟩
  | ok id =>
      dsimp only [MCTPImpl.insertEids]
      cases bus.managedObjects service with
      | error failed =>
          dsimp only
          rw [same]
          exact ⟨rfl, rfl⟩
      | ok values =>
          dsimp only
          have looked := MCTPImpl.scanService_emits bus.env (UInt32.ofInt id, service) values ∅
            ((MCTPImpl.getBusId bus.env service s).2.emit (.call (getManagedObjects service)))
          have eids := MCTPImpl.scanService_eids_congr bus.env (UInt32.ofInt id, service) values ∅
            (t := (MCTPImpl.getBusId bus.env service s).2.emit (.call (getManagedObjects service)))
            (s := s) read.settings read.cache
          rw [eids, looked.endpointMap_eq, MCTPImpl.unscanned_matchedBuses.emitted looked]
          dsimp only [MCTPImpl.emit]
          rw [same]
          exact ⟨rfl, rfl⟩

/-- Builds from states that answer alike file alike and remember alike. -/
theorem build_same (buses : List Bus) {eids eids' : EndpointMapExtended}
    (same : SameServices eids eids') (settings : t.settings = s.settings)
    (cache : t.networkIDCache = s.networkIDCache) :
    SameServices (Direct.buildMatchingEndpointMap bus.world buses eids (bus.env, s)).1
        (Direct.buildMatchingEndpointMap bus.world buses eids' (bus.env, t)).1 ∧
      (Direct.buildMatchingEndpointMap bus.world buses eids' (bus.env, t)).2.2.networkIDCache =
        (Direct.buildMatchingEndpointMap bus.world buses eids (bus.env, s)).2.2.networkIDCache := by
  induction buses generalizing eids eids' s t with
  | nil => exact ⟨same, cache⟩
  | cons entry rest ih =>
      have asked : (t.emit (.call (getManagedObjects entry.2))).networkIDCache =
          (s.emit (.call (getManagedObjects entry.2))).networkIDCache := cache
      unfold Direct.buildMatchingEndpointMap
      dsimp only [world]
      cases bus.managedObjects entry.2 with
      | error failed => exact ih same settings cache
      | ok values =>
          obtain ⟨network, learned⟩ := MCTPImpl.getNetworkID_congr bus.env entry.2 asked
          refine ih (scanService_same bus.env rfl values same settings network) ?_ ?_
          · rw [MCTPImpl.unscanned_settings.emitted (MCTPImpl.scanService_emits ..),
              MCTPImpl.unscanned_settings.emitted (MCTPImpl.scanService_emits ..)]
            exact settings
          · rw [MCTPImpl.scanService_cache, MCTPImpl.scanService_cache, learned]

theorem build_env (buses : List Bus) (eids : EndpointMapExtended) (s : MCTPImpl) :
    (Direct.buildMatchingEndpointMap bus.world buses eids (bus.env, s)).2.1 = bus.env := by
  induction buses generalizing eids s with
  | nil => rfl
  | cons entry rest ih =>
      unfold Direct.buildMatchingEndpointMap
      dsimp only [world]
      cases bus.managedObjects entry.2 with
      | error failed => exact ih eids _
      | ok values => exact ih _ _

/-- The last bus is scanned over what the others have. -/
theorem build_snoc (buses : List Bus) (entry : Bus) (eids : EndpointMapExtended) (s : MCTPImpl) :
    (Direct.buildMatchingEndpointMap bus.world (buses ++ [entry]) eids (bus.env, s)).1 =
      match bus.managedObjects entry.2 with
      | .error _ => (Direct.buildMatchingEndpointMap bus.world buses eids (bus.env, s)).1
      | .ok values => (MCTPImpl.scanService bus.env entry values
          (Direct.buildMatchingEndpointMap bus.world buses eids (bus.env, s)).1
          ((Direct.buildMatchingEndpointMap bus.world buses eids (bus.env, s)).2.2.emit
            (.call (getManagedObjects entry.2)))).1 := by
  have at_ := build_env bus buses eids s
  rw [Direct.buildMatchingEndpointMap_append]
  generalize Direct.buildMatchingEndpointMap bus.world buses eids (bus.env, s) = first at at_ ⊢
  obtain ⟨filed, env, last⟩ := first
  cases at_
  unfold Direct.buildMatchingEndpointMap Direct.buildMatchingEndpointMap
  dsimp only [world]
  cases bus.managedObjects entry.2 <;> rfl

/-- The service is found last. -/
theorem withService_found (service : String) (s : MCTPImpl) :
    (bus.withService service).found s =
      Direct.findBusLoop bus.world [service] (bus.found s).1 (bus.env, (bus.found s).2.2) := by
  have at_ : (bus.found s).2 = (bus.env, (bus.found s).2.2) := Prod.ext (found_searched bus s).1 rfl
  rw [← at_]
  exact (Direct.findBusLoop_congr (by rfl) _ _ _).trans
    (Direct.findBusLoop_append bus.world bus.services [service] [] _)

/-- If its bus can be read, it is scanned last. -/
theorem withService_buses (service : String) (s : MCTPImpl) :
    Searched s ((bus.withService service).found s).2.2 ∧
      (((∃ id, (MCTPImpl.getBusId bus.env service (bus.discover s)).1 = .ok id) ∧
          ∃ id, ((bus.withService service).found s).1 = (bus.found s).1 ++ [(id, service)]) ∨
        (∃ fault, (MCTPImpl.getBusId bus.env service (bus.discover s)).1 = .error fault) ∧
          ((bus.withService service).found s).1 = (bus.found s).1) := by
  have searched := (found_searched bus s).2
  have read := getBusId_searched bus.env service (bus.found s).2.2
  have readable := MCTPImpl.getBusId_ok_iff bus.env service (t := bus.discover s)
    (s := (bus.found s).2.2) (MCTPImpl.config_of_settings
      ((bus.discover_settings s).trans searched.settings.symm))
  rw [withService_found]
  unfold Direct.findBusLoop Direct.findBusLoop
  dsimp only
  cases answer : (MCTPImpl.getBusId bus.env service (bus.found s).2.2).1 with
  | error fault =>
      refine ⟨searched.trans read, .inr ⟨?_, rfl⟩⟩
      cases later : (MCTPImpl.getBusId bus.env service (bus.discover s)).1 with
      | error fault' => exact ⟨fault', rfl⟩
      | ok id => simp [answer, later] at readable
  | ok id =>
      have named := addUniqueName_searched bus service
        (MCTPImpl.getBusId bus.env service (bus.found s).2.2).2
      exact ⟨(searched.trans read).trans named,
        .inl ⟨readable.mpr ⟨id, answer⟩, UInt32.ofInt id, rfl⟩⟩

/-- Discovering the service along with the others files what it offers, over what the
others have. -/
theorem withService_filed (service : String) (s : MCTPImpl) (device : DeviceID) :
    (((bus.withService service).discover s).endpointMap.find device).map Prod.snd =
      (((bus.offers service (bus.discover s)).find device).or
        ((bus.discover s).endpointMap.find device)).map Prod.snd := by
  obtain ⟨searched, buses⟩ := withService_buses bus service s
  have before := (found_searched bus s).2
  -- Both builds begin with the same services, in states that answer alike.
  obtain ⟨same, cache⟩ := build_same bus (bus.found s).1 (.refl ∅)
    (s := { (bus.found s).2.2 with isInitialisationsDone := true })
    (t := { ((bus.withService service).found s).2.2 with isInitialisationsDone := true })
    (searched.settings.trans before.settings.symm) (searched.cache.trans before.cache.symm)
  have objects : ∀ buses eids at_,
      Direct.buildMatchingEndpointMap (bus.withService service).world buses eids at_ =
        Direct.buildMatchingEndpointMap bus.world buses eids at_ :=
    Direct.buildMatchingEndpointMap_congr (by rfl)
  have filed : ((bus.withService service).discover s).endpointMap =
      (Direct.buildMatchingEndpointMap bus.world ((bus.withService service).found s).1 ∅
        (bus.env, { ((bus.withService service).found s).2.2 with
          isInitialisationsDone := true })).1 := by
    rw [discover_endpointMap, built, objects]
    rfl
  rw [filed, discover_endpointMap]
  unfold offers
  rcases buses with ⟨⟨id', readable⟩, id, listed⟩ | ⟨⟨fault, unreadable⟩, listed⟩
  · have settings := (build_kept bus (bus.found s).1 ∅
      { ((bus.withService service).found s).2.2 with isInitialisationsDone := true }).1
    rw [listed, build_snoc, readable]
    generalize Direct.buildMatchingEndpointMap bus.world (bus.found s).1 ∅
      (bus.env, { ((bus.withService service).found s).2.2 with isInitialisationsDone := true }) =
        first at same cache settings ⊢
    dsimp only
    cases bus.managedObjects service with
    | error failed => exact (same device).symm
    | ok values =>
        have asked : (first.2.2.emit (.call (getManagedObjects service))).networkIDCache =
            (bus.discover s).networkIDCache := cache.trans (bus.discover_cache s).symm
        have configured := settings.trans (searched.settings.trans (bus.discover_settings s).symm)
        have alike : SameServices
            (MCTPImpl.scanService bus.env (UInt32.ofInt id', service) values ∅ (bus.discover s)).1
            (MCTPImpl.scanService bus.env (id, service) values ∅
              (first.2.2.emit (.call (getManagedObjects service)))).1 :=
          scanService_same bus.env (by rfl) values (.refl ∅) configured
            (MCTPImpl.getNetworkID_congr bus.env service asked).1
        dsimp only
        rw [MCTPImpl.scanService_over, Option.map_or, Option.map_or, ← alike device]
        exact congrArg _ (same device).symm
  · rw [listed, unreadable]
    exact (same device).symm

end SteadyBus

/-- A service added to the map after a discovery is filed as if it had been discovered
last exactly when it offers nothing that is filed for another service: the addition
keeps the old entry where the discovery would go over it. Either way nothing it says
is heard, since only the discovery matches it. -/
theorem addition_agrees (bus : SteadyBus) (service : String) (s : MCTPImpl) :
    (bus.add service (bus.discover s)).matchedBuses = (bus.discover s).matchedBuses ∧
      (SameServices (bus.add service (bus.discover s)).endpointMap
          ((bus.withService service).discover s).endpointMap ↔
        ∀ device entry, (bus.discover s).endpointMap.find device = some entry →
          ((bus.offers service (bus.discover s)).find device).isSome → entry.2 = service) := by
  obtain ⟨fills, matched⟩ := bus.add_fills service (bus.discover s)
  refine ⟨matched, ?_⟩
  unfold SameServices
  refine forall_congr' fun device => ?_
  rw [fills, UnorderedMap.find_insertAll, bus.withService_filed]
  cases filed : (bus.discover s).endpointMap.find device with
  | none => simp
  | some entry =>
      cases offered : (bus.offers service (bus.discover s)).find device with
      | none => simp
      | some entry' => simp [bus.offers_service offered]

namespace Slot

/-- The same endpoint is offered by a second service. -/
def rival : String := "xyz.openbmc_project.mctp_rival"

/-- The addition leaves it with the first, the discovery gives it to the second. -/
example : (((steadyBus.add rival (steadyBus.discover start.lib)).endpointMap.find
      (DeviceID.make 8 0)).map Prod.snd = some service) ∧
    (((steadyBus.withService rival).discover start.lib).endpointMap.find
      (DeviceID.make 8 0)).map Prod.snd = some rival := by decide

end Slot

end Mctpw
