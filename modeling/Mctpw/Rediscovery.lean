import Mctpw.BusNumbers
import Mctpw.Calls
import Mctpw.DirectStyle
import Mctpw.Selection

set_option autoImplicit false

/- Discovering a bus again that has not changed. -/
namespace Mctpw

open Runs

/-- A bus that answers by what is asked, and does nothing else meanwhile. -/
structure SteadyBus where
  env : Env
  services : List String
  nameOwner : String → Except ErrorCode String
  managedObjects : String → Except ErrorCode (DictType Interfaces)

namespace SteadyBus

def world (bus : SteadyBus) : Elsewhere where
  object s := ⟨s, bus.env, .ok bus.services⟩
  nameOwner service s := ⟨s, bus.env, bus.nameOwner service⟩
  managedObjects service s := ⟨s, bus.env, bus.managedObjects service⟩

/-- The library after a discovery to its end. -/
def discover (bus : SteadyBus) (s : MCTPImpl) : MCTPImpl :=
  (Direct.detectMctpEndpoints bus.world s).2

/-- The service lists its objects. -/
def Lists (bus : SteadyBus) (service : String) : Prop :=
  ∃ values, bus.managedObjects service = .ok values

/-- The name a service is matched by. -/
def ownerName (bus : SteadyBus) (service : String) : String :=
  match bus.nameOwner service with
  | .ok uniqueName => uniqueName
  | .error _ => service

/-- The services found in the state, in the order of their names. -/
def found (bus : SteadyBus) (s : MCTPImpl) : List Bus × Env × MCTPImpl :=
  Direct.findBusLoop bus.world bus.services []
    (bus.env, MCTPImpl.emit { s with mctpChangesWatch := true }
      (.call (getObject (bindingToInterface s.config.bindingType))))

variable (bus : SteadyBus)

/-- A steady search moves neither the settings nor the network cache. -/
structure Searched (s t : MCTPImpl) : Prop where
  settings : t.settings = s.settings
  cache : t.networkIDCache = s.networkIDCache

variable {s t u : MCTPImpl}

theorem Searched.trans (first : Searched s t) (second : Searched t u) : Searched s u :=
  ⟨second.settings.trans first.settings, second.cache.trans first.cache⟩

theorem getBusId_searched (env : Env) (service : String) (s : MCTPImpl) :
    Searched s (MCTPImpl.getBusId env service s).2 := by
  obtain ⟨_, _, _, same⟩ := MCTPImpl.getBusId_reports env service s
  rw [same]
  exact ⟨rfl, rfl⟩

theorem matchService_searched (service : String) (s : MCTPImpl) :
    Searched s (s.matchService service) := by
  constructor
  · exact MCTPImpl.matchService_keeps MCTPImpl.settings _ _ fun _ _ => rfl
  · exact MCTPImpl.matchService_keeps MCTPImpl.networkIDCache _ _ fun _ _ => rfl

theorem addUniqueName_searched (service : String) (s : MCTPImpl) :
    Searched s (Direct.addUniqueNameToMatchedServices bus.world service s).2 := by
  have asked : Searched s (s.emit (.call (getNameOwner service))) := ⟨rfl, rfl⟩
  exact asked.trans (matchService_searched _ _)

theorem addUniqueName_matchedBuses (service : String) (s : MCTPImpl) :
    (Direct.addUniqueNameToMatchedServices bus.world service s).2.matchedBuses =
      insert (bus.ownerName service) s.matchedBuses :=
  MCTPImpl.matchService_matchedBuses _ _

theorem findBusLoop_searched (services : List String) (buses : List Bus) (s : MCTPImpl) :
    (Direct.findBusLoop bus.world services buses (bus.env, s)).2.1 = bus.env ∧
      Searched s (Direct.findBusLoop bus.world services buses (bus.env, s)).2.2 := by
  induction services generalizing buses s with
  | nil => exact ⟨rfl, rfl, rfl⟩
  | cons service rest ih =>
      have read := getBusId_searched bus.env service s
      unfold Direct.findBusLoop
      dsimp only
      cases (MCTPImpl.getBusId bus.env service s).1 with
      | error fault =>
          obtain ⟨env, later⟩ := ih buses (MCTPImpl.getBusId bus.env service s).2
          exact ⟨env, read.trans later⟩
      | ok id =>
          have named := addUniqueName_searched bus service (MCTPImpl.getBusId bus.env service s).2
          obtain ⟨env, later⟩ := ih (buses ++ [(UInt32.ofInt id, service)])
            (Direct.addUniqueNameToMatchedServices bus.world service
              (MCTPImpl.getBusId bus.env service s).2).2
          exact ⟨env, (read.trans named).trans later⟩

/-- Two searches under one configuration find the same services. -/
theorem findBusLoop_congr (services : List String) {buses buses' : List Bus}
    (listed : buses.map Prod.snd = buses'.map Prod.snd) (config : t.config = s.config) :
    (Direct.findBusLoop bus.world services buses (bus.env, s)).1.map Prod.snd =
      (Direct.findBusLoop bus.world services buses' (bus.env, t)).1.map Prod.snd := by
  induction services generalizing buses buses' s t with
  | nil => exact listed
  | cons service rest ih =>
      have read := MCTPImpl.config_of_settings (getBusId_searched bus.env service s).settings
      have read' := MCTPImpl.config_of_settings (getBusId_searched bus.env service t).settings
      have readable := MCTPImpl.getBusId_ok_iff bus.env service config
      unfold Direct.findBusLoop
      dsimp only
      cases left : (MCTPImpl.getBusId bus.env service s).1 with
      | error fault =>
          cases right : (MCTPImpl.getBusId bus.env service t).1 with
          | error fault' => exact ih listed (by rw [read, read', config])
          | ok id => simp [left, right] at readable
      | ok id =>
          cases right : (MCTPImpl.getBusId bus.env service t).1 with
          | error fault' => simp [left, right] at readable
          | ok id' =>
              have named := MCTPImpl.config_of_settings (addUniqueName_searched bus service
                (MCTPImpl.getBusId bus.env service s).2).settings
              have named' := MCTPImpl.config_of_settings (addUniqueName_searched bus service
                (MCTPImpl.getBusId bus.env service t).2).settings
              have settled := named'.trans ((read'.trans (config.trans read.symm)).trans named.symm)
              have longer : (buses ++ [(UInt32.ofInt id, service)]).map Prod.snd =
                  (buses' ++ [(UInt32.ofInt id', service)]).map Prod.snd := by
                rw [List.map_append, List.map_append, listed]
                rfl
              exact ih longer settled

/-- Which names a search matches depends on the configuration alone. -/
theorem findBusLoop_names (services : List String) (config : MCTPConfiguration) :
    ∃ names : Finset String, ∀ buses (s : MCTPImpl), s.config = config →
      (Direct.findBusLoop bus.world services buses (bus.env, s)).2.2.matchedBuses =
        s.matchedBuses ∪ names := by
  induction services with
  | nil => exact ⟨∅, fun buses s _ => (Finset.union_empty _).symm⟩
  | cons service rest ih =>
      obtain ⟨names, later⟩ := ih
      have kept := fun s => MCTPImpl.unscanned_matchedBuses.emitted
        (MCTPImpl.getBusId_emits bus.env service s)
      have read := fun s => MCTPImpl.config_of_settings
        (getBusId_searched bus.env service s).settings
      by_cases readable : ∃ (t : MCTPImpl) (id : Int), t.config = config ∧
          (MCTPImpl.getBusId bus.env service t).1 = .ok id
      · obtain ⟨t, id, config', answered⟩ := readable
        refine ⟨insert (bus.ownerName service) names, fun buses s same => ?_⟩
        obtain ⟨id', answered'⟩ := (MCTPImpl.getBusId_ok_iff bus.env service
          (config'.trans same.symm)).mp ⟨id, answered⟩
        have named := MCTPImpl.config_of_settings (addUniqueName_searched bus service
          (MCTPImpl.getBusId bus.env service s).2).settings
        unfold Direct.findBusLoop
        dsimp only
        rw [answered']
        dsimp only
        rw [Finset.union_insert, ← Finset.insert_union, ← kept s, ← addUniqueName_matchedBuses]
        exact later _ _ (named.trans ((read s).trans same))
      · refine ⟨names, fun buses s same => ?_⟩
        unfold Direct.findBusLoop
        dsimp only
        cases answered : (MCTPImpl.getBusId bus.env service s).1 with
        | error fault =>
            dsimp only
            rw [← kept s]
            exact later _ _ (by rw [read, same])
        | ok id => exact absurd ⟨s, id, same, answered⟩ readable

/-- Everything may be said here; what matters is what is remembered. -/
def Remembers (s t : MCTPImpl) : Prop := MCTPImpl.Grows (fun _ => True) s t

theorem anything_networked (s : MCTPImpl) : s.Networked (fun _ => True) fun _ => True :=
  ⟨fun _ _ _ => trivial, fun _ _ _ _ => trivial⟩

theorem scanService_remembers (env : Env) (entry : Bus) (values : DictType Interfaces)
    (eids : EndpointMapExtended) (s : MCTPImpl) :
    Remembers s (MCTPImpl.scanService env entry values eids s).2 :=
  MCTPImpl.scanService_grows System.anything_speech (anything_networked s) env trivial
    (fun _ _ => trivial) eids

/-- A service that lists its objects has its network id read, if it was not known. -/
theorem scanService_learns (env : Env) (entry : Bus) (values : DictType Interfaces)
    (eids : EndpointMapExtended) (s : MCTPImpl)
    (read : (env.readByte (networkIDProperty entry.2)).isSome) :
    ∃ networkID, (MCTPImpl.scanService env entry values eids s).2.networkIDCache.find entry.2 =
      some networkID := by
  obtain ⟨_, _, scanned⟩ := MCTPImpl.scanObjects_reports env entry
    (MCTPImpl.getNetworkID env entry.2 s).1 values eids (MCTPImpl.getNetworkID env entry.2 s).2
  obtain ⟨networkID, answer⟩ := Option.isSome_iff_exists.mp read
  unfold MCTPImpl.scanService
  dsimp only
  rw [scanned]
  unfold MCTPImpl.getNetworkID
  cases known : s.networkIDCache.find entry.2 with
  | some old => exact ⟨old, known⟩
  | none =>
      simp only [MCTPImpl.readPropertyValue, answer]
      exact ⟨_, UnorderedMap.find_emplace_self _ _ _⟩

/-- The build keeps the settings and what is remembered. -/
theorem build_kept (buses : List Bus) (eids : EndpointMapExtended) (s : MCTPImpl) :
    (Direct.buildMatchingEndpointMap bus.world buses eids (bus.env, s)).2.2.settings = s.settings ∧
      Remembers s
        (Direct.buildMatchingEndpointMap bus.world buses eids (bus.env, s)).2.2 := by
  induction buses generalizing eids s with
  | nil => exact ⟨rfl, .refl s⟩
  | cons entry rest ih =>
      have asked : Remembers s (s.emit (.call (getManagedObjects entry.2))) := .emit s trivial
      unfold Direct.buildMatchingEndpointMap
      dsimp only [world]
      cases bus.managedObjects entry.2 with
      | error failed =>
          obtain ⟨settings, later⟩ := ih eids (s.emit (.call (getManagedObjects entry.2)))
          exact ⟨settings, asked.trans later⟩
      | ok values =>
          have scanned := scanService_remembers bus.env entry values eids
            (s.emit (.call (getManagedObjects entry.2)))
          have same := MCTPImpl.unscanned_settings.emitted (MCTPImpl.scanService_emits bus.env entry
            values eids (s.emit (.call (getManagedObjects entry.2))))
          obtain ⟨settings, later⟩ := ih (MCTPImpl.scanService bus.env entry values eids
            (s.emit (.call (getManagedObjects entry.2)))).1 (MCTPImpl.scanService bus.env entry
            values eids (s.emit (.call (getManagedObjects entry.2)))).2
          exact ⟨settings.trans same, (asked.trans scanned).trans later⟩

/-- After the build the network of every service that listed its objects is known. -/
theorem build_learns (reads : ∀ service, bus.Lists service →
      (bus.env.readByte (networkIDProperty service)).isSome)
    (buses : List Bus) (eids : EndpointMapExtended) (s : MCTPImpl) (service : String)
    (member : service ∈ buses.map Prod.snd) (lists : bus.Lists service) :
    ∃ networkID, (Direct.buildMatchingEndpointMap bus.world buses eids
      (bus.env, s)).2.2.networkIDCache.find service = some networkID := by
  induction buses generalizing eids s with
  | nil => cases member
  | cons entry rest ih =>
      unfold Direct.buildMatchingEndpointMap
      dsimp only [world]
      rcases List.mem_cons.mp member with rfl | later
      · obtain ⟨values, listed⟩ := id lists
        rw [listed]
        dsimp only
        obtain ⟨networkID, known⟩ := scanService_learns bus.env entry values eids
          (s.emit (.call (getManagedObjects entry.2))) (reads entry.2 lists)
        exact ⟨networkID, (build_kept bus rest _ _).2.remembers _ _ known⟩
      · cases bus.managedObjects entry.2 with
        | error failed => exact ih _ _ later
        | ok values => exact ih _ _ later

/-- On one network the same objects are filed, for the same service. -/
theorem scanService_same (env : Env) {entry entry' : Bus} (service : entry.2 = entry'.2)
    (values : DictType Interfaces) {eids eids' : EndpointMapExtended}
    (same : SameServices eids eids') (settings : t.settings = s.settings)
    (network : (MCTPImpl.getNetworkID env entry.2 t).1 = (MCTPImpl.getNetworkID env entry.2 s).1) :
    SameServices (MCTPImpl.scanService env entry values eids s).1
      (MCTPImpl.scanService env entry' values eids' t).1 := by
  intro device
  obtain ⟨filed, other⟩ := MCTPImpl.scanService_find env entry values eids s device
  obtain ⟨filed', other'⟩ := MCTPImpl.scanService_find env entry' values eids' t device
  have host : t.host = s.host := congrArg Prod.fst settings
  have config := MCTPImpl.config_of_settings settings
  rw [← service, network] at filed' other'
  have both : MCTPImpl.Filed env entry' (MCTPImpl.getNetworkID env entry.2 s).1 values t device ↔
      MCTPImpl.Filed env entry (MCTPImpl.getNetworkID env entry.2 s).1 values s device := by
    unfold MCTPImpl.Filed
    rw [host, config, service]
  rw [both] at filed' other'
  by_cases given : MCTPImpl.Filed env entry (MCTPImpl.getNetworkID env entry.2 s).1 values s device
  · rw [filed given, filed' given, Option.map_some, Option.map_some, service]
  · rw [other given, other' given]
    exact same device

/-- Under the same settings and with the same networks known, the same objects go to
the same services. -/
theorem build_congr {buses buses' : List Bus} (listed : buses.map Prod.snd = buses'.map Prod.snd)
    {eids eids' : EndpointMapExtended} (same : SameServices eids eids')
    (settings : t.settings = s.settings)
    (known : ∀ service ∈ buses.map Prod.snd, bus.Lists service → ∃ networkID,
      s.networkIDCache.find service = some networkID ∧
        t.networkIDCache.find service = some networkID) :
    SameServices (Direct.buildMatchingEndpointMap bus.world buses eids (bus.env, s)).1
      (Direct.buildMatchingEndpointMap bus.world buses' eids' (bus.env, t)).1 := by
  induction buses generalizing buses' eids eids' s t with
  | nil =>
      cases buses' with
      | nil => exact same
      | cons entry' rest' => cases listed
  | cons entry rest ih =>
      cases buses' with
      | nil => cases listed
      | cons entry' rest' =>
          obtain ⟨service, listed⟩ := List.cons.inj listed
          have later : ∀ name ∈ rest.map Prod.snd, bus.Lists name → ∃ networkID,
              s.networkIDCache.find name = some networkID ∧
                t.networkIDCache.find name = some networkID :=
            fun name member => known name (.tail _ member)
          unfold Direct.buildMatchingEndpointMap
          dsimp only [world]
          rw [← service]
          cases objects : bus.managedObjects entry.2 with
          | error failed =>
              exact ih listed same settings later
          | ok values =>
              obtain ⟨networkID, left, right⟩ := known entry.2 (.head _) ⟨values, objects⟩
              have left' : (s.emit (.call (getManagedObjects entry.2))).networkIDCache.find entry.2 =
                  some networkID := left
              have right' : (t.emit (.call (getManagedObjects entry.2))).networkIDCache.find entry.2 =
                  some networkID := right
              have filed := scanService_same bus.env service values same
                (s := s.emit (.call (getManagedObjects entry.2)))
                (t := t.emit (.call (getManagedObjects entry.2))) settings
                (by simp only [MCTPImpl.getNetworkID, left', right'])
              refine ih listed filed ?_ ?_
              · rw [MCTPImpl.unscanned_settings.emitted (MCTPImpl.scanService_emits ..),
                  MCTPImpl.unscanned_settings.emitted (MCTPImpl.scanService_emits ..)]
                exact settings
              · intro name member lists
                obtain ⟨networkID, left, right⟩ := later name member lists
                exact ⟨networkID, (scanService_remembers ..).remembers _ _ left,
                  (scanService_remembers ..).remembers _ _ right⟩

/-- The map built in the state, and where the build ends. -/
def built (s : MCTPImpl) : EndpointMapExtended × Env × MCTPImpl :=
  Direct.buildMatchingEndpointMap bus.world (bus.found s).1 ∅
    (bus.env, { (bus.found s).2.2 with isInitialisationsDone := true })

theorem found_searched (s : MCTPImpl) :
    (bus.found s).2.1 = bus.env ∧ Searched s (bus.found s).2.2 := by
  obtain ⟨env, searched⟩ := findBusLoop_searched bus bus.services []
    (MCTPImpl.emit { s with mctpChangesWatch := true }
      (.call (getObject (bindingToInterface s.config.bindingType))))
  exact ⟨env, searched.settings, searched.cache⟩

theorem discover_eq (s : MCTPImpl) : bus.discover s =
    (MCTPImpl.finishDetect (bus.built s).2.1
      { (bus.built s).2.2 with endpointMap := (bus.built s).1 }).2 := by
  have env := (found_searched bus s).1
  unfold built
  rw [← env]
  rfl

theorem discover_endpointMap (s : MCTPImpl) : (bus.discover s).endpointMap = (bus.built s).1 := by
  obtain ⟨_, _, same⟩ := MCTPImpl.finishDetect_reports (bus.built s).2.1
    { (bus.built s).2.2 with endpointMap := (bus.built s).1 }
  rw [discover_eq, same]

theorem discover_cache (s : MCTPImpl) :
    (bus.discover s).networkIDCache = (bus.built s).2.2.networkIDCache := by
  obtain ⟨_, _, same⟩ := MCTPImpl.finishDetect_reports (bus.built s).2.1
    { (bus.built s).2.2 with endpointMap := (bus.built s).1 }
  rw [discover_eq, same]

theorem discover_settings (s : MCTPImpl) : (bus.discover s).settings = s.settings := by
  rw [discover_eq, MCTPImpl.unscanned_settings.emitted (MCTPImpl.finishDetect_reports ..).emits]
  exact (build_kept bus _ _ _).1.trans (found_searched bus s).2.settings

theorem build_matchedBuses (buses : List Bus) (eids : EndpointMapExtended) (s : MCTPImpl) :
    (Direct.buildMatchingEndpointMap bus.world buses eids (bus.env, s)).2.2.matchedBuses =
      s.matchedBuses := by
  induction buses generalizing eids s with
  | nil => rfl
  | cons entry rest ih =>
      unfold Direct.buildMatchingEndpointMap
      dsimp only [world]
      cases bus.managedObjects entry.2 with
      | error failed => exact ih eids _
      | ok values =>
          have scanned := MCTPImpl.unscanned_matchedBuses.emitted
            (MCTPImpl.scanService_emits bus.env entry values eids
              (s.emit (.call (getManagedObjects entry.2))))
          exact (ih _ _).trans scanned

theorem discover_matchedBuses (s : MCTPImpl) :
    (bus.discover s).matchedBuses = (bus.found s).2.2.matchedBuses := by
  rw [discover_eq, MCTPImpl.unscanned_matchedBuses.emitted (MCTPImpl.finishDetect_reports ..).emits]
  exact build_matchedBuses bus _ _ _

/-- The names discovery matches are the same in every state of the library. -/
theorem discover_names (config : MCTPConfiguration) :
    ∃ names : Finset String, ∀ s : MCTPImpl, s.config = config →
      (bus.discover s).matchedBuses = s.matchedBuses ∪ names := by
  obtain ⟨names, matched⟩ := findBusLoop_names bus bus.services config
  refine ⟨names, fun s same => ?_⟩
  rw [discover_matchedBuses]
  exact matched [] _ same

theorem discover_remembers {service : String} {networkID : UInt8}
    (known : s.networkIDCache.find service = some networkID) :
    (bus.discover s).networkIDCache.find service = some networkID := by
  rw [discover_cache]
  refine (build_kept bus _ _ _).2.remembers _ _ ?_
  rw [← known]
  exact congrArg (UnorderedMap.find · service) (found_searched bus s).2.cache

/-- Under the same settings the same services are found. -/
theorem found_services (settings : t.settings = s.settings) :
    (bus.found s).1.map Prod.snd = (bus.found t).1.map Prod.snd :=
  findBusLoop_congr bus bus.services rfl (MCTPImpl.config_of_settings settings)

end SteadyBus

theorem System.step_remembers {s t : System} {label : Label} (stepped : s.step label = some t) :
    SteadyBus.Remembers s.lib t.lib :=
  (System.step_speaks System.anything_speech (SteadyBus.anything_networked _)
    (System.anything_acquainted s) (fun _ _ => trivial) (fun _ _ => trivial) stepped).1

theorem System.run_remembers {s t : System} {labels : List Label} {service : String}
    {networkID : UInt8} (run : Run System.step Any s labels t)
    (known : s.lib.networkIDCache.find service = some networkID) :
    t.lib.networkIDCache.find service = some networkID := by
  refine run.invariant (fun state => state.lib.networkIDCache.find service = some networkID) known ?_
  intro state label next known _ stepped
  exact (System.step_remembers stepped).remembers _ _ known

/-- After a discovery the network of every service it found that lists its objects is
known from then on. -/
theorem SteadyBus.discovered_networks (bus : SteadyBus)
    (reads : ∀ service, bus.Lists service →
      (bus.env.readByte (networkIDProperty service)).isSome)
    {s : MCTPImpl} {t : System} {first : List Scan} {labels : List Label}
    (run : Run System.step Any ⟨bus.discover s, first⟩ labels t) {service : String}
    (member : service ∈ (bus.found t.lib).1.map Prod.snd) (lists : bus.Lists service) :
    ∃ networkID, t.lib.networkIDCache.find service = some networkID := by
  have settings : t.lib.settings = s.settings :=
    (System.run_settings run).trans (bus.discover_settings s)
  rw [bus.found_services settings.symm] at member
  obtain ⟨networkID, learned⟩ := bus.build_learns reads (bus.found s).1 ∅
    { (bus.found s).2.2 with isInitialisationsDone := true } service member lists
  have known : (bus.discover s).networkIDCache.find service = some networkID := by
    rw [bus.discover_cache]
    exact learned
  exact ⟨networkID, System.run_remembers run known⟩

/-- Once a bus has been discovered, discovering it again gives the same map from then
on and matches the same names, whatever has happened in between: only the first
discovery can file an endpoint otherwise. -/
theorem rediscovery_stable (bus : SteadyBus)
    (reads : ∀ service, bus.Lists service →
      (bus.env.readByte (networkIDProperty service)).isSome)
    {s u v : MCTPImpl} {first second third fourth : List Scan} {labels labels' : List Label}
    (between : Run System.step Any ⟨bus.discover s, first⟩ labels ⟨u, second⟩)
    (later : Run System.step Any ⟨bus.discover u, third⟩ labels' ⟨v, fourth⟩) :
    SameServices (bus.discover u).endpointMap (bus.discover v).endpointMap ∧
      ∃ names : Finset String, names ⊆ (bus.discover s).matchedBuses ∧
        (bus.discover u).matchedBuses = u.matchedBuses ∪ names ∧
        (bus.discover v).matchedBuses = v.matchedBuses ∪ names := by
  have settings : u.settings = s.settings :=
    (System.run_settings between).trans (bus.discover_settings s)
  have settings' : v.settings = u.settings :=
    (System.run_settings later).trans (bus.discover_settings u)
  constructor
  · rw [bus.discover_endpointMap, bus.discover_endpointMap]
    have cache := fun t => (bus.found_searched t).2.cache
    refine bus.build_congr (bus.found_services settings') (.refl ∅) ?_ ?_
    · exact (bus.found_searched v).2.settings.trans
        (settings'.trans (bus.found_searched u).2.settings.symm)
    · intro service member lists
      obtain ⟨networkID, still⟩ := bus.discovered_networks reads between member lists
      have again := System.run_remembers later (bus.discover_remembers still)
      exact ⟨networkID, by rw [← still]; exact congrArg (UnorderedMap.find · service) (cache u),
        by rw [← again]; exact congrArg (UnorderedMap.find · service) (cache v)⟩
  · obtain ⟨names, matched⟩ := bus.discover_names s.config
    refine ⟨names, ?_, matched u (MCTPImpl.config_of_settings settings),
      matched v (MCTPImpl.config_of_settings (settings'.trans settings))⟩
    rw [matched s rfl]
    exact Finset.subset_union_right

namespace Slot

/-- One service with one endpoint, on network 3. -/
def steadyBus : SteadyBus where
  env := { env with readByte := fun _ => some 3 }
  services := [service]
  nameOwner := fun _ => .ok owner
  managedObjects := fun _ => .ok [(path, object)]

theorem rediscovery_stable_slot :
    SameServices (steadyBus.discover (steadyBus.discover start.lib)).endpointMap
        (steadyBus.discover (steadyBus.discover (steadyBus.discover start.lib))).endpointMap ∧
      ∃ names : Finset String, names ⊆ (steadyBus.discover start.lib).matchedBuses ∧
        (steadyBus.discover (steadyBus.discover start.lib)).matchedBuses =
          (steadyBus.discover start.lib).matchedBuses ∪ names ∧
        (steadyBus.discover (steadyBus.discover (steadyBus.discover start.lib))).matchedBuses =
          (steadyBus.discover (steadyBus.discover start.lib)).matchedBuses ∪ names := by
  have run : ∀ lib : MCTPImpl, Run System.step Any ⟨lib, []⟩ [] ⟨lib, []⟩ := fun _ => .nil
  exact rediscovery_stable steadyBus (fun _ _ => rfl) (run _) (run _)

/-- The second discovery files the endpoint where the first did not. -/
example : ((steadyBus.discover start.lib).endpointMap.find (DeviceID.make 8 0)).isSome ∧
    ((steadyBus.discover (steadyBus.discover start.lib)).endpointMap.find
      (DeviceID.make 8 3)).isSome := by decide

end Slot

end Mctpw
