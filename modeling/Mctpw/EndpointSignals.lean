import Mctpw.Base.DeferredLog
import Mctpw.System

set_option autoImplicit false

/- Endpoint signals and spawned bodies drive the endpoint map as a deferred set
of DeviceIDs. -/
namespace Mctpw

open Runs Strings DeferredSet

/-- An InterfacesAdded or InterfacesRemoved signal of an endpoint supporting the
configured type, from a matched service, or a spawned body being run. `idOf`
gives the DeviceID computed for a sender's path. -/
def EndpointStep (idOf : String → String → DeviceID) (s : System) : Label → Prop
  | .body => True
  | .signal env ⟨sender, .interfacesAdded objectPath values⟩ =>
      sender ∈ s.lib.matchedBuses ∧ startsWith objectPath endpointPrefix ∧
        (∃ properties, values.lookup supportedMessageTypes = some properties ∧
          supportsType s.lib.config.type properties = .ok true) ∧
        (MCTPImpl.getDeviceIDFromPath env objectPath sender s.lib).1 = .ok (idOf sender objectPath)
  | .signal env ⟨sender, .interfacesRemoved objectPath interfaces⟩ =>
      sender ∈ s.lib.matchedBuses ∧ startsWith objectPath endpointPrefix ∧
        supportedMessageTypes ∈ interfaces ∧
        (MCTPImpl.getDeviceIDFromPath env objectPath sender s.lib).1 = .ok (idOf sender objectPath)
  | _ => False

/-- What a step asks of the set of devices. -/
def deviceRequest (idOf : String → String → DeviceID) : Label → Request DeviceID
  | .signal _ ⟨sender, .interfacesAdded objectPath _⟩ => .insert (idOf sender objectPath)
  | .signal _ ⟨sender, .interfacesRemoved objectPath _⟩ => .erase (idOf sender objectPath)
  | _ => .run

def Spawned.pending : Spawned → Pending DeviceID
  | .newEID _ extendedEID => .insert extendedEID
  | .eidRemoved deviceID => .notice deviceID

/-- The deliveries to the networkChangeCallback in a stretch of history. -/
def deviceEvents (trace : List Effect) : List (Kind × DeviceID) :=
  trace.filterMap fun effect =>
    match effect with
    | .networkChange ⟨.deviceAdded, _, device⟩ => some (.added, device)
    | .networkChange ⟨.deviceRemoved, _, device⟩ => some (.removed, device)
    | _ => none

theorem deviceEvents_append (first second : List Effect) :
    deviceEvents (first ++ second) = deviceEvents first ++ deviceEvents second :=
  List.filterMap_append

theorem deviceEvents_lookups {effects : List Effect}
    (lookups : ∀ effect ∈ effects, effect.Lookup) : deviceEvents effects = [] := by
  apply List.filterMap_eq_nil_iff.mpr
  intro effect member
  cases lookups effect member with
  | read read => cases read; rfl
  | identified => rfl

/-- The deferred set the library keeps, its log counted from `base` on. -/
def deviceSet (base : Nat) (s : MCTPImpl) : DeferredSet.State DeviceID where
  present := s.endpointMap.keySet
  queue := s.spawned.map Spawned.pending
  log := deviceEvents (s.trace.drop base)

/-- No body that inserts the device is outstanding. -/
def NotOutstanding (device : DeviceID) (s : MCTPImpl) : Prop :=
  ∀ serviceName, .newEID serviceName device ∉ s.spawned

theorem owed_iff_outstanding (base : Nat) (s : MCTPImpl) (device : DeviceID) :
    Owed (deviceSet base s) device ↔ ¬ NotOutstanding device s := by
  simp only [Owed, deviceSet, List.mem_map, NotOutstanding, not_forall, not_not]
  constructor
  · rintro ⟨body, member, same⟩
    cases body with
    | newEID serviceName extendedEID =>
        cases same
        exact ⟨serviceName, member⟩
    | eidRemoved deviceID => cases same
  · rintro ⟨serviceName, member⟩
    exact ⟨_, member, rfl⟩

theorem idle_of_drained (base : Nat) {s : MCTPImpl} (drained : s.spawned = []) :
    (deviceSet base s).queue = [] := by
  simp [deviceSet, drained]

/-- Discovery is over and somebody listens. -/
structure Listening (s : MCTPImpl) : Prop where
  done : s.isInitialisationsDone = true
  callback : s.networkChangeCallback = true

namespace MCTPImpl

theorem onMCTPEvent_added {env : Env} {sender objectPath : String} {values : Interfaces}
    {properties : Properties} {s : MCTPImpl} {device : DeviceID} (listening : Listening s)
    (matched : sender ∈ s.matchedBuses) (under : startsWith objectPath endpointPrefix = true)
    (held : values.lookup supportedMessageTypes = some properties)
    (supported : supportsType s.config.type properties = .ok true)
    (formed : (getDeviceIDFromPath env objectPath sender s).1 = .ok device) :
    (onMCTPEvent env ⟨sender, .interfacesAdded objectPath values⟩ s).2 =
      { (getDeviceIDFromPath env objectPath sender s).2 with
        spawned := s.spawned ++ [.newEID sender device] } := by
  obtain ⟨effects, cache, busId, _, looked⟩ := getDeviceIDFromPath_emits env objectPath sender s
  simp only [onMCTPEvent_interfacesAdded listening.done, onNewInterface, endpointPath_ne_base under,
    ↓reduceIte, matched, not_true_eq_false, under, held, supported, formed]
  rw [onNewEID, if_pos (by rw [looked]; exact listening.callback), looked]

theorem onMCTPEvent_removed {env : Env} {sender objectPath : String} {interfaces : List String}
    {s : MCTPImpl} {device : DeviceID} (done : s.isInitialisationsDone = true)
    (matched : sender ∈ s.matchedBuses) (under : startsWith objectPath endpointPrefix = true)
    (held : supportedMessageTypes ∈ interfaces)
    (formed : (getDeviceIDFromPath env objectPath sender s).1 = .ok device) :
    (onMCTPEvent env ⟨sender, .interfacesRemoved objectPath interfaces⟩ s).2 =
      onEIDRemoved device (getDeviceIDFromPath env objectPath sender s).2 := by
  simp only [onMCTPEvent_interfacesRemoved done, matched, not_true_eq_false, ↓reduceIte,
    onInterfaceRemoved, under, held, formed]

theorem onEIDRemoved_present {device : DeviceID} {entry : UInt32 × String} {s : MCTPImpl}
    (listening : Listening s) (held : s.endpointMap.find device = some entry) :
    onEIDRemoved device s =
      { s with
        endpointMap := s.endpointMap.erase device
        spawned := s.spawned ++ [.eidRemoved device] } := by
  simp only [onEIDRemoved, held, listening.callback, ↓reduceIte]

theorem onEIDRemoved_absent {device : DeviceID} {s : MCTPImpl}
    (absent : s.endpointMap.find device = none) : onEIDRemoved device s = s := by
  simp only [onEIDRemoved, absent]

/-- Lookups leave the deferred set alone. -/
theorem deviceSet_lookups {base : Nat} {s t : MCTPImpl} (looked : Emits Effect.Lookup s t)
    (within : base ≤ s.trace.length) :
    deviceSet base t = deviceSet base s ∧ base ≤ t.trace.length := by
  obtain ⟨effects, cache, busId, lookups, rfl⟩ := looked
  constructor
  · simp only [deviceSet, List.drop_append_of_le_length within, deviceEvents_append,
      deviceEvents_lookups lookups, List.append_nil]
  · simp only [List.length_append]
    omega

theorem deviceSet_onEIDRemoved {base : Nat} {s : MCTPImpl} (listening : Listening s)
    (device : DeviceID) :
    deviceSet base (onEIDRemoved device s) =
      DeferredSet.step (deviceSet base s) (.erase device) := by
  cases held : s.endpointMap.find device with
  | none =>
      have absent : device ∉ (deviceSet base s).present := by
        simp [deviceSet, UnorderedMap.mem_keySet, held]
      rw [onEIDRemoved_absent held, step_erase_absent absent]
  | some entry =>
      have present : device ∈ (deviceSet base s).present := by
        simp [deviceSet, UnorderedMap.mem_keySet, held]
      rw [onEIDRemoved_present listening held]
      simp only [DeferredSet.step, present, ↓reduceIte]
      simp [deviceSet, UnorderedMap.keySet_erase, Spawned.pending]

theorem deviceSet_runSpawned {base : Nat} {s : MCTPImpl} {body : Spawned} {rest : List Spawned}
    (queued : s.spawned = body :: rest) (within : base ≤ s.trace.length) :
    deviceSet base (runSpawned body { s with spawned := rest }) =
      DeferredSet.step (deviceSet base s) .run := by
  cases body with
  | newEID serviceName extendedEID =>
      simp [deviceSet, runSpawned, emit, queued, DeferredSet.step, Spawned.pending,
        UnorderedMap.keySet_emplace, List.drop_append_of_le_length within, deviceEvents_append]
      rfl
  | eidRemoved deviceID =>
      simp [deviceSet, runSpawned, emit, queued, DeferredSet.step, Spawned.pending,
        List.drop_append_of_le_length within, deviceEvents_append]
      rfl

/-- A signal for an endpoint that has come asks for its insertion. -/
theorem onMCTPEvent_added_simulates {env : Env} {base : Nat} {sender objectPath : String}
    {values : Interfaces} {properties : Properties} {device : DeviceID} {s : MCTPImpl}
    (listening : Listening s) (within : base ≤ s.trace.length) (matched : sender ∈ s.matchedBuses)
    (under : startsWith objectPath endpointPrefix = true)
    (held : values.lookup supportedMessageTypes = some properties)
    (supported : supportsType s.config.type properties = .ok true)
    (formed : (getDeviceIDFromPath env objectPath sender s).1 = .ok device) {t : MCTPImpl}
    (handled : (onMCTPEvent env ⟨sender, .interfacesAdded objectPath values⟩ s).2 = t) :
    deviceSet base t = DeferredSet.step (deviceSet base s) (.insert device) ∧ Listening t ∧
      base ≤ t.trace.length := by
  have looked := getDeviceIDFromPath_emits env objectPath sender s
  obtain ⟨same, within'⟩ := deviceSet_lookups looked within
  rw [onMCTPEvent_added listening matched under held supported formed] at handled
  subst handled
  rw [← same]
  obtain ⟨_, _, _, _, eq⟩ := looked
  refine ⟨?_, ?_, within'⟩
  · rw [eq]
    simp [deviceSet, DeferredSet.step, Spawned.pending]
  · rw [eq]
    exact ⟨listening.done, listening.callback⟩

/-- A signal for an endpoint that has gone asks for its removal. -/
theorem onMCTPEvent_removed_simulates {env : Env} {base : Nat} {sender objectPath : String}
    {interfaces : List String} {device : DeviceID} {s : MCTPImpl} (listening : Listening s)
    (within : base ≤ s.trace.length) (matched : sender ∈ s.matchedBuses)
    (under : startsWith objectPath endpointPrefix = true)
    (held : supportedMessageTypes ∈ interfaces)
    (formed : (getDeviceIDFromPath env objectPath sender s).1 = .ok device) {t : MCTPImpl}
    (handled : (onMCTPEvent env ⟨sender, .interfacesRemoved objectPath interfaces⟩ s).2 = t) :
    deviceSet base t = DeferredSet.step (deviceSet base s) (.erase device) ∧ Listening t ∧
      base ≤ t.trace.length := by
  have looked := getDeviceIDFromPath_emits env objectPath sender s
  obtain ⟨same, within'⟩ := deviceSet_lookups looked within
  rw [onMCTPEvent_removed listening.done matched under held formed] at handled
  subst handled
  obtain ⟨_, _, _, _, eq⟩ := looked
  have listening' : Listening (getDeviceIDFromPath env objectPath sender s).2 := by
    rw [eq]
    exact ⟨listening.done, listening.callback⟩
  refine ⟨by rw [deviceSet_onEIDRemoved listening', same], ?_, ?_⟩
  · obtain ⟨_, _, kept⟩ := onEIDRemoved_eq device (getDeviceIDFromPath env objectPath sender s).2
    rw [kept]
    exact ⟨listening'.done, listening'.callback⟩
  · obtain ⟨_, _, kept⟩ := onEIDRemoved_eq device (getDeviceIDFromPath env objectPath sender s).2
    rw [kept]
    exact within'

end MCTPImpl

/-- One endpoint signal, or one body, is one request to the deferred set. -/
theorem endpointStep_simulates {idOf : String → String → DeviceID} {base : Nat} {s t : System}
    {label : Label} (listening : Listening s.lib) (within : base ≤ s.lib.trace.length)
    (admitted : EndpointStep idOf s label) (stepped : s.step label = some t) :
    deviceSet base t.lib = DeferredSet.step (deviceSet base s.lib) (deviceRequest idOf label) ∧
      Listening t.lib ∧ base ≤ t.lib.trace.length := by
  cases label with
  | body =>
      obtain ⟨body, rest, queued, rfl⟩ := System.step_body stepped
      refine ⟨MCTPImpl.deviceSet_runSpawned queued within, ?_, ?_⟩
      · cases body <;> exact ⟨listening.done, listening.callback⟩
      · cases body <;> simp only [MCTPImpl.runSpawned, MCTPImpl.emit, List.length_append] <;> omega
  | signal env msg =>
      obtain ⟨_, _, same⟩ := System.step_signal stepped
      have lib := congrArg System.lib same.symm
      obtain ⟨sender, signal⟩ := msg
      cases signal with
      | interfacesAdded objectPath values =>
          obtain ⟨matched, under, ⟨properties, held, supported⟩, formed⟩ := admitted
          exact MCTPImpl.onMCTPEvent_added_simulates listening within matched under held supported
            formed lib
      | interfacesRemoved objectPath interfaces =>
          obtain ⟨matched, under, held, formed⟩ := admitted
          exact MCTPImpl.onMCTPEvent_removed_simulates listening within matched under held formed lib
      | _ => exact admitted.elim
  | _ => exact admitted.elim

/-- A run of endpoint signals and bodies is a run of the deferred set. -/
theorem endpointRun_simulates {idOf : String → String → DeviceID} {s t : System}
    {labels : List Label} (listening : Listening s.lib)
    (run : Runs.Run System.step (EndpointStep idOf) s labels t) :
    deviceSet s.lib.trace.length t.lib =
        DeferredSet.exec (deviceSet s.lib.trace.length s.lib) (labels.map (deviceRequest idOf)) ∧
      Listening t.lib ∧ s.lib.trace.length ≤ t.lib.trace.length := by
  induction run with
  | nil => exact ⟨rfl, listening, Nat.le_refl _⟩
  | snoc _ admitted stepped ih =>
      obtain ⟨same, listening', within⟩ := ih
      obtain ⟨next, later⟩ := endpointStep_simulates listening' within admitted stepped
      refine ⟨?_, later⟩
      rw [next, same, List.map_append, DeferredSet.exec_append]
      rfl

namespace Slot

/-- The EID its path spells, on network 0. -/
def idOf (_ objectPath : String) : DeviceID :=
  DeviceID.make ((MCTPImpl.pathEID objectPath).getD 0) 0

def device : DeviceID := DeviceID.make 8 0

def plugged : System := (exec System.step ready [added, .body]).get (by decide)

theorem plugged_run : Run System.step (EndpointStep idOf) ready [added, .body] plugged := by
  have admitted : EndpointStep idOf ready added := ⟨by decide, by decide, ⟨_, rfl, rfl⟩, rfl⟩
  exact .cons admitted rfl (.cons trivial rfl .nil)

end Slot

end Mctpw
