import Mctpw.EndpointSignals

set_option autoImplicit false

/- Where a send goes once an announcement has been handled and its body has run. -/
namespace Mctpw

open Runs Strings

/-- Every send to the device addresses its call to the service. -/
def RoutedTo (device : DeviceID) (service : String) (s : MCTPImpl) : Prop :=
  ∀ request, MCTPImpl.Addresses request device service s

theorem routedTo_iff {device : DeviceID} {service : String} {s : MCTPImpl}
    {entry : UInt32 × String} (known : s.endpointMap.find device = some entry) :
    RoutedTo device service s ↔ entry.2 = service := by
  constructor
  · intro routed
    have here := routed (.sendYield (.success, 0) 0 false [])
    have there := MCTPImpl.send_known (.sendYield (.success, 0) 0 false []) device s entry known
    rw [MCTPImpl.Addresses] at here there
    rw [here] at there
    have calls := congrArg MCTPImpl.trace there
    simp only [MCTPImpl.emit, List.append_cancel_left_eq, List.cons.injEq, Effect.call.injEq,
      and_true] at calls
    exact ((MCTPImpl.sendMessage_inj _ device).mp calls).symm
  · rintro rfl request
    exact MCTPImpl.send_known request device s entry known

/-- A send finds the service of the device's entry, and finds nothing without one. -/
theorem routedTo_iff_filed {device : DeviceID} {service : String} {s : MCTPImpl} :
    RoutedTo device service s ↔ ∃ bus, s.endpointMap.find device = some (bus, service) := by
  cases known : s.endpointMap.find device with
  | some entry =>
      obtain ⟨bus, old⟩ := entry
      simp [routedTo_iff known]
  | none =>
      -- A refused send makes no call at all.
      have refused : ¬ RoutedTo device service s := by
        intro routed
        have here := routed (.sendYield (.success, 0) 0 false [])
        have calls := congrArg (fun t => t.trace.length) here
        simp [MCTPImpl.send, MCTPImpl.sendYield, known, MCTPImpl.emit] at calls
      simp [refused]

/-- The body files the device only where nothing was filed before. -/
theorem runSpawned_routedTo_iff (service : String) (device : DeviceID) (s : MCTPImpl) :
    RoutedTo device service (MCTPImpl.runSpawned (.newEID service device) s) ↔
      s.endpointMap.find device = none ∨ ∃ bus, s.endpointMap.find device = some (bus, service) := by
  have filed : (MCTPImpl.runSpawned (.newEID service device) s).endpointMap.find device =
      some ((s.endpointMap.find device).getD (0, service)) :=
    UnorderedMap.find_emplace_self _ _ _
  rw [routedTo_iff filed]
  cases s.endpointMap.find device with
  | none => simp
  | some entry =>
      obtain ⟨bus, old⟩ := entry
      simp

/-- After an announcement and as many bodies as were then outstanding, the body
it spawned is next. -/
theorem announced_body_next {idOf : String → String → DeviceID} {s handled waiting : System}
    {env : Env} {sender objectPath : String} {values : Interfaces} {labels : List Label}
    (listening : Listening s.lib)
    (announces : EndpointStep idOf s (.signal env ⟨sender, .interfacesAdded objectPath values⟩))
    (announced : s.step (.signal env ⟨sender, .interfacesAdded objectPath values⟩) = some handled)
    (between : Run System.step Any handled labels waiting)
    (turn : System.bodies labels = s.lib.spawned.length) :
    ∃ rest, waiting.lib.spawned = .newEID sender (idOf sender objectPath) :: rest := by
  obtain ⟨matched, under, ⟨properties, held, supported⟩, formed⟩ := announces
  obtain ⟨_, _, rfl⟩ := System.step_signal announced
  have added := MCTPImpl.onMCTPEvent_added listening matched under held supported formed
  obtain ⟨ran, more, queue, count⟩ := System.spawned_fifo between
  rw [added] at queue
  simp only [List.append_assoc] at queue
  obtain ⟨same, rest⟩ := List.append_inj queue (by rw [count, turn])
  exact ⟨more, rest.symm⟩

/-- Once the body of an announcement has run, sends go to the announcer exactly
when the device was unknown or already routed to it before the body. -/
theorem announcement_routes_iff (idOf : String → String → DeviceID) {s handled waiting t : System}
    {env : Env} {sender objectPath : String} {values : Interfaces} {labels : List Label}
    (listening : Listening s.lib)
    (announces : EndpointStep idOf s (.signal env ⟨sender, .interfacesAdded objectPath values⟩))
    (announced : s.step (.signal env ⟨sender, .interfacesAdded objectPath values⟩) = some handled)
    (between : Run System.step Any handled labels waiting)
    (turn : System.bodies labels = s.lib.spawned.length) (ran : waiting.step .body = some t) :
    RoutedTo (idOf sender objectPath) sender t.lib ↔
      waiting.lib.endpointMap.find (idOf sender objectPath) = none ∨
        ∃ bus, waiting.lib.endpointMap.find (idOf sender objectPath) = some (bus, sender) := by
  obtain ⟨rest, next⟩ := announced_body_next listening announces announced between turn
  obtain ⟨body, rest', queued, rfl⟩ := System.step_body ran
  rw [next] at queued
  cases queued
  exact runSpawned_routedTo_iff sender (idOf sender objectPath)
    { waiting.lib with spawned := rest }

namespace Slot

theorem announcement_routes_plugged : RoutedTo device owner plugged.lib := by
  have admitted : EndpointStep idOf ready added := ⟨by decide, by decide, ⟨_, rfl, rfl⟩, rfl⟩
  have handled : ready.step added = some ((ready.step added).get rfl) := rfl
  exact (announcement_routes_iff idOf ⟨rfl, rfl⟩ admitted handled .nil rfl rfl).mpr (.inl rfl)

/-- The connection the service comes back under after a restart. -/
def restarted : String := ":1.9"

def announcedBy (sender : String) : Label := .signal env ⟨sender, .interfacesAdded path object⟩

def serviceAdded : Label :=
  .signal env ⟨restarted, .interfacesAdded basePath
    [(bindingToInterface config.bindingType, []), (baseInterface, [])]⟩

/-- The endpoint is filed under the old connection, and the new one has announced itself. -/
def reopened : System := (exec System.step plugged [serviceAdded]).get (by decide)

def readded : System := (exec System.step reopened [announcedBy restarted, .body]).get (by decide)

theorem announcement_keeps_old_route :
    reopened.Reachable ∧ reopened.scans.isEmpty ∧ Listening reopened.lib ∧
      EndpointStep idOf reopened (announcedBy restarted) ∧
      Run System.step Any reopened [announcedBy restarted, .body] readded ∧
      readded.lib.spawned = [] ∧
      RoutedTo device owner readded.lib ∧ ¬ RoutedTo device restarted readded.lib := by
  have filed : readded.lib.endpointMap.find device = some (0, owner) := by decide
  have reached : exec System.step start (discovery ++ [added, .body, serviceAdded]) =
      some reopened := by
    rfl
  refine ⟨.of_exec reached, rfl, ⟨rfl, rfl⟩, ⟨by decide, by decide, ⟨_, rfl, rfl⟩, rfl⟩,
    .of_exec rfl, rfl, ?_, ?_⟩
  · exact (routedTo_iff filed).mpr rfl
  · rw [routedTo_iff filed]
    decide

end Slot

end Mctpw
