import Mctpw.EndpointSignals

set_option autoImplicit false

/- Whether the endpoint map follows the order of the endpoint signals. -/
namespace Mctpw

open Runs DeferredSet

/-- A device named by a signal is in the map exactly when the last signal about
it was an addition. -/
def LastSignalDecides (idOf : String → String → DeviceID) (labels : List Label) (t : MCTPImpl) :
    Prop :=
  ∀ before label after device, labels = before ++ label :: after →
    (∀ later ∈ after, ¬ About device (deviceRequest idOf later)) →
    (deviceRequest idOf label = .insert device → device ∈ t.endpointMap.keySet) ∧
    (deviceRequest idOf label = .erase device → device ∉ t.endpointMap.keySet)

/-- The requests of a split run, the split kept. -/
theorem map_deviceRequest_split {idOf : String → String → DeviceID} {labels before after : List Label}
    {label : Label} {request : Request DeviceID} (split : labels = before ++ label :: after)
    (asked : deviceRequest idOf label = request) :
    labels.map (deviceRequest idOf) =
      before.map (deviceRequest idOf) ++ request :: after.map (deviceRequest idOf) := by
  rw [split, List.map_append, List.map_cons, asked]

theorem later_requests {idOf : String → String → DeviceID} {after : List Label} {device : DeviceID}
    (last : ∀ later ∈ after, ¬ About device (deviceRequest idOf later)) :
    ∀ request ∈ after.map (deviceRequest idOf), ¬ About device request := by
  intro request member
  obtain ⟨later, inside, rfl⟩ := List.mem_map.mp member
  exact last later inside

/-- Once everything is handled, the last signals decide exactly when no last
removal overtook an insertion of its device. -/
theorem lastSignal_decides_iff (idOf : String → String → DeviceID) {s t : System}
    {labels : List Label} (listening : Listening s.lib)
    (run : Run System.step (EndpointStep idOf) s labels t) (drained : t.lib.spawned = []) :
    LastSignalDecides idOf labels t.lib ↔
      ∀ before label after device middle, labels = before ++ label :: after →
        deviceRequest idOf label = .erase device →
        (∀ later ∈ after, ¬ About device (deviceRequest idOf later)) →
        Run System.step (EndpointStep idOf) s before middle → NotOutstanding device middle.lib := by
  have idle := idle_of_drained s.lib.trace.length drained
  have whole := (endpointRun_simulates listening run).1
  constructor
  · intro decides before label after device middle split asked last front
    have absent := (decides before label after device split last).2 asked
    change device ∉ (deviceSet s.lib.trace.length t.lib).present at absent
    rw [whole, map_deviceRequest_split split asked] at absent idle
    have free := (absent_of_last_erase_iff _ _ _ device (later_requests last) idle).mp absent
    rw [← (endpointRun_simulates listening front).1, owed_iff_outstanding, not_not] at free
    exact free
  · intro ordered before label after device split last
    constructor
    · intro asked
      change device ∈ (deviceSet s.lib.trace.length t.lib).present
      rw [whole, map_deviceRequest_split split asked] at idle ⊢
      exact present_of_last_insert _ _ _ device (later_requests last) idle
    · intro asked
      change device ∉ (deviceSet s.lib.trace.length t.lib).present
      obtain ⟨middle, front, _⟩ := Run.append_inv (split ▸ run)
      have free := ordered before label after device middle split asked last front
      rw [whole, map_deviceRequest_split split asked] at idle ⊢
      apply (absent_of_last_erase_iff _ _ _ device (later_requests last) idle).mpr
      rw [← (endpointRun_simulates listening front).1, owed_iff_outstanding, not_not]
      exact free

namespace Slot

/-- The addition's body runs before the removal is handled. -/
def takenOut : System := (exec System.step ready [added, .body, removed, .body]).get (by decide)

theorem lastSignal_decides_takenOut :
    LastSignalDecides idOf [added, .body, removed, .body] takenOut.lib := by
  have run : Run System.step (EndpointStep idOf) ready ([added, .body] ++ [removed, .body]) takenOut :=
    plugged_run.append (.cons ⟨by decide, by decide, by decide, rfl⟩ rfl (.cons trivial rfl .nil))
  refine (lastSignal_decides_iff idOf ⟨rfl, rfl⟩ run rfl).mpr ?_
  intro before label after device middle split asked _ front
  -- Only the third label erases.
  rcases before with _ | ⟨_, _ | ⟨_, _ | ⟨_, _ | ⟨_, before⟩⟩⟩⟩
  · cases split
    cases asked
  · cases split
    cases asked
  · cases split
    cases front.deterministic plugged_run
    intro serviceName queued
    cases queued
  · cases split
    cases asked
  · simp at split

/-- The addition's body runs after the removal has been handled. -/
def overtaken : System := (exec System.step ready [added, removed, .body]).get (by decide)

theorem lastSignal_overtaken :
    ready.Reachable ∧ Listening ready.lib ∧ ready.scans.isEmpty ∧
      Run System.step (EndpointStep idOf) ready [added, removed, .body] overtaken ∧
      overtaken.lib.spawned = [] ∧
      ¬ LastSignalDecides idOf [added, removed, .body] overtaken.lib := by
  have first : EndpointStep idOf ready added := ⟨by decide, by decide, ⟨_, rfl, rfl⟩, rfl⟩
  have second : EndpointStep idOf ((System.step ready added).get rfl) removed :=
    ⟨by decide, by decide, by decide, rfl⟩
  refine ⟨ready_reachable, ⟨rfl, rfl⟩, rfl,
    .cons first rfl (.cons second rfl (.cons trivial rfl .nil)), rfl, ?_⟩
  intro decides
  have gone := (decides [added] removed [.body] device rfl (by simp [deviceRequest, About])).2 rfl
  have held : (overtaken.lib.endpointMap.find device).isSome := by decide
  exact gone held

end Slot

end Mctpw
