import Mctpw.EndpointSignals

set_option autoImplicit false

/- Whether the networkChangeCallback sees a faithful log of the endpoint map. -/
namespace Mctpw

open Runs DeferredSet

/-- What the callback has been told about a device since `s`. -/
def eventsSince (s t : MCTPImpl) (device : DeviceID) : List Kind :=
  kindsOf device (deviceEvents (t.trace.drop s.trace.length))

def held (s : MCTPImpl) (device : DeviceID) : Bool := (s.endpointMap.find device).isSome

/-- The events since `s` alternate from what `s` held, and once nothing is
outstanding they say what is held. -/
def FaithfulLog (s t : MCTPImpl) : Prop :=
  ∀ device, Alternates (held s device) (eventsSince s t device) ∧
    (t.spawned = [] →
      held t device = heldAfter (held s device) (eventsSince s t device))

/-- Only insertions of devices not yet in the map are outstanding, one for each. -/
def OnlyNewOutstanding (s : MCTPImpl) : Prop :=
  (s.spawned.map Spawned.pending).Nodup ∧
    ∀ body ∈ s.spawned, ∃ serviceName device,
      body = .newEID serviceName device ∧ held s device = false

/-- An announced device is neither in the map nor on its way there. -/
def FreshAnnouncement (idOf : String → String → DeviceID) (s : System) (label : Label) : Prop :=
  ∀ device, deviceRequest idOf label = .insert device →
    held s.lib device = false ∧ NotOutstanding device s.lib

theorem mem_present_iff (base : Nat) (s : MCTPImpl) (device : DeviceID) :
    device ∈ (deviceSet base s).present ↔ held s device = true := Iff.rfl

theorem fresh_iff (base : Nat) (s : MCTPImpl) (device : DeviceID) :
    Fresh (deviceSet base s) device ↔ held s device = false ∧ NotOutstanding device s := by
  rw [Fresh, owed_iff_outstanding, not_not, mem_present_iff, Bool.not_eq_true]

theorem onlyFresh_of_onlyNew {base : Nat} {s : MCTPImpl} (start : OnlyNewOutstanding s) :
    OnlyFresh (deviceSet base s) := by
  refine ⟨start.1, ?_⟩
  intro task member
  obtain ⟨body, inside, rfl⟩ := List.mem_map.mp member
  obtain ⟨serviceName, device, rfl, absent⟩ := start.2 body inside
  exact ⟨device, rfl, by rw [mem_present_iff, absent]; exact Bool.false_ne_true⟩

theorem onlyNew_of_drained {s : MCTPImpl} (drained : s.spawned = []) : OnlyNewOutstanding s := by
  simp [OnlyNewOutstanding, drained]

theorem tracks_of_onlyNew {s : MCTPImpl} (start : OnlyNewOutstanding s) (device : DeviceID) :
    Tracks (held s device) (deviceSet s.trace.length s) device := by
  refine tracks_of_onlyFresh (onlyFresh_of_onlyNew start) ?_ device Iff.rfl
  simp [deviceSet, deviceEvents]

/-- The steps of a run all announce fresh devices when its requests do. -/
theorem freshRun_iff {idOf : String → String → DeviceID} {s t : System} {labels : List Label}
    (listening : Listening s.lib) (run : Run System.step (EndpointStep idOf) s labels t) :
    FreshRun (deviceSet s.lib.trace.length s.lib) (labels.map (deviceRequest idOf)) ↔
      Run System.step (fun s label => EndpointStep idOf s label ∧ FreshAnnouncement idOf s label)
        s labels t := by
  induction run with
  | nil => exact ⟨fun _ => .nil, fun _ => trivial⟩
  | @snoc labels state next label before admitted stepped ih =>
      rw [List.map_append, List.map_singleton, freshRun_snoc, ih,
        ← (endpointRun_simulates listening before).1]
      simp only [fresh_iff]
      constructor
      · rintro ⟨front, fresh⟩
        exact .snoc front ⟨admitted, fresh⟩ stepped
      · intro whole
        obtain ⟨state', front, ⟨_, fresh⟩, _⟩ := whole.snoc_inv
        cases Run.deterministic before front
        exact ⟨front, fresh⟩

/-- The log is faithful in every state of a run that announces only fresh
devices, and in no drained state of any other run. -/
theorem changeLog_faithful_iff (idOf : String → String → DeviceID) {s t : System}
    {labels : List Label} (listening : Listening s.lib) (start : OnlyNewOutstanding s.lib)
    (run : Run System.step (EndpointStep idOf) s labels t) :
    (Run System.step (fun s label => EndpointStep idOf s label ∧ FreshAnnouncement idOf s label)
        s labels t → FaithfulLog s.lib t.lib) ∧
      (t.lib.spawned = [] → FaithfulLog s.lib t.lib →
        Run System.step (fun s label => EndpointStep idOf s label ∧ FreshAnnouncement idOf s label)
          s labels t) := by
  rw [← freshRun_iff listening run]
  have whole := (endpointRun_simulates listening run).1
  have log : ∀ device, eventsSince s.lib t.lib device =
      kindsOf device (DeferredSet.exec (deviceSet s.lib.trace.length s.lib)
        (labels.map (deviceRequest idOf))).log := by
    intro device
    rw [← whole]
    rfl
  constructor
  · intro fresh device
    have tracked := (tracks_of_onlyNew start device).exec _ fresh
    rw [log]
    refine ⟨tracked.log_alternates, ?_⟩
    intro drained
    have idle := idle_of_drained s.lib.trace.length drained
    rw [whole] at idle
    rw [Bool.eq_iff_iff, ← tracked.present_iff_of_idle idle, ← whole]
    exact Iff.rfl
  · intro drained faithful
    have idle := idle_of_drained s.lib.trace.length drained
    rw [whole] at idle
    refine freshRun_of_faithful _ _ (tracks_of_onlyNew start) idle ?_
    intro device
    rw [← log]
    exact (faithful device).1

namespace Slot

/-- The endpoint goes, and comes back. -/
def replaced : System :=
  (exec System.step plugged [removed, .body, added, .body]).get (by decide)

theorem changeLog_faithful_replaced : FaithfulLog ready.lib replaced.lib := by
  have idle : ∀ {s : System}, FreshAnnouncement idOf s .body := by
    intro s device asked
    cases asked
  have gone : ∀ {s : System}, FreshAnnouncement idOf s removed := by
    intro s device asked
    cases asked
  have run : Run System.step (fun s label => EndpointStep idOf s label ∧ FreshAnnouncement idOf s label)
      ready ([added, .body] ++ [removed, .body, added, .body]) replaced := by
    refine .cons ⟨⟨by decide, by decide, ⟨_, rfl, rfl⟩, rfl⟩, ?_⟩ rfl (.cons ⟨trivial, idle⟩ rfl
      (.cons ⟨⟨by decide, by decide, by decide, rfl⟩, gone⟩ rfl (.cons ⟨trivial, idle⟩ rfl
      (.cons ⟨⟨by decide, by decide, ⟨_, rfl, rfl⟩, rfl⟩, ?_⟩ rfl (.cons ⟨trivial, idle⟩ rfl .nil)))))
    all_goals
      intro device asked
      cases asked
      exact ⟨by decide, fun _ queued => nomatch queued⟩
  exact (changeLog_faithful_iff idOf ⟨rfl, rfl⟩ (onlyNew_of_drained rfl)
    (run.mono fun _ _ => And.left)).1 run

example : eventsSince ready.lib replaced.lib device = [.added, .removed, .added] := by decide

/-- The service announces its endpoint twice. -/
def announcedAgain : System := (exec System.step plugged [added, .body]).get (by decide)

theorem changeLog_repeated :
    ready.Reachable ∧ Listening ready.lib ∧ ready.lib.spawned = [] ∧
      Run System.step (EndpointStep idOf) ready ([added, .body] ++ [added, .body]) announcedAgain ∧
      announcedAgain.lib.spawned = [] ∧ ¬ FaithfulLog ready.lib announcedAgain.lib := by
  have admitted : EndpointStep idOf plugged added := ⟨by decide, by decide, ⟨_, rfl, rfl⟩, rfl⟩
  refine ⟨ready_reachable, ⟨rfl, rfl⟩, rfl,
    plugged_run.append (.cons admitted rfl (.cons trivial rfl .nil)), rfl, ?_⟩
  intro faithful
  have events : eventsSince ready.lib announcedAgain.lib device = [.added, .added] := rfl
  have alternates := (faithful device).1
  rw [events] at alternates
  simp [Alternates] at alternates

end Slot

end Mctpw
