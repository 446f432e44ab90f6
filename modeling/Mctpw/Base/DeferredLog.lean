import Mathlib.Data.List.Nodup
import Mctpw.Base.DeferredSet

set_option autoImplicit false

/- When the notices of a deferred set are a faithful log of its membership. -/
namespace DeferredSet

variable {κ : Type}

/-- The entries alternate, starting from a key that is held or not. -/
def Alternates : Bool → List Kind → Prop
  | _, [] => True
  | held, kind :: kinds => (kind = .added ↔ held = false) ∧ Alternates (kind = .added) kinds

/-- Whether the key is held after the entries. -/
def heldAfter : Bool → List Kind → Bool
  | held, [] => held
  | _, kind :: kinds => heldAfter (kind = .added) kinds

theorem alternates_append (held : Bool) (first second : List Kind) :
    Alternates held (first ++ second) ↔
      Alternates held first ∧ Alternates (heldAfter held first) second := by
  induction first generalizing held with
  | nil => simp [Alternates, heldAfter]
  | cons kind kinds ih => simp only [List.cons_append, Alternates, heldAfter, ih, and_assoc]

theorem heldAfter_append (held : Bool) (first second : List Kind) :
    heldAfter held (first ++ second) = heldAfter (heldAfter held first) second := by
  induction first generalizing held with
  | nil => rfl
  | cons kind kinds ih => exact ih _

theorem step_erase_absent {s : State κ} {erased : κ} (absent : erased ∉ s.present) :
    step s (.erase erased) = s := by
  simp [step, absent]

/-- Neither in the set nor on its way there. -/
def Fresh (s : State κ) (key : κ) : Prop := key ∉ s.present ∧ ¬ Owed s key

/-- Every insertion of a run is of a fresh key. -/
def FreshRun : State κ → List (Request κ) → Prop
  | _, [] => True
  | s, request :: requests =>
      (∀ key, request = .insert key → Fresh s key) ∧ FreshRun (step s request) requests

theorem freshRun_snoc (s : State κ) (requests : List (Request κ)) (request : Request κ) :
    FreshRun s (requests ++ [request]) ↔
      FreshRun s requests ∧ ∀ key, request = .insert key → Fresh (exec s requests) key := by
  induction requests generalizing s with
  | nil => simp [FreshRun]
  | cons first requests ih => simp only [List.cons_append, FreshRun, ih, exec_cons, and_assoc]

section Keys

variable [DecidableEq κ]

/-- What the entries say about one key. -/
def kindsOf (key : κ) (entries : List (Kind × κ)) : List Kind :=
  entries.filterMap fun entry => if entry.2 = key then some entry.1 else none

theorem kindsOf_append (key : κ) (first second : List (Kind × κ)) :
    kindsOf key (first ++ second) = kindsOf key first ++ kindsOf key second :=
  List.filterMap_append

@[simp] theorem kindsOf_single_self (key : κ) (kind : Kind) :
    kindsOf key [(kind, key)] = [kind] := by
  simp [kindsOf]

theorem kindsOf_single_ne {key other : κ} (different : other ≠ key) (kind : Kind) :
    kindsOf key [(kind, other)] = [] := by
  simp [kindsOf, different]

/-- What has been announced of a key, and then what is about to be. -/
def announced (s : State κ) (key : κ) : List Kind :=
  kindsOf key (s.log ++ s.queue.map Pending.entry)

theorem announced_of_idle {s : State κ} (idle : s.queue = []) (key : κ) :
    announced s key = kindsOf key s.log := by
  simp [announced, idle]

/-- Running a task only moves its announcement from the queue to the log. -/
theorem announced_run (s : State κ) (key : κ) :
    announced (step s .run) key = announced s key := by
  unfold announced step
  dsimp only
  split
  · rfl
  · rename_i first rest queued
    simp [queued, Pending.entry]
  · rename_i first rest queued
    simp [queued, Pending.entry]

theorem announced_insert (s : State κ) (inserted key : κ) :
    announced (step s (.insert inserted)) key =
      announced s key ++ kindsOf key [(.added, inserted)] := by
  simp [announced, step, Pending.entry, kindsOf_append]

theorem announced_erase_present {s : State κ} {erased : κ} (held : erased ∈ s.present) (key : κ) :
    announced (step s (.erase erased)) key =
      announced s key ++ kindsOf key [(.removed, erased)] := by
  simp [announced, step, held, Pending.entry, kindsOf_append]

theorem announced_grows (s : State κ) (request : Request κ) (key : κ) :
    ∃ more, announced (step s request) key = announced s key ++ more := by
  cases request with
  | insert inserted => exact ⟨_, announced_insert s inserted key⟩
  | erase erased =>
      by_cases held : erased ∈ s.present
      · exact ⟨_, announced_erase_present held key⟩
      · exact ⟨[], by rw [step_erase_absent held, List.append_nil]⟩
  | run => exact ⟨[], by rw [announced_run, List.append_nil]⟩

theorem announced_exec_grows (s : State κ) (requests : List (Request κ)) (key : κ) :
    ∃ more, announced (exec s requests) key = announced s key ++ more := by
  induction requests generalizing s with
  | nil => exact ⟨[], (List.append_nil _).symm⟩
  | cons request requests ih =>
      obtain ⟨first, grown⟩ := announced_grows s request key
      obtain ⟨more, later⟩ := ih (step s request)
      exact ⟨first ++ more, by rw [exec_cons, later, grown, List.append_assoc]⟩

/-- The announcements of a key keep pace with the set. -/
structure Tracks (held : Bool) (s : State κ) (key : κ) : Prop where
  alternates : Alternates held (announced s key)
  once : s.queue.count (.insert key) ≤ 1
  apart : key ∈ s.present → ¬ Owed s key
  agrees : heldAfter held (announced s key) = true ↔ key ∈ s.present ∨ Owed s key

/-- Insertions of absent keys, each waiting once. -/
def OnlyFresh (s : State κ) : Prop :=
  s.queue.Nodup ∧ ∀ task ∈ s.queue, ∃ key, task = .insert key ∧ key ∉ s.present

theorem kindsOf_inserts (key : κ) (queue : List (Pending κ))
    (inserts : ∀ task ∈ queue, ∃ key, task = .insert key) :
    kindsOf key (queue.map Pending.entry) = List.replicate (queue.count (.insert key)) .added := by
  induction queue with
  | nil => rfl
  | cons task queue ih =>
      obtain ⟨inserted, rfl⟩ := inserts task (by simp)
      have rest := ih fun task member => inserts task (List.mem_cons_of_mem _ member)
      rw [List.map_cons, ← List.singleton_append, kindsOf_append, rest]
      by_cases same : inserted = key
      · subst same
        rw [Pending.entry, kindsOf_single_self, List.count_cons_self, List.replicate_succ]
        rfl
      · rw [Pending.entry, kindsOf_single_ne same, List.nil_append, List.count_cons_of_ne]
        simpa using same

/-- A log that starts with only fresh insertions waiting is faithful so far. -/
theorem tracks_of_onlyFresh {s : State κ} (fresh : OnlyFresh s) (empty : s.log = [])
    (key : κ) {held : Bool} (initially : held = true ↔ key ∈ s.present) : Tracks held s key := by
  have inserts : ∀ task ∈ s.queue, ∃ key, task = .insert key := by
    intro task member
    obtain ⟨inserted, same, _⟩ := fresh.2 task member
    exact ⟨inserted, same⟩
  have shown : announced s key = List.replicate (s.queue.count (.insert key)) .added := by
    rw [announced, empty, List.nil_append, kindsOf_inserts key s.queue inserts]
  have once : s.queue.count (.insert key) ≤ 1 := List.nodup_iff_count_le_one.mp fresh.1 _
  have apart : key ∈ s.present → ¬ Owed s key := by
    intro present owed
    obtain ⟨inserted, same, absent⟩ := fresh.2 _ owed
    cases same
    exact absent present
  by_cases owed : Owed s key
  · have absent : key ∉ s.present := fun present => apart present owed
    have single : s.queue.count (.insert key) = 1 :=
      Nat.le_antisymm once (List.count_pos_iff.mpr owed)
    have unheld : held = false := by
      rw [Bool.eq_false_iff]
      exact fun here => absent (initially.mp here)
    rw [single] at shown
    refine ⟨?_, once, apart, ?_⟩
    · simp [shown, Alternates, unheld]
    · simp [shown, heldAfter, owed]
  · have none : s.queue.count (.insert key) = 0 := List.count_eq_zero.mpr owed
    rw [none] at shown
    refine ⟨?_, once, apart, ?_⟩
    · simp [shown, Alternates]
    · simp [shown, heldAfter, initially, owed]

theorem Tracks.insert_self {held : Bool} {s : State κ} {key : κ} (tracks : Tracks held s key)
    (fresh : Fresh s key) : Tracks held (DeferredSet.step s (.insert key)) key := by
  have before : heldAfter held (announced s key) = false := by
    rw [Bool.eq_false_iff]
    intro here
    exact (tracks.agrees.mp here).elim fresh.1 fresh.2
  have none : s.queue.count (.insert key) = 0 := List.count_eq_zero.mpr fresh.2
  have owed : Owed (DeferredSet.step s (.insert key)) key := by simp
  refine ⟨?_, ?_, fun present => absurd present fresh.1, ?_⟩
  · rw [announced_insert, kindsOf_single_self, alternates_append, before]
    exact ⟨tracks.alternates, by simp [Alternates]⟩
  · simp [DeferredSet.step, List.count_append, none]
  · rw [announced_insert, kindsOf_single_self, heldAfter_append]
    simp [heldAfter, owed]

theorem Tracks.insert_other {held : Bool} {s : State κ} {inserted key : κ}
    (tracks : Tracks held s key) (different : inserted ≠ key) :
    Tracks held (DeferredSet.step s (.insert inserted)) key := by
  have owed : Owed (DeferredSet.step s (.insert inserted)) key ↔ Owed s key := by
    simp [Ne.symm different]
  have same : announced (DeferredSet.step s (.insert inserted)) key = announced s key := by
    rw [announced_insert, kindsOf_single_ne different, List.append_nil]
  refine ⟨by rw [same]; exact tracks.alternates, ?_, ?_, ?_⟩
  · simpa [DeferredSet.step, List.count_append, different] using tracks.once
  · rw [owed]
    exact tracks.apart
  · rw [same, owed]
    exact tracks.agrees

theorem Tracks.erase_self {held : Bool} {s : State κ} {key : κ} (tracks : Tracks held s key)
    (present : key ∈ s.present) : Tracks held (DeferredSet.step s (.erase key)) key := by
  have here : heldAfter held (announced s key) = true := tracks.agrees.mpr (.inl present)
  have free := tracks.apart present
  have gone : key ∉ (DeferredSet.step s (.erase key)).present ∧
      ¬ Owed (DeferredSet.step s (.erase key)) key := by
    rw [present_erase, owed_erase]
    exact ⟨fun held => held.2 rfl, free⟩
  refine ⟨?_, ?_, fun _ => gone.2, ?_⟩
  · rw [announced_erase_present present, kindsOf_single_self, alternates_append, here]
    exact ⟨tracks.alternates, by simp [Alternates]⟩
  · simpa [DeferredSet.step, present, List.count_append] using tracks.once
  · rw [announced_erase_present present, kindsOf_single_self, heldAfter_append]
    simp [heldAfter, gone]

theorem Tracks.erase_other {held : Bool} {s : State κ} {erased key : κ}
    (tracks : Tracks held s key) (present : erased ∈ s.present) (different : erased ≠ key) :
    Tracks held (DeferredSet.step s (.erase erased)) key := by
  have owed := owed_erase s erased key
  have kept : key ∈ (DeferredSet.step s (.erase erased)).present ↔ key ∈ s.present := by
    simp [Ne.symm different]
  have same : announced (DeferredSet.step s (.erase erased)) key = announced s key := by
    rw [announced_erase_present present, kindsOf_single_ne different, List.append_nil]
  refine ⟨by rw [same]; exact tracks.alternates, ?_, ?_, ?_⟩
  · simpa [DeferredSet.step, present, List.count_append] using tracks.once
  · rw [owed, kept]
    exact tracks.apart
  · rw [same, owed, kept]
    exact tracks.agrees

theorem Tracks.run {held : Bool} {s : State κ} {key : κ} (tracks : Tracks held s key) :
    Tracks held (DeferredSet.step s .run) key := by
  have alternates := tracks.alternates
  have agrees := tracks.agrees
  have once := tracks.once
  have apart := tracks.apart
  rw [← announced_run] at alternates agrees
  refine ⟨alternates, ?_, ?_, agrees.trans ?_⟩
  all_goals
    unfold DeferredSet.step
    dsimp only
    unfold Owed at *
    split
  · exact once
  · rename_i first rest queued
    rw [queued, List.count_cons] at once
    dsimp only
    omega
  · rename_i first rest queued
    rw [queued, List.count_cons] at once
    dsimp only
    omega
  · exact apart
  · rename_i first rest queued
    rw [queued] at once apart
    rintro (same | present) owed
    · -- The task that ran was the only insertion of its key.
      subst same
      have positive : 0 < rest.count (.insert key) := List.count_pos_iff.mpr owed
      rw [List.count_cons_self] at once
      omega
    · exact apart present (List.mem_cons_of_mem _ owed)
  · rename_i first rest queued
    rw [queued] at apart
    intro present owed
    exact apart present (List.mem_cons_of_mem _ owed)
  · rfl
  · rename_i first rest queued
    simp only [queued, List.mem_cons, Pending.insert.injEq, Set.mem_insert_iff]
    tauto
  · rename_i first rest queued
    simp only [queued, List.mem_cons, reduceCtorEq, false_or]

theorem Tracks.step {held : Bool} {s : State κ} {key : κ} (tracks : Tracks held s key)
    (request : Request κ) (fresh : request = .insert key → Fresh s key) :
    Tracks held (DeferredSet.step s request) key := by
  cases request with
  | insert inserted =>
      by_cases same : inserted = key
      · subst same
        exact tracks.insert_self (fresh rfl)
      · exact tracks.insert_other same
  | erase erased =>
      by_cases present : erased ∈ s.present
      · by_cases same : erased = key
        · subst same
          exact tracks.erase_self present
        · exact tracks.erase_other present same
      · rw [step_erase_absent present]
        exact tracks
  | run => exact tracks.run

/-- Only a fresh insertion keeps the announcements alternating. -/
theorem Tracks.fresh_of_alternates {held : Bool} {s : State κ} {key : κ}
    (tracks : Tracks held s key)
    (alternates : Alternates held (announced (DeferredSet.step s (.insert key)) key)) :
    Fresh s key := by
  rw [announced_insert, kindsOf_single_self, alternates_append] at alternates
  have absent : heldAfter held (announced s key) = false := by
    simpa [Alternates] using alternates.2
  have agrees := tracks.agrees
  rw [absent] at agrees
  simpa [Fresh] using agrees

theorem Tracks.exec {held : Bool} {s : State κ} {key : κ} (tracks : Tracks held s key)
    (requests : List (Request κ)) (fresh : FreshRun s requests) :
    Tracks held (exec s requests) key := by
  induction requests generalizing s with
  | nil => exact tracks
  | cons request requests ih =>
      exact ih (tracks.step request (fresh.1 key)) fresh.2

/-- The log so far is always a faithful beginning. -/
theorem Tracks.log_alternates {held : Bool} {s : State κ} {key : κ}
    (tracks : Tracks held s key) : Alternates held (kindsOf key s.log) := by
  have whole := tracks.alternates
  rw [announced, kindsOf_append, alternates_append] at whole
  exact whole.1

theorem Tracks.present_iff_of_idle {held : Bool} {s : State κ} {key : κ}
    (tracks : Tracks held s key) (idle : s.queue = []) :
    key ∈ s.present ↔ heldAfter held (kindsOf key s.log) = true := by
  rw [← announced_of_idle idle, tracks.agrees]
  simp [not_owed_of_idle idle key]

theorem freshRun_of_alternates {held : κ → Bool} (requests : List (Request κ)) (s : State κ)
    (tracks : ∀ key, Tracks (held key) s key)
    (alternates : ∀ key, Alternates (held key) (announced (DeferredSet.exec s requests) key)) :
    FreshRun s requests := by
  induction requests generalizing s with
  | nil => exact trivial
  | cons request requests ih =>
      have fresh : ∀ key, request = .insert key → Fresh s key := by
        rintro key rfl
        obtain ⟨more, grown⟩ := announced_exec_grows (step s (.insert key)) requests key
        have whole := alternates key
        rw [exec_cons, grown, alternates_append] at whole
        exact (tracks key).fresh_of_alternates whole.1
      exact ⟨fresh, ih (step s request) (fun key => (tracks key).step request (fresh key))
        alternates⟩

/-- A drained run with a faithful log of every key inserted only fresh keys. -/
theorem freshRun_of_faithful {held : κ → Bool} (requests : List (Request κ)) (s : State κ)
    (tracks : ∀ key, Tracks (held key) s key) (idle : (exec s requests).queue = [])
    (faithful : ∀ key, Alternates (held key) (kindsOf key (exec s requests).log)) :
    FreshRun s requests := by
  apply freshRun_of_alternates requests s tracks
  intro key
  rw [announced_of_idle idle]
  exact faithful key

end Keys

end DeferredSet
