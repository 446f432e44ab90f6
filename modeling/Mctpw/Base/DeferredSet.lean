import Mathlib.Order.BooleanAlgebra.Set
import Mathlib.Data.List.Basic

set_option autoImplicit false

/- A set whose insertions wait in a queue of tasks while erasures take effect at
once. Every change is announced by the task it leaves in the queue, so an
announcement is made when its task runs, in queue order. -/
namespace DeferredSet

variable {κ : Type}

inductive Kind
  | added
  | removed
deriving DecidableEq

/-- An outstanding task: an insertion with its notice, or the notice of an
erasure that has already happened. -/
inductive Pending (κ : Type)
  | insert (key : κ)
  | notice (key : κ)
deriving DecidableEq

def Pending.entry : Pending κ → Kind × κ
  | .insert key => (.added, key)
  | .notice key => (.removed, key)

structure State (κ : Type) where
  present : Set κ
  queue : List (Pending κ)
  log : List (Kind × κ)

inductive Request (κ : Type)
  | insert (key : κ)
  | erase (key : κ)
  | run

open Classical in
/-- An erasure of an absent key leaves no notice. -/
noncomputable def step (s : State κ) : Request κ → State κ
  | .insert key => { s with queue := s.queue ++ [.insert key] }
  | .erase key =>
      if key ∈ s.present then
        { s with present := s.present \ {key}, queue := s.queue ++ [.notice key] }
      else s
  | .run =>
      match s.queue with
      | [] => s
      | .insert key :: rest => ⟨insert key s.present, rest, s.log ++ [(.added, key)]⟩
      | .notice key :: rest => ⟨s.present, rest, s.log ++ [(.removed, key)]⟩

noncomputable def exec (s : State κ) (requests : List (Request κ)) : State κ :=
  requests.foldl step s

@[simp] theorem exec_nil (s : State κ) : exec s [] = s := rfl

@[simp] theorem exec_cons (s : State κ) (request : Request κ) (requests : List (Request κ)) :
    exec s (request :: requests) = exec (step s request) requests := rfl

theorem exec_append (s : State κ) (first second : List (Request κ)) :
    exec s (first ++ second) = exec (exec s first) second := List.foldl_append

/-- An insertion of the key is still waiting. -/
def Owed (s : State κ) (key : κ) : Prop := Pending.insert key ∈ s.queue

/-- The request names the key. -/
def About (key : κ) (request : Request κ) : Prop :=
  request = .insert key ∨ request = .erase key

@[simp] theorem present_insert (s : State κ) (key : κ) :
    (step s (.insert key)).present = s.present := rfl

@[simp] theorem owed_insert (s : State κ) (key other : κ) :
    Owed (step s (.insert key)) other ↔ Owed s other ∨ other = key := by
  simp [Owed, step]

@[simp] theorem present_erase (s : State κ) (key : κ) :
    (step s (.erase key)).present = s.present \ {key} := by
  unfold step
  dsimp only
  split
  · rfl
  · rename_i absent
    exact (Set.sdiff_singleton_eq_self absent).symm

@[simp] theorem owed_erase (s : State κ) (key other : κ) :
    Owed (step s (.erase key)) other ↔ Owed s other := by
  unfold step
  dsimp only
  split <;> simp [Owed]

theorem owed_of_run {s : State κ} {key : κ} (owed : Owed (step s .run) key) : Owed s key := by
  unfold Owed at owed ⊢
  unfold step at owed
  dsimp only at owed
  split at owed
  · exact owed
  · rename_i first rest queued
    rw [queued]
    exact List.mem_cons_of_mem _ owed
  · rename_i first rest queued
    rw [queued]
    exact List.mem_cons_of_mem _ owed

/-- Another task leaves an insertion waiting. -/
theorem owed_run {s : State κ} {key : κ} (owed : Owed s key)
    (other : s.queue.head? ≠ some (.insert key)) : Owed (step s .run) key := by
  unfold Owed at owed ⊢
  unfold step
  dsimp only
  split
  · exact owed
  · rename_i first rest queued
    rw [queued] at owed other
    exact (List.mem_cons.mp owed).resolve_left fun same => other (by simp [same])
  · rename_i first rest queued
    rw [queued] at owed
    exact (List.mem_cons.mp owed).resolve_left fun same => by cases same

theorem step_kept (s : State κ) (request : Request κ) (key : κ)
    (other : request ≠ .erase key) (kept : key ∈ s.present ∨ Owed s key) :
    key ∈ (step s request).present ∨ Owed (step s request) key := by
  cases request with
  | insert inserted =>
      rw [present_insert, owed_insert]
      exact kept.imp_right .inl
  | erase erased =>
      have different : key ≠ erased := fun same => other (by rw [same])
      rw [present_erase, owed_erase]
      exact kept.imp_left fun held => ⟨held, different⟩
  | run =>
      unfold Owed at kept ⊢
      unfold step
      dsimp only
      split
      · exact kept
      · rename_i first rest queued
        simp only [queued, List.mem_cons, Pending.insert.injEq] at kept ⊢
        rcases kept with held | rfl | owed
        · exact .inl (.inr held)
        · exact .inl (.inl rfl)
        · exact .inr owed
      · rename_i first rest queued
        simpa only [queued, List.mem_cons, reduceCtorEq, false_or] using kept

theorem step_gone (s : State κ) (request : Request κ) (key : κ)
    (other : request ≠ .insert key) (gone : key ∉ s.present ∧ ¬ Owed s key) :
    key ∉ (step s request).present ∧ ¬ Owed (step s request) key := by
  obtain ⟨absent, free⟩ := gone
  cases request with
  | insert inserted =>
      have different : key ≠ inserted := fun same => other (by rw [same])
      rw [present_insert, owed_insert, not_or]
      exact ⟨absent, free, different⟩
  | erase erased =>
      rw [present_erase, owed_erase]
      exact ⟨fun held => absent held.1, free⟩
  | run =>
      unfold Owed at free ⊢
      unfold step
      dsimp only
      split
      · exact ⟨absent, free⟩
      · rename_i first rest queued
        simp only [queued, List.mem_cons, Pending.insert.injEq, not_or] at free ⊢
        refine ⟨?_, free.2⟩
        rintro (same | held)
        · exact free.1 same
        · exact absent held
      · rename_i first rest queued
        simp only [queued, List.mem_cons, reduceCtorEq, false_or] at free
        exact ⟨absent, free⟩

theorem exec_kept (s : State κ) (requests : List (Request κ)) (key : κ)
    (other : ∀ request ∈ requests, ¬ About key request)
    (kept : key ∈ s.present ∨ Owed s key) :
    key ∈ (exec s requests).present ∨ Owed (exec s requests) key := by
  induction requests generalizing s with
  | nil => exact kept
  | cons request requests ih =>
      have first := other request (by simp)
      exact ih (step s request) (fun later member => other later (by simp [member]))
        (step_kept s request key (fun same => first (.inr same)) kept)

theorem exec_gone (s : State κ) (requests : List (Request κ)) (key : κ)
    (other : ∀ request ∈ requests, ¬ About key request)
    (gone : key ∉ s.present ∧ ¬ Owed s key) :
    key ∉ (exec s requests).present ∧ ¬ Owed (exec s requests) key := by
  induction requests generalizing s with
  | nil => exact gone
  | cons request requests ih =>
      have first := other request (by simp)
      exact ih (step s request) (fun later member => other later (by simp [member]))
        (step_gone s request key (fun same => first (.inl same)) gone)

theorem not_owed_of_idle {s : State κ} (idle : s.queue = []) (key : κ) : ¬ Owed s key := by
  simp [Owed, idle]

/-- A key inserted last is present once the queue has drained. -/
theorem present_of_last_insert (s : State κ) (before after : List (Request κ)) (key : κ)
    (last : ∀ request ∈ after, ¬ About key request)
    (idle : (exec s (before ++ .insert key :: after)).queue = []) :
    key ∈ (exec s (before ++ .insert key :: after)).present := by
  rw [exec_append, exec_cons] at idle ⊢
  have owed : Owed (step (exec s before) (.insert key)) key := by simp
  rcases exec_kept _ after key last (.inr owed) with held | owed
  · exact held
  · exact absurd owed (not_owed_of_idle idle key)

/-- A key erased last is absent once the queue has drained, exactly when no
insertion of it was waiting at the erasure. -/
theorem absent_of_last_erase_iff (s : State κ) (before after : List (Request κ)) (key : κ)
    (last : ∀ request ∈ after, ¬ About key request)
    (idle : (exec s (before ++ .erase key :: after)).queue = []) :
    key ∉ (exec s (before ++ .erase key :: after)).present ↔ ¬ Owed (exec s before) key := by
  rw [exec_append, exec_cons] at idle ⊢
  generalize exec s before = s at idle ⊢
  constructor
  · intro absent owed
    have owed' : Owed (step s (.erase key)) key := (owed_erase s key key).mpr owed
    rcases exec_kept _ after key last (.inr owed') with held | owed''
    · exact absent held
    · exact not_owed_of_idle idle key owed''
  · intro free
    have gone : key ∉ (step s (.erase key)).present ∧ ¬ Owed (step s (.erase key)) key := by
      rw [present_erase, owed_erase]
      exact ⟨fun held => held.2 rfl, free⟩
    exact (exec_gone _ after key last gone).1

end DeferredSet
