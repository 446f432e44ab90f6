import Mathlib.Data.List.Basic

set_option autoImplicit false

/- A value followed through a queue of updates. A reader has been told some of
them; the others wait, oldest first, and the source is ahead by all of these. -/
namespace Feed

variable {σ ι : Type} {apply : σ → ι → σ} {allowed : σ → ι → Prop} {told value : σ}
  {queue : List ι} {update : ι} {count : Nat}

/-- The value once the oldest `count` waiting updates have been told. -/
def after (apply : σ → ι → σ) (told : σ) (queue : List ι) (count : Nat) : σ :=
  (queue.take count).foldl apply told

@[simp] theorem after_zero : after apply told queue 0 = told := rfl

theorem after_length : after apply told queue queue.length = queue.foldl apply told := by
  rw [after, List.take_length]

theorem after_push (within : count ≤ queue.length) :
    after apply told (queue ++ [update]) count = after apply told queue count := by
  rw [after, List.take_append_of_le_length within, after]

/-- Each waiting update is allowed at the value it will meet. -/
def Proper (apply : σ → ι → σ) (allowed : σ → ι → Prop) : σ → List ι → Prop
  | _, [] => True
  | told, update :: queue => allowed told update ∧ Proper apply allowed (apply told update) queue

theorem Proper.push (proper : Proper apply allowed told queue)
    (fine : allowed (queue.foldl apply told) update) :
    Proper apply allowed told (queue ++ [update]) := by
  induction queue generalizing told with
  | nil => exact ⟨fine, trivial⟩
  | cons first rest ih => exact ⟨proper.1, ih proper.2 fine⟩

/-- The value is one the updates still waiting lead through. -/
def Reached (apply : σ → ι → σ) (told : σ) (queue : List ι) (value : σ) : Prop :=
  ∃ count, count ≤ queue.length ∧ after apply told queue count = value

namespace Reached

theorem now : Reached apply told queue told := ⟨0, Nat.zero_le _, rfl⟩

theorem push (reached : Reached apply told queue value) :
    Reached apply told (queue ++ [update]) value := by
  obtain ⟨count, within, same⟩ := reached
  refine ⟨count, ?_, (after_push within).trans same⟩
  rw [List.length_append]
  omega

/-- Telling one update leaves it ahead unless it was the value told. -/
theorem pop (reached : Reached apply told (update :: queue) value) :
    value = told ∨ Reached apply (apply told update) queue value := by
  obtain ⟨count, within, same⟩ := reached
  cases count with
  | zero => exact .inl same.symm
  | succ count => exact .inr ⟨count, Nat.le_of_succ_le_succ within, same⟩

theorem of_nil (reached : Reached apply told [] value) : value = told := by
  obtain ⟨count, _, same⟩ := reached
  simpa [after] using same.symm

end Reached

end Feed
