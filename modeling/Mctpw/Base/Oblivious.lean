import Mathlib.Logic.Function.Conjugate

set_option autoImplicit false

/- State functions that neither read nor write what a change of the state is
about: they can be run before the change or after it. -/

/-- The result is the same after the change, and the state is, but for the change. -/
def Oblivious {σ α : Type} (change : σ → σ) (f : σ → α × σ) : Prop :=
  ∀ s, f (change s) = ((f s).1, change (f s).2)

namespace Oblivious

variable {σ α β ω : Type} {change : σ → σ}

theorem const (value : α) : Oblivious change fun s => (value, s) := fun _ => rfl

theorem snd {f : σ → α × σ} (oblivious : Oblivious change f) :
    Function.Commute (fun s => (f s).2) change := fun s => congrArg Prod.snd (oblivious s)

/-- One function and then another that goes by its result. -/
theorem bind {f : σ → α × σ} {g : α → σ → β × σ} (first : Oblivious change f)
    (second : ∀ value, Oblivious change (g value)) :
    Oblivious change fun s => g (f s).1 (f s).2 := by
  intro s
  dsimp only
  rw [first s]
  exact second (f s).1 (f s).2

/-- A fold of commuting updates commutes. -/
theorem commute_foldl {update : σ → ω → σ}
    (commute : ∀ value, Function.Commute (fun s => update s value) change) (values : List ω) :
    Function.Commute (fun s => values.foldl update s) change := by
  intro s
  exact List.foldl_hom change fun state value => commute value state

end Oblivious
