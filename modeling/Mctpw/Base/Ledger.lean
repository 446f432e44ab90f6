import Mathlib.Algebra.GroupWithZero.Nat
import Mathlib.Data.List.Perm.Basic
import Mathlib.Order.WellFounded
import Mctpw.Base.Runs

set_option autoImplicit false

/- Bookkeeping along runs: what is paid for by what, and when there is nothing
left to do. -/
namespace Runs

variable {σ ι : Type} {step : σ → ι → Option σ} {admits : σ → ι → Prop} {start last : σ}
  {labels : List ι}

/-- What is written is the answers to the requests among the labels, one after the
other, each as of the labels before its own. -/
inductive AnsweredInTurn {ι κ ω : Type} (asks : ι → Option κ) (answers : List ι → κ → List ω → Prop) :
    List ι → List ω → Prop
  | nil : AnsweredInTurn asks answers [] []
  | aside {labels : List ι} {label : ι} {written : List ω} : asks label = none →
      AnsweredInTurn asks answers labels written → AnsweredInTurn asks answers (labels ++ [label]) written
  | asked {labels : List ι} {label : ι} {request : κ} {written words : List ω} :
      asks label = some request → answers labels request words →
      AnsweredInTurn asks answers labels written →
      AnsweredInTurn asks answers (labels ++ [label]) (written ++ words)

/-- What has been written step after step, each adding what it may write after the labels
before it. -/
inductive WrittenInTurn {ι ω : Type} (writes : List ι → ι → List ω → Prop) : List ι → List ω → Prop
  | nil : WrittenInTurn writes [] []
  | snoc {labels : List ι} {label : ι} {written words : List ω} :
      WrittenInTurn writes labels written → writes labels label words →
      WrittenInTurn writes (labels ++ [label]) (written ++ words)

namespace Run

/-- Books in which each step is covered, what it costs and what falls due with it by
what there was and what it brings in, are covered over the run. -/
theorem booked (assets dues : σ → Nat) (cost gain : ι → Nat)
    (entry : ∀ state label next, admits state label → step state label = some next →
      assets next + cost label + dues state ≤ assets state + gain label + dues next)
    (run : Run step admits start labels last) :
    assets last + (labels.map cost).sum + dues start ≤
      assets start + (labels.map gain).sum + dues last := by
  induction run with
  | nil => exact Nat.le_refl _
  | snoc _ admitted stepped ih =>
      have paid := entry _ _ _ admitted stepped
      simp only [List.map_append, List.sum_append, List.map_cons, List.map_nil, List.sum_cons,
        List.sum_nil]
      omega

/-- Steps whose cost the potential covers, up to what they bring in, cost no more
in all than the potential and all that was brought in. -/
theorem amortized (potential : σ → Nat) (cost gain : ι → Nat)
    (covered : ∀ state label next, admits state label → step state label = some next →
      potential next + cost label ≤ potential state + gain label)
    (run : Run step admits start labels last) :
    potential last + (labels.map cost).sum ≤ potential start + (labels.map gain).sum :=
  run.booked potential (fun _ => 0) cost gain covered

/-- Books whose assets each step covers are covered over the run. -/
theorem covered (assets dues : σ → Nat) (moved : ι → Nat)
    (entry : ∀ state label next, admits state label → step state label = some next →
      assets next + dues state ≤ assets state + moved label + dues next)
    (run : Run step admits start labels last) :
    assets last + dues start ≤ assets start + (labels.map moved).sum + dues last := by
  simpa using run.booked assets dues (fun _ => 0) moved entry

/-- Books that balance at each step balance over the run. -/
theorem balanced (assets dues : σ → Nat) (moved : ι → Nat)
    (entry : ∀ state label next, admits state label → step state label = some next →
      assets next + dues state = assets state + moved label + dues next)
    (run : Run step admits start labels last) :
    assets last + dues start = assets start + (labels.map moved).sum + dues last := by
  apply Nat.le_antisymm
  · exact run.covered assets dues moved fun _ _ _ admitted stepped =>
      (entry _ _ _ admitted stepped).le
  · have back := run.booked dues assets moved (fun _ => 0) fun state label next admitted stepped => by
      have even := entry state label next admitted stepped
      omega
    have free : (labels.map fun _ => 0).sum = 0 := by simp
    omega

/-- An account that each step extends by a word at most, of which it is the cause, has
been written word by word by some of the steps, in their order. -/
theorem caused {ω : Type} (account : σ → List ω) (causes : ω → ι → Prop)
    (empty : account start = [])
    (extended : ∀ state label next, admits state label → step state label = some next →
      ∃ words, account next = account state ++ words ∧
        (words = [] ∨ ∃ word, words = [word] ∧ causes word label))
    (run : Run step admits start labels last) :
    ∃ steps, List.Sublist steps labels ∧ List.Forall₂ causes (account last) steps := by
  induction run with
  | nil => exact ⟨[], List.nil_sublist _, by rw [empty]; exact .nil⟩
  | @snoc labels state next label _ admitted stepped ih =>
      obtain ⟨steps, among, written⟩ := ih
      obtain ⟨words, grown, few⟩ := extended _ _ _ admitted stepped
      rw [grown]
      rcases few with rfl | ⟨word, rfl, cause⟩
      · refine ⟨steps, among.trans (List.sublist_append_left _ _), ?_⟩
        rwa [List.append_nil]
      · exact ⟨steps ++ [label], among.append (.refl _),
          List.rel_append written (.cons cause .nil)⟩

/-- An account that each step adds to as it may at its own time has been written in turn. -/
theorem written {ω : Type} (account : σ → List ω) (writes : List ι → ι → List ω → Prop)
    (empty : account start = [])
    (extended : ∀ labels state label next, Run step admits start labels state →
      step state label = some next →
        ∃ words, account next = account state ++ words ∧ writes labels label words)
    (run : Run step admits start labels last) : WrittenInTurn writes labels (account last) := by
  induction run with
  | nil =>
      rw [empty]
      exact .nil
  | @snoc labels state next label before _ stepped ih =>
      obtain ⟨words, grown, fine⟩ := extended labels state label next before stepped
      rw [grown]
      exact .snoc ih fine

/-- An account that only requests write to, each at its own time, holds their answers. -/
theorem answered {ω κ : Type} (account : σ → List ω) (asks : ι → Option κ)
    (answers : List ι → κ → List ω → Prop) (empty : account start = [])
    (extended : ∀ labels state label next, Run step admits start labels state →
      step state label = some next →
        match asks label with
        | some request => ∃ words, answers labels request words ∧ account next = account state ++ words
        | none => account next = account state)
    (run : Run step admits start labels last) : AnsweredInTurn asks answers labels (account last) := by
  induction run with
  | nil =>
      rw [empty]
      exact .nil
  | @snoc labels state next label before _ stepped ih =>
      have entry := extended labels state label next before stepped
      cases asked : asks label with
      | none =>
          rw [asked] at entry
          rw [entry]
          exact .aside asked ih
      | some request =>
          rw [asked] at entry
          obtain ⟨words, answer, grown⟩ := entry
          rw [grown]
          exact .asked asked answer ih

/-- Wherever the goal is not met some admitted step comes closer to it, so it is
met in the end. -/
theorem reaches {α : Type} {closer : α → α → Prop} (founded : WellFounded closer) (rank : σ → α)
    (holds goal : σ → Prop)
    (advances : ∀ state, holds state → ¬ goal state → ∃ label next, admits state label ∧
      step state label = some next ∧ holds next ∧ closer (rank next) (rank state))
    (initial : holds start) : ∃ labels last, Run step admits start labels last ∧ goal last := by
  induction measured : rank start using founded.induction generalizing start with
  | _ value ih =>
      by_cases met : goal start
      · exact ⟨[], start, .nil, met⟩
      · obtain ⟨label, next, admitted, stepped, kept, nearer⟩ := advances start initial met
        rw [measured] at nearer
        obtain ⟨labels, last, rest, met⟩ := ih (rank next) nearer kept rfl
        exact ⟨label :: labels, last, .cons admitted stepped rest, met⟩

end Run

end Runs
