import Mathlib.Data.List.Induction

set_option autoImplicit false

/- Runs of labelled step functions. Everything an environment may choose is in
the label, so a step is a partial function of the state and its label. -/
namespace Runs

variable {σ ι : Type} {step : σ → ι → Option σ} {start : σ}

/-- The state after a list of labels, every one of them taken in a state that
admits it. -/
inductive Run (step : σ → ι → Option σ) (admits : σ → ι → Prop) (start : σ) :
    List ι → σ → Prop
  | nil : Run step admits start [] start
  | snoc {labels : List ι} {state next : σ} {label : ι} :
      Run step admits start labels state → admits state label →
      step state label = some next → Run step admits start (labels ++ [label]) next

/-- Every step is admitted. -/
def Any (_ : σ) (_ : ι) : Prop := True

namespace Run

variable {admits : σ → ι → Prop}

theorem mono {weaker : σ → ι → Prop} (implied : ∀ state label, admits state label → weaker state label)
    {labels : List ι} {state : σ} (run : Run step admits start labels state) :
    Run step weaker start labels state := by
  induction run with
  | nil => exact .nil
  | snoc _ admitted stepped ih => exact .snoc ih (implied _ _ admitted) stepped

/-- A run whose labels are admitted in any state. -/
theorem admitted {admits' : σ → ι → Prop} {labels : List ι} {state : σ}
    (run : Run step admits start labels state)
    (always : ∀ state, ∀ label ∈ labels, admits' state label) :
    Run step admits' start labels state := by
  induction run with
  | nil => exact .nil
  | snoc _ _ stepped ih =>
      refine .snoc (ih ?_) (always _ _ (by simp)) stepped
      exact fun state label member => always state label (List.mem_append_left _ member)

/-- What holds at the start and survives every admitted step holds at the end. -/
theorem invariant (holds : σ → Prop) (initial : holds start)
    (preserved : ∀ state label next, holds state → admits state label →
      step state label = some next → holds next)
    {labels : List ι} {state : σ} (run : Run step admits start labels state) : holds state := by
  induction run with
  | nil => exact initial
  | snoc _ admitted stepped ih => exact preserved _ _ _ ih admitted stepped

/-- What holds all along may be counted on at every step. -/
theorem keeping (holds : σ → Prop) (initial : holds start)
    (preserved : ∀ state label next, holds state → admits state label →
      step state label = some next → holds next)
    {labels : List ι} {state : σ} (run : Run step admits start labels state) :
    Run step (fun state label => holds state ∧ admits state label) start labels state := by
  induction run with
  | nil => exact .nil
  | snoc before admitted stepped ih =>
      exact .snoc ih ⟨invariant holds initial preserved before, admitted⟩ stepped

theorem append {first second : List ι} {middle last : σ}
    (before : Run step admits start first middle) (after : Run step admits middle second last) :
    Run step admits start (first ++ second) last := by
  induction after with
  | nil => simpa only [List.append_nil] using before
  | snoc _ admitted stepped ih =>
      rw [← List.append_assoc]
      exact .snoc ih admitted stepped

theorem cons {label : ι} {labels : List ι} {next last : σ} (admitted : admits start label)
    (stepped : step start label = some next) (rest : Run step admits next labels last) :
    Run step admits start (label :: labels) last :=
  append (.snoc .nil admitted stepped) rest

theorem nil_inv {last : σ} (run : Run step admits start [] last) : last = start := by
  generalize whole : ([] : List ι) = all at run
  cases run with
  | nil => rfl
  | snoc _ _ _ => simp at whole

theorem snoc_inv {labels : List ι} {label : ι} {last : σ}
    (run : Run step admits start (labels ++ [label]) last) :
    ∃ state, Run step admits start labels state ∧ admits state label ∧
      step state label = some last := by
  generalize whole : labels ++ [label] = all at run
  cases run with
  | nil => simp at whole
  | snoc before admitted stepped =>
      obtain ⟨same, last⟩ := List.append_inj' whole rfl
      cases same
      cases last
      exact ⟨_, before, admitted, stepped⟩

theorem append_inv {first second : List ι} {last : σ}
    (run : Run step admits start (first ++ second) last) :
    ∃ middle, Run step admits start first middle ∧ Run step admits middle second last := by
  induction second using List.reverseRecOn generalizing last with
  | nil => exact ⟨last, by simpa only [List.append_nil] using run, .nil⟩
  | append_singleton second label ih =>
      rw [← List.append_assoc] at run
      obtain ⟨state, before, admitted, stepped⟩ := snoc_inv run
      obtain ⟨middle, front, back⟩ := ih before
      exact ⟨middle, front, .snoc back admitted stepped⟩

/-- A second system follows a run on the labels it is shown, when each of their
steps keeps the two related and no other step breaks the relation. -/
theorem simulates {σ' : Type} {step' : σ' → ι → Option σ'} {start' : σ'}
    (related : σ → σ' → Prop) (shown : ι → Bool) (initial : related start start')
    (followed : ∀ state state' label next, related state state' → admits state label →
      shown label = true → step state label = some next →
        ∃ next', step' state' label = some next' ∧ related next next')
    (unseen : ∀ state state' label next, related state state' → admits state label →
      shown label = false → step state label = some next → related next state')
    {labels : List ι} {state : σ} (run : Run step admits start labels state) :
    ∃ state', Run step' Any start' (labels.filter shown) state' ∧ related state state' := by
  induction run with
  | nil => exact ⟨start', .nil, initial⟩
  | @snoc labels state next label _ admitted stepped ih =>
      obtain ⟨state', before, same⟩ := ih
      cases visible : shown label with
      | true =>
          obtain ⟨next', stepped', same'⟩ := followed _ _ _ _ same admitted visible stepped
          rw [List.filter_append, List.filter_cons_of_pos visible, List.filter_nil]
          exact ⟨next', .snoc before trivial stepped', same'⟩
      | false =>
          have hidden : ¬ shown label = true := by simp [visible]
          rw [List.filter_append, List.filter_cons_of_neg hidden, List.filter_nil, List.append_nil]
          exact ⟨state', before, unseen _ _ _ _ same admitted visible stepped⟩

/-- A run is determined by its labels, whatever its steps are admitted by. -/
theorem deterministic {admits' : σ → ι → Prop} {labels : List ι} {left right : σ}
    (run : Run step admits start labels left) (run' : Run step admits' start labels right) :
    left = right := by
  induction run generalizing right with
  | nil => exact (nil_inv run').symm
  | snoc _ _ stepped ih =>
      obtain ⟨state, before, _, stepped'⟩ := snoc_inv run'
      rw [ih before, stepped'] at stepped
      exact (Option.some.inj stepped).symm

end Run

/-- The run takes the label in the state, somewhere on its way. -/
def Visits (step : σ → ι → Option σ) (start : σ) (labels : List ι) (state : σ) (label : ι) : Prop :=
  ∃ before after, labels = before ++ label :: after ∧ Run step Any start before state

namespace Visits

variable {labels : List ι} {state last : σ} {label : ι}

theorem now (run : Run step Any start labels state) :
    Visits step start (labels ++ [label]) state label :=
  ⟨labels, [], rfl, run⟩

theorem later (visits : Visits step start labels state label) (more : List ι) :
    Visits step start (labels ++ more) state label := by
  obtain ⟨before, after, rfl, run⟩ := visits
  exact ⟨before, after ++ more, by simp, run⟩

/-- A longer run has been where the shorter one was, and where it took its last label. -/
theorem snoc_cases {next : ι} (visits : Visits step start (labels ++ [next]) state label) :
    Visits step start labels state label ∨ (label = next ∧ Run step Any start labels state) := by
  obtain ⟨before, after, split, run⟩ := visits
  rcases List.eq_nil_or_concat after with rfl | ⟨front, other, rfl⟩
  · obtain ⟨same, last⟩ := List.append_inj' split rfl
    cases List.singleton_inj.mp last
    exact .inr ⟨rfl, same ▸ run⟩
  · have whole : labels ++ [next] = (before ++ label :: front) ++ [other] := by
      rw [split]
      simp
    exact .inl ⟨before, front, (List.append_inj' whole rfl).1, run⟩

/-- What a run visits on its way it has reached by admitted steps, and goes on from. -/
theorem admitted {admits : σ → ι → Prop} (visits : Visits step start labels state label)
    (run : Run step admits start labels last) :
    ∃ before after next, labels = before ++ label :: after ∧ Run step admits start before state ∧
      admits state label ∧ step state label = some next ∧ Run step admits next after last := by
  obtain ⟨before, after, rfl, reached⟩ := visits
  have split : before ++ label :: after = before ++ [label] ++ after := by simp
  rw [split] at run
  obtain ⟨next, first, rest⟩ := run.append_inv
  obtain ⟨middle, front, admits, stepped⟩ := first.snoc_inv
  cases Run.deterministic reached front
  exact ⟨before, after, next, rfl, front, admits, stepped, rest⟩

end Visits

/-- A run is admitted by whatever each of its steps is admitted by. -/
theorem Run.visited {admits admits' : σ → ι → Prop} {labels : List ι} {last : σ}
    (run : Run step admits start labels last)
    (each : ∀ state label, Visits step start labels state label → admits state label →
      admits' state label) : Run step admits' start labels last := by
  induction run with
  | nil => exact .nil
  | snoc before admitted stepped ih =>
      refine .snoc (ih fun state label visits => each state label (visits.later _)) ?_ stepped
      exact each _ _ (.now (before.mono fun _ _ _ => trivial)) admitted

/-- Execute a list of labels. -/
def exec (step : σ → ι → Option σ) : σ → List ι → Option σ
  | state, [] => some state
  | state, label :: labels => (step state label).bind fun next => exec step next labels

theorem Run.of_exec {labels : List ι} {last : σ} (done : exec step start labels = some last) :
    Run step Any start labels last := by
  induction labels generalizing start with
  | nil =>
      cases done
      exact .nil
  | cons label labels ih =>
      obtain ⟨next, stepped, rest⟩ := Option.bind_eq_some_iff.mp done
      exact .cons trivial stepped (ih rest)

end Runs
