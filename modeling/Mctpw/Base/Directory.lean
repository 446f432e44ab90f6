import Mathlib.Data.Set.Insert
import Mathlib.Logic.Function.Basic
import Mctpw.Base.DeferredSet
import Mctpw.Base.Runs

set_option autoImplicit false

/- A directory that members fill once it has been opened. A key is withdrawn at
once and announced in turn, the table may be replaced as a whole, and every change
but a replacement is told in the order it was asked for. -/
namespace Directory

open Runs DeferredSet

variable {σ κ ν : Type}

/-- What waits for its turn: an entry to be filed, or the word that one is gone. -/
inductive Notice (κ ν : Type)
  | file (key : κ) (value : ν)
  | gone (key : κ)

def Notice.entry : Notice κ ν → Kind × κ
  | .file key _ => (.added, key)
  | .gone key => (.removed, key)

structure State (σ κ ν : Type) where
  listens : Bool
  opened : Bool
  members : Set σ
  table : κ → Option ν
  queue : List (Notice κ ν)
  log : List (Kind × κ)

inductive Change (σ κ ν : Type)
  | opening
  | join (member : σ)
  | leave (member : σ)
  | announce (member : σ) (key : κ) (value : ν)
  | withdraw (member : σ) (key : κ)
  | tell
  | publish (table : κ → Option ν)

/-- Only members of an open directory change its entries or leave it. -/
def Allows (s : State σ κ ν) : Change σ κ ν → Prop
  | .opening => True
  | .join _ => True
  | .leave member => s.opened = true ∧ member ∈ s.members
  | .announce member _ _ => s.opened = true ∧ member ∈ s.members
  | .withdraw member _ => s.opened = true ∧ member ∈ s.members
  | .tell => s.queue ≠ []
  | .publish _ => s.opened = true

section Steps

variable [DecidableEq κ]

/-- What a withdrawal leaves to be told. -/
def notices (s : State σ κ ν) (key : κ) : List (Notice κ ν) :=
  if s.listens ∧ (s.table key).isSome then [.gone key] else []

/-- An entry whose turn comes does not replace one that is there. -/
def change (s : State σ κ ν) : Change σ κ ν → State σ κ ν
  | .opening => { s with opened := true }
  | .join member => { s with members := insert member s.members }
  | .leave member => { s with members := s.members \ {member} }
  | .announce _ key value => { s with queue := s.queue ++ [.file key value] }
  | .withdraw _ key =>
      { s with
        table := Function.update s.table key none
        queue := s.queue ++ notices s key }
  | .tell =>
      match s.queue with
      | [] => s
      | .file key value :: rest =>
          { s with
            table := Function.update s.table key (some ((s.table key).getD value))
            queue := rest
            log := s.log ++ [(.added, key)] }
      | .gone key :: rest => { s with queue := rest, log := s.log ++ [(.removed, key)] }
  | .publish table => { s with table := table }

def step (s : State σ κ ν) (made : Change σ κ ν) : Option (State σ κ ν) := some (change s made)

/-- The directory after some changes, each of them allowed when it is made. -/
def Changes (s : State σ κ ν) (made : List (Change σ κ ν)) (t : State σ κ ν) : Prop :=
  Run step Allows s made t

/-- A directory nobody has joined. -/
def fresh (listens : Bool) : State σ κ ν := ⟨listens, false, ∅, fun _ => none, [], []⟩

/-- Nothing is in a directory before it opens. -/
def Shut (s : State σ κ ν) : Prop :=
  s.opened = false → s.table = (fun _ => none) ∧ s.queue = [] ∧ s.log = []

/-- What has been told, and what is going to be told of what has been asked. -/
def stream (s : State σ κ ν) : List (Kind × κ) := s.log ++ s.queue.map Notice.entry

/-- What a change adds to it. -/
def produced (s : State σ κ ν) : Change σ κ ν → List (Kind × κ)
  | .announce _ key _ => [(.added, key)]
  | .withdraw _ key => (notices s key).map Notice.entry
  | _ => []

/-- Whether the key is in the table, as a number. -/
def filed (s : State σ κ ν) (key : κ) : Nat := if (s.table key).isSome then 1 else 0

def additions (s : State σ κ ν) (key : κ) : Nat := s.log.count (.added, key)

/-- Removals told or to be told. -/
def removals (s : State σ κ ν) (key : κ) : Nat := (stream s).count (.removed, key)

def publishes : Change σ κ ν → Bool
  | .publish _ => true
  | _ => false

variable {s t u : State σ κ ν} {made : List (Change σ κ ν)}

theorem Changes.of_one {one : Change σ κ ν} (allowed : Allows s one) :
    Changes s [one] (change s one) := .snoc .nil allowed rfl

theorem Changes.one_inv {one : Change σ κ ν} (changes : Changes s [one] t) : t = change s one := by
  have run : Run step Allows s ([] ++ [one]) t := changes
  obtain ⟨before, none, _, stepped⟩ := run.snoc_inv
  cases none.nil_inv
  exact (Option.some.inj stepped).symm

theorem shut_change (shut : Shut s) {one : Change σ κ ν} (allowed : Allows s one) :
    Shut (change s one) := by
  cases one with
  | opening => exact nofun
  | join member => exact shut
  | leave member => exact shut
  | announce member key value => exact fun closed => absurd (closed.symm.trans allowed.1) (by decide)
  | withdraw member key => exact fun closed => absurd (closed.symm.trans allowed.1) (by decide)
  | publish table => exact fun closed => absurd (closed.symm.trans allowed) (by decide)
  | tell =>
      intro closed
      have before : s.opened = false := by
        simp only [change] at closed
        split at closed <;> exact closed
      exact absurd (shut before).2.1 allowed

theorem Changes.shut (changes : Changes s made t) (shut : Shut s) : Shut t :=
  changes.invariant Shut shut fun _ _ _ shut allowed stepped => by
    cases stepped
    exact shut_change shut allowed

theorem stream_change (s : State σ κ ν) (one : Change σ κ ν) :
    stream (change s one) = stream s ++ produced s one := by
  cases one with
  | announce member key value => simp [stream, change, produced, Notice.entry]
  | withdraw member key => simp [stream, change, produced]
  | tell =>
      obtain ⟨listens, opened, members, table, queue, log⟩ := s
      cases queue with
      | nil => simp [stream, change, produced]
      | cons notice rest => cases notice <;> simp [stream, change, produced, Notice.entry]
  | _ => simp [stream, change, produced]

omit [DecidableEq κ] in
theorem filed_le_one (s : State σ κ ν) (key : κ) : filed s key ≤ 1 := by
  unfold filed
  split <;> omega

/-- A key is removed no more often than it has been added by telling or by a
replacement of the table, and is filed besides only if it is still to be removed. -/
theorem accounted_change (s : State σ κ ν) (one : Change σ κ ν) (key : κ) :
    removals (change s one) key + filed (change s one) key + additions s key ≤
      removals s key + filed s key + (if publishes one then 1 else 0) +
        additions (change s one) key := by
  have grown : removals (change s one) key =
      removals s key + (produced s one).count (.removed, key) := by
    rw [removals, stream_change, List.count_append, removals]
  rw [grown]
  cases one with
  | opening => exact Nat.le_refl _
  | join member => exact Nat.le_refl _
  | leave member => exact Nat.le_refl _
  | announce member other value =>
      have same : filed (change s (.announce member other value)) key = filed s key := rfl
      rw [same]
      simp [produced, additions, change, publishes]
  | publish table =>
      have few := filed_le_one (change s (.publish table)) key
      have same : additions (change s (.publish table)) key = additions s key := rfl
      simp only [produced, List.count_nil, publishes, ↓reduceIte, same]
      omega
  | withdraw member other =>
      simp only [produced, notices, filed, additions, change, publishes]
      by_cases same : other = key
      · subst same
        by_cases held : (s.table other).isSome
        · by_cases listens : s.listens <;> simp [held, listens, Notice.entry]
        · simp [held]
      · have apart : key ≠ other := Ne.symm same
        split <;> simp [Function.update_of_ne apart, Notice.entry, same]
  | tell =>
      obtain ⟨listens, opened, members, table, queue, log⟩ := s
      cases queue with
      | nil => exact Nat.le_refl _
      | cons notice rest =>
          cases notice with
          | gone other =>
              have same : filed (change ⟨listens, opened, members, table, .gone other :: rest, log⟩
                (.tell : Change σ κ ν)) key =
                  filed ⟨listens, opened, members, table, .gone other :: rest, log⟩ key := rfl
              rw [same]
              simp [produced, additions, change, publishes]
          | file other value =>
              by_cases same : other = key
              · subst same
                simp [produced, filed, additions, change, publishes]
                split <;> omega
              · have apart : key ≠ other := Ne.symm same
                simp [produced, filed, additions, change, publishes, Function.update_of_ne apart,
                  same]

/-- What a change does to the account is what the changes of a run do together. -/
theorem Changes.accounted (changes : Changes s made t) (key : κ) :
    removals t key + filed t key + additions s key ≤
      removals s key + filed s key + made.countP publishes + additions t key := by
  induction changes with
  | nil => simp
  | @snoc made state next one _ _ stepped ih =>
      cases stepped
      have last := accounted_change state one key
      rw [List.countP_append, List.countP_singleton]
      omega

/-- The change takes no entry of the key away. -/
def Spares (key : κ) : Change σ κ ν → Prop
  | .withdraw _ other => other ≠ key
  | .publish _ => False
  | _ => True

/-- What is filed stays, as it is, until it is withdrawn or the table replaced. -/
theorem Changes.kept (changes : Changes s made t) {key : κ} {value : ν}
    (spared : ∀ one ∈ made, Spares key one) (held : s.table key = some value) :
    t.table key = some value := by
  induction changes with
  | nil => exact held
  | @snoc made state next one _ _ stepped ih =>
      cases stepped
      have before := ih fun other member => spared other (List.mem_append_left _ member)
      have spares := spared one (by simp)
      cases one with
      | withdraw member other =>
          exact (Function.update_of_ne (Ne.symm spares) none state.table).trans before
      | publish table => exact spares.elim
      | tell =>
          obtain ⟨listens, opened, members, table, queue, log⟩ := state
          rcases queue with _ | ⟨⟨other, new⟩ | other, rest⟩
          · exact before
          · by_cases same : key = other
            · subst same
              have there : table key = some value := before
              simp only [change, Function.update_self, there, Option.getD_some]
            · exact (Function.update_of_ne same _ table).trans before
          · exact before
      | _ => exact before

/-- Changes that produce nothing leave the stream as it is. -/
theorem Changes.silent (changes : Changes s made t)
    (silent : ∀ one ∈ made, ∀ state : State σ κ ν, produced state one = []) :
    stream t = stream s := by
  induction changes with
  | nil => rfl
  | @snoc made state next one _ _ stepped ih =>
      cases stepped
      rw [stream_change, silent one (by simp), List.append_nil]
      exact ih fun other member => silent other (List.mem_append_left _ member)

end Steps

end Directory
