import Mctpw.BusNumbers

set_option autoImplicit false

/- Wrappers in one process share a counter, and never notice. -/
namespace Mctpw

open Runs

/-- The wrapper made by a construction, as it is when it is alone. -/
def Operation.made (host : ByteOrder.Endian) : Operation → Option System
  | .construct config networkChangeCb rxCb => some (.construct host config networkChangeCb rxCb)
  | _ => none

/-- What is done with the wrapper at an index. -/
def Operation.labelOf (index : Nat) : Operation → Option Label
  | .wrapper called label => if called = index then some label else none
  | _ => none

/-- The wrapper made at the index, and its own part of what happens in the process. -/
def wrapperMade (host : ByteOrder.Endian) (operations : List Operation) (index : Nat) :
    Option System :=
  (operations.filterMap (Operation.made host))[index]?

def ownLabels (index : Nat) (operations : List Operation) : List Label :=
  operations.filterMap (Operation.labelOf index)

/-- Every wrapper is where its own labels alone would have brought it. -/
structure Isolated (host : ByteOrder.Endian) (operations : List Operation) (p : Process) : Prop where
  hosted : p.host = host
  count : p.wrappers.length = (operations.filterMap (Operation.made host)).length
  unused : ∀ index, p.wrappers.length ≤ index → ownLabels index operations = []
  alone : ∀ index wrapper, p.wrappers[index]? = some wrapper →
    ∃ start solo, wrapperMade host operations index = some start ∧
      Run System.step Any start (ownLabels index operations) solo ∧ AlikeSystem wrapper solo

theorem alikeSystem_refl (s : System) : AlikeSystem s s := by
  refine ⟨⟨s.lib.endpointMap, s.lib.i3cBusId, .refl _, rfl⟩, ?_⟩
  refine List.forall₂_same.mpr fun scan _ => ?_
  cases scan with
  | getObject => exact .getObject
  | getNameOwner buses service rest => exact .getNameOwner service rest rfl
  | getManagedObjects eids bus rest => exact .getManagedObjects (.refl eids) rfl rfl

/-- The shared counter is one of the things that are not told apart. -/
theorem AlikeSystem.of_shared {wrapper solo : System} (alike : AlikeSystem wrapper solo)
    (busId : Int) :
    AlikeSystem { wrapper with lib := { wrapper.lib with i3cBusId := busId } } solo := by
  obtain ⟨⟨eids, busId', same, eq⟩, scans⟩ := alike
  exact ⟨⟨eids, busId', same, eq⟩, scans⟩

section

variable {host : ByteOrder.Endian} {operations : List Operation} {p next : Process}

theorem wrapperMade_append (operation : Operation) {index : Nat} {start : System}
    (made : wrapperMade host operations index = some start) :
    wrapperMade host (operations ++ [operation]) index = some start := by
  obtain ⟨within, _⟩ := List.getElem?_eq_some_iff.mp made
  rw [wrapperMade, List.filterMap_append, List.getElem?_append_left within]
  exact made

theorem isolated_construct (isolated : Isolated host operations p) (config : MCTPConfiguration)
    (networkChangeCb rxCb : Bool) :
    Isolated host (operations ++ [.construct config networkChangeCb rxCb])
      { p with wrappers := p.wrappers ++ [.construct p.host config networkChangeCb rxCb] } := by
  obtain ⟨settled, count, unused, alone⟩ := isolated
  have kept : ∀ index, ownLabels index (operations ++ [.construct config networkChangeCb rxCb]) =
      ownLabels index operations := fun index => by
    simp [ownLabels, Operation.labelOf]
  refine ⟨settled, by simp [count, Operation.made], ?_, ?_⟩
  · intro index past
    rw [kept]
    exact unused index (Nat.le_of_succ_le (by simpa using past))
  · intro index wrapper there
    rw [kept]
    rcases Nat.lt_or_ge index p.wrappers.length with within | past
    · rw [List.getElem?_append_left within] at there
      obtain ⟨start, solo, made, run, alike⟩ := alone index wrapper there
      exact ⟨start, solo, wrapperMade_append _ made, run, alike⟩
    · rw [List.getElem?_append_right past, List.getElem?_singleton] at there
      split at there
      · rename_i first
        cases there
        have last : index = p.wrappers.length := by omega
        refine ⟨.construct p.host config networkChangeCb rxCb, _, ?_, ?_, alikeSystem_refl _⟩
        · rw [wrapperMade, List.filterMap_append, List.getElem?_append_right (by omega), last, count]
          simp [Operation.made, settled]
        · rw [unused index past]
          exact .nil
      · cases there

theorem isolated_wrapper (isolated : Isolated host operations p) {called : Nat} {label : Label}
    (stepped : p.step (.wrapper called label) = some next) :
    Isolated host (operations ++ [.wrapper called label]) next := by
  obtain ⟨settled, count, unused, alone⟩ := isolated
  simp only [Process.step] at stepped
  split at stepped
  · cases stepped
  · rename_i wrapper there
    obtain ⟨moved, stepped', rfl⟩ := Option.map_eq_some_iff.mp stepped
    obtain ⟨within, _⟩ := List.getElem?_eq_some_iff.mp there
    have own : ∀ index, ownLabels index (operations ++ [.wrapper called label]) =
        ownLabels index operations ++ if called = index then [label] else [] := fun index => by
      simp only [ownLabels, List.filterMap_append, List.filterMap_cons, List.filterMap_nil,
        Operation.labelOf]
      split <;> simp_all
    refine ⟨settled, by simp [count, Operation.made], ?_, ?_⟩
    · intro index past
      rw [List.length_set] at past
      rw [own, unused index past, if_neg (by omega), List.append_nil]
    · intro index other there'
      rw [own]
      by_cases same : called = index
      · subst same
        obtain ⟨start, solo, made, run, alike⟩ := alone called wrapper there
        rw [List.getElem?_set_self within] at there'
        cases there'
        obtain ⟨solo', soloStep, alike'⟩ :=
          System.step_alike (alike.of_shared p.i3cBusId) stepped'
        rw [if_pos rfl]
        exact ⟨start, solo', wrapperMade_append _ made, .snoc run trivial soloStep, alike'⟩
      · rw [List.getElem?_set_ne same] at there'
        obtain ⟨start, solo, made, run, alike⟩ := alone index other there'
        rw [if_neg same, List.append_nil]
        exact ⟨start, solo, wrapperMade_append _ made, run, alike⟩

theorem isolated_getEndpointMap (isolated : Isolated host operations p) {index : Nat}
    {extendedMap : List (DeviceID × Bus)}
    (stepped : p.step (.getEndpointMap index extendedMap) = some next) :
    Isolated host (operations ++ [.getEndpointMap index extendedMap]) next := by
  obtain ⟨settled, count, unused, alone⟩ := isolated
  simp only [Process.step] at stepped
  split at stepped
  · cases stepped
  · cases stepped
    have kept : ∀ other, ownLabels other (operations ++ [.getEndpointMap index extendedMap]) =
        ownLabels other operations := fun other => by
      simp [ownLabels, Operation.labelOf]
    refine ⟨settled, by simp [count, Operation.made], ?_, ?_⟩
    · intro other past
      rw [kept]
      exact unused other past
    · intro other wrapper there
      obtain ⟨start, solo, made, run, alike⟩ := alone other wrapper there
      rw [kept]
      exact ⟨start, solo, wrapperMade_append _ made, run, alike⟩

end

/-- However many wrappers there are and whatever is done with the others, a wrapper
has made the calls and the callbacks that it would have made alone, in the same
order, and holds the same devices at the same services. -/
theorem wrappers_isolated {host : ByteOrder.Endian} {operations : List Operation} {p : Process}
    (run : Run Process.step Any (.fresh host) operations p) {index : Nat} {wrapper : System}
    (there : p.wrappers[index]? = some wrapper) :
    ∃ start solo, wrapperMade host operations index = some start ∧
      Run System.step Any start (ownLabels index operations) solo ∧
      AlikeSystem wrapper solo ∧ solo.lib.trace = wrapper.lib.trace := by
  have isolated : Isolated host operations p := by
    clear there
    induction run with
    | nil =>
        refine ⟨rfl, rfl, fun _ _ => rfl, ?_⟩
        intro index wrapper there
        cases there
    | @snoc operations state next operation _ _ stepped ih =>
        cases operation with
        | construct config networkChangeCb rxCb =>
            cases stepped
            exact isolated_construct ih config networkChangeCb rxCb
        | wrapper called label => exact isolated_wrapper ih stepped
        | getEndpointMap called extendedMap => exact isolated_getEndpointMap ih stepped
  obtain ⟨start, solo, made, own, alike⟩ := isolated.alone index wrapper there
  exact ⟨start, solo, made, own, alike, alike.lib.trace⟩

namespace Slot

theorem wrappers_isolated_emptied :
    ∃ begun solo, wrapperMade .little (filing ++ emptying) 0 = some begun ∧
      Run System.step Any begun (ownLabels 0 (filing ++ emptying)) solo ∧
      AlikeSystem unplugged solo ∧ solo.lib.trace = unplugged.lib.trace :=
  wrappers_isolated (emptied_run.mono fun _ _ _ => trivial) rfl

end Slot

end Mctpw
