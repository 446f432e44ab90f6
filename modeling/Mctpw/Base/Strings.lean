import Mathlib.Algebra.Group.Int.Defs
import Mathlib.Data.List.Basic

set_option autoImplicit false

/- The std::string operations used on paths and numerals, on lists of
characters. -/
namespace Strings

def startsWith (text front : String) : Bool := front.toList.isPrefixOf text.toList

/-- Position of the last occurrence, `none` for npos. -/
def findLastOf (sep : Char) : List Char → Option Nat
  | [] => none
  | c :: cs =>
      match findLastOf sep cs with
      | some index => some (index + 1)
      | none => if c = sep then some 0 else none

inductive ConversionError
  | invalidArgument
  | outOfRange
deriving DecidableEq

/-- isspace in the C locale. -/
def isSpace (c : Char) : Bool := c.toNat == 32 || (9 ≤ c.toNat && c.toNat ≤ 13)

def digitValue (base : Nat) (c : Char) : Option Nat :=
  let value :=
    if 48 ≤ c.toNat ∧ c.toNat ≤ 57 then c.toNat - 48
    else if 97 ≤ c.toNat ∧ c.toNat ≤ 122 then c.toNat - 87
    else if 65 ≤ c.toNat ∧ c.toNat ≤ 90 then c.toNat - 55
    else base
  if value < base then some value else none

/-- The values of the longest prefix of digits. -/
def digits (base : Nat) : List Char → List Nat
  | [] => []
  | c :: cs =>
      match digitValue base c with
      | some value => value :: digits base cs
      | none => []

def ofDigits (base : Nat) (values : List Nat) : Nat :=
  values.foldl (fun total value => total * base + value) 0

def isHexMark (c : Char) : Bool := c = 'x' || c = 'X'

/-- strtol passes over 0x in base 16 only when a digit follows it. -/
def dropHexPrefix (base : Nat) : List Char → List Char
  | '0' :: mark :: first :: rest =>
      if base = 16 ∧ isHexMark mark ∧ (digitValue 16 first).isSome then first :: rest
      else '0' :: mark :: first :: rest
  | text => text

/-- The sign and what follows it, after leading white space. -/
def splitSign (text : List Char) : Bool × List Char :=
  match text.dropWhile isSpace with
  | '-' :: rest => (true, rest)
  | '+' :: rest => (false, rest)
  | rest => (false, rest)

/-- strtol without its saturation, `none` when no conversion is performed. -/
def strtol (base : Nat) (text : List Char) : Option Int :=
  let signed := splitSign text
  match digits base (dropHexPrefix base signed.2) with
  | [] => none
  | value :: values =>
      let magnitude : Int := ofDigits base (value :: values)
      some (if signed.1 then -magnitude else magnitude)

/-- std::stoi. Saturation of strtol and a result outside int raise alike. -/
def stoi (base : Nat) (text : List Char) : Except ConversionError Int :=
  match strtol base text with
  | none => .error .invalidArgument
  | some value =>
      if -2 ^ 31 ≤ value ∧ value < 2 ^ 31 then .ok value else .error .outOfRange

theorem findLastOf_none {sep : Char} {cs : List Char} :
    findLastOf sep cs = none ↔ sep ∉ cs := by
  induction cs with
  | nil => simp [findLastOf]
  | cons c cs ih =>
      unfold findLastOf
      cases found : findLastOf sep cs with
      | some index =>
          have inside : sep ∈ cs := by
            by_contra outside
            rw [ih.mpr outside] at found
            cases found
          simp [inside]
      | none =>
          have outside := ih.mp found
          by_cases same : c = sep
          · simp [same]
          · simp [same, outside, Ne.symm same]

theorem findLastOf_append (sep : Char) (front back : List Char) :
    findLastOf sep (front ++ back) =
      match findLastOf sep back with
      | some index => some (front.length + index)
      | none => findLastOf sep front := by
  induction front with
  | nil => cases found : findLastOf sep back <;> simp [found, findLastOf]
  | cons c front ih =>
      rw [List.cons_append, findLastOf, ih]
      cases findLastOf sep back with
      | some index =>
          simp only [List.length_cons, Option.some.injEq]
          omega
      | none => rfl

theorem startsWith_iff {text front : String} :
    startsWith text front = true ↔ ∃ rest, text.toList = front.toList ++ rest := by
  rw [startsWith, List.isPrefixOf_iff_prefix]
  constructor
  · rintro ⟨rest, same⟩
    exact ⟨rest, same.symm⟩
  · rintro ⟨rest, same⟩
    exact ⟨rest, same.symm⟩

theorem splitOn_cons (sep c : Char) (cs : List Char) :
    (c :: cs).splitOn sep =
      if c = sep then [] :: cs.splitOn sep else (cs.splitOn sep).modifyHead (c :: ·) := by
  simp only [List.splitOn]
  rw [List.splitOnP_cons_eq_if_modifyHead]
  simp only [beq_iff_eq]

theorem splitOn_free {sep : Char} {cs : List Char} (free : sep ∉ cs) :
    cs.splitOn sep = [cs] := by
  induction cs with
  | nil => rfl
  | cons c cs ih =>
      have different : c ≠ sep := fun same => free (by simp [same])
      have rest : sep ∉ cs := fun inside => free (by simp [inside])
      rw [splitOn_cons, if_neg different, ih rest]
      rfl

theorem splitOn_mem {sep : Char} {cs : List Char} (inside : sep ∈ cs) :
    ∃ first second rest, cs.splitOn sep = first :: second :: rest := by
  induction cs with
  | nil => cases inside
  | cons c cs ih =>
      by_cases same : c = sep
      · cases pieces : cs.splitOn sep with
        | nil => simp [List.splitOn] at pieces
        | cons piece rest =>
            exact ⟨[], piece, rest, by rw [splitOn_cons, if_pos same, pieces]⟩
      · have later : sep ∈ cs := by
          rcases List.mem_cons.mp inside with here | later
          · exact absurd here.symm same
          · exact later
        obtain ⟨first, second, rest, pieces⟩ := ih later
        exact ⟨c :: first, second, rest, by rw [splitOn_cons, if_neg same, pieces]; rfl⟩

/-- What follows the last separator, the whole text when there is none. -/
def afterLast (sep : Char) (cs : List Char) : List Char :=
  match findLastOf sep cs with
  | some index => cs.drop (index + 1)
  | none => cs

theorem afterLast_cons (sep c : Char) (cs : List Char) :
    afterLast sep (c :: cs) =
      if sep ∈ cs ∨ c = sep then afterLast sep cs else c :: cs := by
  unfold afterLast
  rw [findLastOf]
  cases found : findLastOf sep cs with
  | some index =>
      have inside : sep ∈ cs := by
        by_contra outside
        rw [findLastOf_none.mpr outside] at found
        cases found
      simp [inside]
  | none =>
      have outside := findLastOf_none.mp found
      by_cases same : c = sep <;> simp [outside, same]

/-- The last piece of a split is what follows the last separator. -/
theorem splitOn_getLast? (sep : Char) (cs : List Char) :
    (cs.splitOn sep).getLast? = some (afterLast sep cs) := by
  induction cs with
  | nil => rfl
  | cons c cs ih =>
      rw [splitOn_cons, afterLast_cons]
      by_cases same : c = sep
      · rw [if_pos same, if_pos (Or.inr same), List.getLast?_cons, ih]
        rfl
      · by_cases inside : sep ∈ cs
        · obtain ⟨first, second, rest, pieces⟩ := splitOn_mem inside
          rw [if_neg same, if_pos (Or.inl inside), ← ih, pieces]
          rfl
        · rw [if_neg same, if_neg (by simp [inside, same]), splitOn_free inside]
          rfl

/-- Nothing before a separator tells what follows the last one. -/
theorem afterLast_append_sep (sep : Char) (front back : List Char) :
    afterLast sep (front ++ sep :: back) = afterLast sep back := by
  induction front with
  | nil => rw [List.nil_append, afterLast_cons, if_pos (Or.inr rfl)]
  | cons c front ih =>
      rw [List.cons_append, afterLast_cons, if_pos (Or.inl (by simp)), ih]

theorem afterLast_append (sep : Char) (front back : List Char) (free : sep ∉ back) :
    afterLast sep (front ++ sep :: back) = back := by
  rw [afterLast_append_sep, afterLast, findLastOf_none.mpr free]

/-- What follows the last separator is a piece of the split. -/
theorem afterLast_mem_splitOn (sep : Char) (cs : List Char) : afterLast sep cs ∈ cs.splitOn sep :=
  List.mem_of_getLast? (splitOn_getLast? sep cs)

end Strings
