import Mathlib.Algebra.Group.Nat.Defs
import Mctpw.Base.Strings

set_option autoImplicit false

/- Decimal numerals as std::to_string writes them, and what std::stoi makes of
text that begins with digits. -/
namespace Strings

/-- std::to_string of a number that is not negative. -/
def numeral (number : Nat) : List Char := (toString number).toList

/-- The number spelled by the leading digits, `none` when there are none. -/
def leadingNumber (text : List Char) : Option Nat :=
  match digits 10 text with
  | [] => none
  | values => some (ofDigits 10 values)

/-- Neither white space nor a sign comes first. -/
def Unsigned (text : List Char) : Prop :=
  ∀ c ∈ text.head?, isSpace c = false ∧ c ≠ '-' ∧ c ≠ '+'

theorem digitValue_digitChar {value : Nat} (small : value < 10) :
    digitValue 10 value.digitChar = some value := by
  have code := Nat.toNat_digitChar_of_lt_ten small
  have digit : 48 ≤ 48 + value ∧ 48 + value ≤ 57 := by omega
  simp only [digitValue, code]
  rw [if_pos digit, Nat.add_sub_cancel_left, if_pos small]

theorem digits_append {base : Nat} {front : List Char} (back : List Char)
    (all : ∀ c ∈ front, (digitValue base c).isSome) :
    digits base (front ++ back) = digits base front ++ digits base back := by
  induction front with
  | nil => rfl
  | cons c front ih =>
      obtain ⟨value, read⟩ := Option.isSome_iff_exists.mp (all c (by simp))
      rw [List.cons_append]
      simp only [digits, read]
      rw [ih fun c member => all c (List.mem_cons_of_mem _ member), List.cons_append]

theorem ofDigits_append (base : Nat) (values : List Nat) (last : Nat) :
    ofDigits base (values ++ [last]) = ofDigits base values * base + last := by
  simp only [ofDigits, List.foldl_append, List.foldl_cons, List.foldl_nil]

theorem numeral_eq (number : Nat) :
    numeral number = if number < 10 then [number.digitChar]
      else numeral (number / 10) ++ [(number % 10).digitChar] := by
  have spelled : ∀ n, numeral n = Nat.toDigits 10 n := by simp [numeral]
  rw [spelled, spelled]
  exact Nat.toDigits_eq_if (by decide)

theorem numeral_ne_nil (number : Nat) : numeral number ≠ [] := by
  rw [numeral_eq]
  split <;> simp

theorem numeral_digits (number : Nat) : ∀ c ∈ numeral number, (digitValue 10 c).isSome := by
  induction number using Nat.strongRecOn with
  | ind number ih =>
      rw [numeral_eq]
      split
      · rename_i small
        simp [digitValue_digitChar small]
      · rename_i large
        intro c member
        rcases List.mem_append.mp member with front | last
        · exact ih (number / 10) (by omega) c front
        · rw [List.mem_singleton.mp last, digitValue_digitChar (Nat.mod_lt _ (by decide))]
          rfl

/-- The digits of a numeral spell its number. -/
theorem ofDigits_numeral (number : Nat) : ofDigits 10 (digits 10 (numeral number)) = number := by
  induction number using Nat.strongRecOn with
  | ind number ih =>
      rw [numeral_eq]
      split
      · rename_i small
        simp [digits, digitValue_digitChar small, ofDigits]
      · rename_i large
        have last : digits 10 [(number % 10).digitChar] = [number % 10] := by
          simp only [digits, digitValue_digitChar (Nat.mod_lt number (by decide : 0 < 10))]
        rw [digits_append _ (numeral_digits _), last, ofDigits_append, ih (number / 10) (by omega)]
        omega

theorem leadingNumber_numeral (number : Nat) : leadingNumber (numeral number) = some number := by
  have spelled := ofDigits_numeral number
  unfold leadingNumber
  split
  · rename_i none
    -- A numeral has a first character, and it is a digit.
    obtain ⟨c, rest, text⟩ := List.exists_cons_of_ne_nil (numeral_ne_nil number)
    obtain ⟨value, read⟩ := Option.isSome_iff_exists.mp (numeral_digits number c (by simp [text]))
    rw [text] at none
    simp [digits, read] at none
  · rw [spelled]

theorem splitSign_unsigned {text : List Char} (unsigned : Unsigned text) :
    splitSign text = (false, text) := by
  cases text with
  | nil => rfl
  | cons c rest =>
      obtain ⟨space, minus, plus⟩ := unsigned c rfl
      have kept : (c :: rest).dropWhile isSpace = c :: rest := by simp [space]
      unfold splitSign
      rw [kept]
      split
      · rename_i same
        exact absurd (List.cons.inj same).1 minus
      · rename_i same
        exact absurd (List.cons.inj same).1 plus
      · rfl

theorem dropHexPrefix_ten (text : List Char) : dropHexPrefix 10 text = text := by
  unfold dropHexPrefix
  split <;> simp

theorem strtol_unsigned {text : List Char} (unsigned : Unsigned text) :
    strtol 10 text = (leadingNumber text).map Int.ofNat := by
  unfold strtol leadingNumber
  rw [splitSign_unsigned unsigned]
  dsimp only
  rw [dropHexPrefix_ten]
  cases digits 10 text <;> rfl

/-- Text without white space or a sign in front converts to the number of its
leading digits, as far as that fits an int. What follows them is passed over. -/
theorem stoi_unsigned_eq_ok_iff {text : List Char} (unsigned : Unsigned text) (value : Int) :
    stoi 10 text = .ok value ↔
      ∃ number, leadingNumber text = some number ∧ number < 2 ^ 31 ∧ value = number := by
  unfold stoi
  rw [strtol_unsigned unsigned]
  cases leadingNumber text with
  | none => simp
  | some number =>
      simp only [Option.map_some, Option.some.injEq, exists_eq_left', Int.ofNat_eq_natCast]
      by_cases small : number < 2 ^ 31
      · rw [if_pos (by omega), Except.ok.injEq, and_iff_right small, eq_comm]
      · rw [if_neg (by omega)]
        simp only [small, false_and, reduceCtorEq]

end Strings
