import Mathlib.Data.List.Basic

set_option autoImplicit false

/- Records of a fixed size, written one after the other with nothing between them. -/
namespace Records

/-- How a record is written, and read back from just the bytes of one. -/
structure Layout (α : Type) where
  size : Nat
  write : α → List UInt8
  read : List UInt8 → Option α
  size_pos : 0 < size
  write_length : ∀ record, (write record).length = size
  read_write : ∀ record, read (write record) = some record
  write_read : ∀ bytes record, read bytes = some record → write record = bytes

namespace Layout

variable {α : Type} (layout : Layout α)

def encode (records : List α) : List UInt8 := records.flatMap layout.write

/-- As many records as the count allows. -/
def decodeWithin : Nat → List UInt8 → Option (List α)
  | _, [] => some []
  | 0, _ :: _ => none
  | count + 1, byte :: bytes =>
      match layout.read ((byte :: bytes).take layout.size) with
      | none => none
      | some record => (decodeWithin count ((byte :: bytes).drop layout.size)).map (record :: ·)

/-- Bytes left over after the last whole record are refused. -/
def decode (bytes : List UInt8) : Option (List α) := layout.decodeWithin bytes.length bytes

theorem encode_cons (record : α) (records : List α) :
    layout.encode (record :: records) = layout.write record ++ layout.encode records := rfl

theorem encode_eq_nil_iff (records : List α) : layout.encode records = [] ↔ records = [] := by
  cases records with
  | nil => simp [encode]
  | cons record records =>
      have length := layout.write_length record
      have positive := layout.size_pos
      simp only [encode_cons, List.append_eq_nil_iff, reduceCtorEq, iff_false, not_and]
      intro empty
      rw [empty, List.length_nil] at length
      omega

theorem decodeWithin_eq_some_iff {count : Nat} {bytes : List UInt8} (enough : bytes.length ≤ count)
    (records : List α) :
    layout.decodeWithin count bytes = some records ↔ layout.encode records = bytes := by
  induction count generalizing bytes records with
  | zero =>
      rw [List.length_eq_zero_iff.mp (Nat.le_zero.mp enough), encode_eq_nil_iff, decodeWithin,
        Option.some_inj, eq_comm]
  | succ count ih =>
      cases bytes with
      | nil => rw [encode_eq_nil_iff, decodeWithin, Option.some_inj, eq_comm]
      | cons byte bytes =>
          have shorter : ((byte :: bytes).drop layout.size).length ≤ count := by
            have positive := layout.size_pos
            rw [List.length_drop]
            omega
          rw [decodeWithin]
          constructor
          · intro decoded
            split at decoded
            · cases decoded
            · rename_i record read
              obtain ⟨rest, later, rfl⟩ := Option.map_eq_some_iff.mp decoded
              rw [encode_cons, layout.write_read _ _ read, (ih shorter rest).mp later,
                List.take_append_drop]
          · intro written
            cases records with
            | nil => cases written
            | cons record rest =>
                rw [encode_cons] at written
                have length := layout.write_length record
                rw [← written, List.drop_left' length] at shorter
                rw [← written, List.take_left' length, List.drop_left' length, layout.read_write]
                exact Option.map_eq_some_iff.mpr ⟨rest, (ih shorter rest).mpr rfl, rfl⟩

/-- What is accepted is well formed, and read as what it was written from. -/
theorem decode_eq_some_iff (bytes : List UInt8) (records : List α) :
    layout.decode bytes = some records ↔ layout.encode records = bytes :=
  layout.decodeWithin_eq_some_iff (Nat.le_refl _) records

end Layout

end Records
