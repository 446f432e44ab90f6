import Mathlib.Data.UInt

set_option autoImplicit false

/- Sixteen-bit values in big-endian storage, read on a host of either order. -/
namespace ByteOrder

inductive Endian
  | little
  | big
deriving DecidableEq

def swap16 (value : UInt16) : UInt16 := value <<< 8 ||| value >>> 8

def htobe16 : Endian → UInt16 → UInt16
  | .little, value => swap16 value
  | .big, value => value

def be16toh : Endian → UInt16 → UInt16
  | .little, value => swap16 value
  | .big, value => value

/-- Two bytes of memory, lower address first, loaded as a native word. -/
def load16 : Endian → UInt8 → UInt8 → UInt16
  | .little, first, second => second.toUInt16 <<< 8 ||| first.toUInt16
  | .big, first, second => first.toUInt16 <<< 8 ||| second.toUInt16

theorem swap16_bit (value : UInt16) (index : Nat) :
    (swap16 value).toBitVec.getLsbD index =
      if index < 8 then value.toBitVec.getLsbD (index + 8)
      else (decide (index < 16) && value.toBitVec.getLsbD (index - 8)) := by
  simp [swap16]
  split <;> simp_all <;> grind

@[simp] theorem swap16_swap16 (value : UInt16) : swap16 (swap16 value) = value := by
  apply UInt16.eq_of_toBitVec_eq
  apply BitVec.eq_of_getLsbD_eq
  intro index inside
  rw [swap16_bit, swap16_bit, swap16_bit]
  grind

/-- Masking commutes with the byte swap. -/
theorem swap16_and (left right : UInt16) :
    swap16 (left &&& right) = swap16 left &&& swap16 right := by
  apply UInt16.eq_of_toBitVec_eq
  apply BitVec.eq_of_getLsbD_eq
  intro index inside
  simp [swap16_bit]
  grind

theorem swap16_load16 (first second : UInt8) :
    swap16 (load16 .big first second) = load16 .little first second := by
  apply UInt16.eq_of_toBitVec_eq
  apply BitVec.eq_of_getLsbD_eq
  intro index inside
  simp [swap16_bit, load16]
  grind

@[simp] theorem be16toh_htobe16 (host : Endian) (value : UInt16) :
    be16toh host (htobe16 host value) = value := by
  cases host
  · exact swap16_swap16 value
  · rfl

theorem htobe16_inj (host : Endian) {left right : UInt16} :
    htobe16 host left = htobe16 host right ↔ left = right := by
  constructor
  · intro same
    rw [← be16toh_htobe16 host left, same, be16toh_htobe16]
  · exact congrArg (htobe16 host)

theorem htobe16_and (host : Endian) (left right : UInt16) :
    htobe16 host (left &&& right) = htobe16 host left &&& htobe16 host right := by
  cases host
  · exact swap16_and left right
  · rfl

/-- A native load is the stored form of the value the bytes spell big-endian. -/
theorem load16_eq (host : Endian) (first second : UInt8) :
    load16 host first second = htobe16 host (load16 .big first second) := by
  cases host
  · exact (swap16_load16 first second).symm
  · rfl

end ByteOrder
