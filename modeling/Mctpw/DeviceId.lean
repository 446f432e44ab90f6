import Mathlib.Data.UInt
import Mathlib.Data.Nat.Bitwise

set_option autoImplicit false

namespace Mctpw

/-- The EID in the low byte, the network in the byte above it. -/
structure DeviceID where
  id : UInt32
deriving DecidableEq

namespace DeviceID

/-- The constructor taking an EID and a network id. -/
def make (eidVal nwid : UInt8) : DeviceID := ⟨nwid.toUInt32 <<< 8 ||| eidVal.toUInt32⟩

def mctpEID (device : DeviceID) : UInt8 := (device.id &&& 0xFF).toUInt8

def networkId (device : DeviceID) : UInt8 := (device.id >>> 8).toUInt8

theorem make_toNat (eidVal nwid : UInt8) :
    (make eidVal nwid).id.toNat = nwid.toNat * 256 + eidVal.toNat := by
  have low := eidVal.toNat_lt
  have high := nwid.toNat_lt
  have room : nwid.toNat <<< 8 % 2 ^ 32 = nwid.toNat <<< 8 := by
    rw [Nat.shiftLeft_eq]
    omega
  simp only [make, UInt32.toNat_or, UInt32.toNat_shiftLeft, UInt8.toNat_toUInt32]
  change nwid.toNat <<< 8 % 2 ^ 32 ||| eidVal.toNat = _
  rw [room, ← Nat.shiftLeft_add_eq_or_of_lt low, Nat.shiftLeft_eq]

@[simp] theorem mctpEID_make (eidVal nwid : UInt8) : (make eidVal nwid).mctpEID = eidVal := by
  apply UInt8.toNat_inj.mp
  have low := eidVal.toNat_lt
  have mask : (255 : Nat) = 2 ^ 8 - 1 := rfl
  simp only [mctpEID, UInt32.toNat_toUInt8, UInt32.toNat_and, make_toNat]
  change ((nwid.toNat * 256 + eidVal.toNat) &&& 255) % 256 = _
  rw [mask, Nat.and_two_pow_sub_one_eq_mod]
  omega

@[simp] theorem networkId_make (eidVal nwid : UInt8) : (make eidVal nwid).networkId = nwid := by
  apply UInt8.toNat_inj.mp
  have low := eidVal.toNat_lt
  have high := nwid.toNat_lt
  simp only [networkId, UInt32.toNat_toUInt8, UInt32.toNat_shiftRight, make_toNat]
  change (nwid.toNat * 256 + eidVal.toNat) >>> 8 % 256 = _
  rw [Nat.shiftRight_eq_div_pow]
  omega

/-- Two pairs of EID and network share a DeviceID only when they are the same. -/
theorem make_inj {eid eid' nwid nwid' : UInt8} :
    make eid nwid = make eid' nwid' ↔ eid = eid' ∧ nwid = nwid' := by
  constructor
  · intro same
    have low := congrArg mctpEID same
    have high := congrArg networkId same
    simp only [mctpEID_make, networkId_make] at low high
    exact ⟨low, high⟩
  · rintro ⟨rfl, rfl⟩
    rfl

end DeviceID

end Mctpw
