import Mathlib.Algebra.Group.Nat.Defs

/-! Numbers as byte strings, least significant byte first. -/

set_option autoImplicit false

namespace ZhuoduControl.Library.LittleEndian

def encode : Nat → Nat → List (BitVec 8)
  | 0, _ => []
  | count + 1, value => BitVec.ofNat 8 value :: encode count (value / 256)

def decode : List (BitVec 8) → Nat
  | [] => 0
  | byte :: rest => byte.toNat + 256 * decode rest

@[simp] theorem encode_length (count value : Nat) : (encode count value).length = count := by
  induction count generalizing value with
  | zero => rfl
  | succ count ih => simp [encode, ih]

theorem decode_encode (count value : Nat) : decode (encode count value) = value % 256 ^ count := by
  induction count generalizing value with
  | zero => simp [encode, decode, Nat.mod_one]
  | succ count ih =>
      have lowest : (BitVec.ofNat 8 value).toNat = value % 256 := BitVec.toNat_ofNat value 8
      rw [encode, decode, ih, lowest]
      exact (Nat.pow_succ' ▸ Nat.mod_mul).symm

theorem decode_lt (bytes : List (BitVec 8)) : decode bytes < 256 ^ bytes.length := by
  induction bytes with
  | nil => exact Nat.one_pos
  | cons byte rest ih =>
      have bound := byte.isLt
      rw [decode, List.length_cons, Nat.pow_succ]
      omega

theorem encode_decode (bytes : List (BitVec 8)) : encode bytes.length (decode bytes) = bytes := by
  induction bytes with
  | nil => rfl
  | cons byte rest ih =>
      have bound := byte.isLt
      have lowest : BitVec.ofNat 8 (byte.toNat + 256 * decode rest) = byte := by
        apply BitVec.eq_of_toNat_eq
        rw [BitVec.toNat_ofNat]
        omega
      have higher : (byte.toNat + 256 * decode rest) / 256 = decode rest := by omega
      rw [List.length_cons, decode, encode, lowest, higher, ih]

end ZhuoduControl.Library.LittleEndian
