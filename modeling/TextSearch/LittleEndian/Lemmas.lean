import Mathlib.Algebra.Ring.Nat
import TextSearch.LittleEndian

/-!
# Little-endian numbers and powers

Some bytes stand for the numbers below a power of 256, and a number that is too large for its bytes
is cut.
-/

namespace TextSearch.LittleEndian

theorem decode_lt (bytes : List UInt8) : decode bytes < 256 ^ bytes.length := by
  induction bytes with
  | nil => simp [decode]
  | cons b rest ih =>
    have hb := b.toNat_lt
    simp only [decode, List.length_cons, Nat.pow_succ]
    omega

/-- A number that fits is read back; a larger one loses what does not fit. -/
theorem decode_encode (width n : Nat) : decode (encode width n) = n % 256 ^ width := by
  induction width generalizing n with
  | zero => simp [encode, decode, Nat.mod_one]
  | succ width ih =>
    have hb : (UInt8.ofNat n).toNat = n % 256 := by simp
    rw [encode, decode, ih, hb, Nat.pow_succ, Nat.mul_comm (256 ^ width), Nat.mod_mul]

end TextSearch.LittleEndian
