import Mathlib.Data.UInt
import Mathlib.Tactic.IntervalCases

/-!
# Fields of a word

A register of 32 bits holds bytes that are shifted to their places and put together with `or`; a
field is read with a mask and shifted back.  Bit by bit, a field is what the bytes have at its
place.
-/

namespace MealVendor.Lib

/-- Bit `i` of a word. -/
def bit (w : UInt32) (i : ℕ) : Bool := w.toNat.testBit i

/-- Bit `i` of a byte. -/
def byteBit (b : UInt8) (i : ℕ) : Bool := b.toNat.testBit i

variable (v w : UInt32) (a b : UInt8) (i : ℕ)

@[simp] lemma bit_or : bit (v ||| w) i = (bit v i || bit w i) := by
  rw [bit, UInt32.toNat_or, Nat.testBit_or]
  rfl

@[simp] lemma bit_and : bit (v &&& w) i = (bit v i && bit w i) := by
  rw [bit, UInt32.toNat_and, Nat.testBit_and]
  rfl

@[simp] lemma byteBit_or : byteBit (a ||| b) i = (byteBit a i || byteBit b i) := by
  rw [byteBit, UInt8.toNat_or, Nat.testBit_or]
  rfl

@[simp] lemma byteBit_and : byteBit (a &&& b) i = (byteBit a i && byteBit b i) := by
  rw [byteBit, UInt8.toNat_and, Nat.testBit_and]
  rfl

/-- The bits of a mask. -/
lemma bit_ofNat (n : ℕ) :
    bit (no_index (OfNat.ofNat n)) i = decide (i < 32 ∧ n / 2 ^ i % 2 = 1) := by
  have htoNat : (OfNat.ofNat n : UInt32).toNat = n % 2 ^ 32 := rfl
  rw [bit, htoNat, Nat.testBit_mod_two_pow, Nat.testBit_eq_decide_div_mod_eq, Bool.decide_and]

lemma byteBit_ofNat (n : ℕ) :
    byteBit (no_index (OfNat.ofNat n)) i = decide (i < 8 ∧ n / 2 ^ i % 2 = 1) := by
  have htoNat : (OfNat.ofNat n : UInt8).toNat = n % 2 ^ 8 := rfl
  rw [byteBit, htoNat, Nat.testBit_mod_two_pow, Nat.testBit_eq_decide_div_mod_eq, Bool.decide_and]

@[simp] lemma bit_toUInt32 : bit b.toUInt32 i = byteBit b i := by
  rw [bit, UInt8.toNat_toUInt32]
  rfl

variable {i}

lemma byteBit_of_le (h : 8 ≤ i) : byteBit b i = false :=
  Nat.testBit_lt_two_pow (lt_of_lt_of_le b.toNat_lt (Nat.pow_le_pow_right (by omega) h))

variable {s : UInt32} {r : UInt8}

/-- A word that is shifted to the left. -/
lemma bit_shiftLeft (hs : s.toNat < 32) (hi : i < 32) :
    bit (w <<< s) i = (decide (s.toNat ≤ i) && bit w (i - s.toNat)) := by
  rw [bit, UInt32.toNat_shiftLeft, Nat.mod_eq_of_lt hs, Nat.testBit_mod_two_pow,
    Nat.testBit_shiftLeft, decide_eq_true hi, Bool.true_and]
  rfl

/-- A byte that is shifted to the right. -/
lemma byteBit_shiftRight (hr : r.toNat < 8) : byteBit (b >>> r) i = byteBit b (i + r.toNat) := by
  rw [byteBit, UInt8.toNat_shiftRight, Nat.mod_eq_of_lt hr, Nat.testBit_shiftRight, Nat.add_comm]
  rfl

/-- A field of a word: the mask is applied and the word shifted to the right. -/
lemma byteBit_field (mask : UInt32) (hs : s.toNat < 32) (hi : i < 8) :
    byteBit ((w &&& mask) >>> s).toUInt8 i =
      (bit w (i + s.toNat) && bit mask (i + s.toNat)) := by
  rw [← bit_and, byteBit, UInt32.toNat_toUInt8, Nat.testBit_mod_two_pow, decide_eq_true hi,
    Bool.true_and, UInt32.toNat_shiftRight, Nat.mod_eq_of_lt hs, Nat.testBit_shiftRight,
    Nat.add_comm]
  rfl

/-- A field at the end of a word. -/
lemma byteBit_toUInt8 (hi : i < 8) : byteBit w.toUInt8 i = bit w i := by
  rw [byteBit, UInt32.toNat_toUInt8, Nat.testBit_mod_two_pow, decide_eq_true hi, Bool.true_and]
  rfl

variable {a b}

/-- Bytes with the same bits are the same. -/
lemma byte_ext (h : ∀ i < 8, byteBit a i = byteBit b i) : a = b := by
  apply UInt8.toNat_inj.mp
  apply Nat.eq_of_testBit_eq
  intro i
  rcases Nat.lt_or_ge i 8 with hi | hi
  · exact h i hi
  · exact (byteBit_of_le a hi).trans (byteBit_of_le b hi).symm

end MealVendor.Lib
