import Mathlib.Data.UInt
import Mathlib.Data.Fintype.Basic
import Mathlib.Tactic.Common

/-!
# Hexadecimal text

Two conversions of the firmware read upper-case hexadecimal digits, and the records on the card
are written with them.
-/

namespace MealVendor

/-- `index[v]` for a digit `v`. -/
def hexDigit (v : UInt8) : UInt8 := if v < 10 then 0x30 + v else 0x41 + (v - 10)

/-- The value of an upper-case hexadecimal digit. -/
def hexValue (c : UInt8) : Option UInt8 :=
  if 0x30 ≤ c ∧ c ≤ 0x39 then some (c - 0x30)
  else if 0x41 ≤ c ∧ c ≤ 0x46 then some (c - 0x41 + 10)
  else none

lemma forall_byte {P : UInt8 → Prop} (h : ∀ n : Fin 256, P (UInt8.ofFin n)) (b : UInt8) : P b :=
  h b.toFin

/-- Two digits. -/
def hexByte (b : UInt8) : List UInt8 := [hexDigit ((b &&& 0xf0) >>> 4), hexDigit (b &&& 0x0f)]

lemma hexValue_high (b : UInt8) :
    hexValue (hexDigit ((b &&& 0xf0) >>> 4)) = some ((b &&& 0xf0) >>> 4) := by
  revert b
  refine forall_byte ?_
  decide +kernel

lemma hexValue_low (b : UInt8) : hexValue (hexDigit (b &&& 0x0f)) = some (b &&& 0x0f) := by
  revert b
  refine forall_byte ?_
  decide +kernel

/-- The two halves of a byte. -/
lemma high_or_low (b : UInt8) :
    (((b &&& 0xf0) >>> 4) <<< 4) &&& 0xf0 ||| (b &&& 0x0f) = b := by
  revert b
  refine forall_byte ?_
  decide +kernel

/-! ## Cells of a buffer -/

/-- The numbers from cell `k` on are overwritten. -/
def overwrite (out : ℕ → UInt8) (k : ℕ) (bs : List UInt8) : ℕ → UInt8 :=
  fun i => if i < k then out i else bs[i - k]?.getD (out i)

lemma overwrite_cons (out : ℕ → UInt8) (k : ℕ) (b : UInt8) (bs : List UInt8) :
    overwrite (Function.update out k b) (k + 1) bs = overwrite out k (b :: bs) := by
  funext i
  rcases Nat.lt_trichotomy i k with h | rfl | h
  · rw [overwrite, overwrite, if_pos (by omega), if_pos h, Function.update_of_ne (by omega)]
  · rw [overwrite, overwrite, if_pos (by omega), if_neg (by omega), Function.update_self,
      Nat.sub_self]
    rfl
  · rw [overwrite, overwrite, if_neg (by omega), if_neg (by omega),
      Function.update_of_ne (by omega), show i - k = (i - (k + 1)) + 1 by omega]
    rfl

lemma overwrite_nil (out : ℕ → UInt8) (k : ℕ) : overwrite out k [] = out := by
  funext i
  rw [overwrite]
  split_ifs <;> rfl

@[simp] lemma overwrite_of_lt {i k : ℕ} (h : i < k) (out : ℕ → UInt8) (bs : List UInt8) :
    overwrite out k bs i = out i :=
  if_pos h

/-- The cells up to the end of what is written. -/
lemma map_range_overwrite (out : ℕ → UInt8) (k : ℕ) (bs : List UInt8) :
    (List.range (k + bs.length)).map (overwrite out k bs) = (List.range k).map out ++ bs := by
  rw [List.range_add, List.map_append, List.map_map]
  congr 1
  · exact List.map_congr_left fun i hi => overwrite_of_lt (List.mem_range.mp hi) out bs
  · refine List.ext_getElem (by simp) fun i hi hi' => ?_
    simp [overwrite, hi']

end MealVendor
