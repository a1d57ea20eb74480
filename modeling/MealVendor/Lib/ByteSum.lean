import Mathlib.Algebra.BigOperators.Fin
import Mathlib.Algebra.Order.BigOperators.Group.Finset
import Mathlib.Data.UInt

/-!
# Sums of counters

Tables of counters with a total beside them: a sum that was added up in a byte, what
replacing one byte does to a checksum, and what lowering one counter does to the sum.
-/

namespace MealVendor.Lib

/-- A loop that adds up some entries of a list in a byte. -/
lemma toNat_foldl_add {ι : Type*} (p : ι → Prop) [DecidablePred p] (g : ι → UInt8)
    (l : List ι) (n : UInt8) :
    (l.foldl (fun n i => if p i then n + g i else n) n).toNat =
      (n.toNat + (l.map fun i => if p i then (g i).toNat else 0).sum) % 256 := by
  induction l generalizing n with
  | nil =>
    have := n.toNat_lt
    simp only [List.foldl_nil, List.map_nil, List.sum_nil]
    omega
  | cons i l ih =>
    rw [List.foldl_cons, ih, List.map_cons, List.sum_cons]
    split_ifs
    · rw [UInt8.toNat_add]
      omega
    · omega

/-- The same over all indices. -/
lemma toNat_foldl_finRange {m : ℕ} (p : Fin m → Prop) [DecidablePred p] (g : Fin m → UInt8) :
    ((List.finRange m).foldl (fun n i => if p i then n + g i else n) 0).toNat =
      (∑ i, if p i then (g i).toNat else 0) % 256 := by
  rw [toNat_foldl_add, Fin.sum_univ_def]
  simp

/-- A sum of bytes, without the carries. -/
lemma toNat_sum (l : List UInt8) : l.sum.toNat = (l.map UInt8.toNat).sum % 256 := by
  induction l with
  | nil => rfl
  | cons b l ih =>
    rw [List.sum_cons, UInt8.toNat_add, ih, List.map_cons, List.sum_cons]
    omega

/-- One byte of a list is replaced: its checksum tells. -/
lemma sum_set_eq_iff {l : List UInt8} {i : ℕ} (h : i < l.length) (b : UInt8) :
    (l.set i b).sum = l.sum ↔ b = l[i] := by
  induction l generalizing i with
  | nil => cases h
  | cons a l ih =>
    cases i with
    | zero => rw [List.set_cons_zero, List.sum_cons, List.sum_cons, UInt8.add_left_inj]; rfl
    | succ i =>
      rw [List.set_cons_succ, List.sum_cons, List.sum_cons, UInt8.add_right_inj,
        ih (Nat.lt_of_succ_lt_succ h)]
      rfl

section Sums

variable {ι : Type*} [Fintype ι] {f g : ι → ℕ} {i : ι}

/-- No counter is above the sum. -/
lemma le_sum (f : ι → ℕ) (i : ι) : f i ≤ ∑ j, f j :=
  Finset.single_le_sum (fun _ _ => Nat.zero_le _) (Finset.mem_univ i)

/-- One summand is lowered by `d`, the others are the same. -/
lemma sum_add_eq_sum [DecidableEq ι] {d : ℕ} (hi : g i + d = f i) (hg : ∀ j, j ≠ i → g j = f j) :
    ∑ j, g j + d = ∑ j, f j := by
  have hf := Finset.add_sum_erase Finset.univ f (Finset.mem_univ i)
  have hg' := Finset.add_sum_erase Finset.univ g (Finset.mem_univ i)
  have hrest : ∑ j ∈ Finset.univ.erase i, g j = ∑ j ∈ Finset.univ.erase i, f j :=
    Finset.sum_congr rfl fun j hj => hg j (Finset.ne_of_mem_erase hj)
  omega

end Sums

end MealVendor.Lib
