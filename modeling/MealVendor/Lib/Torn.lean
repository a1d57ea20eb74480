import Mathlib.Order.Fin.Basic
import Mathlib.Tactic.Common

/-!
# Writing cell by cell

An array is overwritten from its first cell on, and the writing may be stopped behind any cell.
Between two contents there is none in between exactly if they differ in at most one cell.
-/

namespace MealVendor.Lib

variable {α : Type*} {n : ℕ}

/-- The first `k` cells hold what is written. -/
def torn (w c : Fin n → α) (k : ℕ) : Fin n → α := fun i => if (i : ℕ) < k then w i else c i

variable {w c a b : Fin n → α}

@[simp] lemma torn_zero (w c : Fin n → α) : torn w c 0 = c := rfl

@[simp] lemma torn_self (w c : Fin n → α) : torn w c n = w := funext fun i => if_pos i.isLt

lemma torn_of_lt {i : Fin n} {k : ℕ} (h : (i : ℕ) < k) : torn w c k i = w i := if_pos h

lemma torn_of_le {i : Fin n} {k : ℕ} (h : k ≤ (i : ℕ)) : torn w c k i = c i :=
  if_neg (Nat.not_lt.mpr h)

/-- All contents on the way are one of two, which both ends are, and at most one cell changes. -/
structure Direct (a b c w : Fin n → α) : Prop where
  start : c = a ∨ c = b
  finish : w = a ∨ w = b
  single : ∀ i j, c i ≠ w i → c j ≠ w j → i = j

/-- Of three arrays that are one of two each, the one between is one of the ends. -/
lemma eq_or_eq_of_pair {x y z : Fin n → α} (hx : x = a ∨ x = b) (hy : y = a ∨ y = b)
    (hz : z = a ∨ z = b) (hxz : x ≠ z) : y = x ∨ y = z := by
  rcases hx with rfl | rfl <;> rcases hz with rfl | rfl
  · exact absurd rfl hxz
  · exact hy
  · exact hy.symm
  · exact absurd rfl hxz

lemma not_lt_of_torn (h : ∀ k ≤ n, torn w c k = a ∨ torn w c k = b) {i j : Fin n}
    (hi : c i ≠ w i) (hj : c j ≠ w j) : ¬ i < j := by
  intro hij
  have hne : c ≠ w := fun heq => hi (congrFun heq i)
  -- cell `i` is written already and cell `j` is not
  rcases eq_or_eq_of_pair (torn_zero w c ▸ h 0 n.zero_le) (h j j.isLt.le)
      (torn_self w c ▸ h n le_rfl) hne with heq | heq
  · exact hi ((congrFun heq i).symm.trans (torn_of_lt hij))
  · exact hj ((torn_of_le le_rfl).symm.trans (congrFun heq j))

theorem forall_torn_iff :
    (∀ k ≤ n, torn w c k = a ∨ torn w c k = b) ↔ Direct a b c w := by
  constructor
  · intro h
    refine ⟨torn_zero w c ▸ h 0 n.zero_le, torn_self w c ▸ h n le_rfl, fun i j hi hj => ?_⟩
    exact le_antisymm (not_lt.mp (not_lt_of_torn h hj hi)) (not_lt.mp (not_lt_of_torn h hi hj))
  · rintro ⟨hc, hw, hsingle⟩ k -
    by_cases hchange : ∃ i : Fin n, c i ≠ w i ∧ (i : ℕ) < k
    · -- the only cell that changes is written
      obtain ⟨i, hi, hik⟩ := hchange
      have heq : torn w c k = w := by
        funext j
        rcases lt_or_ge (j : ℕ) k with hj | hj
        · exact torn_of_lt hj
        · refine (torn_of_le hj).trans (not_not.mp fun hne => ?_)
          rw [hsingle i j hi hne] at hik
          exact absurd hik (Nat.not_lt.mpr hj)
      rw [heq]
      exact hw
    · have heq : torn w c k = c := by
        funext j
        rcases lt_or_ge (j : ℕ) k with hj | hj
        · refine (torn_of_lt hj).trans (not_not.mp fun hne => ?_)
          exact hchange ⟨j, Ne.symm hne, hj⟩
        · exact torn_of_le hj
      rw [heq]
      exact hc

end MealVendor.Lib
