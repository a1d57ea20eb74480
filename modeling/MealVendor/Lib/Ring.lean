import Mathlib.Data.List.Basic
import Mathlib.Logic.Function.Basic

/-!
# Circular buffers

A ring is a memory of which only the cells below `n` are used.  Its contents are the `k`
cells from cell `r` on, where cell 0 comes after cell `n - 1`.  Taking out the first of
them moves `r`, a new one goes into the cell behind the last; both leave the other contents
alone as long as the ring is not full.
-/

namespace MealVendor.Lib.Ring

variable {α : Type*} {n r k i : ℕ}

/-- The cell after cell `i` of a ring of `n` cells. -/
def next (n i : ℕ) : ℕ := if n ≤ i + 1 then 0 else i + 1

/-- The cell `k` places after cell `r`. -/
def place (n r k : ℕ) : ℕ := if n ≤ r + k then r + k - n else r + k

/-- The contents of the `k` cells from cell `r` on. -/
def contents (n : ℕ) (cells : ℕ → α) (r k : ℕ) : List α :=
  (List.range k).map fun i => cells (place n r i)

lemma next_lt (h : r < n) : next n r < n := by
  rw [next]
  split_ifs <;> omega

@[simp] lemma place_zero (h : r < n) : place n r 0 = r := by
  rw [place, if_neg (by omega), Nat.add_zero]

/-- The place behind the last of `k + 1` cells is the one after the place behind `k`. -/
lemma next_place (hr : r < n) (hk : k < n) : next n (place n r k) = place n r (k + 1) := by
  rw [next, place, place]
  split_ifs <;> omega

/-- Places are counted from the next cell, one less. -/
lemma place_next (hr : r < n) (hk : k < n) : place n (next n r) k = place n r (k + 1) := by
  rw [next, place, place]
  split_ifs <;> omega

/-- The cells of one turn are different. -/
lemma place_ne (hi : i < k) (hk : k < n) : place n r i ≠ place n r k := by
  rw [place, place]
  split_ifs <;> omega

/-- The first of the contents, and what is left when it is taken out. -/
lemma contents_succ (cells : ℕ → α) (hr : r < n) (hk : k < n) :
    contents n cells r (k + 1) = cells r :: contents n cells (next n r) k := by
  rw [contents, List.range_succ_eq_map, List.map_cons, place_zero hr, List.map_map]
  congr 1
  refine List.map_congr_left fun i hi => ?_
  have hi' := List.mem_range.mp hi
  exact congrArg cells (place_next hr (by omega)).symm

/-- A value in the cell behind the last comes at the end of the contents. -/
lemma contents_update (cells : ℕ → α) (a : α) (hk : k < n) :
    contents n (Function.update cells (place n r k) a) r (k + 1) = contents n cells r k ++ [a] := by
  rw [contents, List.range_succ, List.map_append, List.map_singleton, Function.update_self]
  congr 1
  refine List.map_congr_left fun i hi => ?_
  rw [Function.update_of_ne (place_ne (List.mem_range.mp hi) hk)]

end MealVendor.Lib.Ring
