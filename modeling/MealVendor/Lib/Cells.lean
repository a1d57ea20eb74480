import Mathlib.Data.List.Basic
import Mathlib.Data.List.GetD
import Mathlib.Logic.Function.Basic

/-!
# Rows of cells

A memory is a function from addresses.  A row of values is stored from one address on, and a row of
cells is read; outside of the row that is stored nothing changes.
-/

namespace MealVendor.Lib

variable {α : Type*}

/-- The memory with the values `ds` in the cells from `a` on. -/
def stored (m : ℕ → α) (a : ℕ) (ds : List α) : ℕ → α := fun c =>
  if a ≤ c then (ds[c - a]?).getD (m c) else m c

/-- The `n` cells from `a` on. -/
def cells (m : ℕ → α) (a n : ℕ) : List α := (List.range n).map fun i => m (a + i)

variable {m m' : ℕ → α} {a b c n : ℕ} {ds : List α}

lemma stored_of_lt (h : c < a) : stored m a ds c = m c := if_neg (by omega)

lemma stored_of_le (h : a + ds.length ≤ c) : stored m a ds c = m c := by
  rw [stored, List.getElem?_eq_none (by omega), Option.getD_none, ite_self]

/-- A cell that is stored. -/
lemma stored_add {i : ℕ} (h : i < ds.length) : stored m a ds (a + i) = ds[i] := by
  rw [stored, if_pos (Nat.le_add_right _ _), Nat.add_sub_cancel_left,
    List.getElem?_eq_getElem h, Option.getD_some]

lemma length_cells : (cells m a n).length = n := by rw [cells, List.length_map, List.length_range]

/-- Two memories that agree on the cells that are read. -/
lemma cells_congr (h : ∀ i, i < n → m (a + i) = m' (a + i)) : cells m a n = cells m' a n :=
  List.map_congr_left fun i hi => h i (List.mem_range.mp hi)

/-- What was stored is read back, the front of it as well. -/
lemma cells_stored {es : List α} (h : ds.length = n) :
    cells (stored m a (ds ++ es)) a n = ds := by
  refine List.ext_getElem (length_cells.trans h.symm) fun i hi hi' => ?_
  have hlt : i < (ds ++ es).length := by rw [List.length_append]; omega
  simp only [cells, List.getElem_map, List.getElem_range]
  rw [stored_add hlt, List.getElem_append_left hi']

/-- A row elsewhere is read as before. -/
lemma cells_stored_of_disjoint (h : a + n ≤ b ∨ b + ds.length ≤ a) :
    cells (stored m b ds) a n = cells m a n := by
  refine cells_congr fun i hi => ?_
  rcases h with h | h
  · exact stored_of_lt (by omega)
  · exact stored_of_le (by omega)

lemma cells_add (k : ℕ) : cells m a (k + n) = cells m a k ++ cells m (a + k) n := by
  simp only [cells, List.range_add, List.map_append, List.map_map]
  refine congrArg (_ ++ ·) (List.map_congr_left fun i _ => ?_)
  rw [Function.comp_apply, Nat.add_assoc]

/-- A row is read up to its mark. -/
lemma takeWhile_cells {p : α → Bool} {d : α} (h : cells m a (ds.length + 1) = ds ++ [d])
    (hp : ∀ e ∈ ds, p e = true) (hd : p d = false) (hn : ds.length < n) :
    (cells m a n).takeWhile p = ds := by
  obtain ⟨k, rfl⟩ := Nat.exists_eq_add_of_le (Nat.succ_le_of_lt hn)
  rw [cells_add, h, List.append_assoc, List.singleton_append, List.takeWhile_append_of_pos hp,
    List.takeWhile_cons_of_neg (by rw [hd]; exact Bool.false_ne_true), List.append_nil]

end MealVendor.Lib
