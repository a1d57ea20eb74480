import Mathlib.Data.List.Basic

/-!
# Rows filled from the first to the last

Entries of a list are written into the rows of a table, one after the other.  Writing a row may
spoil rows behind it, as long as an empty row stays empty.
-/

namespace MealVendor.Lib

variable {δ ρ κ : Type*}

/-- The entries are written into the rows from `j` on. -/
def fill (set : κ → ℕ → δ → δ) : List κ → ℕ → δ → δ
  | [], _, d => d
  | k :: ks, j, d => fill set ks (j + 1) (set k j d)

/-- What writing a row does to the table of `n` rows that `view` shows. -/
structure Writes (view : δ → ℕ → ρ) (blank : ρ) (val : κ → ρ) (n : ℕ) (set : κ → ℕ → δ → δ) :
    Prop where
  self : ∀ k j d, j < n → view (set k j d) j = val k
  before : ∀ k j d i, j < n → i < j → view (set k j d) i = view d i
  behind : ∀ k j d i, j < i → i < n → view d i = blank → view (set k j d) i = blank

variable {view : δ → ℕ → ρ} {blank : ρ} {val : κ → ρ} {n : ℕ} {set : κ → ℕ → δ → δ}

/-- Writing a row leaves the others alone. -/
lemma Writes.of_single (h : ∀ k j d i, j < n → i < n →
    view (set k j d) i = if i = j then val k else view d i) : Writes view blank val n set where
  self k j d hj := by rw [h k j d j hj hj, if_pos rfl]
  before k j d i hj hi := by rw [h k j d i hj (by omega), if_neg (by omega)]
  behind k j d i hj hi hblank := by rw [h k j d i (by omega) hi, if_neg (by omega), hblank]

/-- If the rows from `j` on are empty, they hold the entries in the end. -/
lemma Writes.fill (h : Writes view blank val n set) {ks : List κ} {i j : ℕ} {d : δ}
    (hlen : j + ks.length ≤ n) (hblank : ∀ i, j ≤ i → i < n → view d i = blank) (hi : i < n) :
    view (fill set ks j d) i =
      if i < j then view d i else (ks[i - j]?.map val).getD blank := by
  induction ks generalizing j d with
  | nil =>
    rw [Lib.fill, List.getElem?_nil]
    split_ifs with hlt
    · rfl
    · exact hblank i (by omega) hi
  | cons k ks ih =>
    rw [List.length_cons] at hlen
    have hj : j < n := by omega
    have hblank' : ∀ i, j + 1 ≤ i → i < n → view (set k j d) i = blank := fun i hij hin =>
      h.behind k j d i hij hin (hblank i (by omega) hin)
    rw [Lib.fill, ih (by omega) hblank']
    rcases Nat.lt_trichotomy i j with hlt | rfl | hgt
    · rw [if_pos (by omega), if_pos hlt, h.before k j d i hj hlt]
    · rw [if_pos (by omega), if_neg (by omega), h.self k i d hj, Nat.sub_self]
      rfl
    · have hsub : i - j = i - (j + 1) + 1 := by omega
      rw [if_neg (by omega), if_neg (by omega), hsub, List.getElem?_cons_succ]

/-- What no row touches is left alone. -/
lemma fill_fixed {α : Type*} {f : δ → α} {ks : List κ} {j : ℕ} {d : δ}
    (h : ∀ k i d, i < j + ks.length → f (set k i d) = f d) : f (fill set ks j d) = f d := by
  induction ks generalizing j d with
  | nil => rfl
  | cons k ks ih =>
    rw [List.length_cons] at h
    rw [fill, ih fun k i d hi => h k i d (by omega)]
    exact h k j d (by omega)

end MealVendor.Lib
