import Mathlib.Data.List.Basic
import Mathlib.Tactic.Common

/-!
# Files of equal blocks

A file of blocks that all have one length: where a block is found, and what becomes of the file when
one of its elements is overwritten.
-/

namespace MealVendor.Lib

variable {α : Type*} {n : ℕ} {pre post : List (List α)} {p : List α}

lemma length_flatten (h : ∀ q ∈ pre, q.length = n) : pre.flatten.length = n * pre.length := by
  induction pre with
  | nil => simp
  | cons q pre ih =>
    rw [List.forall_mem_cons] at h
    rw [List.flatten_cons, List.length_append, h.1, ih h.2, List.length_cons, Nat.mul_succ,
      Nat.add_comm]

/-- The block behind `pre`. -/
lemma take_drop_flatten (h : ∀ q ∈ pre, q.length = n) (hp : p.length = n) :
    ((pre ++ p :: post).flatten.drop (n * pre.length)).take n = p := by
  rw [List.flatten_append, List.drop_left' (length_flatten h), List.flatten_cons,
    List.take_left' hp]

/-- An element of the block behind `pre` is overwritten. -/
lemma set_flatten (h : ∀ q ∈ pre, q.length = n) {k : ℕ} (hk : k < p.length) (a : α) :
    (pre ++ p :: post).flatten.set (n * pre.length + k) a = (pre ++ p.set k a :: post).flatten := by
  rw [List.flatten_append, List.flatten_append, List.flatten_cons, List.flatten_cons,
    List.set_append_right _ _ (by rw [length_flatten h]; omega), length_flatten h,
    Nat.add_sub_cancel_left, List.set_append_left _ _ hk]

end MealVendor.Lib
