import Mathlib.Data.List.Nodup
import Mathlib.Logic.Function.Basic

/-!
# Counts as a list

A function that says how often each entry of a list is wanted, written out as the list of what
is wanted.  Taking away its head lowers the count of the first entry that is wanted at all.
-/

namespace MealVendor.Lib

variable {α : Type*}

/-- Every entry as often as `f` says. -/
def repeated (f : α → ℕ) (ks : List α) : List α := ks.flatMap fun k => List.replicate (f k) k

/-- The first entry that is wanted at all is the head of the list. -/
lemma repeated_of_find? [DecidableEq α] {f : α → ℕ} {ks : List α} {k : α} (hn : ks.Nodup)
    (h : ks.find? (fun k => decide (0 < f k)) = some k) :
    repeated f ks = k :: repeated (Function.update f k (f k - 1)) ks := by
  rw [repeated, repeated]
  induction ks with
  | nil => cases h
  | cons a ks ih =>
    obtain ⟨ha, hn⟩ := List.nodup_cons.mp hn
    rw [List.flatMap_cons, List.flatMap_cons]
    by_cases hpos : 0 < f a
    · obtain rfl : a = k := by simpa [hpos] using h
      have hrest : ks.flatMap (fun b => List.replicate (f b) b) =
          ks.flatMap fun b => List.replicate (Function.update f a (f a - 1) b) b := by
        refine List.flatMap_congr fun b hb => ?_
        have hne : b ≠ a := fun heq => ha (heq ▸ hb)
        rw [Function.update_of_ne hne]
      have hsucc : f a = (f a - 1) + 1 := by omega
      rw [Function.update_self, ← hrest]
      conv_lhs => rw [hsucc, List.replicate_succ]
      rfl
    · have hk : ks.find? (fun k => decide (0 < f k)) = some k := by simpa [hpos] using h
      have hne : a ≠ k := fun heq => ha (heq ▸ List.mem_of_find?_eq_some hk)
      have hzero : f a = 0 := by omega
      rw [Function.update_of_ne hne, hzero, List.replicate_zero, List.nil_append, List.nil_append]
      exact ih hn hk

lemma repeated_of_find?_none {f : α → ℕ} {ks : List α}
    (h : ks.find? (fun k => decide (0 < f k)) = none) : repeated f ks = [] := by
  rw [List.find?_eq_none] at h
  rw [repeated]
  rw [List.flatMap_eq_nil_iff]
  intro k hk
  have hzero : f k = 0 := by simpa using h k hk
  rw [hzero]
  rfl

lemma count_repeated [DecidableEq α] {f : α → ℕ} {ks : List α} (hn : ks.Nodup) {k : α}
    (hk : k ∈ ks) :
    (repeated f ks).count k = f k := by
  rw [repeated]
  induction ks with
  | nil => cases hk
  | cons a ks ih =>
    obtain ⟨ha, hn⟩ := List.nodup_cons.mp hn
    rw [List.flatMap_cons, List.count_append, List.count_replicate]
    rcases eq_or_ne a k with rfl | hne
    · have hrest : (ks.flatMap fun b => List.replicate (f b) b).count a = 0 := by
        rw [List.count_eq_zero]
        intro hmem
        obtain ⟨b, hb, hab⟩ := List.mem_flatMap.mp hmem
        exact ha (List.eq_of_mem_replicate hab ▸ hb)
      rw [hrest]
      simp
    · rw [ih hn ((List.mem_cons.mp hk).resolve_left hne.symm)]
      simp [hne]

end MealVendor.Lib
