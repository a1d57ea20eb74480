import Mathlib.Data.Nat.Notation
import Mathlib.Order.Basic
import Mathlib.Tactic.Cases

/-!
# Retries

A loop that makes up to so many attempts: an attempt ends the loop with a result, or leaves
the state for the next one.
-/

namespace MealVendor.Lib

variable {σ α : Type*} {f : ℕ → σ → σ ⊕ α} {s t : σ} {n i : ℕ} {a : α}

/-- Up to `n` attempts, the first of which has the number `i`. -/
def attempts (f : ℕ → σ → σ ⊕ α) : ℕ → ℕ → σ → σ ⊕ α
  | 0, _, s => .inl s
  | n + 1, i, s =>
    match f i s with
    | .inl s' => attempts f n (i + 1) s'
    | .inr a => .inr a

/-- The attempts from number `i` up to number `j` all left the loop going. -/
inductive Tried (f : ℕ → σ → σ ⊕ α) : ℕ → σ → ℕ → σ → Prop
  | refl {i : ℕ} {s : σ} : Tried f i s i s
  | cons {i j : ℕ} {s s' t : σ} : f i s = .inl s' → Tried f (i + 1) s' j t → Tried f i s j t

/-- The first number with a property is the only first one. -/
lemma eq_of_first {p : ℕ → Prop} {j : ℕ} (hi : p i) (hj : p j) (hbefore : ∀ k < i, ¬ p k)
    (hbefore' : ∀ k < j, ¬ p k) : i = j := by
  rcases Nat.lt_trichotomy i j with h | h | h
  · exact absurd hi (hbefore' i h)
  · exact h
  · exact absurd hj (hbefore j h)

lemma Tried.le {j : ℕ} (h : Tried f i s j t) : i ≤ j := by
  induction h with
  | refl => exact Nat.le_refl _
  | cons _ _ ih => omega

lemma Tried.snoc {j : ℕ} {t' : σ} (h : Tried f i s j t) (ht : f j t = .inl t') :
    Tried f i s (j + 1) t' := by
  induction h with
  | refl => exact .cons ht .refl
  | cons hs _ ih => exact .cons hs (ih ht)

/-- An invariant of the states that the attempts leave, and what such an attempt shows. -/
lemma Tried.invariant {P : ℕ → Prop} {I : ℕ → σ → Prop} {j : ℕ}
    (hstep : ∀ k s t, I k s → f k s = .inl t → P k ∧ I (k + 1) t) (h : Tried f i s j t)
    (hs : I i s) : (∀ k, i ≤ k → k < j → P k) ∧ I j t := by
  induction h with
  | refl => exact ⟨fun k hik hki => absurd hki (Nat.not_lt.mpr hik), hs⟩
  | cons hst _ ih =>
    obtain ⟨hp, hs'⟩ := hstep _ _ _ hs hst
    obtain ⟨hall, ht⟩ := ih hs'
    refine ⟨fun k hik hkj => ?_, ht⟩
    rcases Nat.eq_or_lt_of_le hik with rfl | hlt
    · exact hp
    · exact hall k hlt hkj

/-- Attempts that all leave the loop going. -/
lemma tried_of_forall {P : ℕ → Prop} {I : ℕ → σ → Prop} {j : ℕ}
    (hstep : ∀ k s, I k s → P k → ∃ t, f k s = .inl t ∧ I (k + 1) t) (hs : I 0 s)
    (h : ∀ k < j, P k) : ∃ t, Tried f 0 s j t ∧ I j t := by
  induction j with
  | zero => exact ⟨s, .refl, hs⟩
  | succ j ih =>
    obtain ⟨t, ht, hi⟩ := ih fun k hk => h k (Nat.lt_succ_of_lt hk)
    obtain ⟨t', ht', hi'⟩ := hstep j t hi (h j (Nat.lt_succ_self j))
    exact ⟨t', ht.snoc ht', hi'⟩

/-- The loop ends with a result exactly if one of the attempts does. -/
lemma attempts_eq_inr_iff : attempts f n i s = .inr a ↔
    ∃ j < i + n, ∃ t, Tried f i s j t ∧ f j t = .inr a := by
  -- on the number of attempts: the first one ends the loop or leaves one attempt less
  induction n generalizing i s with
  | zero =>
    rw [attempts]
    constructor
    · rintro ⟨⟩
    · rintro ⟨j, hj, t, ht, -⟩
      have := ht.le
      omega
  | succ n ih =>
    rw [attempts]
    cases hs : f i s with
    | inl s' =>
      show attempts f n (i + 1) s' = .inr a ↔ _
      rw [ih]
      constructor
      · rintro ⟨j, hj, t, ht, ha⟩
        exact ⟨j, by omega, t, .cons hs ht, ha⟩
      · rintro ⟨j, hj, t, ht, ha⟩
        cases ht with
        | refl => rw [hs] at ha; cases ha
        | cons hs' ht =>
          cases hs.symm.trans hs'
          exact ⟨j, by omega, t, ht, ha⟩
    | inr b =>
      show Sum.inr b = .inr a ↔ _
      constructor
      · rintro ⟨⟩
        exact ⟨i, by omega, s, .refl, hs⟩
      · rintro ⟨j, hj, t, ht, ha⟩
        cases ht with
        | refl => exact hs.symm.trans ha
        | cons hs' ht => cases hs.symm.trans hs'

/-- The loop ends without a result exactly if all attempts leave it going. -/
lemma attempts_eq_inl_iff : attempts f n i s = .inl t ↔ Tried f i s (i + n) t := by
  induction n generalizing i s with
  | zero =>
    rw [attempts, Nat.add_zero]
    constructor
    · rintro ⟨⟩
      exact .refl
    · intro h
      cases h with
      | refl => rfl
      | cons _ h => exact absurd h.le (Nat.not_succ_le_self i)
  | succ n ih =>
    rw [attempts]
    cases hs : f i s with
    | inl s' =>
      show attempts f n (i + 1) s' = .inl t ↔ _
      rw [ih, show i + 1 + n = i + (n + 1) by omega]
      constructor
      · exact .cons hs
      · intro h
        cases h with
        | cons hs' h =>
          cases hs.symm.trans hs'
          exact h
    | inr b =>
      show Sum.inr b = .inl t ↔ _
      constructor
      · rintro ⟨⟩
      · intro h
        cases h with
        | cons hs' _ => cases hs.symm.trans hs'

end MealVendor.Lib
