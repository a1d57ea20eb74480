import Mathlib.Data.BitVec
import Mathlib.Logic.Function.Iterate
import Mathlib.Tactic.Common

/-!
# Shift registers

A register that is shifted to the right, with a polynomial added where a 1 falls out, is linear over
the addition without carries.  If the polynomial has its highest bit, no register but 0 becomes 0,
and so a burst of errors that fits into the register is never lost.
-/

namespace MealVendor.Lib

variable {n : ℕ}

/-- One shift of the register. -/
def shift (p x : BitVec n) : BitVec n := if x.getLsbD 0 then (x >>> 1) ^^^ p else x >>> 1

/-- One bit at the lower end of the register. -/
def lowBit (b : Bool) : BitVec n := (BitVec.ofBool b).setWidth n

/-- The first bits of the list, from the lower end on. -/
def word (bs : List Bool) : BitVec n := (BitVec.ofBoolListLE bs).setWidth n

/-- The register after these bits: each is added at the lower end before the shift. -/
def feed (p : BitVec n) : BitVec n → List Bool → BitVec n :=
  List.foldl fun x b => shift p (x ^^^ lowBit b)

variable {p x y : BitVec n} {bs as w : List Bool}

@[simp] lemma feed_nil (p x : BitVec n) : feed p x [] = x := rfl

@[simp] lemma feed_cons (p x : BitVec n) (b : Bool) (bs : List Bool) :
    feed p x (b :: bs) = feed p (shift p (x ^^^ lowBit b)) bs := rfl

lemma feed_append (p x : BitVec n) (as bs : List Bool) :
    feed p x (as ++ bs) = feed p (feed p x as) bs :=
  List.foldl_append

@[simp] lemma lowBit_false : (lowBit false : BitVec n) = 0#n := by
  ext i
  simp [lowBit]

lemma lowBit_xor (a b : Bool) : (lowBit (a ^^ b) : BitVec n) = lowBit a ^^^ lowBit b := by
  ext i
  cases a <;> cases b <;> simp [lowBit]

/-! ## The register is linear -/

lemma shift_xor (p x y : BitVec n) : shift p (x ^^^ y) = shift p x ^^^ shift p y := by
  rw [shift, shift, shift, BitVec.getLsbD_xor, BitVec.ushiftRight_xor_distrib]
  cases x.getLsbD 0 <;> cases y.getLsbD 0
  · rfl
  · simp [BitVec.xor_assoc]
  · simp only [Bool.bne_false, if_true, if_false, Bool.false_eq_true]
    rw [BitVec.xor_assoc, BitVec.xor_assoc, BitVec.xor_comm p]
  · -- the two polynomials cancel
    apply BitVec.eq_of_getLsbD_eq
    intro i hi
    simp only [BitVec.getLsbD_xor, Bool.bne_true, Bool.not_true, if_true, if_false,
      Bool.false_eq_true]
    cases (x >>> 1).getLsbD i <;> cases (y >>> 1).getLsbD i <;> cases p.getLsbD i <;> rfl

@[simp] lemma shift_zero (p : BitVec n) : shift p 0#n = 0#n := by
  simp [shift]

/-- What two streams leave is added bit by bit. -/
lemma feed_xor (h : as.length = bs.length) :
    feed p (x ^^^ y) (List.zipWith (· ^^ ·) as bs) = feed p x as ^^^ feed p y bs := by
  induction as generalizing x y bs with
  | nil =>
    obtain rfl := List.length_eq_zero_iff.mp h.symm
    rfl
  | cons a as ih =>
    cases bs with
    | nil => cases h
    | cons b bs =>
      have hbits : x ^^^ y ^^^ lowBit (a ^^ b) = (x ^^^ lowBit a) ^^^ (y ^^^ lowBit b) := by
        rw [lowBit_xor]
        ac_rfl
      rw [List.zipWith_cons_cons, feed_cons, hbits, shift_xor, ih (Nat.succ.inj h), feed_cons,
        feed_cons]

/-! ## Nothing but 0 is lost -/

lemma eq_zero_of_shift (hp : p.getLsbD (n - 1) = true) (h : shift p x = 0#n) : x = 0#n := by
  rw [shift] at h
  split_ifs at h with hlow
  · -- the highest bit of the polynomial is not met by a bit of the shifted register
    have hmeet : x >>> 1 = p := BitVec.xor_eq_zero_iff.mp h
    rw [← hmeet, BitVec.getLsbD_ushiftRight, BitVec.getLsbD_of_ge _ _ (by omega)] at hp
    cases hp
  · apply BitVec.eq_of_getLsbD_eq
    intro i hi
    cases i with
    | zero => simpa using hlow
    | succ i =>
      have hbit : (x >>> 1).getLsbD i = false := by rw [h, BitVec.getLsbD_zero]
      rw [BitVec.getLsbD_ushiftRight, Nat.add_comm] at hbit
      rw [hbit, BitVec.getLsbD_zero]

lemma eq_zero_of_iterate (hp : p.getLsbD (n - 1) = true) {k : ℕ}
    (h : (shift p)^[k] x = 0#n) : x = 0#n := by
  induction k generalizing x with
  | zero => exact h
  | succ k ih => exact eq_zero_of_shift hp (ih h)

/-- Without a 1 among the bits the register is only shifted. -/
lemma feed_replicate (p x : BitVec n) (k : ℕ) :
    feed p x (List.replicate k false) = (shift p)^[k] x := by
  induction k generalizing x with
  | zero => rfl
  | succ k ih =>
    rw [List.replicate_succ, feed_cons, lowBit_false, BitVec.xor_zero, ih,
      Function.iterate_succ_apply]

/-! ## Bits that fit into the register -/

lemma getLsbD_word (w : List Bool) (i : ℕ) :
    (word w : BitVec n).getLsbD i = (decide (i < n) && w.getD i false) := by
  rw [word, BitVec.getLsbD_setWidth, BitVec.getLsbD_ofBoolListLE]

lemma getLsbD_lowBit (b : Bool) (i : ℕ) :
    (lowBit b : BitVec n).getLsbD i = (decide (i < n) && (decide (i = 0) && b)) := by
  rw [lowBit, BitVec.getLsbD_setWidth, BitVec.getLsbD_ofBool]

lemma word_cons (b : Bool) (w : List Bool) :
    (word (b :: w) : BitVec n) = lowBit b ^^^ (word w <<< 1) := by
  apply BitVec.eq_of_getLsbD_eq
  intro i hi
  rw [BitVec.getLsbD_xor, BitVec.getLsbD_shiftLeft, getLsbD_lowBit, getLsbD_word, getLsbD_word]
  cases i with
  | zero => simp [hi]
  | succ i => simp [hi, Nat.lt_of_succ_lt hi]

lemma shift_word (h : w.length < n) : shift p (word w <<< 1) = word w := by
  have hlow : (word w <<< 1 : BitVec n).getLsbD 0 = false := by simp
  rw [shift, hlow, if_neg Bool.false_ne_true]
  apply BitVec.eq_of_getLsbD_eq
  intro i hi
  rw [BitVec.getLsbD_ushiftRight, BitVec.getLsbD_shiftLeft, getLsbD_word, getLsbD_word]
  by_cases hin : 1 + i < n
  · simp [hin, hi]
  · -- behind the end of the list there are no bits
    have hend : w[i]? = none := List.getElem?_eq_none (by omega)
    simp [hin, hend]

/-- Bits that fit into the register may be added all at once before the shifts. -/
lemma feed_eq_iterate (h : w.length ≤ n) :
    feed p x w = (shift p)^[w.length] (x ^^^ word w) := by
  induction w generalizing x with
  | nil =>
    have hword : (word [] : BitVec n) = 0#n := by
      apply BitVec.eq_of_getLsbD_eq
      intro i hi
      simp [word]
    rw [feed_nil, hword, BitVec.xor_zero]
    rfl
  | cons b w ih =>
    rw [List.length_cons] at h
    rw [feed_cons, ih (by omega), List.length_cons, Function.iterate_succ_apply, word_cons,
      ← BitVec.xor_assoc, shift_xor p (x ^^^ lowBit b), shift_word (by omega)]

lemma eq_false_of_word_eq_zero (h : w.length ≤ n) (hw : (word w : BitVec n) = 0#n) :
    ∀ b ∈ w, b = false := by
  intro b hb
  obtain ⟨i, hi, rfl⟩ := List.mem_iff_getElem.mp hb
  have hbit : (word w : BitVec n).getLsbD i = false := by rw [hw, BitVec.getLsbD_zero]
  rw [getLsbD_word] at hbit
  simpa [hi, show i < n by omega] using hbit

/-- A burst that fits into the register leaves something in it. -/
lemma feed_burst (hp : p.getLsbD (n - 1) = true) (h : w.length ≤ n) (hw : true ∈ w) (s t : ℕ) :
    feed p 0#n (List.replicate s false ++ (w ++ List.replicate t false)) ≠ 0#n := by
  intro hzero
  have hbefore : (shift p)^[s] 0#n = 0#n := Function.iterate_fixed (shift_zero p) s
  rw [feed_append, feed_append, feed_replicate, feed_replicate, hbefore, feed_eq_iterate h,
    BitVec.zero_xor] at hzero
  have hword := eq_zero_of_iterate hp (eq_zero_of_iterate hp hzero)
  exact absurd (eq_false_of_word_eq_zero h hword true hw) Bool.noConfusion

/-- Bits that are 0 but for a window are a burst. -/
lemma eq_burst {e : List Bool} {s : ℕ}
    (h : ∀ i (hi : i < e.length), e[i] = true → s ≤ i ∧ i < s + n) :
    e = List.replicate (min s e.length) false ++
      ((e.drop s).take n ++ List.replicate (e.length - (s + n)) false) := by
  have hbefore : e.take s = List.replicate (min s e.length) false := by
    refine List.eq_replicate_iff.mpr ⟨List.length_take, fun b hb => ?_⟩
    obtain ⟨i, hi, rfl⟩ := List.mem_iff_getElem.mp hb
    rw [List.length_take] at hi
    rw [List.getElem_take]
    by_contra hne
    have := h i (by omega) (Bool.not_eq_false _ ▸ hne)
    omega
  have hbehind : (e.drop s).drop n = List.replicate (e.length - (s + n)) false := by
    rw [List.drop_drop]
    refine List.eq_replicate_iff.mpr ⟨List.length_drop, fun b hb => ?_⟩
    obtain ⟨i, hi, rfl⟩ := List.mem_iff_getElem.mp hb
    rw [List.length_drop] at hi
    rw [List.getElem_drop]
    by_contra hne
    have := h (s + n + i) (by omega) (Bool.not_eq_false _ ▸ hne)
    omega
  rw [← hbefore, ← hbehind, List.take_append_drop, List.take_append_drop]

/-- Two streams that differ, and only within a window of the size of the register, leave it
different. -/
theorem feed_ne (hp : p.getLsbD (n - 1) = true) (hlen : as.length = bs.length) (hne : as ≠ bs)
    {s : ℕ} (h : ∀ i, as[i]? ≠ bs[i]? → s ≤ i ∧ i < s + n) : feed p x as ≠ feed p x bs := by
  intro heq
  set e := List.zipWith (· ^^ ·) as bs with he
  have hbit : ∀ i (hi : i < e.length), e[i] = true ↔ as[i]? ≠ bs[i]? := by
    intro i hi
    rw [he, List.length_zipWith] at hi
    rw [List.getElem?_eq_getElem (by omega), List.getElem?_eq_getElem (by omega), ne_eq,
      Option.some_inj]
    simp [he]
  have hzero : feed p 0#n e = 0#n := by
    have hxor := feed_xor (p := p) (x := x) (y := x) hlen
    rwa [heq, BitVec.xor_self, BitVec.xor_self] at hxor
  obtain ⟨i, hi⟩ : ∃ i, as[i]? ≠ bs[i]? := by
    by_contra hall
    push Not at hall
    exact hne (List.ext_getElem? hall)
  have hie : i < e.length := by
    rw [he, List.length_zipWith]
    by_contra hout
    rw [List.getElem?_eq_none (by omega), List.getElem?_eq_none (by omega)] at hi
    exact hi rfl
  have hwindow := h i hi
  -- the bit that differs lies in the window
  have hmem : true ∈ (e.drop s).take n := by
    refine List.mem_iff_getElem.mpr ⟨i - s, by rw [List.length_take, List.length_drop]; omega, ?_⟩
    rw [List.getElem_take, List.getElem_drop]
    simp only [show s + (i - s) = i by omega]
    exact (hbit i hie).mpr hi
  rw [eq_burst fun j hj hset => h j ((hbit j hj).mp hset)] at hzero
  exact feed_burst hp (List.length_take_le n _) hmem _ _ hzero

end MealVendor.Lib
