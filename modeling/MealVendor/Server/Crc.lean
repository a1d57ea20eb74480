import MealVendor.Lib.Crc
import MealVendor.Model.Hex
import MealVendor.Model.Uart5
import Mathlib.Data.List.GetD

/-!
# What the checksum detects

`GetCrc16` is a shift register of sixteen bits that takes the bits of each byte from the lowest on.
So the checksum of a sum is the sum of the checksums, and a burst of at most sixteen bits is always
detected.
-/

namespace MealVendor

/-- Bit `i` of a message, the bits of each byte from the lowest on. -/
def messageBit (m : List UInt8) (i : ℕ) : Bool := (m.getD (i / 8) 0).toNat.testBit (i % 8)

/-- The messages differ only within the sixteen bits from `s` on. -/
def DifferWithin (s : ℕ) (a b : List UInt8) : Prop :=
  ∀ i, messageBit a i ≠ messageBit b i → s ≤ i ∧ i < s + 16

/-- The bits of a byte, from the lowest on. -/
def byteBits (b : UInt8) : List Bool := (List.range 8).map b.toNat.testBit

/-- The bits of a message. -/
def messageBits (m : List UInt8) : List Bool := (List.range (8 * m.length)).map (messageBit m)

/-- `Crc` when it has sixteen bits. -/
def crcReg (v : BitVec 16) : UInt32 := ⟨v.setWidth 32⟩

/-- The polynomial, from its highest coefficient but one on. -/
def crcPoly : BitVec 16 := 0x8408#16

variable {a b : List UInt8} {v : BitVec 16}

/-! ## The bits of a message -/

lemma messageBit_of_le {m : List UInt8} {i : ℕ} (h : 8 * m.length ≤ i) :
    messageBit m i = false := by
  rw [messageBit, List.getD_eq_default _ _ (by omega)]
  exact Nat.zero_testBit _

/-- Only the bits of the messages need to be compared. -/
lemma differWithin_iff {s : ℕ} : DifferWithin s a b ↔ ∀ i < 8 * max a.length b.length,
    messageBit a i ≠ messageBit b i → s ≤ i ∧ i < s + 16 := by
  refine ⟨fun h i _ => h i, fun h i hi => h i ?_ hi⟩
  by_contra hout
  exact hi ((messageBit_of_le (by omega)).trans (messageBit_of_le (by omega)).symm)

instance (s : ℕ) (a b : List UInt8) : Decidable (DifferWithin s a b) :=
  decidable_of_iff _ differWithin_iff.symm

lemma length_messageBits (m : List UInt8) : (messageBits m).length = 8 * m.length := by
  rw [messageBits, List.length_map, List.length_range]

lemma messageBits_cons (b : UInt8) (m : List UInt8) :
    messageBits (b :: m) = byteBits b ++ messageBits m := by
  rw [messageBits, List.length_cons, show 8 * (m.length + 1) = 8 + 8 * m.length by omega,
    List.range_add, List.map_append, List.map_map]
  congr 1
  refine List.map_congr_left fun i _ => ?_
  rw [Function.comp_apply, messageBit, messageBit, show (8 + i) / 8 = i / 8 + 1 by omega,
    show (8 + i) % 8 = i % 8 by omega, List.getD_cons_succ]

lemma messageBits_getElem? (m : List UInt8) (i : ℕ) :
    (messageBits m)[i]? = if i < 8 * m.length then some (messageBit m i) else none := by
  rw [messageBits, List.getElem?_map]
  split_ifs with hi
  · rw [List.getElem?_range hi]
    rfl
  · rw [List.getElem?_eq_none (by rw [List.length_range]; omega)]
    rfl

lemma byteBits_injective : Function.Injective byteBits := by
  intro b c h
  refine UInt8.toNat_inj.mp (Nat.eq_of_testBit_eq fun i => ?_)
  rcases lt_or_ge i 8 with hi | hi
  · have hget : (byteBits b)[i]? = (byteBits c)[i]? := by rw [h]
    rw [byteBits, byteBits, List.getElem?_map, List.getElem?_map, List.getElem?_range hi] at hget
    exact Option.some_inj.mp hget
  · have hpow : 2 ^ 8 ≤ 2 ^ i := Nat.pow_le_pow_right (by decide) hi
    rw [Nat.testBit_lt_two_pow (b.toNat_lt.trans_le hpow),
      Nat.testBit_lt_two_pow (c.toNat_lt.trans_le hpow)]

lemma messageBits_injective : Function.Injective messageBits := by
  intro a b h
  induction a generalizing b with
  | nil =>
    have hlen := length_messageBits b
    rw [← h] at hlen
    exact (List.length_eq_zero_iff.mp (by simpa [messageBits] using hlen)).symm
  | cons x a ih =>
    cases b with
    | nil =>
      have hlen := length_messageBits (x :: a)
      rw [h] at hlen
      simp [messageBits] at hlen
    | cons y b =>
      rw [messageBits_cons, messageBits_cons] at h
      obtain ⟨hbyte, hrest⟩ := List.append_inj h (by simp [byteBits])
      rw [byteBits_injective hbyte, ih hrest]

/-! ## The register -/

lemma crcReg_toBitVec (v : BitVec 16) : (crcReg v).toBitVec = v.setWidth 32 := rfl

lemma crcReg_injective : Function.Injective crcReg := by
  intro v w h
  have hwide : v.setWidth 32 = w.setWidth 32 := congrArg UInt32.toBitVec h
  have := congrArg (BitVec.setWidth 16) hwide
  simpa using this

lemma crcReg_xor (v w : BitVec 16) : crcReg (v ^^^ w) = crcReg v ^^^ crcReg w := by
  apply UInt32.toBitVec_inj.mp
  rw [UInt32.toBitVec_xor, crcReg_toBitVec, crcReg_toBitVec, crcReg_toBitVec, BitVec.setWidth_xor]

/-- The bit that is tested is the lowest of the register. -/
lemma crcReg_and_one (v : BitVec 16) : crcReg v &&& 0x0001 ≠ 0 ↔ v.getLsbD 0 = true := by
  have hlow : crcReg v &&& 0x0001 = crcReg (Lib.lowBit (v.getLsbD 0)) := by
    apply UInt32.toBitVec_inj.mp
    apply BitVec.eq_of_getLsbD_eq
    intro i hi
    rw [crcReg_toBitVec, BitVec.getLsbD_setWidth, Lib.getLsbD_lowBit, UInt32.toBitVec_and,
      crcReg_toBitVec, BitVec.getLsbD_and, BitVec.getLsbD_setWidth]
    cases i with
    | zero => simp
    | succ i => simp
  rw [hlow]
  cases v.getLsbD 0 <;> decide

lemma crcReg_shiftRight (v : BitVec 16) : crcReg v >>> 1 = crcReg (v >>> 1) := by
  apply UInt32.toBitVec_inj.mp
  apply BitVec.eq_of_getLsbD_eq
  intro i hi
  simp [crcReg_toBitVec]

lemma crcBit_crcReg (v : BitVec 16) : crcBit (crcReg v) = crcReg (Lib.shift crcPoly v) := by
  have hpoly : (0x08408 : UInt32) = crcReg crcPoly := rfl
  rw [crcBit, Lib.shift, hpoly, crcReg_shiftRight, ← crcReg_xor]
  simp only [crcReg_and_one, apply_ite crcReg]

lemma toUInt32_eq_crcReg (b : UInt8) : b.toUInt32 = crcReg (Lib.word (byteBits b)) := by
  revert b
  refine forall_byte ?_
  decide +kernel

lemma crcByte_crcReg (v : BitVec 16) (b : UInt8) :
    crcByte (crcReg v) b = crcReg (Lib.feed crcPoly v (byteBits b)) := by
  have hsemi : Function.Semiconj crcReg (Lib.shift crcPoly) crcBit :=
    fun v => (crcBit_crcReg v).symm
  have hlen : (byteBits b).length = 8 := by rw [byteBits, List.length_map, List.length_range]
  rw [crcByte, toUInt32_eq_crcReg, ← crcReg_xor, ← (hsemi.iterate_right 8) _,
    Lib.feed_eq_iterate (by rw [hlen]; decide), hlen]

lemma foldl_crcByte_crcReg (m : List UInt8) (v : BitVec 16) :
    m.foldl crcByte (crcReg v) = crcReg (Lib.feed crcPoly v (messageBits m)) := by
  induction m generalizing v with
  | nil => rfl
  | cons b m ih => rw [List.foldl_cons, crcByte_crcReg, ih, messageBits_cons, Lib.feed_append]

lemma getCrc16_eq (h : a ≠ []) : getCrc16 a = crcReg (Lib.feed crcPoly 0#16 (messageBits a)) := by
  have hzero : (0 : UInt32) = crcReg 0#16 := rfl
  rw [getCrc16, if_neg h, hzero, foldl_crcByte_crcReg]

/-! ## What is detected -/

/-- Messages that differ are told apart if they differ only within sixteen bits. -/
lemma getCrc16_ne {s : ℕ} (hlen : a.length = b.length) (ha : a ≠ []) (hne : a ≠ b)
    (h : DifferWithin s a b) : getCrc16 a ≠ getCrc16 b := by
  have hb : b ≠ [] := by
    rintro rfl
    exact ha (List.length_eq_zero_iff.mp hlen)
  rw [getCrc16_eq ha, getCrc16_eq hb]
  refine crcReg_injective.ne (Lib.feed_ne (by decide) ?_ (messageBits_injective.ne hne)
    (s := s) fun i hi => h i fun hsame => hi ?_)
  · rw [length_messageBits, length_messageBits, hlen]
  · rw [messageBits_getElem?, messageBits_getElem?, hlen, hsame]

lemma byteBits_xor (x y : UInt8) :
    byteBits (x ^^^ y) = List.zipWith (· ^^ ·) (byteBits x) (byteBits y) := by
  refine List.ext_getElem (by simp [byteBits]) fun i hi hi' => ?_
  simp [byteBits]

/-- The bits of a sum. -/
lemma messageBits_xor (hlen : a.length = b.length) :
    messageBits (List.zipWith (· ^^^ ·) a b) =
      List.zipWith (· ^^ ·) (messageBits a) (messageBits b) := by
  induction a generalizing b with
  | nil => rfl
  | cons x a ih =>
    cases b with
    | nil => cases hlen
    | cons y b =>
      have hbyte : (byteBits x).length = (byteBits y).length := by simp [byteBits]
      rw [List.zipWith_cons_cons, messageBits_cons, messageBits_cons, messageBits_cons,
        List.zipWith_append hbyte, byteBits_xor, ih (Nat.succ.inj hlen)]

lemma getCrc16_xor (hlen : a.length = b.length) (ha : a ≠ []) :
    getCrc16 (List.zipWith (· ^^^ ·) a b) = getCrc16 a ^^^ getCrc16 b := by
  have hb : b ≠ [] := by
    rintro rfl
    exact ha (List.length_eq_zero_iff.mp hlen)
  have hxor : List.zipWith (· ^^^ ·) a b ≠ [] := by
    simp [List.zipWith_eq_nil_iff, ha, hb]
  rw [getCrc16_eq ha, getCrc16_eq hb, getCrc16_eq hxor, messageBits_xor hlen, ← crcReg_xor,
    ← Lib.feed_xor (by rw [length_messageBits, length_messageBits, hlen]), BitVec.xor_zero]

/-- Two messages of one length that differ only within sixteen bits have different checksums, and
the checksum of their sum is the sum of their checksums. -/
theorem getCrc16_strength (a b : List UInt8) (hlen : a.length = b.length) (ha : a ≠ []) :
    (a ≠ b → ∀ s, DifferWithin s a b → getCrc16 a ≠ getCrc16 b) ∧
      getCrc16 (List.zipWith (· ^^^ ·) a b) = getCrc16 a ^^^ getCrc16 b :=
  ⟨fun hne _ h => getCrc16_ne hlen ha hne h, getCrc16_xor hlen ha⟩

/-- The window may begin within a byte: bits 7 to 11 of two messages differ. -/
theorem getCrc16_strength_two : getCrc16 [0x80, 0x0f] ≠ getCrc16 [0x00, 0x00] ∧
    getCrc16 [0x80, 0x0f] = getCrc16 [0x80, 0x05] ^^^ getCrc16 [0x00, 0x0a] :=
  ⟨(getCrc16_strength [0x80, 0x0f] [0x00, 0x00] rfl (by decide)).1 (by decide) 7 (by decide),
    (getCrc16_strength [0x80, 0x05] [0x00, 0x0a] rfl (by decide)).2⟩

end MealVendor
