import MealVendor.Model.Uart5
import Mathlib.Data.List.Induction
import Mathlib.Data.List.TakeDrop
import Mathlib.Data.Nat.Bitwise
import Mathlib.Tactic.Common

/-!
# The receiver and the frames that are built

The state of `UART5_IRQHandler` behind the head of a frame is described by the bytes it has
received since then, and by nothing else: the length of the frame before does not matter, as the
new one is known before anything is compared with it.  So a frame that `MealComparefunDemo` has
built is accepted with its last byte and not before, and whatever is accepted has the form of a
frame.
-/

namespace MealVendor

/-! ## The checksum has sixteen bits -/

lemma crcBit_lt {crc : UInt32} (h : crc.toNat < 65536) : (crcBit crc).toNat < 65536 := by
  have hshift : (crc >>> 1).toNat < 65536 := by
    rw [UInt32.toNat_shiftRight]
    have : crc.toNat >>> (UInt32.toNat 1 % 32) ≤ crc.toNat := Nat.shiftRight_le _ _
    omega
  rw [crcBit]
  split_ifs
  · rw [UInt32.toNat_xor]
    exact Nat.xor_lt_two_pow (n := 16) hshift (by decide)
  · exact hshift

lemma crcByte_lt {crc : UInt32} (h : crc.toNat < 65536) (b : UInt8) :
    (crcByte crc b).toNat < 65536 := by
  have hbyte : b.toUInt32.toNat < 65536 := by
    have := b.toNat_lt
    rw [UInt8.toNat_toUInt32]
    omega
  have hxor : (crc ^^^ b.toUInt32).toNat < 65536 := by
    rw [UInt32.toNat_xor]
    exact Nat.xor_lt_two_pow (n := 16) h hbyte
  rw [crcByte]
  generalize crc ^^^ b.toUInt32 = c at hxor
  generalize 8 = n
  induction n generalizing c with
  | zero => exact hxor
  | succ n ih => exact ih _ (crcBit_lt hxor)

lemma foldl_crcByte_lt (bs : List UInt8) : (bs.foldl crcByte 0).toNat < 65536 := by
  induction bs using List.reverseRecOn with
  | nil => decide
  | append_singleton bs b ih =>
    rw [List.foldl_append]
    exact crcByte_lt ih b

lemma getCrc16_of_ne_nil {bs : List UInt8} (h : bs ≠ []) : getCrc16 bs = bs.foldl crcByte 0 :=
  if_neg h

/-- Two bytes hold a number of sixteen bits. -/
lemma word_hlIntToBuffer (v : UInt16) :
    word (v >>> 8).toUInt8 (v &&& 0xff).toUInt8 = v.toNat := by
  have hv := v.toNat_lt
  have hand : (v &&& 0xff).toNat = v.toNat % 256 := by
    rw [UInt16.toNat_and]
    exact Nat.and_two_pow_sub_one_eq_mod v.toNat 8
  have hshift : (v >>> 8).toNat = v.toNat / 256 := by
    rw [UInt16.toNat_shiftRight]
    exact Nat.shiftRight_eq_div_pow v.toNat 8
  rw [word]
  rw [UInt16.toNat_toUInt8, UInt16.toNat_toUInt8, hand, hshift]
  omega

lemma hlBufferToInit_toNat (b₀ b₁ : UInt8) : (hlBufferToInit b₀ b₁).toNat = word b₀ b₁ := by
  have h₀ := b₀.toNat_lt
  have h₁ := b₁.toNat_lt
  rw [hlBufferToInit, UInt16.toNat_add, UInt16.toNat_shiftLeft, UInt8.toNat_toUInt16,
    UInt8.toNat_toUInt16]
  change ((b₀.toNat <<< 8) % 65536 + b₁.toNat) % 65536 = b₀.toNat * 256 + b₁.toNat
  rw [Nat.shiftLeft_eq]
  omega

lemma hlIntToBuffer_word (b₀ b₁ : UInt8) :
    hlIntToBuffer (UInt16.ofNat (word b₀ b₁)) = [b₀, b₁] := by
  have h₀ := b₀.toNat_lt
  have h₁ := b₁.toNat_lt
  have hlt : word b₀ b₁ < 65536 := by
    rw [word]
    omega
  have hval : (UInt16.ofNat (word b₀ b₁)).toNat = b₀.toNat * 256 + b₁.toNat :=
    UInt16.toNat_ofNat_of_lt' hlt
  have hhigh : (UInt16.ofNat (word b₀ b₁) >>> 8).toUInt8 = b₀ := by
    apply UInt8.toNat_inj.mp
    rw [UInt16.toNat_toUInt8, UInt16.toNat_shiftRight, hval]
    change (b₀.toNat * 256 + b₁.toNat) >>> 8 % 256 = b₀.toNat
    rw [Nat.shiftRight_eq_div_pow]
    omega
  have hlow : (UInt16.ofNat (word b₀ b₁) &&& 0xff).toUInt8 = b₁ := by
    apply UInt8.toNat_inj.mp
    rw [UInt16.toNat_toUInt8, UInt16.toNat_and, hval]
    change ((b₀.toNat * 256 + b₁.toNat) &&& (2 ^ 8 - 1)) % 256 = b₁.toNat
    rw [Nat.and_two_pow_sub_one_eq_mod]
    omega
  rw [hlIntToBuffer, hhigh, hlow]

/-! ## What a frame is -/

section Frame

variable (f : List UInt8)

/-- The length that stands in a frame, of which the head is left out. -/
def lengthField : ℕ := word (f.getD 2 0) (f.getD 3 0)

/-- What the receiver takes the checksum of: everything up to the end of the payload.  Without a
payload it does not stop. -/
def covered : List UInt8 := if lengthField f = 0 then f else f.take (lengthField f + 4)

/-- There is a payload and it is complete. -/
def Ended : Prop := lengthField f ≠ 0 ∧ lengthField f + 4 ≤ f.length

/-- The receiver takes this for a frame. -/
def Closes : Prop :=
  f.length = lengthField f + 7 ∧ f.getD (lengthField f + 4) 0 = 0x03 ∧
    word (f.getD (lengthField f + 5) 0) (f.getD (lengthField f + 6) 0) =
      ((covered f).foldl crcByte 0).toNat

instance : Decidable (Ended f) := inferInstanceAs (Decidable (_ ∧ _))

instance : Decidable (Closes f) := inferInstanceAs (Decidable (_ ∧ _))

end Frame

section Length

variable {f g : List UInt8} {b : UInt8}

/-- The length is known with the fourth byte. -/
lemma lengthField_append (h : 4 ≤ f.length) (g : List UInt8) :
    lengthField (f ++ g) = lengthField f := by
  rw [lengthField, lengthField]
  rw [List.getD_append _ _ _ _ (by omega), List.getD_append _ _ _ _ (by omega)]

lemma Ended.length_le (h : Ended f) : 5 ≤ f.length := by
  have := h.1
  have := h.2
  omega

lemma Ended.append (h : Ended f) (g : List UInt8) : Ended (f ++ g) := by
  have h5 := h.length_le
  have hlen : lengthField (f ++ g) = lengthField f := lengthField_append (by omega) g
  constructor
  · rw [hlen]
    exact h.1
  · rw [hlen, List.length_append]
    exact h.2.trans (Nat.le_add_right _ _)

/-- The payload ends with the byte behind `length + 3` others. -/
lemma ended_concat (h : ¬ Ended f) : Ended (f ++ [b]) ↔
    4 ≤ f.length ∧ lengthField (f ++ [b]) ≠ 0 ∧ f.length = lengthField (f ++ [b]) + 3 := by
  rw [Ended] at h ⊢
  rw [List.length_append, List.length_singleton]
  constructor
  · rintro ⟨h0, hle⟩
    have h4 : 4 ≤ f.length := by omega
    rw [lengthField_append h4] at h0 hle ⊢
    refine ⟨h4, h0, ?_⟩
    by_contra hne
    exact h ⟨h0, by omega⟩
  · rintro ⟨-, h0, hle⟩
    exact ⟨h0, by omega⟩

lemma covered_of_length_le (h : lengthField f ≠ 0 → f.length ≤ lengthField f + 4) :
    covered f = f := by
  rw [covered]
  split_ifs with h0
  · rfl
  · exact List.take_of_length_le (h h0)

lemma covered_of_not_ended (h : ¬ Ended f) : covered f = f := by
  refine covered_of_length_le fun h0 => ?_
  by_contra hlt
  exact h ⟨h0, by omega⟩

lemma covered_concat_of_not_ended (h : ¬ Ended f) : covered (f ++ [b]) = f ++ [b] := by
  by_cases hf : Ended (f ++ [b])
  · obtain ⟨-, -, hlen⟩ := (ended_concat h).mp hf
    refine covered_of_length_le fun _ => ?_
    rw [List.length_append, List.length_singleton]
    omega
  · exact covered_of_not_ended hf

/-- Behind the payload nothing enters the checksum. -/
lemma Ended.covered_append (h : Ended f) (g : List UInt8) : covered (f ++ g) = covered f := by
  have h5 := h.length_le
  have hlen : lengthField (f ++ g) = lengthField f := lengthField_append (by omega) g
  rw [covered, covered]
  rw [hlen, if_neg h.1, if_neg h.1, List.take_append_of_le_length h.2]

lemma Closes.length_eq (h : Closes f) : f.length = lengthField f + 7 := h.1

/-- No frame ends before its length says so. -/
lemma not_closes_of_prefix (hf : f.length = lengthField f + 7) (hg : g <+: f)
    (hne : g ≠ f) : ¬ Closes g := by
  obtain ⟨r, rfl⟩ := hg
  intro hc
  have hlen := hc.length_eq
  rw [lengthField_append (by omega), List.length_append] at hf
  have hr : r = [] := List.length_eq_zero_iff.mp (by omega)
  exact hne (by rw [hr, List.append_nil])

end Length

/-! ## The receiver behind a head -/

namespace Uart5

/-- The bytes `bs` were received since the head. -/
structure Locked (s : Uart5) (bs : List UInt8) : Prop where
  sync : s.rx1Sync = true
  right : s.rx1Right = false
  index : s.rx1BufIndex = bs.length
  buf : ∀ i < bs.length, s.rx1Buf i = bs.getD i 0
  len : 5 ≤ bs.length → s.rx1DataLen = lengthField bs
  vaild : s.rx1Vaild = !decide (Ended bs)
  crc : s.crcValue = (covered bs).foldl crcByte 0

/-- The frame `f` was accepted with the last byte. -/
structure Accepted (s : Uart5) (f : List UInt8) : Prop where
  sync : s.rx1Sync = false
  right : s.rx1Right = true
  buf : ∀ i < f.length, s.rx1Buf i = f.getD i 0
  len : s.rx1DataLen = lengthField f

variable {s t : Uart5} {bs cs : List UInt8} {b : UInt8}

lemma locked_head (s : Uart5) : s.head.Locked [] := by
  have hlen : lengthField [] = 0 := by decide
  refine ⟨rfl, rfl, rfl, nofun, fun h => absurd h (by decide), ?_, ?_⟩
  · simp [Ended, hlen, head]
  · rw [covered, if_pos hlen]
    rfl

/-- The state in which the end of a frame is looked for. -/
def stored (s : Uart5) (res : UInt8) : Uart5 :=
  { s with rx1Buf := Function.update s.rx1Buf s.rx1BufIndex res }.length.check res

namespace Locked

variable (h : s.Locked bs)

include h

lemma buf_update (i : ℕ) (hi : i < (bs ++ [b]).length) :
    Function.update s.rx1Buf s.rx1BufIndex b i = (bs ++ [b]).getD i 0 := by
  rw [List.length_append, List.length_singleton] at hi
  rw [h.index]
  rcases Nat.lt_or_ge i bs.length with hlt | hge
  · rw [Function.update_of_ne hlt.ne, h.buf i hlt, List.getD_append _ _ _ _ hlt]
  · obtain rfl : i = bs.length := by omega
    rw [Function.update_self, List.getD_append_right _ _ _ _ le_rfl, Nat.sub_self]
    rfl

/-- The length is right from the fifth byte on, and before that it does not matter. -/
lemma stored_len (hlen : 4 ≤ bs.length) :
    (s.stored b).rx1DataLen = lengthField (bs ++ [b]) := by
  have hlt : ∀ i < 4, i < (bs ++ [b]).length := by
    intro i hi
    rw [List.length_append, List.length_singleton]
    omega
  rw [stored, check_rx1DataLen]
  rw [length]
  dsimp only
  rw [h.index]
  split_ifs with h4
  · have h2 := h.buf_update (b := b) 2 (hlt 2 (by decide))
    have h3 := h.buf_update (b := b) 3 (hlt 3 (by decide))
    rw [h.index] at h2 h3
    dsimp only
    rw [h2, h3]
    rfl
  · rw [lengthField_append hlen]
    exact h.len (by omega)

/-- The checksum of what is covered, and whether the payload has ended. -/
lemma stored_crc : (s.stored b).rx1Vaild = !decide (Ended (bs ++ [b])) ∧
    (s.stored b).crcValue = (covered (bs ++ [b])).foldl crcByte 0 := by
  have hlen : 4 ≤ bs.length → _ := h.stored_len (b := b)
  rw [stored, check_rx1DataLen] at hlen
  rw [stored]
  set s₁ := { s with rx1Buf := Function.update s.rx1Buf s.rx1BufIndex b }.length with hs₁
  have hindex : s₁.rx1BufIndex = bs.length := by rw [hs₁, length_rx1BufIndex, ← h.index]
  have hcrc : s₁.crcValue = (covered bs).foldl crcByte 0 := by rw [hs₁, length_crcValue, ← h.crc]
  have hvaild : s₁.rx1Vaild = !decide (Ended bs) := by rw [hs₁, length_rx1Vaild, ← h.vaild]
  rw [check]
  rw [hvaild]
  by_cases hE : Ended bs
  · simp only [hE, decide_true, Bool.not_true, Bool.false_eq_true, if_false]
    rw [hE.covered_append, hvaild]
    exact ⟨by simp [hE, hE.append [b]], hcrc⟩
  · simp only [hE, decide_false, Bool.not_false, if_true]
    constructor
    · congr 1
      refine decide_eq_decide.mpr ?_
      rw [hindex, ended_concat hE]
      -- before the length is known the index is too small
      rcases Nat.lt_or_ge bs.length 4 with h4 | h4
      · constructor
        · rintro ⟨heq, h0⟩
          omega
        · rintro ⟨hge, -⟩
          omega
      · rw [hlen h4]
        tauto
    · rw [hcrc, covered_of_not_ended hE, covered_concat_of_not_ended hE, List.foldl_append]
      rfl

/-- The receiver sees the end of a frame where there is one. -/
lemma stored_ends : (s.stored b).ends = true ↔ Closes (bs ++ [b]) := by
  have hindex : (s.stored b).rx1BufIndex = bs.length := by simp [stored, h.index]
  have hbuf : (s.stored b).rx1Buf = Function.update s.rx1Buf s.rx1BufIndex b := by simp [stored]
  have hf : (bs ++ [b]).length = bs.length + 1 := List.length_append
  rw [ends, Closes]
  simp only [Bool.and_eq_true, beq_iff_eq]
  rw [hindex, hbuf, h.stored_crc.2, hf, and_assoc]
  rcases Nat.lt_or_ge bs.length 4 with h4 | h4
  · -- the length is not there yet
    constructor
    · rintro ⟨hlen, -⟩
      omega
    · rintro ⟨hlen, -⟩
      omega
  · rw [h.stored_len h4]
    have hcell : bs.length = lengthField (bs ++ [b]) + 6 → ∀ i ≤ lengthField (bs ++ [b]) + 6,
        Function.update s.rx1Buf s.rx1BufIndex b i = (bs ++ [b]).getD i 0 :=
      fun hlen i hi => h.buf_update i (by omega)
    constructor
    · rintro ⟨hlen, hend, hword⟩
      rw [hcell hlen _ (by omega)] at hend
      rw [hcell hlen _ (by omega), hcell hlen _ le_rfl] at hword
      exact ⟨by omega, hend, hword⟩
    · rintro ⟨hlen, hend, hword⟩
      have hlen : bs.length = lengthField (bs ++ [b]) + 6 := by omega
      rw [hcell hlen _ (by omega), hcell hlen _ (by omega), hcell hlen _ le_rfl]
      exact ⟨hlen, hend, hword⟩

/-- A byte more, where there is room for it. -/
lemma receive (hroom : bs.length < 512) :
    (Closes (bs ++ [b]) → ∃ t, s.receive b = some t ∧ t.Accepted (bs ++ [b])) ∧
    (¬ Closes (bs ++ [b]) → ∃ t, s.receive b = some t ∧ t.Locked (bs ++ [b])) := by
  have hreceive : s.receive b = some (if (s.stored b).ends then
      { s.stored b with
        rx1Sync := false, rx1BufIndex := 0, rx1Vaild := true, crcValue := 0, rx1Right := true }
      else { s.stored b with rx1BufIndex := (s.stored b).rx1BufIndex + 1 }) := by
    rw [Uart5.receive]
    rw [if_pos h.sync, if_pos (by rw [h.index]; exact hroom)]
    rfl
  have hbuf : ∀ i < (bs ++ [b]).length, (s.stored b).rx1Buf i = (bs ++ [b]).getD i 0 := by
    intro i hi
    have hcell := h.buf_update i hi
    simpa [stored] using hcell
  have hlen : 5 ≤ (bs ++ [b]).length → (s.stored b).rx1DataLen = lengthField (bs ++ [b]) := by
    intro h5
    rw [List.length_append, List.length_singleton] at h5
    exact h.stored_len (by omega)
  rw [hreceive]
  constructor
  · intro hc
    rw [if_pos (h.stored_ends.mpr hc)]
    exact ⟨_, rfl, rfl, rfl, hbuf, hlen (by have := hc.length_eq; omega)⟩
  · intro hc
    rw [if_neg fun hends => hc (h.stored_ends.mp hends)]
    refine ⟨_, rfl, ?_, ?_, ?_, hbuf, hlen, h.stored_crc.1, h.stored_crc.2⟩
    · simp [stored, h.sync]
    · simp [stored, h.right]
    · simp [stored, h.index]

/-- A byte more, where there is no room for it. -/
lemma receive_full (hfull : 512 ≤ bs.length) : s.receive b = none := by
  rw [Uart5.receive]
  rw [if_pos h.sync, if_neg (by rw [h.index]; omega)]

end Locked

/-! ## Streams -/

lemma feed_append (s : Uart5) (bs cs : List UInt8) :
    s.feed (bs ++ cs) = (s.feed bs).bind fun t => t.feed cs :=
  Lib.runFrom_append receive s bs cs

lemma feed_cons (s : Uart5) (b : UInt8) (bs : List UInt8) :
    s.feed (b :: bs) = (s.receive b).bind fun t => t.feed bs := rfl

lemma receive_noise (hs : s.rx1Sync = false) (hb : b ≠ 0x02) : s.receive b = some s := by
  rw [receive]
  rw [hs, if_neg (by decide), if_neg hb]

lemma receive_head (hs : s.rx1Sync = false) : s.receive 0x02 = some s.head := by
  rw [receive]
  rw [hs]
  rfl

/-- Outside a frame only a head is noticed. -/
lemma feed_noise (hs : s.rx1Sync = false) (hbs : ∀ b ∈ bs, b ≠ 0x02) : s.feed bs = some s := by
  induction bs with
  | nil => rfl
  | cons b bs ih =>
    obtain ⟨hb, hbs⟩ := List.forall_mem_cons.mp hbs
    rw [feed_cons, receive_noise hs hb]
    exact ih hbs

lemma feed_head (hs : s.rx1Sync = false) (bs : List UInt8) :
    s.feed (0x02 :: bs) = s.head.feed bs := by
  rw [feed_cons, receive_head hs]
  rfl

/-- The receiver goes on while no frame ends. -/
lemma Locked.feed (h : s.Locked bs) (hroom : bs.length + cs.length ≤ 512)
    (hopen : ∀ g, g <+: cs → g ≠ [] → ¬ Closes (bs ++ g)) :
    ∃ t, s.feed cs = some t ∧ t.Locked (bs ++ cs) := by
  induction cs generalizing s bs with
  | nil => exact ⟨s, rfl, by rwa [List.append_nil]⟩
  | cons c cs ih =>
    rw [List.length_cons] at hroom
    have hc : ¬ Closes (bs ++ [c]) :=
      hopen [c] ⟨cs, rfl⟩ (List.cons_ne_nil c [])
    obtain ⟨u, hu, hlocked⟩ := (h.receive (by omega)).2 hc
    have hlen : (bs ++ [c]).length = bs.length + 1 := List.length_append
    obtain ⟨t, ht, ht'⟩ := ih hlocked (by omega) fun g hg _ => by
      rw [List.append_assoc]
      exact hopen (c :: g) (List.cons_prefix_cons.mpr ⟨rfl, hg⟩) (List.cons_ne_nil c g)
    refine ⟨t, ?_, ?_⟩
    · rw [feed_cons, hu]
      exact ht
    · rwa [List.append_assoc] at ht'

/-- A frame is accepted with its last byte. -/
lemma feed_frame {f : List UInt8} (hs : s.rx1Sync = false) (hf : Closes f)
    (hroom : f.length ≤ 512) :
    (∀ g, g <+: f → g ≠ f → ∃ t, s.feed (0x02 :: g) = some t ∧ t.Locked g) ∧
      ∃ t, s.feed (0x02 :: f) = some t ∧ t.Accepted f := by
  have hopen : ∀ g, g <+: f → g ≠ f → ∃ t, s.feed (0x02 :: g) = some t ∧ t.Locked g := by
    intro g hg hne
    rw [feed_head hs]
    refine (locked_head s).feed ?_ fun g' hg' _ => ?_
    · have := hg.length_le
      simpa using this.trans hroom
    · refine not_closes_of_prefix hf.length_eq (hg'.trans hg) ?_
      rintro rfl
      exact hne (hg.eq_of_length_le hg'.length_le)
  refine ⟨hopen, ?_⟩
  -- the last byte
  have hne : f ≠ [] := by
    rintro rfl
    exact absurd hf.length_eq (by simp)
  obtain ⟨g, b, rfl⟩ : ∃ g b, f = g ++ [b] :=
    ⟨f.dropLast, f.getLast hne, (List.dropLast_append_getLast hne).symm⟩
  obtain ⟨t, ht, hlocked⟩ := hopen g (List.prefix_append g [b]) (by simp)
  rw [List.length_append, List.length_singleton] at hroom
  obtain ⟨u, hu, hacc⟩ := (hlocked.receive (by omega)).1 hf
  refine ⟨u, ?_, hacc⟩
  rw [← List.cons_append, feed_append, ht]
  change (t.receive b).bind (fun t => t.feed []) = some u
  rw [hu]
  rfl

/-- What the receiver accepts is a frame. -/
lemma closes_of_feed {f : List UInt8} (hs : s.rx1Sync = false) (hroom : f.length ≤ 512)
    (ht : s.feed (0x02 :: f) = some t) (hright : t.rx1Right = true)
    (hfirst : ∀ g u, g <+: f → g ≠ f → s.feed (0x02 :: g) = some u → u.rx1Right = false) :
    Closes f ∧ t.Accepted f := by
  -- up to the last byte the receiver is behind the head
  have hlocked : ∀ g, g <+: f → g ≠ f → ∃ u, s.feed (0x02 :: g) = some u ∧ u.Locked g := by
    intro g
    induction g using List.reverseRecOn with
    | nil => exact fun _ _ => ⟨s.head, feed_head hs [], locked_head s⟩
    | append_singleton g b ih =>
      intro hg hne
      have hg' : g <+: f := (List.prefix_append g [b]).trans hg
      have hlen := hg.length_le
      rw [List.length_append, List.length_singleton] at hlen
      obtain ⟨u, hu, hl⟩ := ih hg' (by rintro rfl; omega)
      have hfeed : s.feed (0x02 :: (g ++ [b])) = u.receive b := by
        rw [← List.cons_append, feed_append, hu]
        change (u.receive b).bind (fun t => t.feed []) = _
        cases u.receive b <;> rfl
      by_cases hc : Closes (g ++ [b])
      · obtain ⟨v, hv, hacc⟩ := (hl.receive (by omega)).1 hc
        have := hfirst _ v hg hne (hfeed.trans hv)
        rw [hacc.right] at this
        cases this
      · obtain ⟨v, hv, hl'⟩ := (hl.receive (by omega)).2 hc
        exact ⟨v, hfeed.trans hv, hl'⟩
  by_cases hc : Closes f
  · obtain ⟨-, u, hu, hacc⟩ := feed_frame hs hc hroom
    obtain rfl : u = t := Option.some.inj (hu.symm.trans ht)
    exact ⟨hc, hacc⟩
  · rcases List.eq_nil_or_concat f with rfl | ⟨g, b, rfl⟩
    · rw [feed_head hs] at ht
      cases ht
      cases hright
    · rw [List.concat_eq_append] at *
      rw [List.length_append, List.length_singleton] at hroom
      obtain ⟨u, hu, hl⟩ := hlocked g (List.prefix_append g [b]) (by simp)
      obtain ⟨v, hv, hl'⟩ := (hl.receive (by omega)).2 hc
      have hfeed : s.feed (0x02 :: (g ++ [b])) = some v := by
        rw [← List.cons_append, feed_append, hu]
        change (u.receive b).bind (fun t => t.feed []) = _
        rw [hv]
        rfl
      obtain rfl : v = t := Option.some.inj (hfeed.symm.trans ht)
      rw [hl'.right] at hright
      cases hright

end Uart5

/-! ## The frames that are built -/

section Build

variable (cmd : UInt16) (payload : List UInt8)

/-- What the checksum of a frame is taken of. -/
def frameBody : List UInt8 :=
  hlIntToBuffer cmd ++ hlIntToBuffer (UInt16.ofNat payload.length) ++ payload

lemma frameBody_length : (frameBody cmd payload).length = payload.length + 4 := by
  simp only [frameBody, hlIntToBuffer, List.length_append, List.length_cons, List.length_nil]
  omega

/-- `MealComparefunDemo` overwrites what stood in the buffer for command, length and checksum. -/
lemma mealFrame_eq (h₁ h₂ h₃ h₄ x y : UInt8) :
    mealFrame cmd (0x02 :: h₁ :: h₂ :: h₃ :: h₄ :: (payload ++ [0x03, x, y])) =
      0x02 :: (frameBody cmd payload ++
        0x03 :: hlIntToBuffer (getCrc16 (frameBody cmd payload)).toUInt16) := by
  have hlen : (payload ++ [0x03, x, y]).length + 5 - 8 = payload.length := by
    rw [List.length_append]
    exact Nat.add_sub_cancel _ 8
  have htake : (payload ++ [0x03, x, y]).take payload.length = payload := List.take_left
  have hend : (payload ++ [0x03, x, y]).take (payload.length + 1) = payload ++ [0x03] := by
    rw [List.take_length_add_append]
    rfl
  have hcrc : (payload ++ [0x03, x, y]).length + 5 - 4 = payload.length + 4 := by
    rw [List.length_append]
    exact Nat.add_sub_cancel _ 4
  have hall : (payload ++ [0x03, x, y]).length + 5 - 2 = payload.length + 6 := by
    rw [List.length_append]
    exact Nat.add_sub_cancel _ 2
  rw [mealFrame, frameBody]
  simp only [hlIntToBuffer, List.take_succ_cons, List.take_zero, List.drop_succ_cons,
    List.drop_zero, List.cons_append, List.nil_append, List.length_cons]
  simp only [hlen, hcrc, hall, List.take_succ_cons, htake, hend, List.cons_append,
    List.append_assoc, List.nil_append]

variable {cmd payload}

/-- What is built is taken for a frame. -/
lemma closes_frameBody (hpos : 1 ≤ payload.length) (hlt : payload.length < 65536) :
    Closes (frameBody cmd payload ++
      0x03 :: hlIntToBuffer (getCrc16 (frameBody cmd payload)).toUInt16) := by
  set f := frameBody cmd payload ++
    0x03 :: hlIntToBuffer (getCrc16 (frameBody cmd payload)).toUInt16 with hf
  have hbody := frameBody_length cmd payload
  have hfield : lengthField f = payload.length := by
    have hword := word_hlIntToBuffer (UInt16.ofNat payload.length)
    rw [UInt16.toNat_ofNat_of_lt' hlt] at hword
    exact hword
  have hcovered : covered f = frameBody cmd payload := by
    rw [covered, hfield, if_neg (by omega), hf, ← hbody]
    exact List.take_left
  have hcrc : getCrc16 (frameBody cmd payload) = (frameBody cmd payload).foldl crcByte 0 := by
    refine getCrc16_of_ne_nil fun hnil => ?_
    rw [hnil] at hbody
    cases hbody
  -- what stands behind the payload: the end byte and the checksum
  have hbehind : ∀ i, f.getD (payload.length + 4 + i) 0 =
      (0x03 :: hlIntToBuffer (getCrc16 (frameBody cmd payload)).toUInt16).getD i 0 := by
    intro i
    rw [hf, List.getD_append_right _ _ _ _ (by omega)]
    congr 1
    omega
  refine ⟨?_, ?_, ?_⟩
  · rw [hfield, hf, List.length_append, hbody]
    rfl
  · rw [hfield]
    exact hbehind 0
  · rw [hfield, hbehind 1, hbehind 2, hcovered, ← hcrc]
    have hsmall := foldl_crcByte_lt (frameBody cmd payload)
    rw [← hcrc] at hsmall
    have hword := word_hlIntToBuffer (getCrc16 (frameBody cmd payload)).toUInt16
    rw [UInt32.toNat_toUInt16, Nat.mod_eq_of_lt hsmall] at hword
    exact hword

end Build

/-- A frame without its head: the command, the length of the payload, the payload, the end and
the checksum. -/
def FrameForm (f : List UInt8) (n : ℕ) : Prop :=
  ∃ (cmd : UInt16) (payload : List UInt8) (crc : UInt16), payload.length = n ∧
    f = hlIntToBuffer cmd ++ hlIntToBuffer (UInt16.ofNat n) ++ payload ++
      0x03 :: hlIntToBuffer crc ∧
    crc.toNat = (getCrc16 (f.take (n + 4))).toNat

lemma exists_four {f : List UInt8} (h : 4 ≤ f.length) :
    ∃ c₀ c₁ l₀ l₁ r, f = c₀ :: c₁ :: l₀ :: l₁ :: r := by
  rcases f with _ | ⟨c₀, _ | ⟨c₁, _ | ⟨l₀, _ | ⟨l₁, r⟩⟩⟩⟩
  iterate 4 exact absurd h (by simp)
  exact ⟨c₀, c₁, l₀, l₁, r, rfl⟩

/-- What is taken for a frame, and has a payload, has the form of one. -/
lemma Closes.frameForm {f : List UInt8} (h : Closes f) (hpos : lengthField f ≠ 0) :
    FrameForm f (lengthField f) := by
  obtain ⟨hlen, hend, hword⟩ := h
  obtain ⟨c₀, c₁, l₀, l₁, r, rfl⟩ := exists_four (f := f) (by omega)
  set n := lengthField (c₀ :: c₁ :: l₀ :: l₁ :: r) with hn
  have hr : r.length = n + 3 := by
    simp only [List.length_cons] at hlen
    omega
  have hcrc : getCrc16 ((c₀ :: c₁ :: l₀ :: l₁ :: r).take (n + 4)) =
      (covered (c₀ :: c₁ :: l₀ :: l₁ :: r)).foldl crcByte 0 := by
    rw [covered, ← hn, if_neg hpos]
    refine getCrc16_of_ne_nil fun hnil => ?_
    have := congrArg List.length hnil
    rw [List.length_take, hlen, List.length_nil] at this
    omega
  have hcell : ∀ i, (c₀ :: c₁ :: l₀ :: l₁ :: r).getD (n + 4 + i) 0 = (r.drop n).getD i 0 := by
    intro i
    rw [show n + 4 + i = (n + i) + 1 + 1 + 1 + 1 by omega]
    simp only [List.getD_cons_succ]
    rw [List.getD_eq_getElem?_getD, List.getD_eq_getElem?_getD, List.getElem?_drop]
  -- the three bytes behind the payload
  obtain ⟨e, k₀, k₁, hdrop⟩ : ∃ e k₀ k₁, r.drop n = [e, k₀, k₁] := by
    have hthree : (r.drop n).length = 3 := by rw [List.length_drop, hr, Nat.add_sub_cancel_left]
    exact List.length_eq_three.mp hthree
  rw [hcell 0, hdrop] at hend
  rw [hcell 1, hcell 2, hdrop] at hword
  obtain rfl : e = 0x03 := hend
  have hk : word k₀ k₁ < 65536 := by
    have := k₀.toNat_lt
    have := k₁.toNat_lt
    rw [word]
    omega
  refine ⟨UInt16.ofNat (word c₀ c₁), r.take n, UInt16.ofNat (word k₀ k₁), ?_, ?_, ?_⟩
  · rw [List.length_take, hr]
    exact min_eq_left (Nat.le_add_right n 3)
  · rw [hlIntToBuffer_word, hlIntToBuffer_word, show n = word l₀ l₁ from rfl,
      hlIntToBuffer_word]
    simp only [List.cons_append, List.nil_append]
    conv_lhs => rw [← List.take_append_drop (word l₀ l₁) r]
    rw [show r.drop (word l₀ l₁) = [0x03, k₀, k₁] from hdrop]
  · rw [UInt16.toNat_ofNat_of_lt' hk, hcrc]
    exact hword

/-- The receiver accepts exactly the frames that are built. -/
theorem receiver_accepts_frames (s : Uart5) :
    (∀ (noise payload : List UInt8) (cmd : UInt16) (h₁ h₂ h₃ h₄ x y : UInt8),
      (∀ b ∈ noise, b ≠ 0x02) → 1 ≤ payload.length → payload.length ≤ 505 →
      let frame := mealFrame cmd (0x02 :: h₁ :: h₂ :: h₃ :: h₄ :: (payload ++ [0x03, x, y]))
      (∀ bs, bs <+: noise ++ frame → bs ≠ noise ++ frame →
        ∃ t, s.cmdDataSend.feed bs = some t ∧ t.rx1Right = false) ∧
      ∃ t, s.cmdDataSend.feed (noise ++ frame) = some t ∧ t.rx1Right = true ∧
        ∀ i < payload.length + 7, t.rx1Buf i = frame.getD (i + 1) 0) ∧
    (∀ (f : List UInt8) (t : Uart5), s.rx1Sync = false → f.length ≤ 512 →
      s.feed (0x02 :: f) = some t → t.rx1Right = true →
      (∀ g u, g <+: f → g ≠ f → s.feed (0x02 :: g) = some u → u.rx1Right = false) →
      1 ≤ t.rx1DataLen → t.rx1DataLen ≤ 505 → FrameForm f t.rx1DataLen) := by
  constructor
  · intro noise payload cmd h₁ h₂ h₃ h₄ x y hnoise hpos hle
    rw [mealFrame_eq]
    set f := frameBody cmd payload ++
      0x03 :: hlIntToBuffer (getCrc16 (frameBody cmd payload)).toUInt16 with hf
    have hclose : Closes f := closes_frameBody hpos (by omega)
    have hlen : f.length = payload.length + 7 := by
      rw [hf, List.length_append, frameBody_length]
      rfl
    have hquiet : s.cmdDataSend.feed noise = some s.cmdDataSend := Uart5.feed_noise rfl hnoise
    have hafter : ∀ cs, s.cmdDataSend.feed (noise ++ cs) = s.cmdDataSend.feed cs := by
      intro cs
      rw [Uart5.feed_append, hquiet]
      rfl
    obtain ⟨hopen, t, ht, hacc⟩ := Uart5.feed_frame (s := s.cmdDataSend) rfl hclose (by omega)
    constructor
    · intro bs hbs hne
      obtain ⟨r, hr⟩ := hbs
      rcases List.append_eq_append_iff.mp hr with ⟨as, hnoise', -⟩ | ⟨as, rfl, hframe⟩
      · -- the noise is not over
        refine ⟨s.cmdDataSend, Uart5.feed_noise rfl fun b hb => hnoise b ?_, rfl⟩
        rw [hnoise']
        exact List.mem_append_left as hb
      · rw [hafter]
        cases as with
        | nil => exact ⟨s.cmdDataSend, rfl, rfl⟩
        | cons a g =>
          obtain ⟨rfl, hg⟩ := List.cons_eq_cons.mp hframe
          obtain ⟨u, hu, hl⟩ := hopen g ⟨r, hg.symm⟩ fun h => hne (by rw [h])
          exact ⟨u, hu, hl.right⟩
    · refine ⟨t, (hafter _).trans ht, hacc.right, fun i hi => ?_⟩
      rw [List.getD_cons_succ]
      exact hacc.buf i (by omega)
  · intro f t hs hroom ht hright hfirst hpos _
    obtain ⟨hclose, hacc⟩ := Uart5.closes_of_feed hs hroom ht hright hfirst
    rw [hacc.len] at hpos ⊢
    exact hclose.frameForm (by omega)

/-- A reply to the delivery of a meal, behind a byte of noise. -/
theorem receiver_accepts_a_reply :
    (∃ t, Uart5.start.cmdDataSend.feed
        (0x00 :: mealFrame 0x0810 [0x02, 0, 0, 0, 0, 0x00, 0x03, 0, 0]) = some t ∧
      t.rx1Right = true) ∧
    FrameForm [0x08, 0x10, 0x00, 0x01, 0x00, 0x03, 0x80, 0x59] 1 := by
  constructor
  · obtain ⟨-, t, ht, hright, -⟩ := (receiver_accepts_frames Uart5.start).1 [0x00] [0x00] 0x0810
      0 0 0 0 0 0 (List.forall_mem_singleton.mpr (by decide)) (by decide) (by decide)
    exact ⟨t, ht, hright⟩
  · have hclose : Closes [0x08, 0x10, 0x00, 0x01, 0x00, 0x03, 0x80, 0x59] := by decide +kernel
    obtain ⟨hopen, t, ht, hacc⟩ := Uart5.feed_frame (s := Uart5.start) rfl hclose (by decide)
    have hlen : t.rx1DataLen = 1 := hacc.len
    have hform := (receiver_accepts_frames Uart5.start).2 _ t rfl (by decide) ht hacc.right
      (fun g u hg hne hu => by
        obtain ⟨v, hv, hl⟩ := hopen g hg hne
        rw [hu] at hv
        rw [Option.some.inj hv]
        exact hl.right)
      hlen.ge (hlen.trans_le (by decide))
    rwa [hlen] at hform

end MealVendor
