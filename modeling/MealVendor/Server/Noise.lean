import MealVendor.Server.Receiver

/-!
# Noise

`UART5_IRQHandler` looks for a head again only behind a frame it has accepted.  A frame that is
broken keeps it busy until the buffer is full, and then it stores behind the buffer.  It is robust
exactly against the streams in which nothing is broken: bytes that are no head, and frames.
-/

namespace MealVendor

/-- A frame of the server without its head, with a payload for which the buffer has room. -/
def WellFormed (f : List UInt8) : Prop :=
  1 ≤ lengthField f ∧ lengthField f ≤ 505 ∧ Closes f

/-- A frame without its head, complete for its length, that is not well formed. -/
def Malformed (f : List UInt8) : Prop := f.length = lengthField f + 7 ∧ ¬ WellFormed f

instance (f : List UInt8) : Decidable (WellFormed f) := inferInstanceAs (Decidable (_ ∧ _ ∧ _))

instance (f : List UInt8) : Decidable (Malformed f) := inferInstanceAs (Decidable (_ ∧ _))

namespace Uart5

/-- The receiver survives the stream `bs`: it stores inside of its buffer, behind a malformed
frame it looks for a head again, and so a later frame is accepted. -/
structure Robust (s : Uart5) (bs : List UInt8) : Prop where
  inBounds : (s.feed bs).isSome
  hunting : ∀ pre f post u, bs = pre ++ 0x02 :: (f ++ post) → s.feed pre = some u →
    u.rx1Sync = false → Malformed f → ∃ t, u.feed (0x02 :: f) = some t ∧ t.rx1Sync = false
  later : ∀ pre f noise g post u, bs = pre ++ 0x02 :: (f ++ (noise ++ 0x02 :: (g ++ post))) →
    s.feed pre = some u → u.rx1Sync = false → Malformed f → (∀ b ∈ noise, b ≠ 0x02) →
    WellFormed g → ∃ t, u.feed (0x02 :: (f ++ (noise ++ 0x02 :: g))) = some t ∧ t.rx1Right = true

/-- Nothing in the stream is broken: it consists of bytes that are no head and of frames, and the
last frame may be incomplete. -/
inductive Clean : List UInt8 → Prop
  | nil : Clean []
  | noise {b : UInt8} {bs : List UInt8} (hb : b ≠ 0x02) (h : Clean bs) : Clean (b :: bs)
  | frame {f bs : List UInt8} (hf : Closes f) (hroom : f.length ≤ 512) (h : Clean bs) :
      Clean (0x02 :: (f ++ bs))
  | rest {r : List UInt8} (hroom : r.length ≤ 512) (hopen : r.length < lengthField r + 7) :
      Clean (0x02 :: r)

variable {s t u : Uart5} {bs cs f g : List UInt8} {b : UInt8}

/-! ## Frames at the head of a stream -/

/-- Two complete frames at the head of one stream are the same. -/
lemma frame_unique (hf : f.length = lengthField f + 7) (hg : g.length = lengthField g + 7)
    (hfg : f ++ bs = g ++ cs) : f = g ∧ bs = cs := by
  have hfield : lengthField f = lengthField g := by
    rw [← lengthField_append (f := f) (by omega) bs, ← lengthField_append (f := g) (by omega) cs,
      hfg]
  exact List.append_inj hfg (by omega)

/-- While no frame ends the receiver stays behind the head, until its buffer is full. -/
lemma feed_open {r : List UInt8} (hs : s.rx1Sync = false)
    (hopen : ∀ g, g <+: r → g.length ≤ 512 → ¬ Closes g) :
    (r.length ≤ 512 → ∃ t, s.feed (0x02 :: r) = some t ∧ t.Locked r) ∧
      (512 < r.length → s.feed (0x02 :: r) = none) := by
  constructor
  · intro hroom
    rw [feed_head hs]
    refine (locked_head s).feed ?_ fun g hg _ => hopen g hg (hg.length_le.trans hroom)
    rwa [List.length_nil, Nat.zero_add]
  · intro hfull
    -- the first 512 bytes fill the buffer, the next one has no place
    have hpre : r.take 512 <+: r := List.take_prefix 512 r
    have hlen : (r.take 512).length = 512 := by
      rw [List.length_take]
      omega
    have hroom : ([] : List UInt8).length + (r.take 512).length ≤ 512 := by
      rw [List.length_nil, hlen]
    obtain ⟨t, ht, hlocked⟩ := (locked_head s).feed hroom fun g hg _ =>
      hopen g (hg.trans hpre) (hg.length_le.trans hlen.le)
    rw [List.nil_append] at hlocked
    obtain ⟨b, bs, hdrop⟩ : ∃ b bs, r.drop 512 = b :: bs := by
      refine List.exists_cons_of_ne_nil fun hnil => ?_
      have := List.drop_eq_nil_iff.mp hnil
      omega
    have hsplit : r = r.take 512 ++ b :: bs := by rw [← hdrop, List.take_append_drop]
    rw [feed_head hs, hsplit, feed_append, ht]
    change t.feed (b :: bs) = none
    rw [feed_cons, hlocked.receive_full hlen.ge]
    rfl

/-- An incomplete frame has no complete one at its head. -/
lemma not_closes_of_lt {r : List UInt8} (h : r.length < lengthField r + 7) (hg : g <+: r) :
    ¬ Closes g := by
  intro hc
  have hlen := hc.length_eq
  obtain ⟨q, rfl⟩ := hg
  rw [lengthField_append (by omega), List.length_append] at h
  omega

/-- Otherwise there is one. -/
lemma exists_frame {r : List UInt8} (h : ¬ r.length < lengthField r + 7) :
    ∃ f post, r = f ++ post ∧ f.length = lengthField f + 7 := by
  have hsplit : r.take (lengthField r + 7) ++ r.drop (lengthField r + 7) = r :=
    List.take_append_drop _ r
  have hlen : (r.take (lengthField r + 7)).length = lengthField r + 7 := by
    rw [List.length_take]
    omega
  refine ⟨_, _, hsplit.symm, ?_⟩
  have hfield := lengthField_append (f := r.take (lengthField r + 7)) (by omega)
    (r.drop (lengthField r + 7))
  rw [hsplit] at hfield
  rw [hlen, ← hfield]

/-- Behind a complete frame that is not accepted the receiver does not look for a head. -/
lemma not_hunting (hs : s.rx1Sync = false) (hf : f.length = lengthField f + 7) (hc : ¬ Closes f)
    (ht : s.feed (0x02 :: f) = some t) : t.rx1Sync = true := by
  have hopen : ∀ g, g <+: f → g.length ≤ 512 → ¬ Closes g := by
    intro g hg _ hclose
    by_cases hgf : g = f
    · exact hc (hgf ▸ hclose)
    · exact not_closes_of_prefix hf hg hgf hclose
  rcases Nat.lt_or_ge 512 f.length with hfull | hroom
  · rw [(feed_open hs hopen).2 hfull] at ht
    cases ht
  · obtain ⟨u, hu, hlocked⟩ := (feed_open hs hopen).1 hroom
    obtain rfl : u = t := Option.some.inj (hu.symm.trans ht)
    exact hlocked.sync

/-- A frame that is accepted has room in the buffer. -/
lemma length_le_of_feed (hs : s.rx1Sync = false) (hf : f.length = lengthField f + 7)
    (ht : (s.feed (0x02 :: f)).isSome) : f.length ≤ 512 := by
  by_contra hfull
  have hnone := (feed_open hs fun g hg hroom hclose =>
    not_closes_of_prefix hf hg (by rintro rfl; omega) hclose).2 (by omega)
  rw [hnone] at ht
  cases ht

/-! ## Robust streams -/

namespace Robust

/-- What comes behind the bytes that lead to `t`. -/
lemma drop (h : s.Robust (cs ++ bs)) (ht : s.feed cs = some t) : t.Robust bs := by
  have hfeed : ∀ ds, s.feed (cs ++ ds) = t.feed ds := by
    intro ds
    rw [feed_append, ht]
    rfl
  refine ⟨?_, ?_, ?_⟩
  · rw [← hfeed]
    exact h.inBounds
  · rintro pre f post u rfl hu hsync hf
    exact h.hunting (cs ++ pre) f post u (List.append_assoc _ _ _).symm ((hfeed pre).trans hu)
      hsync hf
  · rintro pre f noise g post u rfl hu hsync hf hnoise hg
    exact h.later (cs ++ pre) f noise g post u (List.append_assoc _ _ _).symm
      ((hfeed pre).trans hu) hsync hf hnoise hg

/-- That a later frame is accepted follows from the rest. -/
lemma of_hunting (hin : (s.feed bs).isSome)
    (h : ∀ pre f post u, bs = pre ++ 0x02 :: (f ++ post) → s.feed pre = some u →
      u.rx1Sync = false → Malformed f → ∃ t, u.feed (0x02 :: f) = some t ∧ t.rx1Sync = false) :
    s.Robust bs := by
  refine ⟨hin, h, fun pre f noise g post u hbs hu hsync hf hnoise hg => ?_⟩
  obtain ⟨t, ht, htsync⟩ := h pre f _ u hbs hu hsync hf
  have hlen := hg.2.2.length_eq
  have hle := hg.2.1
  obtain ⟨-, v, hv, hacc⟩ := feed_frame htsync hg.2.2 (by omega)
  refine ⟨v, ?_, hacc.right⟩
  rw [← List.cons_append, feed_append, ht]
  change t.feed (noise ++ 0x02 :: g) = some v
  rw [feed_append, feed_noise htsync hnoise]
  exact hv

end Robust

/-- A stream the receiver survives is clean. -/
lemma Robust.clean (h : s.Robust bs) (hs : s.rx1Sync = false) : Clean bs := by
  induction hn : bs.length using Nat.strong_induction_on generalizing bs s with
  | _ n ih =>
    rcases bs with _ | ⟨b, r⟩
    · exact .nil
    rw [List.length_cons] at hn
    by_cases hb : b = 0x02
    · subst hb
      by_cases hopen : r.length < lengthField r + 7
      · -- the last frame is incomplete
        refine .rest (Nat.not_lt.mp fun hfull => ?_) hopen
        have hin := h.inBounds
        rw [(feed_open hs fun g hg _ => not_closes_of_lt hopen hg).2 hfull] at hin
        cases hin
      · obtain ⟨f, post, rfl, hf⟩ := exists_frame hopen
        by_cases hc : Closes f
        · -- the frame is accepted, and its state is where the stream goes on
          have hin := h.inBounds
          rw [← List.cons_append, feed_append] at hin
          have hroom := length_le_of_feed hs hf (Option.isSome_of_isSome_bind hin)
          obtain ⟨-, t, ht, hacc⟩ := feed_frame hs hc hroom
          have h : s.Robust (0x02 :: f ++ post) := h
          refine .frame hc hroom (ih post.length ?_ (h.drop ht) hacc.sync rfl)
          rw [← hn, List.length_append]
          omega
        · obtain ⟨t, ht, hsync⟩ := h.hunting [] f post s rfl rfl hs ⟨hf, fun hw => hc hw.2.2⟩
          rw [not_hunting hs hf hc ht] at hsync
          cases hsync
    · have hreceive : s.feed [b] = some s := feed_noise hs (by simpa using hb)
      have h : s.Robust ([b] ++ r) := h
      exact .noise hb (ih r.length (by omega) (h.drop hreceive) hs rfl)

/-- A clean stream is survived. -/
lemma Clean.robust (h : Clean bs) (hs : s.rx1Sync = false) : s.Robust bs := by
  induction h generalizing s with
  | nil =>
    refine .of_hunting rfl fun pre f post u hbs => ?_
    cases pre <;> cases hbs
  | @noise b bs hb _ ih =>
    have hfeed : ∀ cs, s.feed (b :: cs) = s.feed cs := by
      intro cs
      have hb' : s.feed [b] = some s := feed_noise hs (by simpa using hb)
      rw [← List.singleton_append, feed_append, hb']
      rfl
    refine .of_hunting (by rw [hfeed]; exact (ih hs).inBounds) fun pre f post u hbs hu => ?_
    rcases pre with _ | ⟨c, pre⟩
    · exact absurd (List.cons_eq_cons.mp hbs).1 hb
    · obtain ⟨rfl, hbs'⟩ := List.cons_eq_cons.mp hbs
      exact (ih hs).hunting pre f post u hbs' ((hfeed pre).symm.trans hu)
  | @frame f₀ bs hf₀ hroom _ ih =>
    obtain ⟨hlocked, t, ht, hacc⟩ := feed_frame hs hf₀ hroom
    have hfeed : ∀ cs, s.feed (0x02 :: (f₀ ++ cs)) = t.feed cs := by
      intro cs
      rw [← List.cons_append, feed_append, ht]
      rfl
    refine .of_hunting (by rw [hfeed]; exact (ih hacc.sync).inBounds)
      fun pre f post u hbs hu hsync hf => ?_
    rcases pre with _ | ⟨c, pre⟩
    · -- the malformed frame would be the accepted one
      obtain rfl : s = u := Option.some.inj hu
      obtain ⟨rfl, -⟩ := frame_unique hf₀.length_eq hf.1 (List.cons_eq_cons.mp hbs).2
      exact ⟨t, ht, hacc.sync⟩
    · obtain ⟨rfl, htail⟩ := List.cons_eq_cons.mp hbs
      rcases List.append_eq_append_iff.mp htail with ⟨as, rfl, hbs'⟩ | ⟨as, rfl, hbs'⟩
      · exact (ih hacc.sync).hunting as f post u hbs' ((hfeed as).symm.trans hu) hsync hf
      · -- inside of the accepted frame no head is looked for
        by_cases has : as = []
        · subst has
          have hu' : t.feed [] = some u := by
            rw [← hfeed, List.append_nil, List.append_nil]
            exact hu
          exact (ih hacc.sync).hunting [] f post u hbs'.symm hu' hsync hf
        · obtain ⟨v, hv, hl⟩ := hlocked pre (List.prefix_append pre as) (by simpa using has)
          rw [hu] at hv
          rw [Option.some.inj hv, hl.sync] at hsync
          cases hsync
  | @rest r hroom hopen =>
    have hfeed : ∀ pre, pre <+: r → ∃ t, s.feed (0x02 :: pre) = some t ∧ t.Locked pre := by
      intro pre hpre
      exact (feed_open hs fun g hg _ => not_closes_of_lt hopen (hg.trans hpre)).1
        (hpre.length_le.trans hroom)
    obtain ⟨t, ht, -⟩ := hfeed r List.prefix_rfl
    refine .of_hunting (by rw [ht]; rfl) fun pre f post u hbs hu hsync hf => ?_
    rcases pre with _ | ⟨c, pre⟩
    · -- the last frame would be complete
      obtain rfl : r = f ++ post := (List.cons_eq_cons.mp hbs).2
      have hlen := hf.1
      rw [lengthField_append (by omega), List.length_append] at hopen
      omega
    · obtain ⟨rfl, rfl⟩ := List.cons_eq_cons.mp hbs
      obtain ⟨v, hv, hl⟩ := hfeed pre (List.prefix_append pre _)
      rw [hu] at hv
      rw [Option.some.inj hv, hl.sync] at hsync
      cases hsync

end Uart5

/-- Between two calls of `CmdDataSend` the receiver survives exactly the clean streams. -/
theorem receiver_robust_iff (s : Uart5) (bs : List UInt8) :
    s.cmdDataSend.Robust bs ↔ Uart5.Clean bs :=
  ⟨fun h => h.clean rfl, fun h => h.robust rfl⟩

/-- A frame with a wrong checksum, then one with the right checksum. -/
theorem deaf_after_a_bad_checksum :
    ¬ ∀ (s : Uart5) (bs : List UInt8), s.cmdDataSend.Robust bs := by
  intro hall
  have h := hall Uart5.start (0x02 :: ([0x08, 0x10, 0x00, 0x01, 0x00, 0x03, 0x80, 0x58] ++
    0x02 :: [0x08, 0x10, 0x00, 0x01, 0x00, 0x03, 0x80, 0x59]))
  obtain ⟨t, ht, hright⟩ := h.later [] _ [] [0x08, 0x10, 0x00, 0x01, 0x00, 0x03, 0x80, 0x59] []
    Uart5.start.cmdDataSend rfl rfl rfl (by decide +kernel) nofun (by decide +kernel)
  have hdeaf : (Uart5.start.cmdDataSend.feed (0x02 ::
      ([0x08, 0x10, 0x00, 0x01, 0x00, 0x03, 0x80, 0x58] ++
        ([] ++ 0x02 :: [0x08, 0x10, 0x00, 0x01, 0x00, 0x03, 0x80, 0x59])))).map
      (fun t => t.rx1Right) = some false := by decide +kernel
  rw [ht] at hdeaf
  have : t.rx1Right = false := Option.some.inj hdeaf
  rw [this] at hright
  cases hright

end MealVendor
