import MealVendor.Model.Card
import MealVendor.Server.Noise

/-!
# Replies of the server

The program reports a meal and looks 249 times for a reply.  It takes the first frame that it finds
for the reply, and nearly every frame for an acceptance: the codes are read only from frames with
the command `0x0710`, and the replies to reports have the command `0x0810`.
-/

namespace MealVendor

namespace Uart5

variable {s t u v : Uart5} {air : List (List RxByte)} {b : UInt8} {bs f : List UInt8} {k : ℕ}

/-! ## The receiver does not remember -/

/-- Two receivers that nobody can tell apart: both look for a head, or both are behind one. -/
inductive Same (s t : Uart5) : Prop
  | hunting (hs : s.rx1Sync = false) (ht : t.rx1Sync = false) (h : s.rx1Right = t.rx1Right)
      (hf : s.rx1Right = true → ∃ f, Closes f ∧ s.Accepted f ∧ t.Accepted f)
  | locked {bs : List UInt8} (hs : s.Locked bs) (ht : t.Locked bs)

namespace Same

lemma rx1Right_eq (h : Same s t) : s.rx1Right = t.rx1Right := by
  cases h with
  | hunting _ _ h => exact h
  | locked hs ht => rw [hs.right, ht.right]

lemma symm (h : Same s t) : Same t s := by
  cases h with
  | hunting hs ht h hf =>
    refine .hunting ht hs h.symm fun hright => ?_
    obtain ⟨f, hc, hsa, hta⟩ := hf (h.trans hright)
    exact ⟨f, hc, hta, hsa⟩
  | locked hs ht => exact .locked ht hs

/-- A byte that one of them takes the other takes too. -/
lemma receive (h : Same s t) (b : UInt8) : Option.Rel Same (s.receive b) (t.receive b) := by
  cases h with
  | hunting hs ht h hf =>
    by_cases hb : b = 0x02
    · subst hb
      rw [receive_head hs, receive_head ht]
      exact .some (.locked (locked_head s) (locked_head t))
    · rw [receive_noise hs hb, receive_noise ht hb]
      exact .some (.hunting hs ht h hf)
  | @locked bs hs ht =>
    rcases Nat.lt_or_ge bs.length 512 with hroom | hfull
    · by_cases hc : Closes (bs ++ [b])
      · obtain ⟨s', hs', hsa⟩ := (hs.receive hroom).1 hc
        obtain ⟨t', ht', hta⟩ := (ht.receive hroom).1 hc
        rw [hs', ht']
        exact .some (.hunting hsa.sync hta.sync (by rw [hsa.right, hta.right])
          fun _ => ⟨_, hc, hsa, hta⟩)
      · obtain ⟨s', hs', hsl⟩ := (hs.receive hroom).2 hc
        obtain ⟨t', ht', htl⟩ := (ht.receive hroom).2 hc
        rw [hs', ht']
        exact .some (.locked hsl htl)
    · rw [hs.receive_full hfull, ht.receive_full hfull]
      exact .none

lemma feed (h : Same s t) (bs : List UInt8) : Option.Rel Same (s.feed bs) (t.feed bs) := by
  induction bs generalizing s t with
  | nil => exact .some h
  | cons b bs ih =>
    have hreceive := h.receive b
    rw [feed_cons, feed_cons]
    generalize s.receive b = s' at hreceive
    generalize t.receive b = t' at hreceive
    cases hreceive with
    | some h' => exact ih h'
    | none => exact .none

end Same

/-- The receiver when a request is sent. -/
def reset : Uart5 := start.cmdDataSend

lemma same_reset (s : Uart5) : Same s.cmdDataSend reset := .hunting rfl rfl rfl nofun

/-! ## Waiting -/

/-- What the receiver is when it is looked at for the `k`th time. -/
def polled (s : Uart5) (air : List (List RxByte)) (k : ℕ) : Option Uart5 :=
  s.hear (air.take k).flatten

/-- There was nothing before the `k`th time. -/
def Listens (s : Uart5) (air : List (List RxByte)) (k : ℕ) : Prop :=
  ∀ j v, 1 ≤ j → j < k → s.polled air j = some v → v.rx1Right = false

/-- Among `t` times, this is what the receiver is when there is a frame for the first time. -/
def Found (s : Uart5) (t : ℕ) (air : List (List RxByte)) (v : Uart5) : Prop :=
  ∃ k, 1 ≤ k ∧ k ≤ t ∧ s.Listens air k ∧ s.polled air k = some v ∧ v.rx1Right = true

lemma polled_succ (s : Uart5) (air : List (List RxByte)) (k : ℕ) :
    s.polled air (k + 1) = (s.hear (air.headD [])).bind fun t => t.polled air.tail k := by
  have hsplit : (air.take (k + 1)).flatten = air.headD [] ++ (air.tail.take k).flatten := by
    cases air with
    | nil => rw [List.take_nil, List.tail_nil, List.take_nil]; rfl
    | cons batch air => rw [List.take_succ_cons, List.flatten_cons]; rfl
  unfold polled hear
  rw [hsplit, List.map_append, feed_append]

lemma polled_zero (s : Uart5) (air : List (List RxByte)) : s.polled air 0 = some s := rfl

/-- One time more. -/
lemma found_succ (hs : s.hear (air.headD []) = some u) : s.Found (k + 1) air v ↔
    (u.rx1Right = true ∧ v = u) ∨ (u.rx1Right = false ∧ u.Found k air.tail v) := by
  have hpolled : ∀ j, s.polled air (j + 1) = u.polled air.tail j := by
    intro j
    rw [polled_succ, hs]
    rfl
  have hone : s.polled air 1 = some u := hpolled 0
  constructor
  · rintro ⟨j, hj1, hjk, hlisten, hj, hright⟩
    obtain ⟨j, rfl⟩ := Nat.exists_eq_add_of_le' hj1
    rcases Nat.eq_zero_or_pos j with rfl | hpos
    · rw [hone] at hj
      obtain rfl := Option.some.inj hj
      exact .inl ⟨hright, rfl⟩
    · refine .inr ⟨hlisten 1 u le_rfl (by omega) hone, j, hpos, by omega, ?_, ?_, hright⟩
      · intro i w hi hij hw
        exact hlisten (i + 1) w (by omega) (by omega) ((hpolled i).trans hw)
      · rw [← hpolled]
        exact hj
  · rintro (⟨hright, rfl⟩ | ⟨hright, j, hj1, hjk, hlisten, hj, hvright⟩)
    · exact ⟨1, le_rfl, by omega, fun i w hi hi1 => absurd hi (by omega), hone, hright⟩
    · refine ⟨j + 1, by omega, by omega, fun i w hi hij hw => ?_, (hpolled j).trans hj, hvright⟩
      obtain ⟨i, rfl⟩ := Nat.exists_eq_add_of_le' hi
      rw [hpolled] at hw
      rcases Nat.eq_zero_or_pos i with rfl | hpos
      · rw [polled_zero] at hw
        rw [← Option.some.inj hw]
        exact hright
      · exact hlisten i w hpos (by omega) hw

/-- The program goes on with the first frame that it finds. -/
lemma wait_eq_zero_iff {w : Uart5} : s.wait k air = some (0, w) ↔
    ∃ v, s.Found k air v ∧ w = { v with rx1Right := false } := by
  induction k generalizing s air with
  | zero =>
    constructor
    · intro h
      cases h
    · rintro ⟨v, ⟨j, hj1, hj, -⟩, -⟩
      omega
  | succ k ih =>
    rw [wait]
    cases hs : s.hear (air.headD []) with
    | none =>
      -- the buffer is full before the program looks
      constructor
      · intro h
        cases h
      · rintro ⟨v, ⟨j, hj1, -, -, hj, -⟩, -⟩
        obtain ⟨j, rfl⟩ := Nat.exists_eq_add_of_le' hj1
        rw [polled_succ, hs] at hj
        cases hj
    | some u =>
      simp only [Option.bind_some, found_succ hs]
      by_cases hright : u.rx1Right = true
      · rw [if_pos hright]
        constructor
        · intro h
          exact ⟨u, .inl ⟨hright, rfl⟩, (congrArg Prod.snd (Option.some.inj h)).symm⟩
        · rintro ⟨v, ⟨-, rfl⟩ | ⟨hfalse, -⟩, rfl⟩
          · rfl
          · rw [hright] at hfalse
            cases hfalse
      · -- nothing was found in this round
        rw [if_neg hright, ih]
        have hfalse : u.rx1Right = false := Bool.eq_false_iff.mpr hright
        constructor
        · rintro ⟨v, hv, rfl⟩
          exact ⟨v, .inr ⟨hfalse, hv⟩, rfl⟩
        · rintro ⟨v, ⟨htrue, -⟩ | ⟨-, hv⟩, rfl⟩
          · exact absurd htrue hright
          · exact ⟨v, hv, rfl⟩

/-- Otherwise the program says so. -/
lemma wait_fst {r : UInt8 × Uart5} (h : s.wait k air = some r) : r.1 = 0 ∨ r.1 = 1 := by
  induction k generalizing s air with
  | zero =>
    cases h
    exact .inr rfl
  | succ k ih =>
    rw [wait] at h
    cases hs : s.hear (air.headD []) with
    | none =>
      rw [hs] at h
      cases h
    | some u =>
      rw [hs, Option.bind_some] at h
      split_ifs at h with hright
      · cases h
        exact .inl rfl
      · exact ih h

lemma Same.polled (h : Same s t) (air : List (List RxByte)) (k : ℕ) :
    Option.Rel Same (s.polled air k) (t.polled air k) := h.feed _

/-- What is found does not depend on what was received before. -/
lemma Same.found (h : Same s t) (hv : s.Found k air v) : ∃ w, t.Found k air w ∧ Same v w := by
  obtain ⟨j, hj1, hjk, hlisten, hj, hright⟩ := hv
  have hrel := h.polled air j
  rw [hj] at hrel
  obtain ⟨w, hw, hvw⟩ : ∃ w, t.polled air j = some w ∧ Same v w := by
    generalize t.polled air j = x at hrel
    cases hrel with
    | some hvw => exact ⟨_, rfl, hvw⟩
  refine ⟨w, ⟨j, hj1, hjk, fun i x hi hij hx => ?_, hw, ?_⟩, hvw⟩
  · have hrel := h.polled air i
    rw [hx] at hrel
    obtain ⟨y, hy, hyx⟩ : ∃ y, s.polled air i = some y ∧ Same y x := by
      generalize s.polled air i = z at hrel
      cases hrel with
      | some hyx => exact ⟨_, rfl, hyx⟩
    rw [← hyx.rx1Right_eq]
    exact hlisten i y hi hij hy
  · rw [← hvw.rx1Right_eq]
    exact hright

lemma Found.rx1Right (h : s.Found k air v) : v.rx1Right = true := by
  obtain ⟨-, -, -, -, -, hright⟩ := h
  exact hright

/-- The program takes the frame for a refusal: it is empty, or a serial number is repeated. -/
def Refuses (v : Uart5) : Prop :=
  hlBufferToInit (v.rx1Buf 2) (v.rx1Buf 3) = 0 ∨
    v.rx1Buf 0 = 0x07 ∧ v.rx1Buf 1 = 0x10 ∧ v.rx1Buf 7 = 0x24

end Uart5

/-- The frame is empty, or says that a serial number is repeated. -/
def Refusal (f : List UInt8) : Prop :=
  lengthField f = 0 ∨ f.getD 0 0 = 0x07 ∧ f.getD 1 0 = 0x10 ∧ f.getD 7 0 = 0x24

/-- The receiver holds the frame. -/
lemma Uart5.Accepted.refuses_iff {v : Uart5} {f : List UInt8} (h : v.Accepted f) (hc : Closes f) :
    v.Refuses ↔ Refusal f := by
  have hlen := hc.length_eq
  have hbuf : ∀ i < f.length, v.rx1Buf i = f.getD i 0 := h.buf
  have hzero : hlBufferToInit (v.rx1Buf 2) (v.rx1Buf 3) = 0 ↔ lengthField f = 0 := by
    rw [← UInt16.toNat_inj, hlBufferToInit_toNat, hbuf 2 (by omega), hbuf 3 (by omega)]
    rfl
  rw [Uart5.Refuses, Refusal]
  rw [hzero]
  by_cases h0 : lengthField f = 0
  · simp [h0]
  · -- the frame has a payload, so there is a byte 7
    rw [hbuf 0 (by omega), hbuf 1 (by omega), hbuf 7 (by omega)]

lemma Uart5.Same.refuses {s t : Uart5} (h : Same s t) (hright : s.rx1Right = true) :
    s.Refuses ↔ t.Refuses := by
  cases h with
  | locked hs =>
    rw [hs.right] at hright
    cases hright
  | hunting _ _ _ hf =>
    obtain ⟨f, hc, hs, ht⟩ := hf hright
    rw [hs.refuses_iff hc, ht.refuses_iff hc]

/-! ## Frames in what the server sends -/

section Frames

variable (bs f post : List RxByte)

/-- The receiver takes the frame `f` out of the bytes `bs`, with `post` behind it. -/
def TakesBefore : Prop :=
  ∃ pre head u, bs = pre ++ head :: (f ++ post) ∧ head.val = 0x02 ∧
    Uart5.reset.hear pre = some u ∧ u.rx1Sync = false ∧ Closes (f.map RxByte.val)

/-- The receiver takes the frame `f` out of the bytes `bs`. -/
def Takes : Prop := ∃ post, TakesBefore bs f post

/-- The frame `f` is complete behind the bytes `bs`, and no other one has begun. -/
def Shows : Prop := f.length ≤ 512 ∧ ∃ post, TakesBefore bs f post ∧ ∀ b ∈ post, b.val ≠ 0x02

variable {bs f post} {cs : List RxByte} {v : Uart5}

lemma Uart5.hear_append (s : Uart5) (bs cs : List RxByte) :
    s.hear (bs ++ cs) = (s.hear bs).bind fun t => t.hear cs := by
  unfold hear
  rw [List.map_append, feed_append]

/-- The receiver holds what is complete. -/
lemma Shows.hear (h : Shows bs f) : ∃ v, Uart5.reset.hear bs = some v ∧
    v.Accepted (f.map RxByte.val) ∧ Closes (f.map RxByte.val) := by
  obtain ⟨hroom, post, ⟨pre, head, u, rfl, hhead, hu, hsync, hc⟩, hpost⟩ := h
  obtain ⟨-, t, ht, hacc⟩ := Uart5.feed_frame hsync hc (by rwa [List.length_map])
  refine ⟨t, ?_, hacc, hc⟩
  have hnoise : t.hear post = some t := Uart5.feed_noise hacc.sync fun b hb => by
    obtain ⟨x, hx, rfl⟩ := List.mem_map.mp hb
    exact hpost x hx
  have hframe : u.hear (head :: f) = some t := by
    rw [Uart5.hear, List.map_cons, hhead]
    exact ht
  rw [Uart5.hear_append, hu, Option.bind_some, ← List.cons_append, Uart5.hear_append, hframe,
    Option.bind_some, hnoise]

/-- What the receiver can be behind the bytes: it has found nothing, or a frame is complete, or one
has begun. -/
lemma hear_cases (h : Uart5.reset.hear bs = some v) :
    (v.rx1Sync = false ∧ v.rx1Right = false) ∨
      (v.rx1Sync = false ∧ ∃ f, Shows bs f) ∨
      ∃ pre head r u, bs = pre ++ head :: r ∧ head.val = 0x02 ∧ Uart5.reset.hear pre = some u ∧
        u.rx1Sync = false ∧ v.Locked (r.map RxByte.val) := by
  induction bs using List.reverseRecOn generalizing v with
  | nil =>
    obtain rfl : Uart5.reset = v := Option.some.inj h
    exact .inl ⟨rfl, rfl⟩
  | append_singleton bs b ih =>
    rw [Uart5.hear_append] at h
    obtain ⟨u, hu, hb⟩ := Option.bind_eq_some_iff.mp h
    have hb : u.receive b.val = some v := by
      rw [Uart5.hear, List.map_singleton, Uart5.feed_cons] at hb
      obtain ⟨t, ht, htv⟩ := Option.bind_eq_some_iff.mp hb
      rw [ht, Option.some.inj htv]
    -- a head begins a frame, wherever the receiver looks for one
    have hbegin : u.rx1Sync = false → b.val = 0x02 →
        v.Locked (([] : List RxByte).map RxByte.val) := by
      intro hsync hval
      rw [hval, Uart5.receive_head hsync] at hb
      rw [← Option.some.inj hb]
      exact Uart5.locked_head u
    rcases ih hu with ⟨hsync, hright⟩ | ⟨hsync, f, hshow⟩ |
      ⟨pre, head, r, t, rfl, hhead, ht, hts, hl⟩
    · by_cases hval : b.val = 0x02
      · exact .inr (.inr ⟨bs, b, [], u, rfl, hval, hu, hsync, hbegin hsync hval⟩)
      · rw [Uart5.receive_noise hsync hval] at hb
        obtain rfl := Option.some.inj hb
        exact .inl ⟨hsync, hright⟩
    · by_cases hval : b.val = 0x02
      · exact .inr (.inr ⟨bs, b, [], u, rfl, hval, hu, hsync, hbegin hsync hval⟩)
      · rw [Uart5.receive_noise hsync hval] at hb
        obtain rfl := Option.some.inj hb
        obtain ⟨hroom, post, ⟨pre, head, t, rfl, hrest⟩, hpost⟩ := hshow
        refine .inr (.inl ⟨hsync, f, hroom, post ++ [b], ⟨pre, head, t, by simp, hrest⟩, ?_⟩)
        simpa [or_imp, forall_and] using ⟨hpost, hval⟩
    · have hroom : (r.map RxByte.val).length < 512 := by
        by_contra hfull
        rw [hl.receive_full (Nat.not_lt.mp hfull)] at hb
        cases hb
      have hmap : (r ++ [b]).map RxByte.val = r.map RxByte.val ++ [b.val] := by simp
      by_cases hc : Closes (r.map RxByte.val ++ [b.val])
      · obtain ⟨w, hw, hacc⟩ := (hl.receive hroom).1 hc
        obtain rfl : w = v := Option.some.inj (hw.symm.trans hb)
        refine .inr (.inl ⟨hacc.sync, r ++ [b], ?_, [], ⟨pre, head, t, by simp, hhead, ht, hts, ?_⟩,
          by simp⟩)
        · rw [List.length_map] at hroom
          rw [List.length_append, List.length_singleton]
          omega
        · rw [hmap]
          exact hc
      · obtain ⟨w, hw, hlock⟩ := (hl.receive hroom).2 hc
        obtain rfl : w = v := Option.some.inj (hw.symm.trans hb)
        refine .inr (.inr ⟨pre, head, r ++ [b], t, by simp, hhead, ht, hts, ?_⟩)
        rw [hmap]
        exact hlock

/-- The program sees a frame exactly where one is complete. -/
lemma right_iff_shows (h : Uart5.reset.hear bs = some v) :
    v.rx1Right = true ↔ ∃ f, Shows bs f := by
  constructor
  · intro hright
    rcases hear_cases h with ⟨-, hfalse⟩ | ⟨-, hf⟩ | ⟨_, _, _, _, _, _, _, _, hl⟩
    · rw [hright] at hfalse
      cases hfalse
    · exact hf
    · have hfalse := hl.right
      rw [hright] at hfalse
      cases hfalse
  · rintro ⟨f, hf⟩
    obtain ⟨w, hw, hacc, -⟩ := hf.hear
    obtain rfl : w = v := Option.some.inj (hw.symm.trans h)
    exact hacc.right

/-- What was taken is not lost. -/
lemma Takes.append (h : Takes bs f) (cs : List RxByte) : Takes (bs ++ cs) f := by
  obtain ⟨post, pre, head, u, rfl, hrest⟩ := h
  exact ⟨post ++ cs, pre, head, u, by simp, hrest⟩

end Frames

/-! ## Acceptance -/

section Acceptance

variable (f : List RxByte) (air : List (List RxByte)) (k req : ℕ) (cmd : UInt16) (code : ℕ)

/-- The frame `f` is the reply to the request `req`, whose command is `cmd`, and the response code,
which stands in the byte `code`, is 0. -/
structure Accepts : Prop where
  reply : ∀ b ∈ f, b.reply = some req
  command : (f.map RxByte.val).take 2 = hlIntToBuffer (cmd + 0x10)
  inside : code < lengthField (f.map RxByte.val) + 4
  accepted : (f.map RxByte.val).getD code 1 = 0x00

/-- An acceptance was received before the program stopped looking for one. -/
def Received : Prop :=
  ∃ k ≤ 249, Uart5.reset.Listens air k ∧ ∃ f, Takes (air.take k).flatten f ∧ Accepts f req cmd code

/-- The frame is noise, or a reply to another request, or another kind of reply, or carries another
code. -/
inductive Stray : Prop
  | other {b : RxByte} (hb : b ∈ f) (h : b.reply ≠ some req)
  | command (h : (f.map RxByte.val).take 2 ≠ hlIntToBuffer (cmd + 0x10))
  | code (h : code < lengthField (f.map RxByte.val) + 4 → (f.map RxByte.val).getD code 1 ≠ 0x00)

/-- At the `k`th time a frame is complete for the first time, and this is `f`. -/
structure FirstShown : Prop where
  pos : 1 ≤ k
  le : k ≤ 249
  shows : Shows (air.take k).flatten f
  first : ∀ j g, 1 ≤ j → j < k → ¬ Shows (air.take j).flatten g

/-- The first frame that the program sees is no refusal. -/
def Taken : Prop := ∃ k f, FirstShown f air k ∧ ¬ Refusal (f.map RxByte.val)

/-- The first frame that the program sees is no refusal, and up to then nothing but stray frames
has come. -/
def Fooled : Prop :=
  ∃ k f, FirstShown f air k ∧ ¬ Refusal (f.map RxByte.val) ∧
    ∀ g, Takes (air.take k).flatten g → Stray g req 0x0800 7

variable {f air k req cmd code}

lemma stray_iff : Stray f req cmd code ↔ ¬ Accepts f req cmd code := by
  constructor
  · rintro h haccept
    cases h with
    | other hb h => exact h (haccept.reply _ hb)
    | command h => exact h haccept.command
    | code h => exact h haccept.inside haccept.accepted
  · intro h
    by_contra hstray
    refine h ⟨fun b hb => ?_, ?_, ?_, ?_⟩
    · by_contra hne
      exact hstray (.other hb hne)
    · by_contra hne
      exact hstray (.command hne)
    · by_contra hout
      exact hstray (.code fun hin => absurd hin hout)
    · by_contra hne
      exact hstray (.code fun _ => hne)

lemma FirstShown.listens (h : FirstShown f air k) : Uart5.reset.Listens air k := by
  intro j v hj hjk hv
  by_contra hne
  obtain ⟨g, hg⟩ := (right_iff_shows hv).mp (by simpa using hne)
  exact h.first j g hj hjk hg

/-- Where the program finds a frame, whatever was received before. -/
lemma found_iff {s v : Uart5} (hs : Uart5.Same s Uart5.reset) : s.Found 249 air v ↔
    ∃ k f, FirstShown f air k ∧ s.polled air k = some v := by
  -- at each time the two receivers see the same
  have hright : ∀ {j w}, s.polled air j = some w →
      (w.rx1Right = true ↔ ∃ f, Shows (air.take j).flatten f) := by
    intro j w hw
    have hrel := hs.polled air j
    rw [hw] at hrel
    obtain ⟨x, hx, hwx⟩ : ∃ x, Uart5.reset.polled air j = some x ∧ Uart5.Same w x := by
      generalize Uart5.reset.polled air j = y at hrel
      cases hrel with
      | some h => exact ⟨_, rfl, h⟩
    rw [hwx.rx1Right_eq]
    exact right_iff_shows hx
  constructor
  · rintro ⟨k, h1, hk, hlisten, hv, hvr⟩
    obtain ⟨f, hf⟩ := (hright hv).mp hvr
    refine ⟨k, f, ⟨h1, hk, hf, fun j g hj hjk hg => ?_⟩, hv⟩
    obtain ⟨x, hx, -⟩ := hg.hear
    have hrel := hs.polled air j
    rw [show Uart5.reset.polled air j = some x from hx] at hrel
    obtain ⟨w, hw⟩ : ∃ w, s.polled air j = some w := by
      generalize s.polled air j = y at hrel
      cases hrel with
      | some h => exact ⟨_, rfl⟩
    have hfalse := hlisten j w hj hjk hw
    rw [(hright hw).mpr ⟨g, hg⟩] at hfalse
    cases hfalse
  · rintro ⟨k, f, ⟨h1, hk, hf, hfirst⟩, hv⟩
    refine ⟨k, h1, hk, fun j w hj hjk hw => ?_, hv, (hright hv).mpr ⟨f, hf⟩⟩
    by_contra hne
    obtain ⟨g, hg⟩ := (hright hw).mp (by simpa using hne)
    exact hfirst j g hj hjk hg

lemma found_unrefused_iff :
    (∃ v, Uart5.reset.Found 249 air v ∧ ¬ v.Refuses) ↔ Taken air := by
  constructor
  · rintro ⟨v, hv, hrefuse⟩
    obtain ⟨k, f, hf, hk⟩ := (found_iff Uart5.start.same_reset).mp hv
    obtain ⟨w, hw, hacc, hc⟩ := hf.shows.hear
    obtain rfl : w = v := Option.some.inj (hw.symm.trans hk)
    exact ⟨k, f, hf, fun h => hrefuse ((hacc.refuses_iff hc).mpr h)⟩
  · rintro ⟨k, f, hf, hrefuse⟩
    obtain ⟨v, hv, hacc, hc⟩ := hf.shows.hear
    exact ⟨v, (found_iff Uart5.start.same_reset).mpr ⟨k, f, hf, hv⟩,
      fun h => hrefuse ((hacc.refuses_iff hc).mp h)⟩

/-- Nothing is looked for behind the first frame. -/
lemma received_iff (h : FirstShown f air k) : Received air req cmd code ↔
    ∃ g, Takes (air.take k).flatten g ∧ Accepts g req cmd code := by
  obtain ⟨v, hv, hacc, -⟩ := h.shows.hear
  constructor
  · rintro ⟨j, -, hlisten, g, hg, haccept⟩
    have hjk : j ≤ k := by
      by_contra hlt
      have hfalse := hlisten k v h.pos (by omega) hv
      rw [hacc.right] at hfalse
      cases hfalse
    obtain ⟨rest, hrest⟩ : (air.take j).flatten <+: (air.take k).flatten := by
      obtain ⟨rest, hrest⟩ := List.take_prefix_take_left hjk (l := air)
      exact ⟨rest.flatten, by rw [← List.flatten_append, hrest]⟩
    exact ⟨g, hrest ▸ hg.append rest, haccept⟩
  · rintro ⟨g, hg, haccept⟩
    exact ⟨k, h.le, h.listens, g, hg, haccept⟩

lemma fooled_iff : Fooled air req ↔ Taken air ∧ ¬ Received air req 0x0800 7 := by
  constructor
  · rintro ⟨k, f, hf, hrefuse, hstray⟩
    refine ⟨⟨k, f, hf, hrefuse⟩, fun hreceived => ?_⟩
    obtain ⟨g, hg, haccept⟩ := (received_iff hf).mp hreceived
    exact stray_iff.mp (hstray g hg) haccept
  · rintro ⟨⟨k, f, hf, hrefuse⟩, hnot⟩
    exact ⟨k, f, hf, hrefuse, fun g hg =>
      stray_iff.mpr fun haccept => hnot ((received_iff hf).mpr ⟨g, hg, haccept⟩)⟩

end Acceptance

namespace Net

variable {n : Net} {air : Air} {s : Uart5}

lemma takeMealsReply_zero (w : Uart5) : takeMealsReply 0 w = 0 ↔ ¬ w.Refuses := by
  have hone : ¬ (0 : UInt8) = 0x01 := by decide
  have hcode : ¬ (0 : UInt8) = 0x24 := by decide
  rw [takeMealsReply, Uart5.Refuses]
  rw [if_neg hone]
  by_cases hlen : hlBufferToInit (w.rx1Buf 2) (w.rx1Buf 3) = 0
  · simp [hlen]
  · rw [if_neg hlen]
    by_cases hcmd : w.rx1Buf 0 = 0x07 ∧ w.rx1Buf 1 = 0x10
    · rw [if_pos hcmd]
      by_cases hzero : w.rx1Buf 7 = 0
      · simp [hlen, hzero, hcode]
      · by_cases hrepeat : w.rx1Buf 7 = 0x24
        · simp [hlen, hcmd, hrepeat]
        · simp [hlen, hzero, hrepeat]
    · rw [if_neg hcmd]
      simp only [hlen, false_or, true_iff]
      exact fun hrepeat => hcmd ⟨hrepeat.1, hrepeat.2.1⟩

/-- The program takes the meal for accepted where it finds a frame that is no refusal. -/
lemma wait_reply_iff (s : Uart5) (air : List (List RxByte)) :
    (∃ r, s.cmdDataSend.wait 249 air = some r ∧ takeMealsReply r.1 r.2 = 0) ↔ Taken air := by
  have hsame := s.same_reset
  rw [← found_unrefused_iff]
  constructor
  · rintro ⟨⟨i, w⟩, hw, hreply⟩
    rcases Uart5.wait_fst hw with hi | hi
    · obtain rfl : i = 0 := hi
      obtain ⟨v, hv, rfl⟩ := Uart5.wait_eq_zero_iff.mp hw
      obtain ⟨v', hv', hvv'⟩ := hsame.found hv
      refine ⟨v', hv', ?_⟩
      rw [← hvv'.refuses hv.rx1Right]
      exact (takeMealsReply_zero _).mp hreply
    · obtain rfl : i = 1 := hi
      cases hreply
  · rintro ⟨v, hv, hrefuse⟩
    obtain ⟨v', hv', hvv'⟩ := hsame.symm.found hv
    refine ⟨_, Uart5.wait_eq_zero_iff.mpr ⟨v', hv', rfl⟩, (takeMealsReply_zero _).mpr ?_⟩
    rw [hvv'.refuses hv.rx1Right] at hrefuse
    exact hrefuse

@[simp] lemma getBRWN_uart (now : StructTD) (n : Net) : (n.getBRWN now).uart = n.uart :=
  copy_uart ..

@[simp] lemma fillMeal_uart (sel : CustomerSel) (flag : UInt8) (n : Net) :
    (n.fillMeal sel flag).uart = n.uart := by
  rw [fillMeal]
  cases Kind.ofID sel.mealName <;> simp

/-- When `TakeMealsFun` returns 0. -/
lemma takeMealsFun_zero_iff (buf : Glob) (flag : UInt8) (sel : CustomerSel) (now : StructTD) :
    (∃ n', n.takeMealsFun buf flag sel now air = some (0, n')) ↔
      (n.memSet00 air).isSome ∧ Taken air.polls := by
  rw [takeMealsFun]
  cases hn : n.memSet00 air with
  | none => simp
  | some m =>
    rw [← wait_reply_iff m.uart air.polls]
    simp only [Option.bind_some, mealComparefunDemo, Option.map_eq_some_iff, fillMeal_uart,
      getBRWN_uart, Option.isSome_some, true_and, Prod.mk.injEq]
    constructor
    · rintro ⟨n', r, ⟨r', hr', rfl⟩, hreply, -⟩
      exact ⟨r', hr', hreply⟩
    · rintro ⟨r', hr', hreply⟩
      exact ⟨_, _, ⟨r', hr', rfl⟩, hreply, rfl⟩

/-! ## Records -/

/-- Searching for an item succeeds where there are enough commas. -/
lemma searchSeparatorFrom_isSome {k cnt : ℕ} {text : List UInt8} (hk : k ≠ 18) (hcnt : cnt < k) :
    (searchSeparatorFrom k cnt text).isSome ↔ k ≤ cnt + text.count comma := by
  induction text generalizing cnt with
  | nil =>
    constructor
    · intro h
      cases h
    · intro h
      rw [List.count_nil] at h
      omega
  | cons c cs ih =>
    rw [searchSeparatorFrom]
    by_cases hc : c = comma
    · rw [if_pos hc, hc, List.count_cons_self]
      by_cases hlast : cnt + 1 = k
      · rw [if_pos hlast]
        exact ⟨fun _ => by omega, fun _ => rfl⟩
      · rw [if_neg hlast, ih (by omega)]
        omega
    · rw [if_neg hc, List.count_cons_of_ne hc]
      by_cases hlast : cnt + 1 = k
      · rw [if_pos hlast, if_neg hk, Option.isSome_map]
        exact ih hcnt
      · rw [if_neg hlast, if_neg (by omega)]
        exact ih hcnt

/-- The number of commas in the record that was read. -/
def commas (n : Net) : ℕ := (n.bytes .readSdBuff).count comma

/-- The step `f` succeeds on a record with `k` commas, and leaves the receiver and the record as
they are. -/
structure Reads (f : Net → Option Net) (k : ℕ) : Prop where
  isSome : ∀ n, (f n).isSome ↔ k ≤ n.commas
  uart : ∀ n n', f n = some n' → n'.uart = n.uart
  record : ∀ n n', f n = some n' → n'.cell .readSdBuff = n.cell .readSdBuff

namespace Reads

variable {f h : Net → Option Net} {j k : ℕ}

lemma commas (hf : Reads f k) {n n' : Net} (hn : f n = some n') : n'.commas = n.commas := by
  rw [Net.commas, bytes, Net.commas, bytes]
  rw [hf.record n n' hn]

lemma bind (hf : Reads f j) (hh : Reads h k) : Reads (fun n => (f n).bind h) (max j k) := by
  refine ⟨fun n => ?_, fun n n' hn => ?_, fun n n' hn => ?_⟩
  · have hj := hf.isSome n
    cases hn : f n with
    | none =>
      rw [hn] at hj
      have : ¬ j ≤ n.commas := fun hle => by cases hj.mpr hle
      constructor
      · intro hsome
        cases hsome
      · intro hle
        omega
    | some m =>
      rw [hn] at hj
      have hle : j ≤ n.commas := hj.mp rfl
      rw [Option.bind_some, hh.isSome, hf.commas hn]
      omega
  · obtain ⟨m, hm, hn'⟩ := Option.bind_eq_some_iff.mp hn
    rw [hh.uart m n' hn', hf.uart n m hm]
  · obtain ⟨m, hm, hn'⟩ := Option.bind_eq_some_iff.mp hn
    rw [hh.record m n' hn', hf.record n m hm]

lemma map (hf : Reads f k) (h : Net → Net) (huart : ∀ n, (h n).uart = n.uart)
    (hrecord : ∀ n, (h n).cell .readSdBuff = n.cell .readSdBuff) :
    Reads (fun n => (f n).map h) k := by
  refine ⟨fun n => by rw [Option.isSome_map, hf.isSome], fun n n' hn => ?_, fun n n' hn => ?_⟩
  · obtain ⟨m, hm, rfl⟩ := Option.map_eq_some_iff.mp hn
    rw [huart, hf.uart n m hm]
  · obtain ⟨m, hm, rfl⟩ := Option.map_eq_some_iff.mp hn
    rw [hrecord, hf.record n m hm]

end Reads

lemma reads_search {k : ℕ} (hpos : 1 ≤ k) (hk : k ≠ 18) : Reads (search k) k := by
  refine ⟨fun n => ?_, fun n n' hn => ?_, fun n n' hn => ?_⟩
  · rw [search, Option.isSome_map]
    exact (searchSeparatorFrom_isSome hk hpos).trans (by rw [Nat.zero_add, commas])
  · obtain ⟨m, hm, rfl⟩ := Option.map_eq_some_iff.mp hn
    exact copy_uart ..
  · obtain ⟨m, hm, rfl⟩ := Option.map_eq_some_iff.mp hn
    exact copy_cell_of_ne _ _ _ (by decide)

lemma reads_searchHex {k : ℕ} (hpos : 1 ≤ k) (hk : k ≠ 18) (len : ℕ) :
    Reads (searchHex k len) k :=
  (reads_search hpos hk).map _ (fun _ => copy_uart ..) fun _ => copy_cell_of_ne _ _ _ (by decide)

lemma reads_restore {k : ℕ} (hpos : 1 ≤ k) (hk : k ≠ 18) {g : Glob} (hg : Glob.readSdBuff ≠ g)
    (size : ℕ) : Reads (restore g k size) k :=
  (reads_searchHex hpos hk _).map _ (fun _ => copy_uart ..) fun _ => copy_cell_of_ne _ _ _ hg

/-- The values are there where the record has fifteen items. -/
lemma reads_restoreMeal : Reads restoreMeal 15 := by
  have hname : Reads (fun n => (n.search 10).map fun n =>
      n.copy .mealName 3 (n.first .readBuf 20)) 10 :=
    (reads_search (by decide) (by decide)).map _ (fun _ => copy_uart ..)
      fun _ => copy_cell_of_ne _ _ _ (by decide)
  have hremain : Reads (fun n => (n.searchHex 14 4).map fun n =>
      n.copy .remainMealNum 3 (n.first .temp 4)) 14 :=
    (reads_searchHex (by decide) (by decide) 4).map _ (fun _ => copy_uart ..)
      fun _ => copy_cell_of_ne _ _ _ (by decide)
  have hflag : Reads (fun n => (n.searchHex 15 4).map fun n =>
      n.copy .takeMealFlag 3 (n.first .temp 4)) 15 :=
    (reads_searchHex (by decide) (by decide) 4).map _ (fun _ => copy_uart ..)
      fun _ => copy_cell_of_ne _ _ _ (by decide)
  have hrestore : ∀ k g size, 1 ≤ k → k ≠ 18 → Glob.readSdBuff ≠ g → Reads (restore g k size) k :=
    fun k g size hpos hk hg => reads_restore hpos hk hg size
  have hmeal := (hrestore 3 .brwn 7 (by decide) (by decide) (by decide)).bind <|
    (hrestore 7 .dealBalance 6 (by decide) (by decide) (by decide)).bind <|
    (hrestore 8 .mealID 4 (by decide) (by decide) (by decide)).bind <|
    (hrestore 9 .mealNO 1 (by decide) (by decide) (by decide)).bind <|
    hname.bind <|
    (hrestore 11 .mealPrice 6 (by decide) (by decide) (by decide)).bind <|
    (hrestore 12 .payType 1 (by decide) (by decide) (by decide)).bind <|
    (hrestore 13 .change 6 (by decide) (by decide) (by decide)).bind <|
    hremain.bind hflag
  have hmax :
      max 3 (max 7 (max 8 (max 9 (max 10 (max 11 (max 12 (max 13 (max 14 15)))))))) = 15 := by
    decide
  rw [hmax] at hmeal
  exact hmeal

/-- What arrives before the request is sent does not depend on the arrays. -/
lemma memSet00_eq_some {m m' : Net} (h : m'.uart = n.uart) (hm : m'.memSet00 air = some m) :
    m.cell = m'.cell ∧ ∃ k, n.memSet00 air = some k ∧ k.uart = m.uart := by
  obtain ⟨s, hs, rfl⟩ := Option.map_eq_some_iff.mp hm
  refine ⟨rfl, { n with uart := s }, ?_, rfl⟩
  rw [h] at hs
  exact Option.map_eq_some_iff.mpr ⟨s, hs, rfl⟩

/-- What `TakeMealsFun1` makes of the reply to the request that it sends. -/
lemma takeMealsFun1_iff (n : Net) (i : UInt8) : (∃ n', n.takeMealsFun1 air = some (i, n')) ↔
    15 ≤ n.commas ∧ ∃ m, n.memSet00 air = some m ∧
      ∃ r, m.uart.cmdDataSend.wait 249 air.polls = some r ∧ takeMealsReply r.1 r.2 = i := by
  have hhead : Reads (searchHex 1 10) 1 := reads_searchHex (by decide) (by decide) 10
  have htemp : (n.copy .temp 0 (List.replicate 10 0)).uart = n.uart := copy_uart ..
  have hcommas : (n.copy .temp 0 (List.replicate 10 0)).commas = n.commas := by
    rw [commas, bytes, commas, bytes]
    rw [copy_cell_of_ne _ _ _ (by decide)]
  unfold takeMealsFun1
  simp only [Option.bind_eq_bind, Option.bind_eq_some_iff, Option.some.injEq, Prod.mk.injEq]
  generalize n.copy .temp 0 (List.replicate 10 0) = m at htemp hcommas
  have hcells : ∀ {m₁ : Net}, m₁.cell = m.cell → m₁.commas = n.commas := by
    intro m₁ h
    rw [← hcommas]
    rw [commas, bytes, commas, bytes]
    rw [h]
  constructor
  · rintro ⟨n', m₁, h₁, m₂, h₂, m₃, h₃, r, hr, hreply, -⟩
    obtain ⟨w, hw, rfl⟩ := Option.map_eq_some_iff.mp hr
    obtain ⟨hcell, k, hk, huart⟩ := memSet00_eq_some htemp h₁
    constructor
    · rw [← hcells hcell, ← hhead.commas h₂]
      exact (reads_restoreMeal.isSome m₂).mp (by rw [h₃]; rfl)
    · rw [reads_restoreMeal.uart m₂ m₃ h₃, hhead.uart m₁ m₂ h₂, ← huart] at hw
      exact ⟨k, hk, w, hw, hreply⟩
  · rintro ⟨hle, k, hk, w, hw, hreply⟩
    obtain ⟨-, m₁, h₁, huart⟩ := memSet00_eq_some htemp.symm hk
    obtain ⟨hcell, -⟩ := memSet00_eq_some htemp h₁
    obtain ⟨m₂, h₂⟩ := Option.isSome_iff_exists.mp
      ((hhead.isSome m₁).mpr (by rw [hcells hcell]; omega))
    obtain ⟨m₃, h₃⟩ := Option.isSome_iff_exists.mp
      ((reads_restoreMeal.isSome m₂).mpr (by rw [hhead.commas h₂, hcells hcell]; exact hle))
    rw [← huart, ← hhead.uart m₁ m₂ h₂, ← reads_restoreMeal.uart m₂ m₃ h₃] at hw
    exact ⟨_, m₁, h₁, m₂, h₂, m₃, h₃, _, Option.map_eq_some_iff.mpr ⟨w, hw, rfl⟩, hreply, rfl⟩

/-- When `TakeMealsFun1` returns 0. -/
lemma takeMealsFun1_zero_iff (n : Net) : (∃ n', n.takeMealsFun1 air = some (0, n')) ↔
    ((n.memSet00 air).isSome ∧ 15 ≤ n.commas) ∧ Taken air.polls := by
  rw [takeMealsFun1_iff]
  constructor
  · rintro ⟨hle, m, hm, hreply⟩
    exact ⟨⟨by rw [hm]; rfl, hle⟩, (wait_reply_iff m.uart air.polls).mp hreply⟩
  · rintro ⟨⟨hset, hle⟩, hfound⟩
    obtain ⟨m, hm⟩ := Option.isSome_iff_exists.mp hset
    exact ⟨hle, m, hm, (wait_reply_iff m.uart air.polls).mpr hfound⟩

lemma takeMealsReply_cases (i : UInt8) (s : Uart5) :
    takeMealsReply i s = 0 ∨ takeMealsReply i s = 1 := by
  rw [takeMealsReply]
  split_ifs <;> simp

lemma takeMealsFun_fst {buf : Glob} {flag : UInt8} {sel : CustomerSel} {now : StructTD}
    {r : UInt8 × Net} (h : n.takeMealsFun buf flag sel now air = some r) : r.1 = 0 ∨ r.1 = 1 := by
  obtain ⟨m, -, h⟩ := Option.bind_eq_some_iff.mp h
  obtain ⟨w, -, rfl⟩ := Option.map_eq_some_iff.mp h
  exact takeMealsReply_cases _ _

end Net

/-! ## Signing in -/

namespace Net

variable {n : Net} {air : Air}

lemma signInReply_ack (s : Uart5) (n : Net) : (n.signInReply s).cell .ack 3 = s.rx1Buf 0x49 := by
  rw [signInReply]
  dsimp only
  rw [copy_cell_of_ne _ _ _ (by decide), copy_cell_of_ne _ _ _ (by decide)]
  rfl

/-- When `SignInFun` returns 0. -/
lemma signInFun_zero_iff (now : StructTD) :
    (∃ n', n.signInFun now air = some (0, n')) ↔ ∃ m v, n.memSet00 air = some m ∧
      m.uart.cmdDataSend.Found 249 air.polls v ∧
      hlBufferToInit (v.rx1Buf 2) (v.rx1Buf 3) ≠ 0 ∧ v.rx1Buf 0x49 ≠ 0x24 := by
  rw [signInFun]
  cases hn : n.memSet00 air with
  | none => simp
  | some m =>
    simp only [Option.bind_some, mealComparefunDemo, Option.map_eq_some_iff, getBRWN_uart]
    constructor
    · rintro ⟨n', r, ⟨⟨i, w⟩, hw, rfl⟩, hreply⟩
      dsimp only at hreply
      split_ifs at hreply with hone hlen hack
      · cases hreply
      · cases hreply
      · cases hreply
      · obtain rfl : i = 0 := (Uart5.wait_fst hw).resolve_right hone
        obtain ⟨v, hv, rfl⟩ := Uart5.wait_eq_zero_iff.mp hw
        rw [signInReply_ack] at hack
        exact ⟨m, v, rfl, hv, hlen, hack⟩
    · rintro ⟨m', v, hm, hv, hlen, hcode⟩
      obtain rfl : m = m' := Option.some.inj hm
      have hack : ∀ m', (signInReply { v with rx1Right := false } m').cell .ack 3 ≠ 0x24 := by
        intro m'
        rw [signInReply_ack]
        exact hcode
      have hfound : ¬ (0 : UInt8) = 0x01 := by decide
      exact ⟨_, _, ⟨(0, _), Uart5.wait_eq_zero_iff.mpr ⟨v, hv, rfl⟩, rfl⟩,
        (if_neg hfound).trans ((if_neg hlen).trans (Prod.ext (if_neg (hack _)) rfl))⟩

end Net

end MealVendor
