import MealVendor.Model.Serial
import MealVendor.Screen.Fifo

/-!
# The messages of the screen are delivered

A stream from the screen is a list of messages, of nine bytes each, and of garbage that
contains no head of a message.  `DealSeriAceptData` starts a round when nine bytes are
readable, before it knows how many of them are garbage: a message behind a garbage byte
`FH0` may still be on its way when the round has read its head.

One round reads a run of bytes `FH0` and what comes after it.  The lemmas follow this: a
run before a message, before garbage, or up to the end of what has arrived.
-/

namespace MealVendor

namespace Uart3.Queue

variable {u : Uart3} {q : List UInt8}

/-- Bytes that arrive go to the end of the queue, as long as there is room. -/
lemma arrive {bs : List UInt8} (h : u.Queue q) (hroom : q.length + bs.length ≤ rx3bufSize) :
    (Touch.arrive bs u).Queue (q ++ bs) := by
  induction bs generalizing u q with
  | nil =>
    rw [List.append_nil]
    exact h
  | cons b bs ih =>
    rw [List.length_cons] at hroom
    have hb : (u.irq b).Queue (q ++ [b]) := h.irq (by omega)
    have := ih hb (by rw [List.length_append, List.length_singleton]; omega)
    rwa [List.append_assoc, List.singleton_append] at this

end Uart3.Queue

/-! ## One round on the queue -/

/-- `loop` on a queue: the length byte, if it was found, and the rest of the queue. -/
def scan : List UInt8 → Option UInt8 × List UInt8
  | [] => (none, [])
  | t :: q => if t = fh1 then (q.head?, q.tail) else if t = fh0 then scan q else (none, q)

lemma fh0_ne_fh1 : fh0 ≠ fh1 := by decide

@[simp] lemma scan_nil : scan [] = (none, []) := rfl

@[simp] lemma scan_fh0 (q : List UInt8) : scan (fh0 :: q) = scan q := by
  rw [scan, if_neg fh0_ne_fh1, if_pos rfl]

@[simp] lemma scan_fh1 (q : List UInt8) : scan (fh1 :: q) = (q.head?, q.tail) := by
  rw [scan, if_pos rfl]

lemma scan_of_ne {t : UInt8} (h₀ : t ≠ fh0) (h₁ : t ≠ fh1) (q : List UInt8) :
    scan (t :: q) = (none, q) := by
  rw [scan, if_neg h₁, if_neg h₀]

lemma scan_replicate (r : ℕ) (q : List UInt8) : scan (List.replicate r fh0 ++ q) = scan q := by
  induction r with
  | zero => rfl
  | succ r ih => rw [List.replicate_succ, List.cons_append, scan_fh0, ih]

namespace Seri

variable {s : Seri} {q : List UInt8} {b : UInt8}

lemma loop_queue {n : ℕ} {u : Uart3} (h : u.Queue q) (hn : q.length < n) :
    ∃ v, loop n u = ((scan q).1, v) ∧ v.Queue (scan q).2 := by
  induction n generalizing u q with
  | zero => omega
  | succ n ih =>
    cases q with
    | nil => exact ⟨u, by rw [loop, h.getChar_nil, scan_nil], h⟩
    | cons t q =>
      obtain ⟨v, hv, hvq⟩ := h.getChar_cons
      simp only [loop, hv]
      by_cases h₁ : t = fh1
      · subst h₁
        rw [if_pos rfl, scan_fh1]
        cases q with
        | nil => exact ⟨v, hvq.getChar_nil, hvq⟩
        | cons l q => exact hvq.getChar_cons
      · rw [if_neg h₁]
        by_cases h₀ : t = fh0
        · subst h₀
          rw [if_pos rfl, scan_fh0]
          exact ih hvq (by rw [List.length_cons] at hn; omega)
        · rw [if_neg h₀, scan_of_ne h₀ h₁]
          exact ⟨v, rfl, hvq⟩

/-- A byte that is not `FH0` is taken out. -/
lemma head_of_ne (h : s.uart.Queue (b :: q)) (hb : b ≠ fh0) :
    ∃ v, s.head = { s with uart := v } ∧ v.Queue q := by
  obtain ⟨v, hv, hvq⟩ := h.getChar_cons
  refine ⟨v, ?_, hvq⟩
  simp only [head, hv, if_neg hb]

/-- After `FH0` the queue is scanned for the rest of the head. -/
lemma head_of_eq (h : s.uart.Queue (fh0 :: q)) :
    ∃ v, s.head = (match (scan q).1 with
        | some l => { s with uart := v, length := l, checkout := 1 }
        | none => { s with uart := v }) ∧ v.Queue (scan q).2 := by
  obtain ⟨u, hu, huq⟩ := h.getChar_cons
  obtain ⟨v, hv, hvq⟩ := loop_queue (n := u.getCharsInRxBuf + 1) huq
    (Nat.lt_succ_of_le huq.len.ge)
  refine ⟨v, ?_, hvq⟩
  simp only [head, hu, if_pos, hv]
  cases (scan q).1 <;> rfl

/-- A round without a head, unless the marker was set before. -/
lemma round_of_head {v : Uart3} (h : s.head = { s with uart := v }) (hc : s.checkout ≠ 1) :
    s.round = { s with uart := v } := by
  simp only [round, h, if_neg hc]

/-- Bytes in the cells from `i` on. -/
def write : ℕ → List UInt8 → (ℕ → UInt8) → ℕ → UInt8
  | _, [], buf => buf
  | i, b :: bs, buf => write (i + 1) bs (Function.update buf i b)

/-- Up to `n` bytes are read into `Rx3DataBuff`, as many as are there. -/
lemma fill_queue {n i : ℕ} (h : s.uart.Queue q) :
    ∃ v, v.Queue (q.drop n) ∧ fill n i s =
      { s with uart := v, rx3DataBuff := write i (q.take n) s.rx3DataBuff
               stores := s.stores ++ (List.range' i (q.take n).length).map .rx3DataBuff } := by
  induction n generalizing s q i with
  | zero => exact ⟨s.uart, h, by simp [fill, write]⟩
  | succ n ih =>
    cases q with
    | nil =>
      obtain ⟨v, hv, hfill⟩ := ih (i := i + 1) h
      refine ⟨v, by simpa using hv, ?_⟩
      simp only [fill, h.getChar_nil, hfill, List.take_nil, write, List.length_nil,
        List.range'_zero]
    | cons b q =>
      obtain ⟨u, hu, huq⟩ := h.getChar_cons
      obtain ⟨v, hv, hfill⟩ := ih (s := { s with
        uart := u, rx3DataBuff := Function.update s.rx3DataBuff i b
        stores := s.stores ++ [.rx3DataBuff i] }) (i := i + 1) huq
      refine ⟨v, hv, ?_⟩
      simp only [fill, hu, hfill, List.take_succ_cons, write, List.length_cons, List.range'_succ,
        List.map_cons, List.append_assoc, List.singleton_append]

end Seri

/-! ## Streams -/

/-- The nine bytes of a message that sets a variable. -/
def Frame.bytes (f : Frame) : List UInt8 :=
  [fh0, fh1, 0x06, 0x83, (f.adress >>> 8).toUInt8, f.adress.toUInt8, 0x01, f.data0, f.data1]

/-- The pieces of a stream: messages and single bytes of garbage. -/
inductive Token
  | frame (f : Frame)
  | garbage (b : UInt8)

def Token.bytes : Token → List UInt8
  | .frame f => f.bytes
  | .garbage b => [b]

/-- The bytes of a stream. -/
def stream (ts : List Token) : List UInt8 := ts.flatMap Token.bytes

def Token.frame? : Token → Option Frame
  | .frame f => some f
  | .garbage _ => none

/-- The messages of a stream. -/
def frames (ts : List Token) : List Frame := ts.filterMap Token.frame?

/-- The calls of `ChangeVariableValues` for messages of one word. -/
def callsOf (fs : List Frame) : List (Frame × UInt8) := fs.map fun f => (f, 1)

/-- No head of a message is in the garbage. -/
def NoPair (ts : List Token) : Prop :=
  ∀ a b, ts ≠ a ++ .garbage fh0 :: .garbage fh1 :: b

/-- A run of garbage bytes `FH0`. -/
def run (r : ℕ) : List Token := List.replicate r (.garbage fh0)

/-- Of the stream `m` bytes have arrived.  Where they end within a message, the run of `FH0`
before it and the part of it that has arrived are less than nine bytes. -/
def Uncut (ts : List Token) (m : ℕ) : Prop :=
  ∀ a r f b, ts = a ++ run r ++ .frame f :: b →
    (stream (a ++ run r)).length < m → m < (stream (a ++ run r)).length + 9 →
      r + m < (stream (a ++ run r)).length + 9

section Tokens

variable {ts rest : List Token} {m : ℕ}

@[simp] lemma stream_nil : stream [] = [] := rfl

@[simp] lemma stream_cons (t : Token) (ts : List Token) :
    stream (t :: ts) = t.bytes ++ stream ts := List.flatMap_cons

@[simp] lemma stream_append (ts us : List Token) : stream (ts ++ us) = stream ts ++ stream us :=
  List.flatMap_append

@[simp] lemma stream_run (r : ℕ) : stream (run r) = List.replicate r fh0 := by
  induction r with
  | zero => rfl
  | succ r ih => exact congrArg (fh0 :: ·) ih

@[simp] lemma frames_append (ts us : List Token) : frames (ts ++ us) = frames ts ++ frames us :=
  List.filterMap_append

@[simp] lemma frames_run (r : ℕ) : frames (run r) = [] := by
  induction r with
  | zero => rfl
  | succ r ih => exact ih

lemma NoPair.of_append (h : NoPair (ts ++ rest)) : NoPair rest := by
  intro a b hab
  exact h (ts ++ a) b (by rw [hab, List.append_assoc])

lemma Uncut.of_append (h : Uncut (ts ++ rest) ((stream ts).length + m)) : Uncut rest m := by
  intro a r f b hab hlt hgt
  have := h (ts ++ a) r f b (by rw [hab]; simp only [List.append_assoc])
  simp only [List.append_assoc, stream_append, List.length_append] at this hlt hgt ⊢
  omega

/-- A stream begins with a run of `FH0`, and ends there or goes on with another garbage byte or
with a message. -/
lemma exists_run (ts : List Token) :
    ∃ r, ts = run r ∨ (∃ g us, g ≠ fh0 ∧ ts = run r ++ .garbage g :: us) ∨
      ∃ f us, ts = run r ++ .frame f :: us := by
  induction ts with
  | nil => exact ⟨0, .inl rfl⟩
  | cons t ts ih =>
    cases t with
    | frame f => exact ⟨0, .inr (.inr ⟨f, ts, rfl⟩)⟩
    | garbage g =>
      by_cases hg : g = fh0
      · subst hg
        obtain ⟨r, rfl | ⟨g, us, hg, rfl⟩ | ⟨f, us, rfl⟩⟩ := ih
        · exact ⟨r + 1, .inl rfl⟩
        · exact ⟨r + 1, .inr (.inl ⟨g, us, hg, rfl⟩)⟩
        · exact ⟨r + 1, .inr (.inr ⟨f, us, rfl⟩)⟩
      · exact ⟨0, .inr (.inl ⟨g, ts, hg, rfl⟩)⟩

/-- The head of a message is found only at a message. -/
lemma exists_frame_of_pair {q : List UInt8} (hpair : NoPair ts)
    (h : stream ts = fh0 :: fh1 :: q) : ∃ f us, ts = .frame f :: us := by
  cases ts with
  | nil => cases h
  | cons t ts =>
    cases t with
    | frame f => exact ⟨f, ts, rfl⟩
    | garbage g =>
      rw [stream_cons, Token.bytes, List.singleton_append, List.cons.injEq] at h
      obtain ⟨rfl, h⟩ := h
      cases ts with
      | nil => cases h
      | cons t ts =>
        cases t with
        | frame f => exact absurd (List.cons.inj h).1 fh0_ne_fh1
        | garbage g =>
          rw [stream_cons, Token.bytes, List.singleton_append, List.cons.injEq] at h
          obtain ⟨rfl, h⟩ := h
          exact absurd rfl (hpair [] ts)

end Tokens

/-! ## One round on a stream -/

/-- The two bytes of an address. -/
lemma adress_bytes (a : UInt16) :
    UInt16.ofNat (256 * (a >>> 8).toUInt8.toNat + a.toUInt8.toNat) = a := by
  have hlt := a.toNat_lt
  have hhigh : (a >>> 8).toUInt8.toNat = a.toNat / 256 := by
    rw [UInt16.toNat_toUInt8, UInt16.toNat_shiftRight, Nat.shiftRight_eq_div_pow]
    show a.toNat / 256 % 256 = _
    omega
  rw [hhigh, UInt16.toNat_toUInt8]
  refine UInt16.toNat_inj.mp ?_
  rw [UInt16.toNat_ofNat']
  omega

/-- The stores of a message of one word. -/
def frameStores : List Store :=
  (List.range 6).map .rx3DataBuff ++ (List.range 2).map .variableData

/-- What a round has done with the part `mid` of a stream: the calls for its messages, and
stores inside of the arrays. -/
structure Seri.Passed (s t : Seri) (mid : List Token) : Prop where
  checkout : t.checkout ≠ 1
  calls : t.calls = s.calls ++ callsOf (frames mid)
  stores : ∃ os, t.stores = s.stores ++ os ∧ ∀ o ∈ os, o.Inside

namespace Seri

variable {s : Seri} {q : List UInt8} {r : ℕ} {buf : ℕ → UInt8}

/-- A message of one word in `Rx3DataBuff` is dealt with. -/
lemma dispatch_frame {f : Frame} (hc : s.checkout ≠ 1) (hl : s.length = 0x06)
    (hb : s.rx3DataBuff = write 0 (f.bytes.drop 3) buf) :
    s.dispatch.uart = s.uart ∧ s.dispatch.checkout ≠ 1 ∧
      s.dispatch.calls = s.calls ++ [(f, 1)] ∧
      s.dispatch.stores = s.stores ++ (List.range 2).map .variableData := by
  have h₀ : s.rx3DataBuff 0 = 0x83 := by rw [hb]; rfl
  have h₁ : s.rx3DataBuff 1 = (f.adress >>> 8).toUInt8 := by rw [hb]; rfl
  have h₂ : s.rx3DataBuff 2 = f.adress.toUInt8 := by rw [hb]; rfl
  have h₃ : s.rx3DataBuff 3 = 1 := by rw [hb]; rfl
  have h₄ : s.rx3DataBuff 4 = f.data0 := by rw [hb]; rfl
  have h₅ : s.rx3DataBuff 5 = f.data1 := by rw [hb]; rfl
  have hn : s.length.toNat - 4 = 2 := by rw [hl]; rfl
  have hdispatch : s.dispatch = { s with
      variableData := fun i => if i < 2 then s.rx3DataBuff (4 + i) else s.variableData i
      stores := s.stores ++ (List.range 2).map .variableData
      calls := s.calls ++ [(f, 1)] } := by
    rw [dispatch, h₀, if_neg (by decide), if_pos rfl]
    simp only [hn, h₁, h₂, h₃, adress_bytes, Nat.lt_add_one, Nat.zero_lt_two, if_true]
    rw [show s.rx3DataBuff (4 + 0) = f.data0 from h₄, show s.rx3DataBuff (4 + 1) = f.data1 from h₅]
  rw [hdispatch]
  exact ⟨rfl, hc, rfl, rfl⟩

/-- A message behind a run of `FH0` of which all bytes have arrived. -/
lemma round_frame {f : Frame} (h : s.uart.Queue (List.replicate r fh0 ++ (f.bytes ++ q))) :
    s.round.uart.Queue q ∧ s.Passed s.round (run r ++ [.frame f]) := by
  have hhead : List.replicate r fh0 ++ (f.bytes ++ q) =
      fh0 :: (List.replicate r fh0 ++ fh1 :: 0x06 :: (f.bytes.drop 3 ++ q)) := by
    rw [← List.cons_append, ← List.replicate_succ, List.replicate_succ', List.append_assoc]
    rfl
  rw [hhead] at h
  obtain ⟨v, hv, hvq⟩ := head_of_eq h
  rw [scan_replicate, scan_fh1] at hv hvq
  -- the command, the address, the number of words and the word
  have hround : s.round =
      (fill 6 0 { s with uart := v, length := 0x06, checkout := 0 }).dispatch := by
    simp only [round, hv]
    rfl
  obtain ⟨w, hw, hfill⟩ : ∃ w, w.Queue q ∧
      fill 6 0 { s with uart := v, length := 0x06, checkout := 0 } =
        { s with uart := w, length := 0x06, checkout := 0
                 rx3DataBuff := write 0 (f.bytes.drop 3) s.rx3DataBuff
                 stores := s.stores ++ (List.range' 0 6).map .rx3DataBuff } :=
    fill_queue (s := { s with uart := v, length := 0x06, checkout := 0 }) (n := 6)
      (q := f.bytes.drop 3 ++ q) hvq
  rw [hround, hfill]
  obtain ⟨hu, hc, hcalls, hstores⟩ := dispatch_frame (s := { s with
      uart := w, length := 0x06, checkout := 0
      rx3DataBuff := write 0 (f.bytes.drop 3) s.rx3DataBuff
      stores := s.stores ++ (List.range' 0 6).map .rx3DataBuff })
    (show (0 : UInt8) ≠ 1 by decide) rfl rfl
  refine ⟨hu ▸ hw, hc, ?_, frameStores, ?_, by decide⟩
  · rw [hcalls, frames_append, frames_run]
    rfl
  · rw [hstores, List.append_assoc]
    rfl

/-- A round that only takes bytes out. -/
lemma Passed.skip {v : Uart3} {mid : List Token} (hround : s.round = { s with uart := v })
    (hc : s.checkout ≠ 1) (hmid : frames mid = []) : s.Passed s.round mid := by
  rw [hround]
  refine ⟨hc, ?_, [], (List.append_nil _).symm, List.forall_mem_nil _⟩
  rw [hmid]
  exact (List.append_nil _).symm

/-- A run of `FH0` up to the end of what has arrived. -/
lemma round_run (h : s.uart.Queue (List.replicate (r + 1) fh0)) (hc : s.checkout ≠ 1) :
    s.round.uart.Queue [] ∧ s.Passed s.round (run (r + 1)) := by
  rw [List.replicate_succ] at h
  have hscan : scan (List.replicate r fh0) = (none, []) := by
    rw [← List.append_nil (List.replicate r fh0), scan_replicate, scan_nil]
  obtain ⟨v, hv, hvq⟩ := head_of_eq h
  rw [hscan] at hv hvq
  have hround := round_of_head hv hc
  refine ⟨?_, .skip hround hc (frames_run _)⟩
  rw [hround]
  exact hvq

/-- A run of `FH0` before another byte of garbage. -/
lemma round_garbage {g : UInt8} (h : s.uart.Queue (List.replicate r fh0 ++ g :: q))
    (hg : g ≠ fh0) (hpair : r ≠ 0 → g ≠ fh1) (hc : s.checkout ≠ 1) :
    s.round.uart.Queue q ∧ s.Passed s.round (run r ++ [.garbage g]) := by
  have hmid : frames (run r ++ [.garbage g]) = [] := by
    rw [frames_append, frames_run]
    rfl
  cases r with
  | zero =>
    obtain ⟨v, hv, hvq⟩ := head_of_ne h hg
    have hround := round_of_head hv hc
    refine ⟨?_, .skip hround hc hmid⟩
    rw [hround]
    exact hvq
  | succ r =>
    rw [List.replicate_succ, List.cons_append] at h
    obtain ⟨v, hv, hvq⟩ := head_of_eq h
    rw [scan_replicate, scan_of_ne hg (hpair r.succ_ne_zero)] at hv hvq
    have hround := round_of_head hv hc
    refine ⟨?_, .skip hround hc hmid⟩
    rw [hround]
    exact hvq

/-- The marker is not set when the stream does not begin with a message. -/
lemma checkout_ne_one {ts : List Token} {z : List UInt8} (hz : q ++ z = stream ts)
    (hc : s.checkout = 1 → [fh0, fh1] <+: q) (hpair : NoPair ts)
    (hts : ∀ f us, ts ≠ .frame f :: us) : s.checkout ≠ 1 := by
  intro h1
  obtain ⟨q', hq'⟩ := hc h1
  rw [← hq'] at hz
  obtain ⟨f, us, rfl⟩ := exists_frame_of_pair hpair hz.symm
  exact hts f us rfl

/-- A round takes pieces of the stream `ts` out of the queue `q`, behind which `z` is still to
arrive. -/
def Advances (s : Seri) (q z : List UInt8) (ts : List Token) : Prop :=
  ∃ mid rest q', ts = mid ++ rest ∧ s.round.uart.Queue q' ∧ q' ++ z = stream rest ∧
    q'.length < q.length ∧ s.Passed s.round mid

/-- A run of `FH0` up to the end of what has arrived is taken out. -/
lemma advances_run {us : List Token} (h : s.uart.Queue (List.replicate (r + 1) fh0))
    (hc : s.checkout ≠ 1) :
    s.Advances (List.replicate (r + 1) fh0) (stream us) (run (r + 1) ++ us) := by
  obtain ⟨hu, hp⟩ := round_run h hc
  exact ⟨run (r + 1), us, [], rfl, hu, rfl, by simp, hp⟩

/-- A run of `FH0` and the byte of garbage behind it are taken out. -/
lemma advances_garbage {g : UInt8} {w z : List UInt8} {us : List Token}
    (h : s.uart.Queue (List.replicate r fh0 ++ g :: w)) (hz : w ++ z = stream us)
    (hg : g ≠ fh0) (hpair : NoPair (run r ++ .garbage g :: us)) (hc : s.checkout ≠ 1) :
    s.Advances (List.replicate r fh0 ++ g :: w) z (run r ++ .garbage g :: us) := by
  have hg1 : r ≠ 0 → g ≠ fh1 := by
    rintro hr rfl
    obtain ⟨m, rfl⟩ := Nat.exists_eq_succ_of_ne_zero hr
    refine hpair (run m) us ?_
    rw [run, run, List.replicate_succ', List.append_assoc]
    rfl
  obtain ⟨hu, hp⟩ := round_garbage h hg hg1 hc
  refine ⟨run r ++ [.garbage g], us, w, ?_, hu, hz, ?_, hp⟩
  · rw [List.append_assoc]
    rfl
  · rw [List.length_append, List.length_cons]
    omega

/-- A message that has arrived completely is taken out with the run of `FH0` before it. -/
lemma advances_frame {f : Frame} {w z : List UInt8} {us : List Token}
    (h : s.uart.Queue (List.replicate r fh0 ++ (f.bytes ++ w))) (hz : w ++ z = stream us) :
    s.Advances (List.replicate r fh0 ++ (f.bytes ++ w)) z (run r ++ .frame f :: us) := by
  obtain ⟨hu, hp⟩ := round_frame h
  refine ⟨run r ++ [.frame f], us, w, ?_, hu, hz, ?_, hp⟩
  · rw [List.append_assoc]
    rfl
  · rw [List.length_append, List.length_append, show f.bytes.length = 9 from rfl]
    omega

/-- Nine bytes of a message are all of it. -/
lemma exists_of_frame_bytes {f : Frame} {w z us : List UInt8} (h : f.bytes ++ us = w ++ z)
    (h9 : 9 ≤ w.length) : ∃ w', w = f.bytes ++ w' ∧ w' ++ z = us := by
  rcases List.append_eq_append_iff.mp h with ⟨w', rfl, hus⟩ | ⟨w', hw', hz⟩
  · exact ⟨w', rfl, hus.symm⟩
  · have hlen : f.bytes.length = 9 := rfl
    rw [hw', List.length_append] at hlen
    have hnil : w' = [] := List.length_eq_zero_iff.mp (by omega)
    subst hnil
    rw [List.append_nil] at hw'
    exact ⟨[], by rw [hw', List.append_nil], hz⟩

/-- A round on a stream of which the queue has arrived takes out some pieces of the stream. -/
lemma round_stream {ts : List Token} {z : List UInt8} (h : s.uart.Queue q)
    (hz : q ++ z = stream ts) (h9 : 9 ≤ q.length) (hc : s.checkout = 1 → [fh0, fh1] <+: q)
    (hpair : NoPair ts) (hcut : Uncut ts q.length) : s.Advances q z ts := by
  obtain ⟨r, us, rfl, hus⟩ : ∃ r us, ts = run r ++ us ∧
      (us = [] ∨ (∃ g vs, g ≠ fh0 ∧ us = .garbage g :: vs) ∨ ∃ f vs, us = .frame f :: vs) := by
    obtain ⟨r, hr | ⟨g, vs, hg, hr⟩ | ⟨f, vs, hr⟩⟩ := exists_run ts
    · exact ⟨r, [], by rw [hr, List.append_nil], .inl rfl⟩
    · exact ⟨r, _, hr, .inr (.inl ⟨g, vs, hg, rfl⟩)⟩
    · exact ⟨r, _, hr, .inr (.inr ⟨f, vs, rfl⟩)⟩
  have hrun : ∀ n vs, run r ++ us = run n ++ vs → q = List.replicate n fh0 → z = stream vs →
      s.Advances q z (run r ++ us) := by
    intro n vs hn hqn hzn
    obtain ⟨m, rfl⟩ : ∃ m, n = m + 1 := by
      rw [hqn, List.length_replicate] at h9
      exact ⟨n - 1, by omega⟩
    have hc1 : s.checkout ≠ 1 := by
      refine checkout_ne_one hz hc hpair ?_
      intro f us' hf
      rw [hn] at hf
      cases hf
    rw [hn, hqn, hzn]
    exact advances_run (hqn ▸ h) hc1
  have hz' := hz
  rw [stream_append, stream_run] at hz'
  rcases List.append_eq_append_iff.mp hz' with ⟨w, hw, hwz⟩ | ⟨w, rfl, hwz⟩
  · -- the run has not arrived completely
    obtain ⟨hr, hqr, hwr⟩ := List.replicate_eq_append_iff.mp hw
    refine hrun q.length (run w.length ++ us) ?_ hqr ?_
    · rw [← List.append_assoc, run, run, run, ← List.replicate_add, hr]
    · rw [hwz, stream_append, stream_run, ← hwr]
  · -- something behind the run has arrived
    rcases hus with rfl | ⟨g, vs, hg, rfl⟩ | ⟨f, vs, rfl⟩
    · have hnil : w = [] ∧ z = [] := List.append_eq_nil_iff.mp hwz.symm
      exact hrun r [] rfl (by rw [hnil.1, List.append_nil]) hnil.2
    · cases w with
      | nil => exact hrun r _ rfl (List.append_nil _) hwz.symm
      | cons g' w =>
        rw [stream_cons, Token.bytes, List.singleton_append, List.cons_append, List.cons.injEq]
          at hwz
        obtain ⟨rfl, hwz⟩ := hwz
        have hc1 : s.checkout ≠ 1 := by
          refine checkout_ne_one hz hc hpair ?_
          intro f us hf
          cases r <;> cases hf
        exact advances_garbage h hwz.symm hg hpair hc1
    · by_cases h9w : 9 ≤ w.length
      · -- the message has arrived completely
        obtain ⟨w', rfl, hz''⟩ := exists_of_frame_bytes hwz h9w
        exact advances_frame h hz''
      · -- it is cut: the run before it is short
        rw [List.length_append, List.length_replicate] at h9 hcut
        by_cases hw0 : w = []
        · subst hw0
          exact hrun r _ rfl (List.append_nil _) hwz.symm
        · have hpos : 0 < w.length := List.length_pos_of_ne_nil hw0
          have hL : (stream ([] ++ run r)).length = r := by
            rw [List.nil_append, stream_run, List.length_replicate]
          have := hcut [] r f vs rfl (by omega) (by omega)
          omega

/-- The loop of `DealSeriAceptData` on a stream of which the queue has arrived. -/
lemma rounds_stream {n : ℕ} {ts : List Token} {z : List UInt8} (h : s.uart.Queue q)
    (hz : q ++ z = stream ts) (hn : q.length ≤ n)
    (hc : 9 ≤ q.length → s.checkout = 1 → [fh0, fh1] <+: q)
    (hpair : NoPair ts) (hcut : Uncut ts q.length) :
    ∃ mid rest q', ts = mid ++ rest ∧ (rounds n s).uart.Queue q' ∧ q' ++ z = stream rest ∧
      q'.length < 9 ∧ (rounds n s).calls = s.calls ++ callsOf (frames mid) ∧
      ∃ os, (rounds n s).stores = s.stores ++ os ∧ ∀ o ∈ os, o.Inside := by
  -- on the number of rounds, which the length of the queue bounds
  induction n generalizing s q ts with
  | zero =>
    have hnil : q = [] := List.length_eq_zero_iff.mp (by omega)
    subst hnil
    exact ⟨[], ts, [], rfl, h, hz, by decide, (List.append_nil _).symm, [],
      (List.append_nil _).symm, List.forall_mem_nil _⟩
  | succ n ih =>
    rw [rounds]
    by_cases h9 : 9 ≤ q.length
    · rw [if_pos (h.len ▸ h9)]
      obtain ⟨mid, rest, q', rfl, hu, hz', hlt, hp⟩ := round_stream h hz h9 (hc h9) hpair hcut
      have hlen : (stream mid).length + q'.length = q.length := by
        have h₁ := congrArg List.length hz
        have h₂ := congrArg List.length hz'
        simp only [stream_append, List.length_append] at h₁ h₂
        omega
      rw [← hlen] at hcut
      obtain ⟨mid', rest', q'', rfl, hu', hz'', h9', hcalls, os, hos, hin⟩ :=
        ih hu hz' (by omega) (fun _ h1 => absurd h1 hp.checkout) hpair.of_append hcut.of_append
      obtain ⟨os', hos', hin'⟩ := hp.stores
      refine ⟨mid ++ mid', rest', q'', (List.append_assoc _ _ _).symm, hu', hz'', h9', ?_,
        os' ++ os, ?_, ?_⟩
      · rw [hcalls, hp.calls, frames_append, callsOf, callsOf, callsOf, List.map_append,
          List.append_assoc]
      · rw [hos, hos', List.append_assoc]
      · exact List.forall_mem_append.mpr ⟨hin', hin⟩
    · rw [if_neg (h.len ▸ h9)]
      exact ⟨[], ts, q, rfl, h, hz, by omega, (List.append_nil _).symm, [],
        (List.append_nil _).symm, List.forall_mem_nil _⟩

end Seri

/-! ## Calls of `DealSeriAceptData` one after the other -/

/-- A stream of less than nine bytes contains no message. -/
lemma frames_of_short {ts : List Token} (h : (stream ts).length < 9) : frames ts = [] := by
  induction ts with
  | nil => rfl
  | cons t ts ih =>
    rw [stream_cons, List.length_append] at h
    cases t with
    | frame f =>
      rw [show (Token.frame f).bytes.length = 9 from rfl] at h
      omega
    | garbage b => exact ih (by omega)

namespace Touch

/-- The bytes of some visits. -/
def bytesOf (vs : List Visit) : List UInt8 := vs.flatMap Visit.bytes

@[simp] lemma bytesOf_nil : bytesOf [] = [] := rfl

@[simp] lemma bytesOf_cons (v : Visit) (vs : List Visit) :
    bytesOf (v :: vs) = v.bytes ++ bytesOf vs := List.flatMap_cons

/-- The bytes that arrive fit into the receive buffer, and the marker that is not initialised
is not 1, unless the call begins with the head of a message or has no round at all. -/
def Room (s : Touch) (v : Visit) : Prop :=
  s.uart.getCharsInRxBuf + v.bytes.length ≤ rx3bufSize ∧
    (9 ≤ (s.uart.readable ++ v.bytes).length → v.checkout = 1 →
      [fh0, fh1] <+: s.uart.readable ++ v.bytes)

instance (s : Touch) (v : Visit) : Decidable (s.Room v) := inferInstanceAs (Decidable (_ ∧ _))

/-- Every call comes when no message behind garbage `FH0` is cut. -/
def NeverCut (ts : List Token) (vs : List Visit) : Prop :=
  ∀ i ≤ vs.length, Uncut ts (bytesOf (vs.take i)).length

/-- A run of visits on a stream, of which `q` has arrived and was not read yet. -/
lemma run_stream {s t : Touch} {vs : List Visit} (hr : Lib.Runs visit Room s vs t)
    {ts : List Token} {q : List UInt8} (h : s.uart.Queue q) (h9 : q.length < 9)
    (hz : q ++ bytesOf vs = stream ts) (hpair : NoPair ts)
    (hcut : ∀ i ≤ vs.length, Uncut ts (q.length + (bytesOf (vs.take i)).length)) :
    t.calls = s.calls ++ callsOf (frames ts) ∧
      ∃ os, t.stores = s.stores ++ os ∧ ∀ o ∈ os, o.Inside := by
  induction hr generalizing ts q with
  | nil s =>
    -- everything has arrived, and what was not read is too short for a message
    have hshort : (stream ts).length < 9 := by
      rw [← hz, List.length_append]
      exact h9
    rw [frames_of_short hshort]
    exact ⟨(List.append_nil _).symm, [], (List.append_nil _).symm, List.forall_mem_nil _⟩
  | @cons s s' t v vs hroom hs hr ih =>
    cases hs
    obtain ⟨hfit, hclean⟩ := hroom
    rw [h.readable] at hclean
    rw [h.len] at hfit
    have hq := h.arrive hfit
    have hall : (q ++ v.bytes) ++ bytesOf vs = stream ts := by
      rw [← hz, List.append_assoc, bytesOf_cons]
    have hcut₁ : Uncut ts (q ++ v.bytes).length := by
      have := hcut 1 (by rw [List.length_cons]; omega)
      simpa using this
    obtain ⟨mid, rest, q', rfl, hu, hz', hlt, hcalls, os, hos, hin⟩ :=
      Seri.rounds_stream (s := ⟨arrive v.bytes s.uart, v.length, v.checkout, _, _, [], []⟩)
        hq hall hq.len.ge hclean hpair hcut₁
    have hlen : (stream mid).length + q'.length = (q ++ v.bytes).length := by
      have h₁ := congrArg List.length hall
      have h₂ := congrArg List.length hz'
      simp only [stream_append, List.length_append] at h₁ h₂ ⊢
      omega
    have hcut' : ∀ i ≤ vs.length, Uncut rest (q'.length + (bytesOf (vs.take i)).length) := by
      intro i hi
      have := hcut (i + 1) (Nat.succ_le_succ hi)
      have hsum : (stream mid).length + (q'.length + (bytesOf (vs.take i)).length) =
          q.length + (bytesOf ((v :: vs).take (i + 1))).length := by
        rw [← Nat.add_assoc, hlen, List.take_succ_cons, bytesOf_cons, List.length_append,
          List.length_append, Nat.add_assoc]
      rw [← hsum] at this
      exact Uncut.of_append this
    obtain ⟨hc, os', hos', hin'⟩ := ih hu hlt hz' hpair.of_append hcut'
    refine ⟨?_, os ++ os', ?_, ?_⟩
    · rw [hc, frames_append, callsOf, callsOf, List.map_append, ← List.append_assoc]
      exact congrArg (s.calls ++ · ++ _) hcalls
    · rw [hos', ← List.append_assoc]
      exact congrArg (s.stores ++ · ++ _) hos
    · exact List.forall_mem_append.mpr ⟨hin, hin'⟩

end Touch

end MealVendor
