import MealVendor.Screen.Frames

/-!
# What the bytes of the screen can overwrite

The length byte of a message decides how much is stored into the arrays of
`DealSeriAceptData`; it is not checked.  The command byte decides which of the two small
arrays is written to.  When a message is cut, the command is the one of the message before.
-/

namespace MealVendor

/-- Behind a head the length `l` is found in the bytes. -/
def LengthIn (bs : List UInt8) (l : UInt8) : Prop := ∃ x y, bs = x ++ fh0 :: fh1 :: l :: y

/-- Behind a head and a length the command `c` is found in the bytes. -/
def CommandIn (bs : List UInt8) (c : UInt8) : Prop :=
  ∃ x l y, bs = x ++ fh0 :: fh1 :: l :: c :: y

/-- The lengths of the messages fit into the arrays: into `Rx3DataBuff`, with a variable
message into `VariableData`, and with a register message into `RegisterData`. -/
def Tame (bs : List UInt8) : Prop :=
  ∀ l, LengthIn bs l →
    l.toNat ≤ 10 ∧ (CommandIn bs 0x83 → l.toNat ≤ 9) ∧ (CommandIn bs 0x81 → l.toNat ≤ 7)

/-- The head that `loop` finds behind a byte `FH0`. -/
lemma scan_eq_some {q q' : List UInt8} {l : UInt8} (h : scan q = (some l, q')) :
    ∃ x, fh0 :: q = x ++ fh0 :: fh1 :: l :: q' := by
  induction q with
  | nil => cases h
  | cons t q ih =>
    by_cases h₁ : t = fh1
    · subst h₁
      rw [scan_fh1] at h
      cases q with
      | nil => cases h
      | cons l' q =>
        cases h
        exact ⟨[], rfl⟩
    · by_cases h₀ : t = fh0
      · subst h₀
        rw [scan_fh0] at h
        obtain ⟨x, hx⟩ := ih h
        exact ⟨fh0 :: x, by rw [hx]; rfl⟩
      · rw [scan_of_ne h₀ h₁] at h
        cases h

/-- `loop` takes bytes from the front. -/
lemma scan_suffix (q : List UInt8) : ∃ x, q = x ++ (scan q).2 := by
  induction q with
  | nil => exact ⟨[], rfl⟩
  | cons t q ih =>
    by_cases h₁ : t = fh1
    · subst h₁
      rw [scan_fh1]
      cases q with
      | nil => exact ⟨[fh1], rfl⟩
      | cons l q => exact ⟨[fh1, l], rfl⟩
    · by_cases h₀ : t = fh0
      · subst h₀
        rw [scan_fh0]
        obtain ⟨x, hx⟩ := ih
        exact ⟨fh0 :: x, congrArg (fh0 :: ·) hx⟩
      · rw [scan_of_ne h₀ h₁]
        exact ⟨[t], rfl⟩

/-- Cells below `i` are not written to. -/
lemma Seri.write_of_lt {bs : List UInt8} {i j : ℕ} {buf : ℕ → UInt8} (h : j < i) :
    write i bs buf j = buf j := by
  induction bs generalizing i buf with
  | nil => rfl
  | cons b bs ih => rw [write, ih (Nat.lt_succ_of_lt h), Function.update_of_ne h.ne]

/-- What a round has done in bytes `bs`: stores inside of the arrays, and the first cell of
`Rx3DataBuff` holds a command of the bytes or was never written to. -/
structure Seri.Kept (s t : Seri) (bs : List UInt8) : Prop where
  checkout : t.checkout ≠ 1
  command : t.rx3DataBuff 0 = 0 ∨ CommandIn bs (t.rx3DataBuff 0)
  stores : ∃ os, t.stores = s.stores ++ os ∧ ∀ o ∈ os, o.Inside

namespace Seri

variable {s : Seri} {q z bs : List UInt8}

lemma dispatch_uart : s.dispatch.uart = s.uart := by
  rw [dispatch]
  split_ifs <;> rfl

lemma dispatch_checkout : s.dispatch.checkout = s.checkout := by
  rw [dispatch]
  split_ifs <;> rfl

lemma dispatch_rx3DataBuff : s.dispatch.rx3DataBuff = s.rx3DataBuff := by
  rw [dispatch]
  split_ifs <;> rfl

/-- The stores of `dispatch` are inside when the length fits the command. -/
lemma dispatch_stores (h81 : s.rx3DataBuff 0 = 0x81 → s.length.toNat ≤ 7)
    (h83 : s.rx3DataBuff 0 = 0x83 → s.length.toNat ≤ 9) :
    ∃ os, s.dispatch.stores = s.stores ++ os ∧ ∀ o ∈ os, o.Inside := by
  rw [dispatch]
  split_ifs with h₁ h₂
  · refine ⟨_, rfl, List.forall_mem_map.mpr fun i hi => ?_⟩
    have := h81 h₁
    have hi' := List.mem_range.mp hi
    show i < 5
    omega
  · refine ⟨_, rfl, List.forall_mem_map.mpr fun i hi => ?_⟩
    have := h83 h₂
    have hi' := List.mem_range.mp hi
    show i < 5
    omega
  · exact ⟨[], (List.append_nil _).symm, List.forall_mem_nil _⟩

/-- A message is read and dealt with. -/
lemma message_kept {l : UInt8} {x : List UInt8} {v : Uart3} (hq : v.Queue q)
    (hbs : bs = x ++ fh0 :: fh1 :: l :: (q ++ z)) (ht : Tame bs)
    (hc : s.rx3DataBuff 0 = 0 ∨ CommandIn bs (s.rx3DataBuff 0)) :
    ∃ t, (fill l.toNat 0 { s with uart := v, length := l, checkout := 0 }).dispatch = t ∧
      t.uart.Queue (q.drop l.toNat) ∧ s.Kept t bs := by
  obtain ⟨w, hw, hfill⟩ := fill_queue (s := { s with uart := v, length := l, checkout := 0 })
    (n := l.toNat) (i := 0) hq
  obtain ⟨h10, h83, h81⟩ := ht l ⟨x, q ++ z, hbs⟩
  refine ⟨_, rfl, ?_, ?_⟩
  · rw [hfill, dispatch_uart]
    exact hw
  · -- the command that is left in the first cell
    have hcmd : write 0 (q.take l.toNat) s.rx3DataBuff 0 = 0 ∨
        CommandIn bs (write 0 (q.take l.toNat) s.rx3DataBuff 0) := by
      cases hn : l.toNat with
      | zero => exact hc
      | succ n =>
        cases q with
        | nil => exact hc
        | cons c q =>
          rw [List.take_succ_cons, write, write_of_lt Nat.zero_lt_one, Function.update_self]
          exact .inr ⟨x, l, q ++ z, hbs⟩
    have hmem : ∀ c, c ≠ 0 → write 0 (q.take l.toNat) s.rx3DataBuff 0 = c → CommandIn bs c := by
      rintro c h0 rfl
      exact hcmd.resolve_left h0
    rw [hfill]
    obtain ⟨os, hos, hin⟩ := dispatch_stores (s := { s with
        uart := w, length := l, checkout := 0
        rx3DataBuff := write 0 (q.take l.toNat) s.rx3DataBuff
        stores := s.stores ++
          (List.range' 0 (q.take l.toNat).length).map .rx3DataBuff })
      (fun h => h81 (hmem _ (by decide) h)) (fun h => h83 (hmem _ (by decide) h))
    refine ⟨?_, ?_, _, hos.trans (List.append_assoc _ _ _), ?_⟩
    · rw [dispatch_checkout]
      show (0 : UInt8) ≠ 1
      decide
    · rw [dispatch_rx3DataBuff]
      exact hcmd
    · intro o ho
      rcases List.mem_append.mp ho with ho | ho
      · obtain ⟨i, hi, rfl⟩ := List.mem_map.mp ho
        rw [List.mem_range'_1, List.length_take] at hi
        show i < 10
        omega
      · exact hin o ho

/-- A round that only takes bytes out. -/
lemma Kept.skip {v : Uart3} (hround : s.round = { s with uart := v }) (hc : s.checkout ≠ 1)
    (hr : s.rx3DataBuff 0 = 0 ∨ CommandIn bs (s.rx3DataBuff 0)) : s.Kept s.round bs := by
  rw [hround]
  exact ⟨hc, hr, [], (List.append_nil _).symm, List.forall_mem_nil _⟩

/-- A round on any bytes. -/
lemma round_kept {x : List UInt8} (h : s.uart.Queue q) (h9 : 9 ≤ q.length)
    (hbs : bs = x ++ (q ++ z)) (ht : Tame bs) (hc : s.checkout = 1 → [fh0, fh1] <+: q)
    (hr : s.rx3DataBuff 0 = 0 ∨ CommandIn bs (s.rx3DataBuff 0)) :
    ∃ y q', s.round.uart.Queue q' ∧ q = y ++ q' ∧ q'.length < q.length ∧
      s.Kept s.round bs := by
  cases q with
  | nil => cases h9
  | cons b q =>
    by_cases hb : b = fh0
    · subst hb
      -- behind `FH0` the rest of the head is looked for; `y` is what this takes out
      obtain ⟨v, hv, hvq⟩ := head_of_eq h
      obtain ⟨y, hy⟩ := scan_suffix q
      have hlen := congrArg List.length hy
      rw [List.length_append] at hlen
      cases hl : (scan q).1 with
      | none =>
        -- no head: the marker that is not initialised must not be 1
        have hc1 : s.checkout ≠ 1 := by
          intro h1
          obtain ⟨w, hw⟩ := hc h1
          obtain rfl : fh1 :: w = q := (List.cons.inj hw).2
          rw [scan_fh1] at hl
          cases w with
          | nil => simp at h9
          | cons l w => cases hl
        rw [hl] at hv
        have hround := round_of_head hv hc1
        refine ⟨fh0 :: y, (scan q).2, ?_, congrArg (fh0 :: ·) hy, ?_, .skip hround hc1 hr⟩
        · rw [hround]
          exact hvq
        · rw [List.length_cons]
          omega
      | some l =>
        rw [hl] at hv
        obtain ⟨w, hw⟩ := scan_eq_some (Prod.ext hl rfl : scan q = (some l, (scan q).2))
        obtain ⟨t, ht', htq, hkept⟩ := message_kept (s := s) (z := z) (l := l) (x := x ++ w)
          hvq
          (by rw [hbs, hw]; simp only [List.append_assoc, List.cons_append]) ht hr
        have hround : s.round = t := by
          rw [← ht']
          simp only [round, hv]
          rfl
        rw [hround]
        refine ⟨fh0 :: y ++ (scan q).2.take l.toNat, _, htq, ?_, ?_, hkept⟩
        · rw [List.append_assoc, List.take_append_drop]
          exact congrArg (fh0 :: ·) hy
        · rw [List.length_drop, List.length_cons]
          omega
    · -- another byte is taken out alone
      have hc1 : s.checkout ≠ 1 := by
        intro h1
        obtain ⟨w, hw⟩ := hc h1
        exact hb (List.cons.inj hw).1.symm
      obtain ⟨v, hv, hvq⟩ := head_of_ne h hb
      have hround := round_of_head hv hc1
      refine ⟨[b], q, ?_, rfl, Nat.lt_succ_self _, .skip hround hc1 hr⟩
      rw [hround]
      exact hvq

/-- The loop of `DealSeriAceptData` on any bytes. -/
lemma rounds_kept {n : ℕ} {x : List UInt8} (h : s.uart.Queue q) (hn : q.length ≤ n)
    (hbs : bs = x ++ (q ++ z)) (ht : Tame bs)
    (hc : 9 ≤ q.length → s.checkout = 1 → [fh0, fh1] <+: q)
    (hr : s.rx3DataBuff 0 = 0 ∨ CommandIn bs (s.rx3DataBuff 0)) :
    ∃ y q', (rounds n s).uart.Queue q' ∧ q = y ++ q' ∧
      ∃ os, (rounds n s).stores = s.stores ++ os ∧ ∀ o ∈ os, o.Inside := by
  induction n generalizing s q x with
  | zero => exact ⟨[], q, h, rfl, [], (List.append_nil _).symm, List.forall_mem_nil _⟩
  | succ n ih =>
    rw [rounds]
    by_cases h9 : 9 ≤ q.length
    · rw [if_pos (h.len ▸ h9)]
      obtain ⟨y, q', hu, rfl, hlt, hk⟩ := round_kept h h9 hbs ht (hc h9) hr
      obtain ⟨y', q'', hu', rfl, os, hos, hin⟩ := ih (x := x ++ y) hu (by omega)
        (by rw [hbs, List.append_assoc, List.append_assoc]) (fun _ h1 => absurd h1 hk.checkout)
        hk.command
      obtain ⟨os', hos', hin'⟩ := hk.stores
      refine ⟨y ++ y', q'', hu', (List.append_assoc _ _ _).symm, os' ++ os, ?_, ?_⟩
      · rw [hos, hos', List.append_assoc]
      · exact List.forall_mem_append.mpr ⟨hin', hin⟩
    · rw [if_neg (h.len ▸ h9)]
      exact ⟨[], q, h, rfl, [], (List.append_nil _).symm, List.forall_mem_nil _⟩

end Seri

/-! ## Any bytes, and streams of messages -/

namespace Touch

/-- In a run of visits on bytes that fit the arrays every store is inside. -/
lemma run_kept {s t : Touch} {vs : List Visit} (hr : Lib.Runs visit Room s vs t)
    {x q bs : List UInt8} (h : s.uart.Queue q) (hbs : bs = x ++ (q ++ bytesOf vs)) (ht : Tame bs) :
    ∃ os, t.stores = s.stores ++ os ∧ ∀ o ∈ os, o.Inside := by
  induction hr generalizing x q with
  | nil s => exact ⟨[], (List.append_nil _).symm, List.forall_mem_nil _⟩
  | @cons s s' t v vs hroom hs hr ih =>
    cases hs
    obtain ⟨hfit, hclean⟩ := hroom
    rw [h.readable] at hclean
    rw [h.len] at hfit
    have hq := h.arrive hfit
    have hall : bs = x ++ ((q ++ v.bytes) ++ bytesOf vs) := by
      rw [hbs, bytesOf_cons, List.append_assoc]
    obtain ⟨y, q', hu, hy, os, hos, hin⟩ :=
      Seri.rounds_kept (s := ⟨arrive v.bytes s.uart, v.length, v.checkout, fun _ => 0, fun _ => 0,
        [], []⟩) hq hq.len.ge hall ht hclean (.inl rfl)
    obtain ⟨os', hos', hin'⟩ := ih (x := x ++ y) hu (by rw [hall, hy]; simp)
    refine ⟨os ++ os', ?_, ?_⟩
    · rw [hos', ← List.append_assoc]
      exact congrArg (s.stores ++ · ++ _) hos
    · exact List.forall_mem_append.mpr ⟨hin, hin'⟩

/-- In every run of calls of `DealSeriAceptData` with room for the bytes, a stream of messages
and garbage makes exactly the calls of its messages, unless a call comes while a message
behind garbage `FH0` is cut; and no store is outside of the arrays on a stream of this kind, or
on any bytes whose lengths fit the arrays. -/
theorem frames_delivered {vs : List Visit} {s : Touch} (hr : Lib.Runs visit Room start vs s) :
    (∀ ts, NoPair ts → bytesOf vs = stream ts → NeverCut ts vs →
      s.calls = callsOf (frames ts) ∧ ∀ o ∈ s.stores, o.Inside) ∧
    (Tame (bytesOf vs) → ∀ o ∈ s.stores, o.Inside) := by
  constructor
  · intro ts hpair hts hcut
    obtain ⟨hcalls, os, hos, hin⟩ := run_stream hr Uart3.start_queue (by decide) hts hpair
      (fun i hi => by rw [List.length_nil, Nat.zero_add]; exact hcut i hi)
    refine ⟨hcalls, ?_⟩
    rw [hos]
    exact hin
  · intro ht
    obtain ⟨os, hos, hin⟩ := run_kept hr (x := []) Uart3.start_queue rfl ht
    rw [hos]
    exact hin

/-! ### Examples -/

/-- Without garbage `FH0` there is no head in the garbage, and no call comes at a wrong time. -/
lemma noPair_of_clean {ts : List Token} (h : .garbage fh0 ∉ ts) : NoPair ts := by
  rintro a b rfl
  exact h (List.mem_append_right _ List.mem_cons_self)

lemma neverCut_of_clean {ts : List Token} (h : .garbage fh0 ∉ ts) (vs : List Visit) :
    NeverCut ts vs := by
  rintro i - a r f b hts - hlt
  cases r with
  | zero => rwa [Nat.zero_add]
  | succ r =>
    refine absurd ?_ h
    rw [hts]
    exact List.mem_append_left _ (List.mem_append_right _ List.mem_cons_self)

/-- The first key of `meal_choose`, and then the third of `mealcnt_choose`. -/
def chooseFrame : Frame := ⟨0x00, 0, 1⟩

def cartFrame : Frame := ⟨0x01, 0, 3⟩

/-- The two messages in three pieces, with a byte of garbage between them. -/
def twoKeys : List Visit :=
  [⟨chooseFrame.bytes.take 4, 0, 0⟩,
    ⟨chooseFrame.bytes.drop 4 ++ 0x11 :: cartFrame.bytes.take 8, 0, 0⟩,
    ⟨cartFrame.bytes.drop 8, 0, 0⟩]

/-- Both messages are delivered. -/
theorem frames_delivered_twoKeys :
    ∃ s, Lib.checkedRun visit Room start twoKeys = some s ∧
      s.calls = callsOf [chooseFrame, cartFrame] := by
  have hrun : ((Lib.checkedRun visit Room start twoKeys).any fun s =>
      s.uart.rxIndexR = 19) = true := by
    decide +kernel
  obtain ⟨s, hs, -⟩ := Lib.exists_of_any hrun
  have hclean : Token.garbage fh0 ∉ [.frame chooseFrame, .garbage 0x11, .frame cartFrame] := by
    simp [fh0]
  exact ⟨s, hs, ((frames_delivered (.of_checkedRun hs)).1
    [.frame chooseFrame, .garbage 0x11, .frame cartFrame] (noPair_of_clean hclean) rfl
    (neverCut_of_clean hclean _)).1⟩

/-- A byte of garbage `FH0` comes before the key that clears an error, and the last byte of the
message only after the call. -/
def cutKey : List Visit :=
  [⟨fh0 :: (Frame.bytes ⟨0x54, 0, 1⟩).take 8, 0, 0⟩, ⟨[0x01], 0, 0⟩]

/-- `ChangeVariableValues` is called without the last byte of the message. -/
theorem frames_cut :
    ¬ ∀ vs s, Lib.Runs visit Lib.anyEvent start vs s →
      (∀ ts, NoPair ts → bytesOf vs = stream ts → s.calls = callsOf (frames ts)) ∧
        ∀ o ∈ s.stores, o.Inside := by
  intro h
  have hrun : ((Lib.runFrom visit start cutKey).any fun s =>
      s.calls.map (fun c => c.1.data1) = [0]) = true := by
    decide +kernel
  obtain ⟨s, hs, hcalls⟩ := Lib.exists_of_any hrun
  have hpair : NoPair [.garbage fh0, .frame ⟨0x54, 0, 1⟩] := by
    rintro (_ | ⟨t, _ | ⟨u, a⟩⟩) b hab
    · cases hab
    · cases hab
    · simp at hab
  rw [(h _ _ (.of_runFrom hs)).1 _ hpair rfl] at hcalls
  cases hcalls

end Touch

end MealVendor
