import Mathlib.Data.List.Sublists
import MealVendor.Lib.Transition
import MealVendor.Model.Uart3

/-!
# The receive buffer of the screen is a queue, up to its limits

A queue is the list of the bytes that were received and not yet taken out.  The buffer
represents it as long as no byte comes while 200 are unread: the length byte is the length
of the queue, its contents are the cells from the read index on.

`UART3_ClrRxBuf` overwrites the cells and leaves the length and the two indices as they
are, so that an empty queue is the only one it empties.
-/

namespace MealVendor

namespace Uart3

/-- The buffer represents the queue `q`. -/
structure Queue (u : Uart3) (q : List UInt8) : Prop where
  room : q.length ≤ rx3bufSize
  read : u.rxIndexR < rx3bufSize
  write : u.rxIndexW = Lib.Ring.place rx3bufSize u.rxIndexR q.length
  len : u.getCharsInRxBuf = q.length
  cells : Lib.Ring.contents rx3bufSize u.rx3Buff u.rxIndexR q.length = q

variable {u : Uart3} {q : List UInt8} {b : UInt8}

lemma start_queue : start.Queue [] := ⟨by decide, by decide, by decide, rfl, rfl⟩

lemma Queue.len_ne_zero (h : u.Queue (b :: q)) : u.uartInpLen ≠ 0 := by
  intro h0
  have := h.len
  rw [getCharsInRxBuf, h0] at this
  cases this

lemma Queue.len_eq_zero (h : u.Queue []) : u.uartInpLen = 0 := UInt8.toNat_inj.mp h.len

/-- A byte that comes while fewer than 200 are unread goes to the end of the queue. -/
lemma Queue.irq (h : u.Queue q) (hq : q.length < rx3bufSize) : (u.irq b).Queue (q ++ [b]) := by
  refine ⟨?_, h.read, ?_, ?_, ?_⟩
  · rw [List.length_append]
    exact hq
  · rw [Uart3.irq, h.write, Lib.Ring.next_place h.read hq, List.length_append,
      List.length_singleton]
  · have hlen : u.uartInpLen.toNat = q.length := h.len
    rw [rx3bufSize] at hq
    rw [getCharsInRxBuf, Uart3.irq, UInt8.toNat_add, hlen, List.length_append,
      List.length_singleton, UInt8.toNat_one]
    omega
  · rw [List.length_append, List.length_singleton, Uart3.irq, h.write,
      Lib.Ring.contents_update _ _ hq, h.cells]

/-- The byte that is taken out is the first of the queue. -/
lemma Queue.getChar_cons (h : u.Queue (b :: q)) :
    ∃ v, u.getChar = (some b, v) ∧ v.Queue q := by
  have hroom : q.length + 1 ≤ rx3bufSize := h.room
  have hcells := h.cells
  rw [List.length_cons, Lib.Ring.contents_succ _ h.read hroom, List.cons.injEq] at hcells
  refine ⟨{ u with uartInpLen := u.uartInpLen - 1
                   rxIndexR := Lib.Ring.next rx3bufSize u.rxIndexR }, ?_, ?_⟩
  · rw [getChar_of_ne h.len_ne_zero, hcells.1]
  · refine ⟨by omega, Lib.Ring.next_lt h.read, ?_, ?_, hcells.2⟩
    · rw [h.write, Lib.Ring.place_next h.read hroom, List.length_cons]
    · have hpred := UInt8.toNat_pred (UInt8.pos_iff_ne_zero.mpr h.len_ne_zero)
      have hlen : u.uartInpLen.toNat = q.length + 1 := h.len
      rw [getCharsInRxBuf, hpred, hlen, Nat.add_sub_cancel]

lemma Queue.getChar_nil (h : u.Queue []) : u.getChar = (none, u) := getChar_of_eq h.len_eq_zero

/-- An empty queue stays empty when the cells are overwritten. -/
lemma Queue.clrRxBuf (h : u.Queue []) : u.clrRxBuf.Queue [] :=
  ⟨h.room, h.read, h.write, h.len, rfl⟩

/-- The calls of `USART3_GetChar` return the queue. -/
lemma Queue.drain {n : ℕ} (h : u.Queue q) : u.drain n = q.take n := by
  induction n generalizing u q with
  | zero => rfl
  | succ n ih =>
    cases q with
    | nil => rw [Uart3.drain, h.getChar_nil]; rfl
    | cons b q =>
      obtain ⟨v, hv, hvq⟩ := h.getChar_cons
      rw [Uart3.drain, hv, List.take_succ_cons, ← ih hvq]

/-- The readable bytes are the queue. -/
lemma Queue.readable (h : u.Queue q) : u.readable = q := by
  have := h.room
  rw [rx3bufSize] at this
  rw [Uart3.readable, h.drain, List.take_of_length_le (by omega)]

end Uart3

/-! ## Runs -/

/-- What is done with the buffer, one at a time. -/
inductive FifoEvent
  /-- `USART3_IRQHandler` with a byte. -/
  | irq (b : UInt8)
  /-- `USART3_GetChar`. -/
  | getChar
  /-- `UART3_ClrRxBuf`. -/
  | clrRxBuf

/-- The buffer, and what was received and returned since the last `UART3_ClrRxBuf`.
`overrun` is set when more than 200 bytes were unread in that time. -/
structure Fifo where
  uart : Uart3
  received : List UInt8
  returned : List UInt8
  overrun : Bool

namespace Fifo

/-- The buffer when the program starts. -/
def start : Fifo := ⟨.start, [], [], false⟩

/-- One event.  Only `uart` belongs to the program. -/
def step (s : Fifo) : FifoEvent → Option Fifo
  | .irq b =>
    some { s with
      uart := s.uart.irq b
      received := s.received ++ [b]
      overrun := s.overrun || decide (rx3bufSize + s.returned.length ≤ s.received.length) }
  | .getChar =>
    some { s with
      uart := s.uart.getChar.2
      returned := s.returned ++ s.uart.getChar.1.toList }
  | .clrRxBuf => some ⟨s.uart.clrRxBuf, [], [], false⟩

/-- The buffer is a bounded queue. -/
structure Bounded (s : Fifo) : Prop where
  /-- The bytes come out in order, each at most once. -/
  order : s.returned.Sublist s.received
  /-- Only an overrun loses bytes. -/
  kept : s.overrun = false → s.received = s.returned ++ s.uart.readable
  /-- The length is the number of the readable bytes. -/
  count : s.uart.getCharsInRxBuf = s.uart.readable.length
  /-- Nothing is readable after `UART3_ClrRxBuf` until a byte is received. -/
  cleared : s.received = [] → s.uart.readable = []

instance (s : Fifo) : Decidable s.Bounded :=
  decidable_of_iff (s.returned.Sublist s.received ∧
      (s.overrun = false → s.received = s.returned ++ s.uart.readable) ∧
      s.uart.getCharsInRxBuf = s.uart.readable.length ∧
      (s.received = [] → s.uart.readable = []))
    ⟨fun ⟨h₁, h₂, h₃, h₄⟩ => ⟨h₁, h₂, h₃, h₄⟩, fun h => ⟨h.order, h.kept, h.count, h.cleared⟩⟩

/-- A byte comes while fewer than 200 are unread, and only an empty buffer is cleared. -/
def Calm (s : Fifo) : FifoEvent → Prop
  | .irq _ => s.uart.getCharsInRxBuf < rx3bufSize
  | .getChar => True
  | .clrRxBuf => s.uart.getCharsInRxBuf = 0

instance (s : Fifo) : ∀ e, Decidable (s.Calm e)
  | .irq _ => inferInstanceAs (Decidable (_ < _))
  | .getChar => isTrue trivial
  | .clrRxBuf => inferInstanceAs (Decidable (_ = _))

/-- What was received and not returned is the queue. -/
def Holds (s : Fifo) : Prop :=
  ∃ q, s.uart.Queue q ∧ s.received = s.returned ++ q ∧ s.overrun = false

lemma start_holds : start.Holds := ⟨[], Uart3.start_queue, rfl, rfl⟩

lemma Holds.step {s t : Fifo} {e : FifoEvent} (h : s.Holds) (hc : s.Calm e)
    (hs : s.step e = some t) : t.Holds := by
  obtain ⟨q, hq, hr, ho⟩ := h
  cases e with
  | irq b =>
    cases hs
    have hlen : q.length < rx3bufSize := hq.len ▸ hc
    refine ⟨q ++ [b], hq.irq hlen, ?_, ?_⟩
    · show s.received ++ [b] = s.returned ++ (q ++ [b])
      rw [hr, List.append_assoc]
    · show (s.overrun || decide _) = false
      rw [ho, Bool.false_or, decide_eq_false_iff_not, hr, List.length_append]
      omega
  | getChar =>
    -- from an empty queue nothing is returned
    cases hs
    cases q with
    | nil =>
      refine ⟨[], ?_, ?_, ho⟩
      · show s.uart.getChar.2.Queue []
        rw [hq.getChar_nil]
        exact hq
      · show s.received = (s.returned ++ s.uart.getChar.1.toList) ++ []
        rw [hq.getChar_nil, hr]
        simp
    | cons b q =>
      obtain ⟨v, hv, hvq⟩ := hq.getChar_cons
      refine ⟨q, ?_, ?_, ho⟩
      · show s.uart.getChar.2.Queue q
        rw [hv]
        exact hvq
      · show s.received = (s.returned ++ s.uart.getChar.1.toList) ++ q
        rw [hv, hr]
        simp
  | clrRxBuf =>
    cases hs
    have hnil : q = [] := List.length_eq_zero_iff.mp (hq.len.symm.trans hc)
    subst hnil
    exact ⟨[], hq.clrRxBuf, rfl, rfl⟩

lemma Holds.bounded {s : Fifo} (h : s.Holds) : s.Bounded := by
  obtain ⟨q, hq, hr, ho⟩ := h
  have hread := hq.readable
  refine ⟨?_, ?_, ?_, ?_⟩
  · rw [hr]
    exact List.sublist_append_left _ _
  · intro _
    rw [hread, hr]
  · rw [hread, hq.len]
  · intro hnil
    rw [hr] at hnil
    rw [hread]
    exact (List.append_eq_nil_iff.mp hnil).2

/-- `UART3_ClrRxBuf` empties the queue exactly when there was nothing in it. -/
lemma Holds.bounded_clrRxBuf {s t : Fifo} (h : s.Holds) (hs : s.step .clrRxBuf = some t) :
    t.Bounded ↔ s.uart.getCharsInRxBuf = 0 := by
  constructor
  · intro ht
    cases hs
    have hread : s.uart.clrRxBuf.readable = [] := ht.cleared rfl
    have hlen := Uart3.length_readable s.uart.clrRxBuf
    rw [hread] at hlen
    exact hlen.symm
  · intro h0
    exact (h.step (e := .clrRxBuf) h0 hs).bounded

/-- In every run in which no byte comes while 200 are unread and only an empty buffer is
cleared, the buffer is a bounded queue; the next `UART3_ClrRxBuf` breaks it unless the
buffer is empty. -/
theorem bounded_of_calm {s : Fifo} (h : Lib.Reach step (· = start) Calm s) :
    s.Bounded ∧
      ∀ t, s.step .clrRxBuf = some t → (t.Bounded ↔ s.uart.getCharsInRxBuf = 0) := by
  have hs : s.Holds := by
    refine Lib.Reach.invariant ?_ ?_ h
    · rintro s rfl
      exact start_holds
    · intro s e t hs hc ht
      exact hs.step hc ht
  exact ⟨hs.bounded, fun t ht => hs.bounded_clrRxBuf ht⟩

/-- Two bytes are received and read, and the buffer is cleared after that. -/
theorem bounded_of_calm_clear :
    ∃ s, Lib.checkedRun step Calm start
        [.irq 0x5a, .irq 0xa5, .getChar, .getChar, .clrRxBuf] = some s ∧
      s.uart.rxIndexW = 2 ∧ s.Bounded := by
  have hrun : ((Lib.checkedRun step Calm start
      [.irq 0x5a, .irq 0xa5, .getChar, .getChar, .clrRxBuf]).any fun s =>
        s.uart.rxIndexW = 2) = true := by
    decide
  obtain ⟨s, hs, hw⟩ := Lib.exists_of_any hrun
  exact ⟨s, hs, hw, (bounded_of_calm ⟨_, _, rfl, .of_checkedRun hs⟩).1⟩

/-- A byte is received and the buffer cleared: the byte can still be read. -/
theorem not_bounded : ¬ ∀ s, Lib.Reach step (· = start) Lib.anyEvent s → s.Bounded :=
  Lib.not_forall_reach rfl [.irq 0x5a, .clrRxBuf] (by decide)

end Fifo

end MealVendor
