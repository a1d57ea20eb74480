import MealVendor.Lib.Transition
import MealVendor.Model.Pay
import MealVendor.Model.Uart4

/-!
# The bills that are stacked

The buffer holds one line.  A stacked bill is credited when `WaitPayMoney` reads the line before
another one comes, the buffer is cleared or the session ends; what is pending is told by the
buffer and the status of the line before.
-/

namespace MealVendor

/-! ## A line of the bill acceptor -/

/-- A line of up to thirteen numbers, which fits into `RX4Buffer`. -/
structure BillLine where
  head : UInt8
  tail : List UInt8
  short : tail.length ≤ 12

/-- Numbers with a blank between two of them and a carriage return at the end. -/
def hexText (b : UInt8) : List UInt8 → List UInt8
  | [] => hexByte b ++ [0x0D]
  | c :: bs => hexByte b ++ 0x20 :: hexText c bs

namespace BillLine

/-- The numbers of a line. -/
def bytes (l : BillLine) : List UInt8 := l.head :: l.tail

/-- The characters before the line feed. -/
def text (l : BillLine) : List UInt8 := hexText l.head l.tail

/-- The value of a line: that of the bill, if the line says that a bill was stacked. -/
def value (l : BillLine) : ℕ :=
  match l.tail with
  | data1 :: _ =>
    if l.head = 0x30 ∧ data1 &&& 0xF0 = 0x80 then (BillRead.ofData data1).value else 0
  | [] => 0

end BillLine

/-- A line is read back. -/
lemma hexGroup_hexText (out : ℕ → UInt8) (k : ℕ) (b : UInt8) (bs str : List UInt8) :
    hexGroup out k (hexText b bs ++ str) = (overwrite out k (b :: bs), true) := by
  induction bs generalizing out k b with
  | nil =>
    show hexGroup out k (hexDigit _ :: hexDigit _ :: 0x0D :: str) = _
    rw [hexGroup, hexValue_high, hexValue_low]
    simp only [high_or_low, if_true]
    rw [← overwrite_cons, overwrite_nil]
    rfl
  | cons c bs ih =>
    show hexGroup out k (hexDigit _ :: hexDigit _ :: 0x20 :: (hexText c bs ++ str)) = _
    rw [hexGroup, hexValue_high, hexValue_low]
    simp only [high_or_low, if_true]
    rw [ih, overwrite_cons]

/-- No character of a line is the line feed. -/
lemma lf_notMem_hexText (b : UInt8) (bs : List UInt8) : 0x0A ∉ hexText b bs := by
  have hbyte : ∀ b : UInt8, 0x0A ∉ hexByte b := forall_byte (by decide +kernel)
  induction bs generalizing b with
  | nil =>
    rw [hexText, List.mem_append]
    rintro (h | h)
    · exact hbyte b h
    · exact absurd h (by decide)
  | cons c bs ih =>
    rw [hexText, List.mem_append, List.mem_cons]
    rintro (h | h | h)
    · exact hbyte b h
    · exact absurd h (by decide)
    · exact ih c h

namespace Uart4

/-- Characters before the line feed are collected. -/
lemma foldl_irq_of_notMem (u : Uart4) (str : List UInt8) (h : 0x0A ∉ str) :
    str.foldl irq u = { u with rx4Buffer := u.rx4Buffer ++ str } := by
  induction str generalizing u with
  | nil => rw [List.append_nil]; rfl
  | cons b str ih =>
    have hb : b ≠ 0x0A := fun hb => h (hb ▸ List.mem_cons_self)
    have hstr : 0x0A ∉ str := fun hmem => h (List.mem_cons_of_mem b hmem)
    rw [List.foldl_cons, ih _ hstr, irq, if_neg hb]
    simp

/-- `UART4_IRQHandler` with all characters of a line. -/
def receive (l : BillLine) (u : Uart4) : Uart4 := (l.text ++ [0x0A]).foldl irq u

/-- A line that comes when the one before it is complete is converted. -/
lemma receive_eq (l : BillLine) (u : Uart4) (h : u.rx4Buffer = []) :
    u.receive l = ⟨[], overwrite u.billDataBuffer 0 l.bytes⟩ := by
  rw [receive, List.foldl_append, foldl_irq_of_notMem u l.text (lf_notMem_hexText _ _), h]
  show irq _ 0x0A = _
  rw [irq, if_pos rfl]
  simp only [List.nil_append, stringToHexGroup, List.getLast?_concat, if_true]
  rw [BillLine.text, hexGroup_hexText]
  rfl

end Uart4

/-! ## What is pending -/

/-- The status of a stacked bill. -/
lemma stacked_iff (data1 : UInt8) :
    data1 &&& 0xF0 = 0x80 ↔ data1 &&& 0x80 ≠ 0 ∧ data1 &&& 0x70 = 0x00 := by
  revert data1
  refine forall_byte ?_
  decide +kernel

/-- A status is that of a stacked bill, or unknown behind one. -/
lemma next_eq_billStacked {data1 : UInt8} {status : BillStatus}
    (h : status.next data1 = .billStacked) : data1 &&& 0x70 = 0x00 ∨
      (data1 &&& 0x70 ≠ 0x10 ∧ data1 &&& 0x70 ≠ 0x20 ∧ data1 &&& 0x70 ≠ 0x40 ∧
        status = .billStacked) := by
  rw [BillStatus.next] at h
  split_ifs at h with h0 h1 h2 h4
  · exact .inl h0
  · exact .inr ⟨h1, h2, h4, h⟩

namespace Bills

variable {s : Bills} {l : BillLine}

/-- A line arrives. -/
def receive (l : BillLine) (s : Bills) : Bills := { s with uart := s.uart.receive l }

/-- The value of the stacked bill that the first two bytes of the buffer are about. -/
def pending (s : Bills) : ℕ :=
  if s.uart.billDataBuffer 0 = 0x30 ∧ s.uart.billDataBuffer 1 &&& 0x80 ≠ 0 ∧
    s.billStatus.next (s.uart.billDataBuffer 1) = .billStacked
  then (BillRead.ofData (s.uart.billDataBuffer 1)).value else 0

/-- A line says what it says whatever came before it: its status is one of the four that
`ReadBill` knows, or the last status was not that of a stacked bill, or no value is in it.  A
line of one number leaves the second byte of the line before it. -/
def Readable (s : Bills) (l : BillLine) : Prop :=
  l.head = 0x30 →
    match l.tail with
    | data1 :: _ => data1 &&& 0x80 ≠ 0 →
        (data1 &&& 0x70 = 0x00 ∨ data1 &&& 0x70 = 0x10 ∨ data1 &&& 0x70 = 0x20 ∨
          data1 &&& 0x70 = 0x40) ∨
        s.billStatus ≠ .billStacked ∨ (BillRead.ofData data1).value = 0
    | [] => s.uart.billDataBuffer 1 &&& 0x80 ≠ 0 →
        s.billStatus.next (s.uart.billDataBuffer 1) ≠ .billStacked ∨
          (BillRead.ofData (s.uart.billDataBuffer 1)).value = 0

instance decidableReadable (s : Bills) : ∀ l, Decidable (s.Readable l)
  | ⟨_, _ :: _, _⟩ => inferInstanceAs (Decidable (_ = _ → _ → (_ ∨ _) ∨ _))
  | ⟨_, [], _⟩ => inferInstanceAs (Decidable (_ = _ → _ → _ ∨ _))

/-- `ReadBill` finds what is pending. -/
lemma readBill_value : s.readBill.1.value = s.pending := by
  rw [pending, readBill]
  dsimp only
  by_cases hmoney : s.uart.billDataBuffer 0 = 0x30 ∧ s.uart.billDataBuffer 1 &&& 0x80 ≠ 0
  · rw [if_pos hmoney]
    cases hstatus : s.billStatus.next (s.uart.billDataBuffer 1) with
    | billStacked => simp [hmoney]
    | _ => simp [BillRead.value]
  · rw [if_neg hmoney, if_neg fun h => hmoney ⟨h.1, h.2.1⟩]
    rfl

/-- Nothing is pending in a buffer that was overwritten. -/
lemma pending_memset {b : UInt8} (hb : b ≠ 0x30) : (s.memset b).pending = 0 := by
  have hcell : (s.memset b).uart.billDataBuffer 0 = b := rfl
  rw [pending, hcell, if_neg fun h => hb h.1]

/-- A line that is readable is pending with its value. -/
lemma pending_receive (hs : s.uart.rx4Buffer = []) (hl : s.Readable l) :
    (s.receive l).pending = l.value := by
  have hbuf : (s.receive l).uart.billDataBuffer = overwrite s.uart.billDataBuffer 0 l.bytes := by
    rw [receive]
    simp only [Uart4.receive_eq l s.uart hs]
  have h0 : (s.receive l).uart.billDataBuffer 0 = l.head := by
    rw [hbuf]
    rfl
  have hstatus : (s.receive l).billStatus = s.billStatus := rfl
  rw [pending, h0, hstatus, hbuf, BillLine.value, BillLine.bytes]
  rw [Readable] at hl
  cases htail : l.tail with
  | nil =>
    rw [htail] at hl
    show (if l.head = 0x30 ∧ s.uart.billDataBuffer 1 &&& 0x80 ≠ 0 ∧
      s.billStatus.next (s.uart.billDataBuffer 1) = .billStacked
      then (BillRead.ofData (s.uart.billDataBuffer 1)).value else 0) = 0
    split_ifs with h
    · exact (hl h.1 h.2.1).resolve_left (not_not_intro h.2.2)
    · rfl
  | cons data1 ds =>
    rw [htail] at hl
    show (if l.head = 0x30 ∧ data1 &&& 0x80 ≠ 0 ∧ s.billStatus.next data1 = .billStacked
      then (BillRead.ofData data1).value else 0) = _
    by_cases hstacked : l.head = 0x30 ∧ data1 &&& 0xF0 = 0x80
    · obtain ⟨h80, h70⟩ := (stacked_iff data1).mp hstacked.2
      have hnext : s.billStatus.next data1 = .billStacked := if_pos h70
      rw [if_pos ⟨hstacked.1, h80, hnext⟩]
      exact (if_pos hstacked).symm
    · refine Eq.trans ?_ (if_neg hstacked).symm
      split_ifs with h
      · -- the status is unknown, and the last one was that of a stacked bill
        rcases next_eq_billStacked h.2.2 with h70 | ⟨h10, h20, h40, hlast⟩
        · exact absurd ⟨h.1, (stacked_iff data1).mpr ⟨h.2.1, h70⟩⟩ hstacked
        · rcases hl h.1 h.2.1 with hknown | hlast' | hvalue
          · rcases hknown with h' | h' | h' | h'
            · exact absurd ⟨h.1, (stacked_iff data1).mpr ⟨h.2.1, h'⟩⟩ hstacked
            · exact absurd h' h10
            · exact absurd h' h20
            · exact absurd h' h40
          · exact absurd hlast hlast'
          · exact hvalue
      · rfl

end Bills

/-! ## Runs -/

/-- What happens, in any order. -/
inductive BillEvent
  /-- A complete line is received. -/
  | line (l : BillLine)
  /-- `WaitPayMoney` at point 3: `ReadBill` has returned to `ReadBills`.  If the bill was
  rejected, `AbnormalHandle` has been left. -/
  | readBill
  /-- `ReadBills` clears the buffer and returns, and `WaitPayMoney` adds the value. -/
  | readBills
  /-- `OpenCashSystem` and `CloseCashSystem` overwrite the buffer. -/
  | cash
  /-- `CurrentPoint` is set, by `WaitPayMoney` or from the screen. -/
  | point (p : CurrentPoint)
  /-- `Current` is set, by `main` or from the screen. -/
  | current (c : Current)

/-- The program: the buffer, the selection and, within `ReadBills`, what `ReadBill` has returned.
Beside it whether the line in the buffer came while the session waits for money, the selection at
the start, the sum of the stacked bills that came while a session waited, and the sum of what was
added. -/
structure BillBook where
  bills : Bills
  session : Session
  reading : Option BillRead
  fresh : Bool
  before : UserSelection
  received : ℕ
  added : ℕ

namespace BillBook

/-- The session waits for money. -/
def Waits (b : BillBook) : Prop := b.session.current = .waitforMoney

instance decidableWaits (b : BillBook) : Decidable b.Waits := instDecidableEqCurrent _ _

/-- Before the first session. -/
structure Init (b : BillBook) : Prop where
  bills : b.bills = .start
  idle : ¬ b.Waits
  reading : b.reading = none
  fresh : b.fresh = false
  before : b.before = b.session.userAct
  received : b.received = 0
  added : b.added = 0

/-- One event. -/
def step (b : BillBook) : BillEvent → Option BillBook
  | .line l =>
    some { b with
      bills := b.bills.receive l
      fresh := b.fresh || b.Waits
      received := if b.Waits then b.received + l.value else b.received }
  | .readBill =>
    if b.Waits ∧ b.session.currentPoint = .p3 ∧ b.reading = none then
      some { b with bills := b.bills.readBill.2, reading := some b.bills.readBill.1 }
    else none
  | .readBills =>
    b.reading.map fun r =>
      { b with
        bills := b.bills.memset 0
        session := b.session.readBills r.value
        reading := none
        added := b.added + r.value }
  | .cash => some { b with bills := b.bills.memset 0xFE }
  | .point p => some { b with session := { b.session with currentPoint := p } }
  | .current c =>
    some { b with
      session := { b.session with current := c }
      fresh := b.fresh && c = .waitforMoney }

/-- Every stacked bill has been credited once when the session does not wait any more, and
`PayForBills` and `PayAlready` have grown by what was added. -/
structure Credited (b : BillBook) : Prop where
  total : ¬ b.Waits → b.added = b.received
  payForBills : b.session.userAct.payForBills = b.before.payForBills + UInt16.ofNat b.added
  payAlready : b.session.userAct.payAlready = b.before.payAlready + UInt16.ofNat b.added

/-- What is still to be added: what `ReadBill` has found, or would find in a line that came
while the session waits. -/
def pending (b : BillBook) : ℕ :=
  match b.reading with
  | some r => r.value
  | none => if b.fresh then b.bills.pending else 0

/-- A line comes when no bill of the session is pending and is readable, and no stacked bill
comes within `ReadBills`; `ReadBill` finds no bill that came before the session; the buffer is
overwritten and the session ends when no bill of the session is pending. -/
def Calm (b : BillBook) : BillEvent → Prop
  | .line l => b.Waits →
      match b.reading with
      | some _ => l.value = 0
      | none => b.pending = 0 ∧ b.bills.Readable l
  | .readBill => b.fresh = true ∨ b.bills.pending = 0
  | .readBills | .point _ => True
  | .cash => b.reading = none → b.pending = 0
  | .current c => b.Waits → c ≠ .waitforMoney → b.pending = 0

instance decidableCalm : ∀ b e, Decidable (Calm b e)
  | ⟨_, _, some _, _, _, _, _⟩, .line _ => inferInstanceAs (Decidable (_ → _ = _))
  | ⟨_, _, none, _, _, _, _⟩, .line _ => inferInstanceAs (Decidable (_ → _ ∧ Bills.Readable _ _))
  | _, .readBill => inferInstanceAs (Decidable (_ ∨ _))
  | _, .readBills | _, .point _ => isTrue trivial
  | _, .cash => inferInstanceAs (Decidable (_ → _))
  | _, .current _ => inferInstanceAs (Decidable (_ → _ → _))

/-- Between two events: what was received is added or pending, and nothing is left to be added
outside of a session. -/
structure Holds (b : BillBook) : Prop where
  lineEnd : b.bills.uart.rx4Buffer = []
  waits : b.Waits → b.added + b.pending = b.received
  idle : ¬ b.Waits → b.added = b.received ∧ b.fresh = false ∧
    ∀ r, b.reading = some r → r.value = 0
  payForBills : b.session.userAct.payForBills = b.before.payForBills + UInt16.ofNat b.added
  payAlready : b.session.userAct.payAlready = b.before.payAlready + UInt16.ofNat b.added

variable {b c : BillBook} {e : BillEvent} {r : BillRead}

lemma pending_of_some (h : b.reading = some r) : b.pending = r.value := by
  rw [pending, h]

lemma pending_of_none (h : b.reading = none) :
    b.pending = if b.fresh then b.bills.pending else 0 := by
  rw [pending, h]

lemma Holds.credited (h : b.Holds) : b.Credited :=
  ⟨fun hw => (h.idle hw).1, h.payForBills, h.payAlready⟩

lemma Init.holds (h : b.Init) : b.Holds := by
  refine ⟨by rw [h.bills]; rfl, fun hw => absurd hw h.idle,
    fun _ => ⟨?_, h.fresh, fun r hr => ?_⟩, ?_, ?_⟩
  · rw [h.added, h.received]
  · rw [h.reading] at hr
    cases hr
  · rw [h.before, h.added]
    exact (UInt16.add_zero _).symm
  · rw [h.before, h.added]
    exact (UInt16.add_zero _).symm

/-- A line. -/
lemma Holds.line {l : BillLine} (h : b.Holds) (hc : b.Calm (.line l))
    (hs : b.step (.line l) = some c) : c.Holds := by
  cases hs
  have hend : (b.bills.receive l).uart.rx4Buffer = [] := by
    rw [Bills.receive]
    simp only [Uart4.receive_eq l b.bills.uart h.lineEnd]
  refine ⟨hend, fun hw => ?_, fun hw => ?_, h.payForBills, h.payAlready⟩
  · have hw' : b.Waits := hw
    have hsum := h.waits hw'
    have hcalm := hc hw'
    simp only [if_pos hw']
    cases hr : b.reading with
    | some r =>
      rw [hr] at hcalm
      rw [pending_of_some hr] at hsum
      rw [pending_of_some rfl]
      simp only at hcalm ⊢
      omega
    | none =>
      rw [hr] at hcalm
      rw [hcalm.1] at hsum
      rw [pending_of_none rfl]
      simp only [decide_eq_true hw', Bool.or_true, if_true]
      rw [Bills.pending_receive h.lineEnd hcalm.2]
      omega
  · have hw' : ¬ b.Waits := hw
    simp only [if_neg hw', decide_eq_false hw', Bool.or_false]
    exact h.idle hw'

/-- `ReadBill` finds what is pending. -/
lemma Holds.readBill (h : b.Holds) (hc : b.Calm .readBill) (hs : b.step .readBill = some c) :
    c.Holds := by
  rw [step, Option.ite_none_right_eq_some] at hs
  obtain ⟨⟨hw, -, hr⟩, ⟨⟩⟩ := hs
  have hend : b.bills.readBill.2.uart.rx4Buffer = [] := by
    rw [Bills.readBill]
    dsimp only
    split_ifs
    · split <;> exact h.lineEnd
    · exact h.lineEnd
  refine ⟨hend, fun _ => ?_, fun hno => absurd hw hno, h.payForBills, h.payAlready⟩
  have hsum := h.waits hw
  rw [pending_of_none hr] at hsum
  rw [pending_of_some rfl]
  show b.added + b.bills.readBill.1.value = b.received
  rw [Bills.readBill_value]
  rcases hc with hfresh | hnone
  · rwa [if_pos hfresh] at hsum
  · rw [hnone, ite_self] at hsum
    rwa [hnone]

/-- The value of a bill is added to both amounts. -/
lemma readBills_userAct (s : Session) (n : ℕ) :
    (s.readBills n).userAct.payForBills = s.userAct.payForBills + UInt16.ofNat n ∧
      (s.readBills n).userAct.payAlready = s.userAct.payAlready + UInt16.ofNat n ∧
      (s.readBills n).current = s.current := by
  by_cases h : n = 0
  · subst h
    exact ⟨(UInt16.add_zero _).symm, (UInt16.add_zero _).symm, rfl⟩
  · rw [Session.readBills_of_ne h]
    exact ⟨rfl, rfl, rfl⟩

/-- What `ReadBill` has found is added. -/
lemma Holds.readBills (h : b.Holds) (hs : b.step .readBills = some c) : c.Holds := by
  rw [step, Option.map_eq_some_iff] at hs
  obtain ⟨r, hr, rfl⟩ := hs
  obtain ⟨hbills, halready, hcurrent⟩ := readBills_userAct b.session r.value
  have hwaits : ({ b with
      bills := b.bills.memset 0
      session := b.session.readBills r.value
      reading := none
      added := b.added + r.value } : BillBook).Waits ↔ b.Waits := by
    rw [Waits, Waits, hcurrent]
  refine ⟨h.lineEnd, fun hw => ?_, fun hw => ?_, ?_, ?_⟩
  · have hsum := h.waits (hwaits.mp hw)
    rw [pending_of_some hr] at hsum
    rw [pending_of_none rfl]
    show b.added + r.value + (if b.fresh then (b.bills.memset 0).pending else 0) = b.received
    rw [Bills.pending_memset (by decide), ite_self]
    exact hsum
  · obtain ⟨htotal, hfresh, hnone⟩ := h.idle fun hw' => hw (hwaits.mpr hw')
    have := hnone r hr
    exact ⟨by show b.added + r.value = b.received; omega, hfresh, nofun⟩
  · show (b.session.readBills r.value).userAct.payForBills = _
    rw [hbills, h.payForBills, UInt16.ofNat_add, UInt16.add_assoc]
  · show (b.session.readBills r.value).userAct.payAlready = _
    rw [halready, h.payAlready, UInt16.ofNat_add, UInt16.add_assoc]

/-- The buffer is overwritten. -/
lemma Holds.cash (h : b.Holds) (hc : b.Calm .cash) (hs : b.step .cash = some c) : c.Holds := by
  cases hs
  refine ⟨h.lineEnd, fun hw => ?_, h.idle, h.payForBills, h.payAlready⟩
  have hsum := h.waits hw
  cases hr : b.reading with
  | some r =>
    rw [pending_of_some hr] at hsum
    rw [pending_of_some rfl]
    exact hsum
  | none =>
    rw [hc hr] at hsum
    rw [pending_of_none rfl]
    simp only
    rw [Bills.pending_memset (by decide), ite_self]
    exact hsum

/-- The session begins or ends. -/
lemma Holds.current {k : Current} (h : b.Holds) (hc : b.Calm (.current k))
    (hs : b.step (.current k) = some c) : c.Holds := by
  cases hs
  refine ⟨h.lineEnd, fun hw => ?_, fun hw => ?_, h.payForBills, h.payAlready⟩
  · have hk : k = .waitforMoney := hw
    subst hk
    have hpending : ({ b with
        session := { b.session with current := .waitforMoney }
        fresh := b.fresh && decide (Current.waitforMoney = .waitforMoney) } : BillBook).pending =
        b.pending := by
      rw [pending, pending, decide_eq_true rfl, Bool.and_true]
    rw [hpending]
    by_cases hb : b.Waits
    · exact h.waits hb
    · -- a line from before the session is not counted
      obtain ⟨htotal, hfresh, hnone⟩ := h.idle hb
      have h0 : b.pending = 0 := by
        cases hr : b.reading with
        | some r => rw [pending_of_some hr, hnone r hr]
        | none => rw [pending_of_none hr, hfresh]; rfl
      rw [h0]
      exact htotal
  · have hk : k ≠ .waitforMoney := hw
    simp only [decide_eq_false hk, Bool.and_false]
    by_cases hb : b.Waits
    · have h0 := hc hb hk
      have hsum := h.waits hb
      rw [h0] at hsum
      refine ⟨hsum, trivial, fun r hr => ?_⟩
      rw [← pending_of_some (b := b) hr]
      exact h0
    · obtain ⟨htotal, -, hnone⟩ := h.idle hb
      exact ⟨htotal, trivial, hnone⟩

/-- A calm event keeps what holds. -/
lemma Holds.step (h : b.Holds) (hc : b.Calm e) (hs : b.step e = some c) : c.Holds := by
  cases e with
  | line l => exact h.line hc hs
  | readBill => exact h.readBill hc hs
  | readBills => exact h.readBills hs
  | cash => exact h.cash hc hs
  | point p =>
    cases hs
    exact ⟨h.lineEnd, h.waits, h.idle, h.payForBills, h.payAlready⟩
  | current k => exact h.current hc hs

/-- In every run whose events are calm, every stacked bill that comes while a session waits for
money is credited exactly once. -/
theorem credited_of_calm (h : Lib.Reach step Init Calm b) : b.Credited := by
  refine Holds.credited (Lib.Reach.invariant ?_ ?_ h)
  · intro b hb
    exact hb.holds
  · intro b e c hb hc hs
    exact hb.step hc hs

/-- Before the first session, with nothing selected. -/
def start : BillBook where
  bills := .start
  session := ⟨.zero, .currentTemperature, .p0, .deal, []⟩
  reading := none
  fresh := false
  before := .zero
  received := 0
  added := 0

lemma start_init : start.Init := by
  refine ⟨rfl, ?_, rfl, rfl, rfl, rfl, rfl⟩
  decide

/-- A bill of 5 was stacked. -/
def stackedFive : BillLine := ⟨0x30, [0x81], by decide⟩

/-- A bill of 10 was stacked. -/
def stackedTen : BillLine := ⟨0x30, [0x82], by decide⟩

/-- Two bills, each of which is read before the next thing happens. -/
theorem credited_of_calm_two :
    ∃ b, Lib.checkedRun step Calm start
      [.current .waitforMoney, .cash, .point .p3, .line stackedFive, .readBill, .readBills,
        .point .p3, .line stackedTen, .readBill, .readBills, .cash, .current .hpperOut] = some b ∧
      b.received = 15 ∧ b.Credited := by
  have hrun : ((Lib.checkedRun step Calm start
      [.current .waitforMoney, .cash, .point .p3, .line stackedFive, .readBill, .readBills,
        .point .p3, .line stackedTen, .readBill, .readBills, .cash, .current .hpperOut]).any
      fun b => b.received = 15) = true := by
    decide +kernel
  obtain ⟨b, hb, hreceived⟩ := Lib.exists_of_any hrun
  exact ⟨b, hb, hreceived, credited_of_calm ⟨_, _, start_init, .of_checkedRun hb⟩⟩

/-- A second bill is stacked before the line of the first is read: the first is not credited. -/
theorem not_credited : ¬ ∀ b, Lib.Reach step Init Lib.anyEvent b → b.Credited := by
  intro h
  have hrun : ((Lib.runFrom step start
      [.current .waitforMoney, .cash, .point .p3, .line stackedTen, .line stackedFive, .readBill,
        .readBills, .current .hpperOut]).any
      fun b => ¬ b.Waits ∧ b.added ≠ b.received) = true := by
    decide +kernel
  obtain ⟨b, hb, hidle, hne⟩ := Lib.exists_of_any hrun
  exact hne ((h b (.of_runFrom start_init hb)).total hidle)

end BillBook

end MealVendor
