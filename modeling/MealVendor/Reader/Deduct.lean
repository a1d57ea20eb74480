import MealVendor.Model.Szt
import MealVendor.Reader.Reception

/-!
# When a payment by card is sound

The loop that reads the card is described by the answers that come before the card is read.
Behind it `SztDeduct` depends on the reply to the first command alone: no repeat of the
deduction ever counts, because `loop7` takes the status of the reply for its type.
`GpbocDeduct` depends on the first of twenty looks that finds a reply to the deduction.
-/

namespace MealVendor

open Szt

namespace CardVisit

variable (v : CardVisit) (s : Szt)

/-- The receiver when the command to read the card is sent for the `i`th time. -/
def uartBefore (v : CardVisit) (u : Uart2) : ℕ → Uart2
  | 0 => u
  | i + 1 => (v.uartBefore u i).reset.receive (v.reads i).bytes

/-- The type of the `i`th reply. -/
def readType (i : ℕ) : Option UInt8 :=
  (v.reads i).manageReOrderType (v.uartBefore s.uart i).reset

/-- The `i`th reply gives the data of the card. -/
def ReadsCard (i : ℕ) : Prop :=
  v.readType s i = some 0xC7 ∧ (v.uartBefore s.uart (i + 1)).printBuf2 27 = 0x00

/-- Cancel was pressed before the payment or in one of the first `n` rounds of the screen. -/
def cancelled (n : ℕ) : Bool := s.cancelFlag || (List.range n).any v.presses

/-- The `i`th try does not read the card, and the next one is made. -/
def Missed (screenFirst : Bool) (i : ℕ) : Prop :=
  v.readType s i ≠ none ∧ ¬ v.ReadsCard s i ∧
    v.cancelled s (if screenFirst then i + 1 else i) = false

/-- The card is read by the `i`th try. -/
structure CardRead (screenFirst : Bool) (i : ℕ) : Prop where
  lt : i < 15
  reads : v.ReadsCard s i
  before : ∀ j < i, v.Missed s screenFirst j

/-- The globals when `i` tries have missed. -/
def missed (i : ℕ) : Szt :=
  { s with uart := v.uartBefore s.uart i, cancelFlag := v.cancelled s i }

/-- The globals when the `i`th try has read the card. -/
def card (i : ℕ) : Szt :=
  { v.missed s i with
    uart := v.uartBefore s.uart (i + 1)
    sztMoney := (v.uartBefore s.uart (i + 1)).le32 37
    gpbocMoney := if (v.uartBefore s.uart (i + 1)).printBuf2 105 ≠ 0 then
      (v.uartBefore s.uart (i + 1)).le32 126 else s.gpbocMoney }

variable {v s} {i : ℕ} {screenFirst : Bool}

lemma cancelled_succ : v.cancelled s (i + 1) = (v.cancelled s i || v.presses i) := by
  rw [cancelled, cancelled, List.range_succ, List.any_append, ← Bool.or_assoc]
  simp

lemma missed_zero : v.missed s 0 = s := by
  rw [missed, cancelled]
  simp [uartBefore]

lemma CardRead.eq {j : ℕ} (hi : v.CardRead s screenFirst i) (hj : v.CardRead s screenFirst j) :
    i = j :=
  Lib.eq_of_first hi.reads hj.reads (fun k hk => (hi.before k hk).2.1)
    fun k hk => (hj.before k hk).2.1

end CardVisit

namespace Szt

variable {v : CardVisit} {s t : Szt} {i : ℕ} {screenFirst : Bool} {flag0 : UInt8}

/-- The functions that read a reply return 1 for the status 0x00. -/
lemma status_eq_one (b : UInt8) : b + 1 = 0x01 ↔ b = 0x00 := by
  constructor
  · intro h
    rwa [← UInt8.add_left_inj 1]
  · rintro rfl
    rfl

/-- The status 0x00 comes with the balance. -/
lemma manageGpbocReadCard_sztMoney (h : s.uart.printBuf2 27 = 0x00) :
    s.manageGpbocReadCard.2.sztMoney = s.uart.le32 37 := by
  rw [manageGpbocReadCard, if_pos h]
  split_ifs <;> rfl

/-- The globals when the `i`th reply has come. -/
private def replied (v : CardVisit) (s : Szt) (i : ℕ) : Szt :=
  { v.missed s i with uart := v.uartBefore s.uart (i + 1) }

/-- What a try makes of a reply. -/
lemma readTry_eq {temp : UInt8} (h : v.readType s i = some temp) :
    readTry screenFirst v i (flag0, v.missed s i) =
      let x := if temp = 0xC7 then (replied v s i).manageGpbocReadCard
        else (flag0, replied v s i)
      let t := x.2.dealSeriAceptData (v.presses i)
      if x.1 = 0x01 then .inr (.read x.2)
      else if (if screenFirst then t else x.2).cancelFlag then
        .inr (.cancelled { (if screenFirst then t else x.2) with cancelFlag := false })
      else .inl (x.1, t) := by
  have h' : (v.reads i).manageReOrderType (v.missed s i).order.uart = some temp := h
  rw [readTry, h']
  rfl

/-- Without the data of a card the flag for cancel decides. -/
lemma readTry_of_not_readsCard {temp : UInt8} (h : v.readType s i = some temp)
    (hr : ¬ v.ReadsCard s i) (h0 : flag0 ≠ 0x01) :
    (∃ t, readTry screenFirst v i (flag0, v.missed s i) = .inr (.cancelled t)) ∧
      ¬ v.Missed s screenFirst i ∨
    v.Missed s screenFirst i ∧ ∃ flag0' ≠ 0x01,
      readTry screenFirst v i (flag0, v.missed s i) = .inl (flag0', v.missed s (i + 1)) := by
  -- `x` is what `ManageGpbocReadCard` leaves: no data of a card, and the globals as they were
  obtain ⟨x, hx, hx0, hx2⟩ : ∃ x : UInt8 × Szt, x = (if temp = 0xC7 then
      (replied v s i).manageGpbocReadCard else (flag0, replied v s i)) ∧ x.1 ≠ 0x01 ∧
      x.2 = replied v s i := by
    refine ⟨_, rfl, ?_⟩
    by_cases hC7 : temp = 0xC7
    · have hst : (replied v s i).uart.printBuf2 27 ≠ 0x00 := fun hst => hr ⟨by rw [h, hC7], hst⟩
      rw [if_pos hC7, manageGpbocReadCard, if_neg hst, if_neg fun hst' => hst hst'.1]
      exact ⟨fun h1 => hst ((status_eq_one _).mp h1), rfl⟩
    · rw [if_neg hC7]
      exact ⟨h0, rfl⟩
  have hflag : (if screenFirst then x.2.dealSeriAceptData (v.presses i) else x.2).cancelFlag =
      v.cancelled s (if screenFirst then i + 1 else i) := by
    rw [hx2]
    cases screenFirst with
    | false => rfl
    | true => exact CardVisit.cancelled_succ.symm
  have hnext : x.2.dealSeriAceptData (v.presses i) = v.missed s (i + 1) := by
    rw [hx2, CardVisit.missed, CardVisit.cancelled_succ]
    rfl
  have htry := @readTry_eq v s i screenFirst flag0 temp h
  rw [← hx] at htry
  simp only [if_neg hx0, hflag] at htry
  -- the flag for cancel is looked at before or behind the screen
  cases hc : v.cancelled s (if screenFirst then i + 1 else i) with
  | true =>
    refine .inl ⟨⟨_, htry.trans (if_pos hc)⟩, fun hm => ?_⟩
    rw [hm.2.2] at hc
    cases hc
  | false =>
    refine .inr ⟨⟨by rw [h]; exact Option.some_ne_none _, hr, hc⟩, x.1, hx0, ?_⟩
    rw [htry, if_neg (by rw [hc]; exact Bool.false_ne_true), hnext]

/-- A reply with the data of the card ends the loop. -/
lemma readTry_of_readsCard (hr : v.ReadsCard s i) :
    readTry screenFirst v i (flag0, v.missed s i) = .inr (.read (v.card s i)) := by
  have hst : (replied v s i).uart.printBuf2 27 = 0x00 := hr.2
  have h1 : (replied v s i).manageGpbocReadCard = (0x01, v.card s i) := by
    rw [manageGpbocReadCard, if_pos hst, hst, CardVisit.card]
    by_cases h105 : (replied v s i).uart.printBuf2 105 = 0
    · rw [if_neg fun h => h.2 h105, if_neg fun h => h h105]
      rfl
    · have h105' : (v.uartBefore s.uart (i + 1)).printBuf2 105 ≠ 0 := h105
      rw [if_pos ⟨rfl, h105⟩, if_pos h105']
      rfl
  rw [readTry_eq hr.1]
  simp only [h1, if_true]

lemma readTry_of_hangs (h : v.readType s i = none) :
    readTry screenFirst v i (flag0, v.missed s i) = .inr .hangs := by
  have h' : (v.reads i).manageReOrderType (v.missed s i).order.uart = none := h
  rw [readTry, h']

/-- A try leaves the loop going only if it misses. -/
lemma readTry_eq_inl (h0 : flag0 ≠ 0x01) {x : UInt8 × Szt}
    (h : readTry screenFirst v i (flag0, v.missed s i) = .inl x) :
    v.Missed s screenFirst i ∧ x.1 ≠ 0x01 ∧ x.2 = v.missed s (i + 1) := by
  cases hty : v.readType s i with
  | none =>
    rw [readTry_of_hangs hty] at h
    cases h
  | some temp =>
    by_cases hr : v.ReadsCard s i
    · rw [readTry_of_readsCard hr] at h
      cases h
    · rcases readTry_of_not_readsCard hty hr h0 with ⟨⟨t, ht⟩, -⟩ | ⟨hm, flag0', h0', ht⟩
      · rw [ht] at h
        cases h
      · cases ht.symm.trans h
        exact ⟨hm, h0', rfl⟩

/-- What is left by the tries that all leave the loop going. -/
lemma missed_of_tried {x : UInt8 × Szt}
    (h : Lib.Tried (readTry screenFirst v) 0 (0, v.missed s 0) i x) :
    (∀ k < i, v.Missed s screenFirst k) ∧ x.1 ≠ 0x01 ∧ x.2 = v.missed s i := by
  have h0 : (0 : UInt8) ≠ 0x01 := by decide
  obtain ⟨hall, hx⟩ := h.invariant (P := v.Missed s screenFirst)
    (I := fun k x => x.1 ≠ 0x01 ∧ x.2 = v.missed s k) (by
      rintro k ⟨flag0, _⟩ x ⟨hk, rfl⟩ hx
      exact readTry_eq_inl hk hx) ⟨h0, rfl⟩
  exact ⟨fun k hk => hall k (Nat.zero_le k) hk, hx⟩

/-- Tries that miss leave the loop going. -/
lemma tried_of_missed (h : ∀ k < i, v.Missed s screenFirst k) : ∃ x : UInt8 × Szt,
    Lib.Tried (readTry screenFirst v) 0 (0, v.missed s 0) i x ∧
      x.1 ≠ 0x01 ∧ x.2 = v.missed s i := by
  have h0 : (0 : UInt8) ≠ 0x01 := by decide
  refine Lib.tried_of_forall (I := fun k (x : UInt8 × Szt) => x.1 ≠ 0x01 ∧
    x.2 = v.missed s k) ?_ ⟨h0, rfl⟩ h
  rintro k ⟨flag0, _⟩ ⟨hk, rfl⟩ hm
  obtain ⟨temp, hty⟩ := Option.ne_none_iff_exists'.mp hm.1
  rcases readTry_of_not_readsCard hty hm.2.1 hk with ⟨-, hno⟩ | ⟨-, flag0', hk', ht⟩
  · exact absurd hm hno
  · exact ⟨_, ht, hk', rfl⟩

/-- How a try ends the loop. -/
lemma readTry_eq_inr (h0 : flag0 ≠ 0x01) {e : ReadEnd}
    (h : readTry screenFirst v i (flag0, v.missed s i) = .inr e) :
    e = .hangs ∧ v.readType s i = none ∨ e = .read (v.card s i) ∧ v.ReadsCard s i ∨
      ∃ t, e = .cancelled t := by
  cases hty : v.readType s i with
  | none =>
    cases (readTry_of_hangs hty).symm.trans h
    exact .inl ⟨rfl, rfl⟩
  | some temp =>
    by_cases hr : v.ReadsCard s i
    · cases (readTry_of_readsCard hr).symm.trans h
      exact .inr (.inl ⟨rfl, hr⟩)
    · rcases readTry_of_not_readsCard hty hr h0 with ⟨⟨t, ht⟩, -⟩ | ⟨-, _, -, ht⟩
      · cases ht.symm.trans h
        exact .inr (.inr ⟨t, rfl⟩)
      · cases ht.symm.trans h

/-- The loop ends with a try behind others that miss. -/
lemma try_of_attempts {e : ReadEnd}
    (h : Lib.attempts (readTry screenFirst v) 15 0 (0, s) = .inr e) :
    ∃ i < 15, (∀ j < i, v.Missed s screenFirst j) ∧
      ∃ flag0 : UInt8, flag0 ≠ 0x01 ∧ readTry screenFirst v i (flag0, v.missed s i) = .inr e := by
  have hs : ((0 : UInt8), s) = (0, v.missed s 0) := by rw [CardVisit.missed_zero]
  rw [hs, Lib.attempts_eq_inr_iff] at h
  obtain ⟨i, hi, ⟨flag0, u⟩, htried, ht⟩ := h
  obtain ⟨hall, h0, rfl⟩ := missed_of_tried htried
  exact ⟨i, by omega, hall, flag0, h0, ht⟩

lemma attempts_of_try {e : ReadEnd} (hi : i < 15) (hall : ∀ j < i, v.Missed s screenFirst j)
    (h : ∀ flag0, readTry screenFirst v i (flag0, v.missed s i) = .inr e) :
    Lib.attempts (readTry screenFirst v) 15 0 (0, s) = .inr e := by
  have hs : ((0 : UInt8), s) = (0, v.missed s 0) := by rw [CardVisit.missed_zero]
  rw [hs, Lib.attempts_eq_inr_iff]
  obtain ⟨⟨flag0, _⟩, htried, -, rfl⟩ := tried_of_missed hall
  exact ⟨i, by omega, _, htried, h flag0⟩

/-- The loop reads the card exactly if one of its tries does. -/
lemma read_iff {t : Szt} :
    Lib.attempts (readTry screenFirst v) 15 0 (0, s) = .inr (.read t) ↔
      ∃ i, v.CardRead s screenFirst i ∧ t = v.card s i := by
  constructor
  · intro h
    obtain ⟨i, hi, hall, flag0, h0, ht⟩ := try_of_attempts h
    rcases readTry_eq_inr h0 ht with ⟨⟨⟩, -⟩ | ⟨he, hr⟩ | ⟨_, ⟨⟩⟩
    cases he
    exact ⟨i, ⟨hi, hr, hall⟩, rfl⟩
  · rintro ⟨i, hi, rfl⟩
    exact attempts_of_try hi.lt hi.before fun _ => readTry_of_readsCard hi.reads

/-- The loop hangs exactly if the reception of a reply does not return. -/
lemma hangs_iff :
    Lib.attempts (readTry screenFirst v) 15 0 (0, s) = .inr .hangs ↔
      ∃ i < 15, (∀ j < i, v.Missed s screenFirst j) ∧ v.readType s i = none := by
  constructor
  · intro h
    obtain ⟨i, hi, hall, flag0, h0, ht⟩ := try_of_attempts h
    rcases readTry_eq_inr h0 ht with ⟨-, hty⟩ | ⟨⟨⟩, -⟩ | ⟨_, ⟨⟩⟩
    exact ⟨i, hi, hall, hty⟩
  · rintro ⟨i, hi, hall, hty⟩
    exact attempts_of_try hi hall fun _ => readTry_of_hangs hty

end Szt

/-! ## No repeat counts -/

namespace Uart2

lemma receive_append (u : Uart2) (bs cs : List UInt8) :
    u.receive (bs ++ cs) = (u.receive bs).receive cs :=
  List.foldl_append

/-- A byte that differs from the filling of the buffer stays. -/
lemma receive_append_cell {u : Uart2} {bs cs : List UInt8} {i : ℕ} (hi : i < 640)
    (h : (u.reset.receive bs).printBuf2 i ≠ 0xff) :
    (u.reset.receive (bs ++ cs)).printBuf2 i = (u.reset.receive bs).printBuf2 i := by
  have hfill : u.reset.printBuf2 i = 0xff := if_pos hi
  rw [(received u bs).cells] at h ⊢
  rw [(received u (bs ++ cs)).cells]
  have hlt : i < bs.length := by
    by_contra hge
    rw [List.getElem?_eq_none (Nat.le_of_not_lt hge)] at h
    exact h hfill
  rw [List.getElem?_append_left hlt]

end Uart2

namespace Szt

variable {v : CardVisit} {s t : Szt} {k : ℕ} {money : Int32}

/-- The status that a repeat takes for the type of the reply, and the one it looks at then. -/
lemma deductAgain_fst_eq : (deductAgain v k s).1 =
    if (s.uart.reset.receive (v.again k).toAck).printBuf2 27 + 1 = 0x83 then
      decide ((s.uart.reset.receive ((v.again k).toAck ++ (v.again k).toData)).printBuf2 27 + 1 = 1)
    else false := by
  have hmanage : ∀ t : Szt, t.manageSztDeductAgain.2.uart = t.uart := by
    intro t
    rw [manageSztDeductAgain, manageSztDeduct]
    split_ifs <;> rfl
  have hdef : deductAgain v k s =
      let t := (s.order.receive (v.again k).toAck).manageSztDeductAgain.2
      if (s.uart.reset.receive (v.again k).toAck).printBuf2 27 + 1 = 0x83 then
        (decide ((t.uart.receive (v.again k).toData).printBuf2 27 + 1 = 1),
          (t.receive (v.again k).toData).manageSztDeductAgain.2)
      else (false, t) := rfl
  rw [Uart2.receive_append, hdef]
  simp only [apply_ite Prod.fst, hmanage]
  rfl

/-- No repeat sets `flag3`: with the status 0x82 the second look finds the same status. -/
lemma deductAgain_fst : (deductAgain v k s).1 = false := by
  rw [deductAgain_fst_eq]
  split_ifs with h
  · -- the status 0x82 was taken for the type, and is what the second look finds again
    have h27 : (s.uart.reset.receive (v.again k).toAck).printBuf2 27 = 0x82 := by
      rwa [← UInt8.add_left_inj 1]
    rw [Uart2.receive_append_cell (by decide) (by rw [h27]; decide), h27]
    rfl
  · rfl

/-- `loop7` makes all its rounds. -/
lemma attempts_againTry {n : ℕ} : ∃ t, Lib.attempts (againTry v) n 0 s = .inl t := by
  cases h : Lib.attempts (againTry v) n 0 s with
  | inl t => exact ⟨t, rfl⟩
  | inr x =>
    obtain ⟨j, -, t, -, ht⟩ := Lib.attempts_eq_inr_iff.mp h
    have hno : againTry v j t = .inl (deductAgain v j t).2 := by
      show (if (deductAgain v j t).1 then _ else _) = _
      rw [deductAgain_fst]
      rfl
    cases hno.symm.trans ht

end Szt

/-! ## `SztDeduct` behind the reading of the card -/

namespace CardVisit

variable (v : CardVisit) (money : Int32) (t : Szt)

/-- The type of the reply to `Order_SztDeductOnce`, when `t` is what the reading of the card has
left. -/
def onceType : Option UInt8 := v.once.manageReOrderType t.uart.reset

/-- The receiver with this reply. -/
def onceUart : Uart2 := t.uart.reset.receive v.once.bytes

/-- The reader reports that the amount was deducted. -/
def Confirmed : Prop := v.onceType t = some 0x43 ∧ (v.onceUart t).printBuf2 27 = 0x00

/-- The reader asks for a repeat. -/
def Redo : Prop := v.onceType t = some 0x43 ∧ (v.onceUart t).printBuf2 27 = 0x51

instance decidableRedo : Decidable (v.Redo t) := instDecidableAnd

/-- The number of repeats unless the reader reports success. -/
def repeats : ℕ := if v.onceType t = none then 0 else if v.Redo t then 5 else 4

/-- The receiver when the card was read again. -/
def rereadUart : Uart2 := (v.onceUart t).reset.receive v.reread.bytes

/-- The amount is the difference of the two balances in the reply, or the card is read again and
it is the difference of the lowest bytes of what was read. -/
def Shown : Prop :=
  (v.onceUart t).le32 28 - (v.onceUart t).le32 32 = money ∨
    v.reread.manageReOrderType (v.onceUart t).reset = some 0xC7 ∧
    (v.rereadUart t).printBuf2 27 = 0x00 ∧
    (t.sztMoney.toUInt32.toUInt8.toNat : ℤ) -
      ((v.rereadUart t).le32 37).toUInt32.toUInt8.toNat = money.toInt

end CardVisit

namespace Szt

variable {v : CardVisit} {s t : Szt} {money : Int32}

/-- What `SztDeduct` makes of a reply to the first command. -/
lemma sztDeductOnce_eq {temp : UInt8} (h : v.onceType t = some temp) :
    t.sztDeductOnce v money =
      let x := if temp = 0x43 then (t.order.receive v.once.bytes).manageSztDeductOnce
        else (0, t.order.receive v.once.bytes)
      if x.1 = 1 then ⟨x.2.settle v money t.sztMoney.toUInt32.toUInt8, true, 0⟩
      else ⟨some 0, true, if x.1 = 0x52 then 5 else 4⟩ := by
  have h' : v.once.manageReOrderType t.order.uart = some temp := h
  rw [sztDeductOnce, h']
  generalize hx : (if temp = 0x43 then (t.order.receive v.once.bytes).manageSztDeductOnce
    else (0, t.order.receive v.once.bytes)) = x
  obtain ⟨t', ht'⟩ := @attempts_againTry v x.2 (if x.1 = 0x52 then 5 else 4)
  simp only [hx, ht']

/-- The end of `SztDeduct` with `flag3` set. -/
lemma settle_eq_one_iff (hu : s.uart = v.onceUart t) (hb : s.beginMoney = (v.onceUart t).le32 28)
    (he : s.endMoney = (v.onceUart t).le32 32) :
    s.settle v money t.sztMoney.toUInt32.toUInt8 = some 1 ↔ v.Shown money t := by
  rw [settle, hb, he, CardVisit.Shown]
  by_cases hdiff : (v.onceUart t).le32 28 - (v.onceUart t).le32 32 = money
  · rw [if_pos hdiff]
    exact iff_of_true rfl (.inl hdiff)
  · -- the card is read again
    rw [if_neg hdiff, or_iff_right hdiff]
    have horder : s.order.uart = (v.onceUart t).reset := by
      rw [order, hu]
    have hreread : (s.order.receive v.reread.bytes).uart = v.rereadUart t := by
      rw [receive, horder, CardVisit.rereadUart]
    rw [horder]
    cases hty : v.reread.manageReOrderType (v.onceUart t).reset with
    | none => simp
    | some temp =>
      simp only [Option.map_some, Option.some.injEq]
      by_cases hC7 : temp = 0xC7
      · subst hC7
        rw [if_pos rfl]
        by_cases h27 : (v.rereadUart t).printBuf2 27 = 0x00
        · have h1 : (s.order.receive v.reread.bytes).manageGpbocReadCard.1 = 0x01 := by
            rw [manageGpbocReadCard, hreread, h27]
            rfl
          have hmoney := manageGpbocReadCard_sztMoney (by rw [hreread]; exact h27)
          rw [hreread] at hmoney
          simp [h1, hmoney, h27]
        · have h1 : (s.order.receive v.reread.bytes).manageGpbocReadCard.1 ≠ 0x01 := by
            rw [manageGpbocReadCard, hreread]
            exact fun h => h27 ((status_eq_one _).mp h)
          simp [h1, h27]
      · rw [if_neg hC7]
        simp [hC7]

/-- Success is reported: there is no repeat, and the balances decide. -/
lemma sztDeductOnce_confirmed (money : Int32) (h : v.Confirmed t) :
    (t.sztDeductOnce v money).once = true ∧ (t.sztDeductOnce v money).again = 0 ∧
      ((t.sztDeductOnce v money).ret = some 1 ↔ v.Shown money t) := by
  have h27 : (t.order.receive v.once.bytes).uart.printBuf2 27 = 0x00 := h.2
  rw [sztDeductOnce_eq h.1]
  simp only [if_true, manageSztDeductOnce, manageSztDeduct, h27]
  exact ⟨rfl, rfl, settle_eq_one_iff rfl rfl rfl⟩

/-- Success is not reported: 1 is not returned, and the command is repeated. -/
lemma sztDeductOnce_other (money : Int32) (h : ¬ v.Confirmed t) :
    (t.sztDeductOnce v money).once = true ∧ (t.sztDeductOnce v money).again = v.repeats t ∧
      (t.sztDeductOnce v money).ret ≠ some 1 := by
  cases hty : v.onceType t with
  | none =>
    -- the reception of the reply hangs
    have hty' : v.once.manageReOrderType t.order.uart = none := hty
    rw [sztDeductOnce, hty', CardVisit.repeats, if_pos hty]
    exact ⟨rfl, rfl, nofun⟩
  | some temp =>
    have hne : v.onceType t ≠ none := by
      rw [hty]
      exact Option.some_ne_none _
    rw [sztDeductOnce_eq hty, CardVisit.repeats, if_neg hne]
    by_cases h43 : temp = 0x43
    · -- another status than 0x00: with 0x51 there is one repeat more
      subst h43
      have h1 : (t.order.receive v.once.bytes).manageSztDeductOnce.1 ≠ 1 :=
        fun h1 => h ⟨hty, (status_eq_one _).mp h1⟩
      have h52 : (t.order.receive v.once.bytes).manageSztDeductOnce.1 = 0x52 ↔ v.Redo t := by
        show (v.onceUart t).printBuf2 27 + 1 = 0x51 + 1 ↔ _
        rw [UInt8.add_left_inj, CardVisit.Redo, hty]
        exact (and_iff_right rfl).symm
      simp only [if_true, if_neg h1]
      exact ⟨trivial, if_congr h52 rfl rfl, nofun⟩
    · -- the reply is of another type, or there is none
      have hredo : ¬ v.Redo t := by
        rintro ⟨h43', -⟩
        exact h43 (Option.some.inj (hty.symm.trans h43'))
      simp only [if_neg h43]
      exact ⟨rfl, (if_neg hredo).symm, nofun⟩

end Szt

/-! ## The two payments -/

namespace CardVisit

variable (v : CardVisit) (s : Szt) (money : Int32) (money_deduct : UInt32)

/-- By how much the balance on the card falls during a run of `SztDeduct`. -/
def fall (r : SztRun) : ℤ :=
  (if r.once then v.onceFall else 0) + ∑ k ∈ Finset.range r.again, v.againFall k

/-- The receiver at the `j`th look for the reply to `Order_Gpboc_Deduct`. -/
def roundUart (v : CardVisit) (t : Szt) : ℕ → Uart2
  | 0 => t.uart.reset
  | j + 1 => (v.roundUart t j).receive (v.rounds j).bytes

/-- The type that the `j`th look finds. -/
def roundType (t : Szt) (j : ℕ) : Option UInt8 :=
  (v.rounds j).manageReOrderType (v.roundUart t j)

/-- The `j`th look is the first to find a reply to the deduction, and none before hangs. -/
structure Answered (t : Szt) (j : ℕ) : Prop where
  lt : j < 20
  reply : v.roundType t j = some 0xC9
  before : ∀ k < j, v.roundType t k ≠ none ∧ v.roundType t k ≠ some 0xC9

lemma Answered.eq {v : CardVisit} {t : Szt} {j k : ℕ} (hj : v.Answered t j)
    (hk : v.Answered t k) : j = k :=
  Lib.eq_of_first hj.reply hk.reply (fun i hi => (hj.before i hi).2)
    fun i hi => (hk.before i hi).2

/-- The command to deduct was sent, and the reader reports success. -/
def Reported : Prop :=
  ∃ i, v.CardRead s true i ∧ money_deduct ≤ (v.card s i).gpbocMoney.toUInt32 ∧
    ∃ j, v.Answered (v.card s i) j ∧ (v.roundUart (v.card s i) (j + 1)).printBuf2 27 = 0x00

end CardVisit

namespace Szt

variable (v : CardVisit) (s : Szt) (money : Int32) (money_deduct : UInt32)

variable {v s money money_deduct} {i : ℕ} {t : Szt}

/-- The beginning of `SztDeduct`. -/
private def cleared (s : Szt) : Szt := { s with beginMoney := 0, endMoney := 0 }

/-- The loop does not look at the amounts of `SztReductInf`. -/
lemma cardRead_cleared : v.CardRead s.cleared false i ↔ v.CardRead s false i :=
  ⟨fun h => ⟨h.lt, h.reads, h.before⟩, fun h => ⟨h.lt, h.reads, h.before⟩⟩

/-- `SztDeduct` when the card is read. -/
lemma sztDeduct_of_cardRead (h : v.CardRead s false i) :
    s.sztDeduct v money = (v.card s.cleared i).sztDeductOnce v money := by
  have hread := read_iff.mpr ⟨i, cardRead_cleared.mpr h, rfl⟩
  rw [cleared] at hread
  rw [sztDeduct, hread]
  rfl

/-- `SztDeduct` when the card is not read. -/
lemma sztDeduct_of_unread (money : Int32) (h : ∀ i, ¬ v.CardRead s false i) :
    (s.sztDeduct v money).once = false ∧ (s.sztDeduct v money).again = 0 ∧
      (s.sztDeduct v money).ret ≠ some 1 := by
  rw [sztDeduct]
  split
  · rename_i t ht
    obtain ⟨i, hi, -⟩ := read_iff.mp ht
    exact absurd (cardRead_cleared.mp hi) (h i)
  · exact ⟨rfl, rfl, nofun⟩
  · exact ⟨rfl, rfl, by decide⟩
  · exact ⟨rfl, rfl, by decide⟩

/-- The look for the reply to `Order_Gpboc_Deduct`. -/
lemma round_eq (j : ℕ) : round v j { t with uart := v.roundUart t j } =
    match v.roundType t j with
    | none => .inr none
    | some type => if type = 0xC9 then
        .inr (some (if (v.roundUart t (j + 1)).printBuf2 27 = 0x00 then 1 else 0))
      else .inl { t with uart := v.roundUart t (j + 1) } := by
  rw [round]
  cases h : v.roundType t j with
  | none =>
    rw [show (v.rounds j).manageReOrderType (v.roundUart t j) = none from h]
  | some type =>
    rw [show (v.rounds j).manageReOrderType (v.roundUart t j) = some type from h]
    refine if_congr Iff.rfl (congrArg (fun b => Sum.inr (some b)) ?_) rfl
    exact if_congr (status_eq_one _) rfl rfl

/-- The looks before the `j`th find no reply to the deduction. -/
lemma round_tried {j : ℕ} {x : Szt} (h : Lib.Tried (round v) 0 t.order j x) :
    (∀ k < j, v.roundType t k ≠ none ∧ v.roundType t k ≠ some 0xC9) ∧
      x = { t with uart := v.roundUart t j } := by
  obtain ⟨hall, hx⟩ := h.invariant
    (P := fun k => v.roundType t k ≠ none ∧ v.roundType t k ≠ some 0xC9)
    (I := fun k x => x = { t with uart := v.roundUart t k }) (by
      rintro k _ y rfl hy
      rw [round_eq] at hy
      cases hty : v.roundType t k with
      | none => simp [hty] at hy
      | some type =>
        simp only [hty] at hy
        split_ifs at hy with hC9
        exact ⟨⟨Option.some_ne_none _, fun h => hC9 (Option.some.inj h)⟩,
          (Sum.inl.inj hy).symm⟩) rfl
  exact ⟨fun k hk => hall k (Nat.zero_le k) hk, hx⟩

/-- Looks that find no reply to the deduction leave the loop going. -/
lemma tried_round {j : ℕ} (h : ∀ k < j, v.roundType t k ≠ none ∧ v.roundType t k ≠ some 0xC9) :
    Lib.Tried (round v) 0 t.order j { t with uart := v.roundUart t j } := by
  obtain ⟨x, hx, rfl⟩ := Lib.tried_of_forall (f := round v)
    (I := fun k x => x = { t with uart := v.roundUart t k }) (by
      rintro k _ rfl ⟨hnone, hC9⟩
      obtain ⟨type, hty⟩ := Option.ne_none_iff_exists'.mp hnone
      refine ⟨_, ?_, rfl⟩
      rw [round_eq]
      simp only [hty]
      exact if_neg fun h => hC9 (by rw [hty, h])) (rfl : t.order = _) h
  exact hx

/-- `GpbocDeduct` when the card is read and the balance suffices: it returns the verdict of the
first reply that a look finds, and nothing if none does. -/
lemma gpbocDeductRead_of_answered (hm : money_deduct ≤ t.gpbocMoney.toUInt32) {j : ℕ}
    (h : v.Answered t j) : t.gpbocDeductRead v money_deduct =
      some (if (v.roundUart t (j + 1)).printBuf2 27 = 0x00 then 1 else 0) := by
  have hloop := (Lib.attempts_eq_inr_iff (n := 20)).mpr ⟨j, by have := h.lt; omega, _,
    tried_round h.before, (round_eq j).trans (by rw [h.reply]; exact if_pos rfl)⟩
  rw [gpbocDeductRead, if_neg (UInt32.not_lt.mpr hm), hloop]

lemma gpbocDeductRead_of_not_answered (hm : money_deduct ≤ t.gpbocMoney.toUInt32)
    (h : ∀ j, ¬ v.Answered t j) : t.gpbocDeductRead v money_deduct = none := by
  rw [gpbocDeductRead, if_neg (UInt32.not_lt.mpr hm)]
  cases hloop : Lib.attempts (round v) 20 0 t.order with
  | inl _ => rfl
  | inr r =>
    obtain ⟨j, hj, x, htried, hx⟩ := Lib.attempts_eq_inr_iff.mp hloop
    obtain ⟨hall, rfl⟩ := round_tried htried
    rw [round_eq] at hx
    cases hty : v.roundType t j with
    | none =>
      simp only [hty] at hx
      exact (Sum.inr.inj hx).symm
    | some type =>
      by_cases hC9 : type = 0xC9
      · exact absurd ⟨by omega, by rw [hty, hC9], hall⟩ (h j)
      · simp only [hty, if_neg hC9] at hx
        cases hx

/-- `GpbocDeduct` when the card is read. -/
lemma gpbocDeduct_of_cardRead (h : v.CardRead s true i) :
    s.gpbocDeduct v money_deduct = (v.card s i).gpbocDeductRead v money_deduct := by
  rw [gpbocDeduct, read_iff.mpr ⟨i, h, rfl⟩]

/-- `GpbocDeduct` when the card is not read: it returns 0 unless the reception hangs. -/
lemma gpbocDeduct_of_unread (money_deduct : UInt32) (h : ∀ i, ¬ v.CardRead s true i) :
    (∃ i < 15, (∀ j < i, v.Missed s true j) ∧ v.readType s i = none) ∧
      s.gpbocDeduct v money_deduct = none ∨
    (¬ ∃ i < 15, (∀ j < i, v.Missed s true j) ∧ v.readType s i = none) ∧
      s.gpbocDeduct v money_deduct = some 0 := by
  rw [gpbocDeduct, ← hangs_iff]
  cases hloop : Lib.attempts (readTry true v) 15 0 (0, s) with
  | inl _ =>
    refine .inr ⟨?_, rfl⟩
    rintro ⟨⟩
  | inr e =>
    cases e with
    | hangs => exact .inl ⟨rfl, rfl⟩
    | cancelled t =>
      refine .inr ⟨?_, rfl⟩
      rintro ⟨⟩
    | read t =>
      obtain ⟨i, hi, -⟩ := read_iff.mp hloop
      exact absurd hi (h i)

variable (v s money money_deduct)

/-- What is asked of the two payments. -/
structure Sound : Prop where
  szt : (s.sztDeduct v money).ret = some 1 ↔ v.fall (s.sztDeduct v money) = money.toInt
  redo : ∀ k < (s.sztDeduct v money).again,
    (∃ i, v.CardRead s false i ∧ v.Redo (v.card s i)) ∨
      ∃ j < k, (v.again j).bytes[27]? = some 0x51
  gpboc : s.gpbocDeduct v money_deduct = some 1 ↔ v.Reported s money_deduct
  gpbocElse : ¬ v.Reported s money_deduct → s.gpbocDeduct v money_deduct = some 0

/-- What the reader has to do for that. -/
structure Fits : Prop where
  unread : (∀ i, ¬ v.CardRead s false i) → money.toInt ≠ 0
  confirmed : ∀ i, v.CardRead s false i → v.Confirmed (v.card s i) →
    (v.Shown money (v.card s i) ↔ v.onceFall = money.toInt)
  other : ∀ i, v.CardRead s false i → ¬ v.Confirmed (v.card s i) →
    v.onceFall + ∑ k ∈ Finset.range (v.repeats (v.card s i)), v.againFall k ≠ money.toInt
  redo : ∀ i, v.CardRead s false i → v.onceType (v.card s i) ≠ none →
    v.Confirmed (v.card s i) ∨ v.Redo (v.card s i)
  returns : ∀ i < 15, (∀ j < i, v.Missed s true j) → v.readType s i ≠ none
  answered : ∀ i, v.CardRead s true i → money_deduct ≤ (v.card s i).gpbocMoney.toUInt32 →
    ∃ j, v.Answered (v.card s i) j

variable {v s money money_deduct}

/-- The repeats of `SztDeduct` are asked for. -/
lemma redo_iff : (∀ k < (s.sztDeduct v money).again,
      (∃ i, v.CardRead s false i ∧ v.Redo (v.card s i)) ∨
        ∃ j < k, (v.again j).bytes[27]? = some 0x51) ↔
    ∀ i, v.CardRead s false i → v.onceType (v.card s i) ≠ none →
      v.Confirmed (v.card s i) ∨ v.Redo (v.card s i) := by
  constructor
  · -- without both there are four repeats, and nothing has asked for the first of them
    intro h i hi hne
    by_contra hno
    obtain ⟨hc, hr⟩ := not_or.mp hno
    obtain ⟨-, hagain, -⟩ := sztDeductOnce_other (t := v.card s.cleared i) money hc
    have h4 : v.repeats (v.card s.cleared i) = 4 := (if_neg hne).trans (if_neg hr)
    rw [← sztDeduct_of_cardRead hi, h4] at hagain
    rcases h 0 (by omega) with ⟨i', hi', hr'⟩ | ⟨j, hj, -⟩
    · rw [hi.eq hi'] at hr
      exact hr hr'
    · omega
  · intro h k hk
    by_cases hex : ∃ i, v.CardRead s false i
    · obtain ⟨i, hi⟩ := hex
      rw [sztDeduct_of_cardRead hi] at hk
      by_cases hc : v.Confirmed (v.card s.cleared i)
      · rw [(sztDeductOnce_confirmed money hc).2.1] at hk
        omega
      · rw [(sztDeductOnce_other money hc).2.1] at hk
        have hne : v.onceType (v.card s.cleared i) ≠ none := by
          intro hnone
          rw [CardVisit.repeats, if_pos hnone] at hk
          omega
        exact .inl ⟨i, hi, (h i hi hne).resolve_left hc⟩
    · rw [(sztDeduct_of_unread money (not_exists.mp hex)).2.1] at hk
      omega

/-- `SztDeduct` when the card is not read: the balance stays. -/
lemma szt_of_unread (h : ∀ i, ¬ v.CardRead s false i) :
    ((s.sztDeduct v money).ret = some 1 ↔ v.fall (s.sztDeduct v money) = money.toInt) ↔
      money.toInt ≠ 0 := by
  obtain ⟨honce, hagain, hret⟩ := sztDeduct_of_unread money h
  rw [iff_false_left hret, CardVisit.fall, honce, hagain]
  simp [eq_comm]

/-- `SztDeduct` when success is reported: the balance falls by the first command. -/
lemma szt_of_confirmed (h : v.CardRead s false i) (hc : v.Confirmed (v.card s i)) :
    ((s.sztDeduct v money).ret = some 1 ↔ v.fall (s.sztDeduct v money) = money.toInt) ↔
      (v.Shown money (v.card s i) ↔ v.onceFall = money.toInt) := by
  obtain ⟨honce, hagain, hret⟩ :=
    sztDeductOnce_confirmed (t := v.card s.cleared i) money hc
  rw [← sztDeduct_of_cardRead h] at honce hagain hret
  rw [hret, CardVisit.fall, honce, hagain]
  simp only [if_true, Finset.range_zero, Finset.sum_empty, add_zero]
  exact Iff.rfl

/-- `SztDeduct` when success is not reported: the balance falls by all commands. -/
lemma szt_of_other (h : v.CardRead s false i) (hc : ¬ v.Confirmed (v.card s i)) :
    ((s.sztDeduct v money).ret = some 1 ↔ v.fall (s.sztDeduct v money) = money.toInt) ↔
      v.onceFall + ∑ k ∈ Finset.range (v.repeats (v.card s i)), v.againFall k ≠
        money.toInt := by
  obtain ⟨honce, hagain, hret⟩ :=
    sztDeductOnce_other (t := v.card s.cleared i) money hc
  rw [← sztDeduct_of_cardRead h] at honce hagain hret
  rw [iff_false_left hret, CardVisit.fall, honce, hagain]
  exact Iff.rfl

/-- `GpbocDeduct` when the card is read and the balance suffices. -/
lemma gpboc_of_deducted (h : v.CardRead s true i)
    (hm : money_deduct ≤ (v.card s i).gpbocMoney.toUInt32) :
    ((s.gpbocDeduct v money_deduct = some 1 ↔ v.Reported s money_deduct) ∧
      (¬ v.Reported s money_deduct → s.gpbocDeduct v money_deduct = some 0)) ↔
      ∃ j, v.Answered (v.card s i) j := by
  rw [gpbocDeduct_of_cardRead h]
  constructor
  · -- without a reply nothing is returned, where 0 is asked for
    intro hs
    by_contra hno
    have hnone := gpbocDeductRead_of_not_answered hm (not_exists.mp hno)
    have hrep : ¬ v.Reported s money_deduct := by
      rintro ⟨i', hi', -, j, hj, -⟩
      rw [hi'.eq h] at hj
      exact hno ⟨j, hj⟩
    have := hs.2 hrep
    rw [hnone] at this
    cases this
  · rintro ⟨j, hj⟩
    have hrep : v.Reported s money_deduct ↔
        (v.roundUart (v.card s i) (j + 1)).printBuf2 27 = 0x00 := by
      constructor
      · rintro ⟨i', hi', -, j', hj', h27⟩
        cases hi'.eq h
        rwa [hj.eq hj']
      · exact fun h27 => ⟨i, h, hm, j, hj, h27⟩
    rw [gpbocDeductRead_of_answered hm hj, hrep]
    by_cases h27 : (v.roundUart (v.card s i) (j + 1)).printBuf2 27 = 0x00 <;> simp [h27]

/-- No reception hangs before the card is read. -/
lemma returns_of_cardRead (h : v.CardRead s true i) :
    ∀ k < 15, (∀ j < k, v.Missed s true j) → v.readType s k ≠ none := by
  intro k _ hall
  rcases Nat.lt_trichotomy k i with hlt | rfl | hgt
  · exact (h.before k hlt).1
  · rw [h.reads.1]
    exact Option.some_ne_none _
  · exact absurd h.reads (hall i hgt).2.1

/-- When `GpbocDeduct` is sound. -/
lemma gpboc_iff :
    ((s.gpbocDeduct v money_deduct = some 1 ↔ v.Reported s money_deduct) ∧
      (¬ v.Reported s money_deduct → s.gpbocDeduct v money_deduct = some 0)) ↔
      (∀ i < 15, (∀ j < i, v.Missed s true j) → v.readType s i ≠ none) ∧
      ∀ i, v.CardRead s true i → money_deduct ≤ (v.card s i).gpbocMoney.toUInt32 →
        ∃ j, v.Answered (v.card s i) j := by
  by_cases hex : ∃ i, v.CardRead s true i
  · obtain ⟨i, hi⟩ := hex
    rw [and_iff_right (returns_of_cardRead hi)]
    by_cases hm : money_deduct ≤ (v.card s i).gpbocMoney.toUInt32
    · rw [gpboc_of_deducted hi hm]
      constructor
      · intro h i' hi' _
        rwa [hi'.eq hi]
      · exact fun h => h i hi hm
    · -- the balance does not suffice, and the command is not sent
      have hrep : ¬ v.Reported s money_deduct := by
        rintro ⟨i', hi', hm', -⟩
        rw [hi'.eq hi] at hm'
        exact hm hm'
      have h0 : s.gpbocDeduct v money_deduct = some 0 := by
        rw [gpbocDeduct_of_cardRead hi]
        exact if_pos (UInt32.not_le.mp hm)
      rw [h0]
      refine iff_of_true ⟨iff_of_false (by decide) hrep, fun _ => rfl⟩ fun i' hi' hm' => ?_
      rw [hi'.eq hi] at hm'
      exact absurd hm' hm
  · -- the card is not read
    have hno := not_exists.mp hex
    have hrep : ¬ v.Reported s money_deduct := fun ⟨i, hi, _⟩ => hno i hi
    rw [and_iff_left fun i hi => absurd hi (hno i)]
    rcases gpbocDeduct_of_unread money_deduct hno with
      ⟨⟨i, hi, hall, hty⟩, hnone⟩ | ⟨hhang, h0⟩
    · refine iff_of_false (fun h => ?_) fun h => h i hi hall hty
      have := h.2 hrep
      rw [hnone] at this
      cases this
    · rw [h0]
      refine iff_of_true ⟨iff_of_false (by decide) hrep, fun _ => rfl⟩ ?_
      exact fun i hi hall hty => hhang ⟨i, hi, hall, hty⟩

/-- When `SztDeduct` returns 1 exactly if the balance falls by the amount. -/
lemma szt_iff :
    ((s.sztDeduct v money).ret = some 1 ↔ v.fall (s.sztDeduct v money) = money.toInt) ↔
      ((∀ i, ¬ v.CardRead s false i) → money.toInt ≠ 0) ∧
      (∀ i, v.CardRead s false i → v.Confirmed (v.card s i) →
        (v.Shown money (v.card s i) ↔ v.onceFall = money.toInt)) ∧
      ∀ i, v.CardRead s false i → ¬ v.Confirmed (v.card s i) →
        v.onceFall + ∑ k ∈ Finset.range (v.repeats (v.card s i)), v.againFall k ≠
          money.toInt := by
  by_cases hex : ∃ i, v.CardRead s false i
  · obtain ⟨i, hi⟩ := hex
    rw [and_iff_right fun h => absurd hi (h i)]
    by_cases hc : v.Confirmed (v.card s i)
    · rw [szt_of_confirmed hi hc]
      constructor
      · intro h
        refine ⟨fun i' hi' _ => ?_, fun i' hi' hc' => ?_⟩
        · rwa [hi'.eq hi]
        · rw [hi'.eq hi] at hc'
          exact absurd hc hc'
      · exact fun h => h.1 i hi hc
    · rw [szt_of_other hi hc]
      constructor
      · intro h
        refine ⟨fun i' hi' hc' => ?_, fun i' hi' _ => ?_⟩
        · rw [hi'.eq hi] at hc'
          exact absurd hc' hc
        · rwa [hi'.eq hi]
      · exact fun h => h.2 i hi hc
  · have hno := not_exists.mp hex
    rw [szt_of_unread hno]
    exact ⟨fun h => ⟨fun _ => h, fun i hi => absurd hi (hno i), fun i hi => absurd hi (hno i)⟩,
      fun h => h.1 hno⟩

/-- A reply with the data of a card that holds 100. -/
def cardReply : Reply where
  lenH := 0
  lenL := 183
  payload := List.replicate 11 0 ++ [0xC7] ++ List.replicate 14 0 ++ [100] ++
    List.replicate 156 0 ++ [0xD5]
  length_payload := by decide +kernel

/-- The card is read, 5 are deducted, and the replies to the deduction are lost. -/
def lost : CardVisit where
  reads := fun _ => .early cardReply.stream
  presses := fun _ => false
  once := .early []
  onceFall := 5
  again := fun _ => .early []
  againFall := fun _ => 0
  reread := .early []
  rounds := fun _ => .early []

/-- The globals after power-up. -/
def started : Szt := ⟨.blank, 0, 0, 0, 0, false⟩

end Szt

end MealVendor
