import MealVendor.Model.Arm

/-!
# Taking the money

`WaitPayMoney` is called once in every round of the main program and does one point of its
own little state machine.  Points 7 and 8, the two kinds of cards, wait for the card and
deal with the messages of the screen in between.
-/

namespace MealVendor

namespace UserSelection

/-- A bill of this value has been read. -/
def addBill (value : ℕ) (u : UserSelection) : UserSelection :=
  { u with
    payAlready := u.payAlready + UInt16.ofNat value
    payForBills := u.payForBills + UInt16.ofNat value }

/-- What is still to be paid: `PayShould - PayAlready`, as an `int`. -/
def outstanding (u : UserSelection) : ℤ := u.payShould.toNat - u.payAlready.toNat

/-- The test of point 6. -/
def enough (u : UserSelection) : Bool :=
  decide (u.payShould.toNat ≤ u.payAlready.toNat + u.payForCards.toNat)

/-- A card was debited: what is to be paid now is taken for the amount. -/
def addCard (u : UserSelection) : UserSelection :=
  { u with
    payForCards := u.payShould - u.payAlready
    payAlready := u.payAlready + (u.payShould - u.payAlready) }

/-- Point 9: the change. -/
def complete (u : UserSelection) : UserSelection :=
  { u with
    moneyBack := Int16.ofInt ((u.payAlready.toNat : ℤ) - u.payShould.toNat)
    mealTotoal := u.total }

end UserSelection

namespace Session

/-- `WaitPayMoney` has run out of time. -/
def timeout (s : Session) : Session :=
  let s := { s with currentPoint := .p0, userAct := s.userAct.payBack }.clearUserBuffer
  (if 0 < s.userAct.moneyBack then { s with current := .hpperOut } else s).emit .timeout

@[simp] lemma timeout_userAct (s : Session) :
    s.timeout.userAct = s.userAct.payBack.clearUserBuffer := by
  rw [timeout]
  split_ifs <;> rfl

@[simp] lemma timeout_currentPoint (s : Session) : s.timeout.currentPoint = .p0 := by
  rw [timeout]
  split_ifs <;> rfl

@[simp] lemma timeout_trace (s : Session) : s.timeout.trace = .timeout :: .clear :: s.trace := by
  rw [timeout]
  split_ifs <;> rfl

/-- Point 3 with a bill of this value, or with none. -/
def readBills (value : ℕ) (s : Session) : Session :=
  let s' := { s with currentPoint := .p5 }
  if value = 0 then s'
  else { s' with userAct := s.userAct.addBill value }.emit (.bill value)

lemma readBills_of_ne {value : ℕ} (h : value ≠ 0) (s : Session) :
    s.readBills value =
      { s with currentPoint := .p5, userAct := s.userAct.addBill value }.emit (.bill value) := by
  simp only [readBills, h, if_false]

/-- A card was debited. -/
def cardPaid (money : ℤ) (s : Session) : Session :=
  { s with currentPoint := .p6, userAct := s.userAct.addCard }.emit (.debit money)

/-- A card was not debited: another way to pay can be chosen. -/
def cardRefused (s : Session) : Session :=
  { s with currentPoint := .p1, userAct := { s.userAct with payType := 0 } }

/-- Point 9 and what the main program does after `Status_OK`. -/
def statusOk (s : Session) : Session :=
  let u := s.userAct.complete
  { s with
    currentPoint := .p0
    current := .hpperOut
    userAct := { u with cancle := 0, mealTakeout := 0 } }.emit (.paid u)

end Session

namespace Machine

/-- The end of `WaitPayMoney`: the time may have run out. -/
def payTail (s : Machine) : Machine :=
  (if s.timers.waitTime = 0 then
    (s.resetCoinsCount.onTimers Timers.waitTimeInit).onSession Session.timeout
  else s).goto .deal

/-- The end of a card payment. -/
def cardEnd (paid : Option ℤ) (s : Machine) : Machine :=
  (match paid with
    | some money => s.onSession (Session.cardPaid money)
    | none => (s.onTimers Timers.waitTimeInit).onSession Session.cardRefused).goto .payTail

/-- `WaitPayMoney` goes on at another point. -/
def nextPoint (p : CurrentPoint) (s : Machine) : Machine :=
  (s.onSession fun t => { t with currentPoint := p }).goto .payTail

/-- The pay type is set. -/
def payType (c : Char) (s : Machine) : Machine :=
  s.onSession fun t => { t with userAct := { t.userAct with payType := c.toUInt8 } }

/-- The beginning of points 7 and 8. -/
def beginCard (szt : Bool) (s : Machine) : Machine :=
  ((s.onTimers Timers.waitTimeInit).payType (if szt then '3' else '2')).goto
    (.cardRead szt s.session.userAct.outstanding 0)

/-- Point 9 and what the main program does after `Status_OK`. -/
def statusOk (s : Machine) : Machine :=
  let s := (s.onTimers fun t => t.closeTIM7.closeTIM3).onSession Session.statusOk
  let s := { s with moneyBack := s.session.userAct.moneyBack.toInt * 100 }
  (if s.session.userAct.payType = '1'.toUInt8 then s.resetCoinsCount else s).goto .deal

/-- The `switch` of `WaitPayMoney`. -/
def waitPayMoney (io : Io) (s : Machine) : Machine :=
  match s.session.currentPoint with
  | .p0 => s.goto .payTail
  | .p1 => if s.timers.waitTime < 56 then (s.payType '1').nextPoint .p3 else s.goto .payTail
  | .p2 => (s.payType '1').nextPoint .p3
  | .p3 =>
    if io.bill = .rejected then s.abnormalHandle billsetErro .bill
    else (s.onSession (Session.readBills io.bill.value)).goto .payTail
  | .p5 => s.nextPoint .p6
  | .p6 => s.nextPoint (if s.session.userAct.enough then .p9 else .p3)
  | .p7 => s.beginCard false
  | .p8 => s.beginCard true
  | .p9 => s.statusOk

/-- A card is read.  The bank card must hold the amount, which is compared without its
sign. -/
def cardRead (szt : Bool) (money : ℤ) (cnt : ℕ) (io : Io) (s : Machine) : Machine :=
  if io.ok then
    if szt ∨ 0 ≤ money then
      (s.emit (.request money s.session.userAct.outstanding)).goto (.cardDeduct szt money)
    else s.cardEnd none
  else if szt ∧ s.cardbalenceCancelFlag then { s with cardbalenceCancelFlag := false }.cardEnd none
  else s.goto (.cardDeal szt money (cnt + 1))

/-- The screen has been dealt with, and the card is tried again up to 15 times. -/
def cardDeal (szt : Bool) (money : ℤ) (cnt : ℕ) (s : Machine) : Machine :=
  if ¬ szt ∧ s.cardbalenceCancelFlag then { s with cardbalenceCancelFlag := false }.cardEnd none
  else if cnt < 15 then s.goto (.cardRead szt money cnt)
  else s.cardEnd none

/-- The answer to the debit. -/
def cardDeduct (money : ℤ) (io : Io) (s : Machine) : Machine :=
  s.cardEnd (if io.ok then some money else none)

end Machine

end MealVendor
