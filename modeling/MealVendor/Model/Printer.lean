import MealVendor.Model.Main
import MealVendor.Model.Network

/-!
# The receipt

Point 9 of `WaitPayMoney` copies what is to be printed into `Print_Struct`, field by field into
bytes.  The receipt is printed later, by the message `bill_print` of the screen, and takes some of
its numbers from `UserAct` as it is then.
-/

namespace MealVendor

/-! ## What is saved for the printer -/

/-- `P_stuction`, as far as the program writes to it. -/
structure PStuction where
  /-- `P_Number1st` … -/
  pNumber : Kind → UInt8
  /-- `P_Cost1st` … -/
  pCost : Kind → UInt8
  pPaymoney : UInt8
  pPayShould : UInt8
  pMoneyBack : UInt8

namespace PStuction

/-- `Print_Struct` when the program starts. -/
def zero : PStuction := ⟨fun _ => 0, fun _ => 0, 0, 0, 0⟩

/-- The stores of point 9 of `WaitPayMoney`. -/
def fill (u : UserSelection) : PStuction where
  pNumber := u.mealCnt
  pCost := fun k => (u.mealCost k).toUInt8
  pPaymoney :=
    UInt8.ofNat (u.payForBills.toNat + u.payForCoins.toNat + u.payForCards.toNat)
  pPayShould := u.payShould.toUInt8
  pMoneyBack := UInt8.ofInt u.moneyBack.toInt

end PStuction

/-! ## The lines -/

/-- A digit as it is printed: `n + '0'`. -/
def digitChar (n : ℕ) : UInt8 := UInt8.ofNat (n + 0x30)

/-- Three digits from cell `i` on. -/
def setThree (i v : ℕ) (p : List UInt8) : List UInt8 :=
  ((p.set i (digitChar (v / 100))).set (i + 1) (digitChar (v % 100 / 10))).set (i + 2)
    (digitChar (v % 100 % 10))

/-- Two digits from cell `i` on. -/
def setTwo (i : ℕ) (v : UInt8) (p : List UInt8) : List UInt8 :=
  (p.set i (digitChar (v.toNat / 10))).set (i + 1) (digitChar (v.toNat % 10))

/-- `p0` of `SPRT`: due, received and change. -/
def amountsText : List UInt8 :=
  [0xd3, 0xa6, 0xca, 0xd5, 0x3a, 0x32, 0x30, 0x31, 0xd2, 0xd1, 0xca, 0xd5, 0x3a, 0x20, 0x20, 0x20,
    0xd5, 0xd2, 0xbb, 0xd8, 0x3a, 0x20, 0x20, 0x20, 0x0d, 0x0a]

/-- `p1`: the time, `2013-12-15-12:30:00`. -/
def timeText : List UInt8 :=
  [0xca, 0xb1, 0xbc, 0xe4, 0x3a, 0x32, 0x30, 0x31, 0x33, 0x2d, 0x31, 0x32, 0x2d, 0x31, 0x35, 0x2d,
    0x31, 0x32, 0x3a, 0x33, 0x30, 0x3a, 0x30, 0x30, 0x0d, 0x0a]

/-- The names in `p2` to `p5`. -/
def nameText : Kind → List UInt8
  | 0 => [0xba, 0xfa, 0xc2, 0xdc, 0xb2, 0xb7, 0xb3, 0xb4, 0xb5, 0xb0]
  | 1 => [0xcf, 0xe3, 0xb9, 0xbd, 0xbb, 0xac, 0xbc, 0xa6, 0x20, 0x20]
  | 2 => [0xb4, 0xe0, 0xc6, 0xa4, 0xbf, 0xbe, 0xd1, 0xbc, 0x20, 0x20]
  | 3 => [0xba, 0xec, 0xc9, 0xd5, 0xd3, 0xe3, 0xbf, 0xe9, 0x20, 0x20]

/-- `p2` to `p5`: the name, the count, the price and the total, `1\t15\t015`. -/
def mealText (k : Kind) : List UInt8 :=
  nameText k ++ [0x31, 0x09, 0x31, 0x35, 0x09, 0x30, 0x31, 0x35, 0x0d, 0x0a]

/-- The heads of the columns: name, count, price and total. -/
def headText : List UInt8 :=
  [0xb2, 0xcb, 0xc6, 0xb7, 0x09, 0xca, 0xfd, 0xc1, 0xbf, 0x09, 0xb5, 0xa5, 0xbc, 0xdb, 0x09, 0xbd,
    0xf0, 0xb6, 0xee, 0x0d, 0x0a]

/-- `"支付方式："`. -/
def payText : List UInt8 := [0xd6, 0xa7, 0xb8, 0xb6, 0xb7, 0xbd, 0xca, 0xbd, 0xa3, 0xba]

/-- The line for the way of payment: bank card, cash or Shenzhen Tong card. -/
def payTypeText (payType : UInt8) : List UInt8 :=
  if payType = '2'.toUInt8 then
    payText ++ [0xd2, 0xf8, 0xd0, 0xd0, 0xbf, 0xa8, 0xd6, 0xa7, 0xb8, 0xb6, 0x0d, 0x0a]
  else if payType = '1'.toUInt8 then
    payText ++ [0xcf, 0xd6, 0xbd, 0xf0, 0xd6, 0xa7, 0xb8, 0xb6, 0x0d, 0x0a]
  else if payType = '3'.toUInt8 then
    payText ++ [0xc9, 0xee, 0xdb, 0xda, 0xcd, 0xa8, 0xd6, 0xa7, 0xb8, 0xb6, 0x0d, 0x0a]
  else []

/-- What `printf("%s", p)` prints: the characters before the first 0. -/
def printed (p : List UInt8) : List UInt8 := p.takeWhile fun c => c != 0

/-! ## Printing -/

/-- The first half of `COPY`.  The amount due is the one of `UserAct`, not of `Print_Struct`. -/
def copyAmounts (p : PStuction) (u : UserSelection) (p0 : List UInt8) : List UInt8 :=
  setThree 21 p.pMoneyBack.toNat (setThree 13 p.pPaymoney.toNat (setThree 5 u.payShould.toNat p0))

/-- The second half of `COPY`. -/
def copyTime (a : StructTD) (p1 : List UInt8) : List UInt8 :=
  setTwo 22 a.senconds (setTwo 19 a.minutes (setTwo 16 a.hours (setTwo 13 a.date
    (setTwo 10 a.month (setTwo 7 a.year ((p1.set 5 0x32).set 6 0x30))))))

/-- The line of a kind: the last digit of the count, and the total of `UserAct`. -/
def copyMeal (p : PStuction) (u : UserSelection) (k : Kind) : List UInt8 :=
  setThree 15 (u.mealCost k).toNat
    ((mealText k).set 10 (digitChar ((p.pNumber k).toNat % 10)))

/-- What `SPRT` sends to the printer. -/
structure Ticket where
  /-- The lines of the kinds that were bought. -/
  meals : Kind → Option (List UInt8)
  amounts : List UInt8
  time : List UInt8
  payType : List UInt8

/-- `SPRT`. -/
def sprt (now : StructTD) (p : PStuction) (u : UserSelection) : Ticket where
  meals := fun k => if 0 < p.pNumber k then some (printed (copyMeal p u k)) else none
  amounts := printed (copyAmounts p u amountsText)
  time := printed (copyTime now timeText)
  payType := payTypeText u.payType

/-- The bytes on the line to the printer, with the paper feed and the cut at the end. -/
def Ticket.bytes (t : Ticket) : List UInt8 :=
  [0x0d, 0x0a] ++ headText ++ (List.finRange 4).flatMap (fun k => (t.meals k).getD []) ++
    t.amounts ++ t.time ++ t.payType ++ [0x1b, 0x64, 0x06] ++ [0x1d, 0x56, 0x01]

/-! ## The machine with its printer -/

/-- Whether `WaitPayMoney` returns `Status_OK` in this step. -/
def returnsOk (s : Machine) (e : Event) : Bool :=
  e.runs && decide (s.session.pc = .switch ∧ s.session.current = .waitforMoney ∧
    s.session.currentPoint = .p9)

/-- The machine, `Print_Struct`, and the selection when `WaitPayMoney` returned `Status_OK` last. -/
structure Printer where
  machine : Machine
  printStruct : PStuction
  paid : Option UserSelection

namespace Printer

/-- Nothing has been sold. -/
def start (s : Machine) : Printer := ⟨s, PStuction.zero, none⟩

/-- One step.  Point 9 fills `Print_Struct` behind its stores to `UserAct`. -/
def step (p : Printer) (e : Event) : Option Printer :=
  (MealVendor.step p.machine e).map fun t =>
    if returnsOk p.machine e then
      ⟨t, PStuction.fill p.machine.session.userAct.complete,
        some p.machine.session.userAct.complete⟩
    else ⟨t, p.printStruct, p.paid⟩

/-- What is printed in a step: `PrintTickFun` calls `SPRT` for the message `bill_print` with
value 1. -/
def receipt (now : StructTD) (p : Printer) : Event → Option Ticket
  | .screen f _ =>
    if p.machine.session.pc.deals ∧ f.variable = some .billPrint ∧ f.data1 = 1 then
      some (sprt now p.printStruct p.machine.session.userAct)
    else none
  | _ => none

end Printer

end MealVendor
