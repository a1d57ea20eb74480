import MealVendor.Lib.Retry
import MealVendor.Model.Uart2

/-!
# Paying with a card

`SztDeduct` and `GpbocDeduct` read the card, send the command to deduct and decide whether the
meals are paid.  What the reader answers, when cancel is pressed and what becomes of the
balance on the card is given from outside.
-/

namespace MealVendor

/-- Four bytes of the buffer from `i` on, as `int32_t`. -/
def Uart2.le32 (u : Uart2) (i : ℕ) : Int32 :=
  Int32.ofNat ((u.printBuf2 i).toNat + 256 * (u.printBuf2 (i + 1)).toNat +
    65536 * (u.printBuf2 (i + 2)).toNat + 16777216 * (u.printBuf2 (i + 3)).toNat)

/-- The globals that the two payments use: the receiver, the balances of `UpReadCardData`,
`SztReductInf`, and `cardbalence_cancel_flag`. -/
structure Szt where
  uart : Uart2
  sztMoney : Int32
  gpbocMoney : Int32
  beginMoney : Int32
  endMoney : Int32
  cancelFlag : Bool

/-- What comes from outside during a payment: the answers to the commands, whether cancel is
pressed while `DealSeriAceptData` runs after a try to read the card, and by how much the
balance on the card falls with each command to deduct. -/
structure CardVisit where
  reads : ℕ → Answer
  presses : ℕ → Bool
  once : Answer
  onceFall : ℤ
  again : ℕ → Answer
  againFall : ℕ → ℤ
  reread : Answer
  rounds : ℕ → Answer

namespace Szt

/-- An `Order_…` function, as far as the receiver is concerned. -/
def order (s : Szt) : Szt := { s with uart := s.uart.reset }

/-- Bytes of the reader arrive. -/
def receive (bs : List UInt8) (s : Szt) : Szt := { s with uart := s.uart.receive bs }

/-- `ManageGpbocReadCard`. -/
def manageGpbocReadCard (s : Szt) : UInt8 × Szt :=
  let t := if s.uart.printBuf2 27 = 0x00 then { s with sztMoney := s.uart.le32 37 } else s
  let t := if s.uart.printBuf2 27 = 0x00 ∧ s.uart.printBuf2 105 ≠ 0 then
    { t with gpbocMoney := s.uart.le32 126 } else t
  (s.uart.printBuf2 27 + 1, t)

/-- The two functions that read the reply to a command to deduct do the same. -/
def manageSztDeduct (s : Szt) : UInt8 × Szt :=
  let t := if s.uart.printBuf2 27 = 0x00 then
    { s with beginMoney := s.uart.le32 28, endMoney := s.uart.le32 32 } else s
  (s.uart.printBuf2 27 + 1, t)

/-- `ManageSztDeductOnce`. -/
def manageSztDeductOnce (s : Szt) : UInt8 × Szt := s.manageSztDeduct

/-- `ManageSztDeductAgain`. -/
def manageSztDeductAgain (s : Szt) : UInt8 × Szt := s.manageSztDeduct

/-- `ManageGpbocDeduct`; what it copies is only shown and printed. -/
def manageGpbocDeduct (s : Szt) : UInt8 := s.uart.printBuf2 27 + 1

/-- `DealSeriAceptData` between two tries: a press of cancel sets the flag. -/
def dealSeriAceptData (press : Bool) (s : Szt) : Szt :=
  { s with cancelFlag := s.cancelFlag || press }

/-- How the loop that reads the card ends: the reception of a reply does not return, cancel was
pressed, or the card is read. -/
inductive ReadEnd
  | hangs
  | cancelled (s : Szt)
  | read (s : Szt)

/-- A try of the loops `loop5` and `loop6`, on the result of the last reading and the globals.
`GpbocDeduct` handles the screen first and then looks at the flag, `SztDeduct` the other way
round. -/
def readTry (screenFirst : Bool) (v : CardVisit) (i : ℕ) (x : UInt8 × Szt) :
    (UInt8 × Szt) ⊕ ReadEnd :=
  let s := x.2.order
  match (v.reads i).manageReOrderType s.uart with
  | none => .inr .hangs
  | some temp =>
    let s := s.receive (v.reads i).bytes
    let (flag0, s) := if temp = 0xC7 then s.manageGpbocReadCard else (x.1, s)
    if flag0 = 0x01 then .inr (.read s)
    else
      let t := s.dealSeriAceptData (v.presses i)
      if (if screenFirst then t else s).cancelFlag then
        .inr (.cancelled { (if screenFirst then t else s) with cancelFlag := false })
      else .inl (flag0, t)

/-- From `loop7` up to the test of `flag3`: a repeat of the deduction.  The type of the reply is
not looked at; `ManageSztDeductAgain` is called in its place. -/
def deductAgain (v : CardVisit) (k : ℕ) (s : Szt) : Bool × Szt :=
  let (temp, s) := (s.order.receive (v.again k).toAck).manageSztDeductAgain
  if temp = 0x83 then
    let (flag2, s) := (s.receive (v.again k).toData).manageSztDeductAgain
    (flag2 = 1, s)
  else (false, s)

/-- A jump back to `loop7`; it ends the loop with the number of repeats when `flag3` is set. -/
def againTry (v : CardVisit) (k : ℕ) (s : Szt) : Szt ⊕ (ℕ × Szt) :=
  let (flag3, s) := s.deductAgain v k
  if flag3 then .inr (k + 1, s) else .inl s

/-- The end of `SztDeduct` when `flag3` is set: the two balances of the reply, or else the
balances of two readings in `uint8_t`. -/
def settle (v : CardVisit) (money : Int32) (fristMoney : UInt8) (s : Szt) : Option UInt8 :=
  if s.beginMoney - s.endMoney = money then some 1
  else
    (v.reread.manageReOrderType s.order.uart).map fun (temp : UInt8) =>
      let s := s.order.receive v.reread.bytes
      let (flag4, s) := if temp = 0xC7 then s.manageGpbocReadCard else (0, s)
      let endMoney := if flag4 = 0x01 then s.sztMoney.toUInt32.toUInt8 else fristMoney
      if flag4 = 0x01 ∧ (fristMoney.toNat : ℤ) - endMoney.toNat = money.toInt then 1 else 0

/-- A run of `SztDeduct`: what it returns if it returns, whether `Order_SztDeductOnce` was sent
and how often `Order_SztDeductAgain`. -/
structure SztRun where
  ret : Option UInt8
  once : Bool
  again : ℕ
deriving DecidableEq

/-- `SztDeduct` behind `Order_SztDeductOnce`. -/
def sztDeductOnce (v : CardVisit) (money : Int32) (s : Szt) : SztRun :=
  let fristMoney := s.sztMoney.toUInt32.toUInt8
  match v.once.manageReOrderType s.order.uart with
  | none => ⟨none, true, 0⟩
  | some temp =>
    let s := s.order.receive v.once.bytes
    let (flag1, s) := if temp = 0x43 then s.manageSztDeductOnce else (0, s)
    if flag1 = 1 then ⟨s.settle v money fristMoney, true, 0⟩
    else
      -- with 0x52 a repeat is made before `tempcount` starts
      match Lib.attempts (againTry v) (if flag1 = 0x52 then 5 else 4) 0 s with
      | .inr (n, s) => ⟨s.settle v money fristMoney, true, n⟩
      | .inl _ => ⟨some 0, true, if flag1 = 0x52 then 5 else 4⟩

/-- `SztDeduct`. -/
def sztDeduct (v : CardVisit) (money : Int32) (s : Szt) : SztRun :=
  match Lib.attempts (readTry false v) 15 0 (0, { s with beginMoney := 0, endMoney := 0 }) with
  | .inr (.read s) => s.sztDeductOnce v money
  | .inr .hangs => ⟨none, false, 0⟩
  | .inr (.cancelled _) | .inl _ => ⟨some 0, false, 0⟩

/-- One of the twenty rounds that look for the reply to `Order_Gpboc_Deduct`; all of them look
at what has come since the command. -/
def round (v : CardVisit) (i : ℕ) (s : Szt) : Szt ⊕ Option UInt8 :=
  match (v.rounds i).manageReOrderType s.uart with
  | none => .inr none
  | some orderFlag1 =>
    let s := s.receive (v.rounds i).bytes
    if orderFlag1 = 0xC9 then .inr (some (if s.manageGpbocDeduct = 1 then 1 else 0)) else .inl s

/-- `GpbocDeduct` behind the reading of the card.  Behind the twentieth round the function ends
without a `return`. -/
def gpbocDeductRead (v : CardVisit) (money_deduct : UInt32) (s : Szt) : Option UInt8 :=
  if s.gpbocMoney.toUInt32 < money_deduct then some 0
  else
    match Lib.attempts (round v) 20 0 s.order with
    | .inr r => r
    | .inl _ => none

/-- `GpbocDeduct`: the value it returns, if it returns one. -/
def gpbocDeduct (v : CardVisit) (money_deduct : UInt32) (s : Szt) : Option UInt8 :=
  match Lib.attempts (readTry true v) 15 0 (0, s) with
  | .inr (.read s) => s.gpbocDeductRead v money_deduct
  | .inr .hangs => none
  | .inr (.cancelled _) | .inl _ => some 0

end Szt

end MealVendor
