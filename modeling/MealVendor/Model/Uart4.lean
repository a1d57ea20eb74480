import MealVendor.Model.Hex
import MealVendor.Model.Screen

/-!
# The bill acceptor

The bill acceptor sends lines of hexadecimal numbers.  `UART4_IRQHandler` collects a line and,
with its line feed, converts it into `BillDataBuffer`; `ReadBill` looks at the first two bytes
there, and `ReadBills` clears the buffer behind it.
-/

namespace MealVendor

/-! ## Lines of hexadecimal numbers -/

/-- The loop of `StringToHexGroup`, which takes three characters at a time; `k` numbers are
converted.  Before the end of the string it does not stop at fewer than three characters, but
then one of them is the line feed and no digit. -/
def hexGroup (out : ℕ → UInt8) (k : ℕ) : List UInt8 → (ℕ → UInt8) × Bool
  | h :: l :: c :: str =>
    match hexValue h, hexValue l with
    | some hByte, some lByte =>
      let out' := Function.update out k ((hByte <<< 4) &&& 0xf0 ||| lByte)
      if c = 0x20 then hexGroup out' (k + 1) str
      else if c = 0x0D then (out', true)
      else hexGroup out k str
    | _, _ => (out, false)
  | [] => (out, true)
  | _ => (out, false)

/-- `StringToHexGroup`. -/
def stringToHexGroup (out : ℕ → UInt8) (str : List UInt8) : (ℕ → UInt8) × Bool :=
  if str.getLast? = some 0x0A then hexGroup out 0 str else (out, false)

/-- `RX4Buffer`, as far as it is filled, and `BillDataBuffer`, which has 20 cells. -/
structure Uart4 where
  rx4Buffer : List UInt8
  billDataBuffer : ℕ → UInt8

namespace Uart4

/-- `UART4_IRQHandler`. -/
def irq (u : Uart4) (b : UInt8) : Uart4 :=
  let str := u.rx4Buffer ++ [b]
  if b = 0x0A then ⟨[], (stringToHexGroup u.billDataBuffer str).1⟩ else { u with rx4Buffer := str }

/-- `memset(BillDataBuffer, b, sizeof(BillDataBuffer))`. -/
def memset (b : UInt8) (u : Uart4) : Uart4 :=
  { u with billDataBuffer := fun i => if i < 20 then b else u.billDataBuffer i }

end Uart4

/-! ## `ReadBill` -/

/-- `BillStatus`; it is 0 before a first line with a status. -/
inductive BillStatus
  | none
  | billStacked
  | escrowRequest
  | billReturned
  | disabledBillRejected
deriving DecidableEq

/-- The `switch` over the status: another status leaves the last one. -/
def BillStatus.next (data1 : UInt8) (status : BillStatus) : BillStatus :=
  if data1 &&& 0x70 = 0x00 then .billStacked
  else if data1 &&& 0x70 = 0x10 then .escrowRequest
  else if data1 &&& 0x70 = 0x20 then .billReturned
  else if data1 &&& 0x70 = 0x40 then .disabledBillRejected
  else status

/-- `BillValue`. -/
def BillRead.ofData (data1 : UInt8) : BillRead :=
  if data1 &&& 0x0F = 0x01 then .five
  else if data1 &&& 0x0F = 0x02 then .ten
  else if data1 &&& 0x0F = 0x03 then .twenty
  else .none

/-- What `ReadBills` works on: the buffer, and the status that `ReadBill` keeps. -/
structure Bills where
  uart : Uart4
  billStatus : BillStatus

namespace Bills

/-- When the program starts. -/
def start : Bills := ⟨⟨[], fun _ => 0⟩, .none⟩

/-- The buffer is overwritten. -/
def memset (b : UInt8) (s : Bills) : Bills := { s with uart := s.uart.memset b }

/-- `ReadBill`.  For the acknowledgements 0xFF and 0x00 it returns a character, which
`ReadBills` takes for no bill; a rejected bill is an error. -/
def readBill (s : Bills) : BillRead × Bills :=
  let data0 := s.uart.billDataBuffer 0
  let data1 := s.uart.billDataBuffer 1
  if data0 = 0x30 ∧ data1 &&& 0x80 ≠ 0 then
    let s := { s with billStatus := s.billStatus.next data1 }
    match s.billStatus with
    | .billStacked => (.ofData data1, s.memset 0)
    | .disabledBillRejected => (.rejected, s)
    | _ => (.none, s)
  else (.none, s)

end Bills

end MealVendor
