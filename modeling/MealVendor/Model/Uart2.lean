import Mathlib.Data.UInt
import MealVendor.Model.Data

/-!
# Replies of the card reader

The reader acknowledges every command with six bytes and then replies with `00 00 ff`, the
length in two bytes, as many bytes of data, a checksum and `00`.  `USART2_IRQHandler`
stores whatever comes into one buffer, which every command empties before it is sent;
`ManageReOrderType` waits for the two parts and looks at the buffer.
-/

namespace MealVendor

/-- `Usart2DataStatus`. -/
inductive Usart2DataStatus
  | normalFlag
  | ackFlag
  | dataFlag
deriving DecidableEq

/-- `AckReturnStatus`, as far as `ManageACK` returns it. -/
inductive AckReturnStatus
  | isAck
  | isNack
  | isAckError
deriving DecidableEq

/-- `DataReStatus`, as far as `ManageRxData` returns it. -/
inductive DataReStatus
  | dataReOk
  | dataReErr
deriving DecidableEq

/-- The globals of the receiver.  `PrintBuf2` has 640 cells; the cells from 640 on are the
memory behind it. -/
structure Uart2 where
  printBuf2 : ℕ → UInt8
  printIndex2 : ℕ
  ackOver : Bool
  dataOver : Bool
  usart2Flag : Usart2DataStatus

namespace Uart2

/-- The beginning of every `Order_…` function. -/
def reset (u : Uart2) : Uart2 where
  printBuf2 := fun i => if i < 640 then 0xff else u.printBuf2 i
  printIndex2 := 0
  ackOver := false
  dataOver := false
  usart2Flag := .normalFlag

/-- The length that the buffer holds, in bytes 9 and 10. -/
def rxLen (u : Uart2) : ℕ := 256 * (u.printBuf2 9).toNat + (u.printBuf2 10).toNat

/-- A byte is stored. -/
def store (b : UInt8) (u : Uart2) : Uart2 :=
  { u with
    printBuf2 := Function.update u.printBuf2 u.printIndex2 b
    printIndex2 := u.printIndex2 + 1 }

/-- The flags for the acknowledgement. -/
def ackStatus (u : Uart2) : Uart2 :=
  if u.printIndex2 < 6 then { u with ackOver := false, usart2Flag := .ackFlag }
  else if u.printIndex2 = 6 then { u with ackOver := true }
  else { u with usart2Flag := .dataFlag }

/-- The flag for the reply, once its length is there. -/
def dataStatus (u : Uart2) : Uart2 :=
  if 11 ≤ u.printIndex2 then { u with dataOver := decide (u.rxLen + 13 ≤ u.printIndex2) } else u

/-- `USART2_IRQHandler`: a byte from the reader. -/
def irq (b : UInt8) (u : Uart2) : Uart2 := (u.store b).ackStatus.dataStatus

/-- Bytes from the reader. -/
def receive (bs : List UInt8) (u : Uart2) : Uart2 := bs.foldl (fun u b => u.irq b) u

/-- The first `n` bytes of the buffer. -/
def front (n : ℕ) (u : Uart2) : List UInt8 := (List.range n).map u.printBuf2

/-- `ManageACK`. -/
def manageACK (u : Uart2) : AckReturnStatus :=
  if u.front 6 = [0x00, 0x00, 0xff, 0x00, 0xff, 0x00] then .isAck
  else if u.front 6 = [0x00, 0x00, 0xff, 0xff, 0x00, 0x00] then .isNack
  else .isAckError

/-- The cells that the loop of `ManageRxData` adds up. -/
def summed (u : Uart2) : List ℕ := List.range' 11 (u.rxLen + 1)

/-- The cells that `ManageRxData` reads. -/
def reads (u : Uart2) : List ℕ := u.summed ++ [6, 7, 8, 9, 10, u.printIndex2 - 1]

/-- `ManageRxData`.  Its loop counts in a `uint16_t` up to one more than the length: with the
length 0xffff, which is what an empty buffer holds, it does not end. -/
def manageRxData (u : Uart2) : Option DataReStatus :=
  if u.rxLen = 0xffff then none
  else
    let sumdata := (u.summed.map u.printBuf2).sum
    some (if sumdata = 0 ∧ u.printBuf2 6 = 0x00 ∧ u.printBuf2 7 = 0x00 ∧ u.printBuf2 8 = 0xff ∧
        u.printBuf2 (u.printIndex2 - 1) = 0x00 then .dataReOk else .dataReErr)

/-- The loop of `ManageRxData` with the counter `i`: the sum if it ends within `fuel` rounds, and
the cells that are read. -/
def rxLoop (u : Uart2) : ℕ → UInt16 → UInt8 → Option UInt8 × List ℕ
  | 0, _, _ => (none, [])
  | fuel + 1, i, sumdata =>
    if i.toNat < u.rxLen + 1 then
      let r := u.rxLoop fuel (i + 1) (sumdata + u.printBuf2 (11 + i.toNat))
      (r.1, 9 :: 10 :: (11 + i.toNat) :: r.2)
    else (some sumdata, [9, 10])

/-- Comparisons joined by `&&`: whether all hold, and the cells that are read. -/
def testCells (u : Uart2) : List (ℕ × UInt8) → Bool × List ℕ
  | [] => (true, [])
  | (i, b) :: tests =>
    if u.printBuf2 i = b then
      let r := u.testCells tests
      (r.1, i :: r.2)
    else (false, [i])

/-- `PrintIndex2 - 1` as `uint32_t`. -/
def lastCell (u : Uart2) : ℕ := if u.printIndex2 = 0 then 0xffffffff else u.printIndex2 - 1

/-- `ManageRxData` with its loop: what it returns if the loop ends within `fuel` rounds, and the
cells that it reads. -/
def rxRun (u : Uart2) (fuel : ℕ) : Option DataReStatus × List ℕ :=
  match u.rxLoop fuel 0 0 with
  | (none, cells) => (none, cells)
  | (some sumdata, cells) =>
    if sumdata = 0 then
      let t := u.testCells [(6, 0x00), (7, 0x00), (8, 0xff), (u.lastCell, 0x00)]
      (some (if t.1 then .dataReOk else .dataReErr), cells ++ t.2)
    else (some .dataReErr, cells)

end Uart2

/-- What the reader sends: up to the time when `ManageACK` looks at the buffer, from there until
`ManageRxData` looks at it, until the type of the reply is read, and until its data are
read. -/
structure Answer where
  toAck : List UInt8
  toData : List UInt8
  toType : List UInt8
  toRead : List UInt8

namespace Answer

/-- Everything has come before the program looks for it. -/
def early (bs : List UInt8) : Answer := ⟨bs, [], [], []⟩

/-- The bytes of the answer. -/
def bytes (a : Answer) : List UInt8 := a.toAck ++ a.toData ++ a.toType ++ a.toRead

/-- `ManageReOrderType`.  Its waiting loops end with a flag or after some time. -/
def manageReOrderType (a : Answer) (u : Uart2) : Option UInt8 :=
  let uAck := u.receive a.toAck
  let uData := uAck.receive a.toData
  let uType := uData.receive a.toType
  if uAck.manageACK = .isAck then
    uData.manageRxData.map fun r => if r = .dataReOk then uType.printBuf2 22 else 0
  else some 0

end Answer

end MealVendor
