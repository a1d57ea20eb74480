import MealVendor.Model.Uart4

/-!
# The cells of the bill acceptor's receiver

`Uart4` keeps the characters of the line that is being received.  `RX4Buffer` also holds what is
left of older lines: `OpenCashSystem` and `CloseCashSystem` look at its first two cells for the
answer to their command.  Here the cells, the index of the next one and every store are kept.
-/

namespace MealVendor

/-- A store of `UART4_IRQHandler`, with its index. -/
inductive BillStore
  | rx4Buffer (i : ℕ)
  | billDataBuffer (i : ℕ)
deriving DecidableEq

/-- The store is inside of the array as it is declared. -/
def BillStore.Inside : BillStore → Prop
  | rx4Buffer i => i < 40
  | billDataBuffer i => i < 20

instance BillStore.decidableInside : ∀ s : BillStore, Decidable s.Inside
  | rx4Buffer i => inferInstanceAs (Decidable (i < 40))
  | billDataBuffer i => inferInstanceAs (Decidable (i < 20))

/-- The numbers that the loop of `StringToHexGroup` stores, one after the other, and what it
returns. -/
def hexNumbers : List UInt8 → List UInt8 × Bool
  | h :: l :: c :: str =>
    match hexValue h, hexValue l with
    | some hByte, some lByte =>
      if c = 0x20 then
        let r := hexNumbers str
        (((hByte <<< 4) &&& 0xf0 ||| lByte) :: r.1, r.2)
      else if c = 0x0D then ([(hByte <<< 4) &&& 0xf0 ||| lByte], true)
      else hexNumbers str
    | _, _ => ([], false)
  | [] => ([], true)
  | _ => ([], false)

/-- The numbers that `StringToHexGroup` stores from the start of its buffer on, and what it
returns. -/
def stringNumbers (str : List UInt8) : List UInt8 × Bool :=
  if str.getLast? = some 0x0A then hexNumbers str else ([], false)

/-- `RX4Buffer` has 40 cells; the cells from 40 on are the memory behind it.  `BillDataBuffer` has
20 cells. -/
structure Rx4 where
  rx4Buffer : ℕ → UInt8
  rx4DataLen : UInt8
  billDataBuffer : ℕ → UInt8

namespace Rx4

/-- When the program starts. -/
def start : Rx4 := ⟨fun _ => 0, 0, fun _ => 0⟩

/-- The first `rx4DataLen` characters. -/
def line (r : Rx4) : List UInt8 := (List.range r.rx4DataLen.toNat).map r.rx4Buffer

/-- `RX4Buffer[rx4DataLen++] = UART4->DR`. -/
def store (b : UInt8) (r : Rx4) : Rx4 :=
  { r with
    rx4Buffer := Function.update r.rx4Buffer r.rx4DataLen.toNat b
    rx4DataLen := r.rx4DataLen + 1 }

/-- The end of a line: what could not be converted is cleared. -/
def lineEnd (r : Rx4) : Rx4 :=
  let p := stringToHexGroup r.billDataBuffer r.line
  { rx4Buffer := if p.2 then r.rx4Buffer
      else fun i => if i < r.rx4DataLen.toNat then 0 else r.rx4Buffer i
    rx4DataLen := 0
    billDataBuffer := p.1 }

/-- `UART4_IRQHandler`. -/
def irq (r : Rx4) (b : UInt8) : Rx4 := if b = 0x0A then (r.store b).lineEnd else r.store b

/-- The stores at the end of a line. -/
def lineEndStores (r : Rx4) : List BillStore :=
  let p := stringNumbers r.line
  (List.range p.1.length).map .billDataBuffer ++
    if p.2 then [] else (List.range r.rx4DataLen.toNat).map .rx4Buffer

/-- The stores of `UART4_IRQHandler`. -/
def irqStores (r : Rx4) (b : UInt8) : List BillStore :=
  .rx4Buffer r.rx4DataLen.toNat :: if b = 0x0A then (r.store b).lineEndStores else []

/-- Characters from the acceptor. -/
def receive (bs : List UInt8) (r : Rx4) : Rx4 := bs.foldl irq r

/-- The stores while characters are received. -/
def stores : Rx4 → List UInt8 → List BillStore
  | _, [] => []
  | r, b :: bs => r.irqStores b ++ (r.irq b).stores bs

/-! ## `CloseCashSystem` and `OpenCashSystem` -/

/-- `(RX4Buffer[0] == '0') && (RX4Buffer[1] == '0')`. -/
def isAck (r : Rx4) : Bool := r.rx4Buffer 0 == 0x30 && r.rx4Buffer 1 == 0x30

/-- `(RX4Buffer[0] == 'F') && (RX4Buffer[1] == 'F')`. -/
def isNack (r : Rx4) : Bool := r.rx4Buffer 0 == 0x46 && r.rx4Buffer 1 == 0x46

/-- `memset(BillDataBuffer, b, sizeof(BillDataBuffer))`. -/
def memset (b : UInt8) (r : Rx4) : Rx4 :=
  { r with billDataBuffer := fun i => if i < 20 then b else r.billDataBuffer i }

/-- The loop over `cnt_t`, with what is received in the delay before each look. -/
def poll : ℕ → List (List UInt8) → Rx4 → Bool × Rx4
  | 0, _, r => (false, r)
  | cnt + 1, air, r =>
    let r := r.receive (air.headD [])
    if r.isAck then (true, r)
    else if r.isNack then (false, r)
    else poll cnt air.tail r

end Rx4

/-- What the acceptor sends during a call: in the first delay, while the command is sent, and
before each look at the buffer. -/
structure CashAir where
  delay : List UInt8
  command : List UInt8
  polls : List (List UInt8)

namespace Rx4

/-- The call up to the end of the command, `DisableBills` or `SetBills`. -/
def sendCash (air : CashAir) (r : Rx4) : Rx4 :=
  ((r.receive air.delay).memset 0xFE).receive air.command

/-- `CloseCashSystem`. -/
def closeCashSystem (air : CashAir) (r : Rx4) : Bool × Rx4 := (r.sendCash air).poll 253 air.polls

/-- `OpenCashSystem`. -/
def openCashSystem (air : CashAir) (r : Rx4) : Bool × Rx4 := (r.sendCash air).poll 254 air.polls

end Rx4

end MealVendor
