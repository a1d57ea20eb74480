import MealVendor.Model.Screen
import MealVendor.Model.Uart3

/-!
# Messages in the bytes from the touch screen

`DealSeriAceptData` looks for messages in the receive buffer as long as at least nine bytes
are readable, and calls `ChangeVariableValues` for each of them.  The arrays it stores into
are local; a store behind the end of one is recorded like any other.  The message
register (command 0x81) is copied and not used.
-/

namespace MealVendor

/-- `FH0` and `FH1`, the first two bytes of a message. -/
def fh0 : UInt8 := 0x5A

def fh1 : UInt8 := 0xA5

/-- A store into one of the arrays of `DealSeriAceptData`. -/
inductive Store
  | rx3DataBuff (i : ℕ)
  | registerData (i : ℕ)
  | variableData (i : ℕ)
deriving DecidableEq

/-- `Rx3DataBuff[10]`, `RegisterData[5]` and `VariableData[5]`. -/
def Store.Inside : Store → Prop
  | .rx3DataBuff i => i < 10
  | .registerData i => i < 5
  | .variableData i => i < 5

instance : ∀ o : Store, Decidable o.Inside
  | .rx3DataBuff _ => inferInstanceAs (Decidable (_ < _))
  | .registerData _ => inferInstanceAs (Decidable (_ < _))
  | .variableData _ => inferInstanceAs (Decidable (_ < _))

/-- The receive buffer and the variables of `DealSeriAceptData`.  `calls` are the calls of
`ChangeVariableValues`: the address, the first two bytes of the data, and the length. -/
structure Seri where
  uart : Uart3
  length : UInt8
  checkout : UInt8
  rx3DataBuff : ℕ → UInt8
  variableData : ℕ → UInt8
  stores : List Store
  calls : List (Frame × UInt8)

namespace Seri

/-- From `loop` on: the second byte of a message, which may come after more first bytes, and
the length byte. -/
def loop : ℕ → Uart3 → Option UInt8 × Uart3
  | 0, u => (none, u)
  | n + 1, u =>
    match u.getChar with
    | (none, v) => (none, v)
    | (some temp1, v) =>
      if temp1 = fh1 then v.getChar
      else if temp1 = fh0 then loop n v
      else (none, v)

/-- One or more bytes are read, and `length` and `checkout` are set if they are the head of a
message.  Every turn of `loop` takes a byte. -/
def head (s : Seri) : Seri :=
  match s.uart.getChar with
  | (none, u) => { s with uart := u }
  | (some temp, u) =>
    if temp = fh0 then
      match loop (u.getCharsInRxBuf + 1) u with
      | (some l, v) => { s with uart := v, length := l, checkout := 1 }
      | (none, v) => { s with uart := v }
    else { s with uart := u }

/-- The loop that reads `n` bytes into `Rx3DataBuff` from cell `i` on.  Nothing is stored when
`USART3_GetChar` fails. -/
def fill : ℕ → ℕ → Seri → Seri
  | 0, _, s => s
  | n + 1, i, s =>
    match s.uart.getChar with
    | (some b, u) =>
      fill n (i + 1) { s with
        uart := u
        rx3DataBuff := Function.update s.rx3DataBuff i b
        stores := s.stores ++ [.rx3DataBuff i] }
    | (none, u) => fill n (i + 1) { s with uart := u }

/-- The message in `Rx3DataBuff` is dealt with. -/
def dispatch (s : Seri) : Seri :=
  if s.rx3DataBuff 0 = 0x81 then
    { s with
      stores := s.stores ++ (List.range (s.length.toNat - 2)).map .registerData }
  else if s.rx3DataBuff 0 = 0x83 then
    let n := s.length.toNat - 4
    let data := fun i => if i < n then s.rx3DataBuff (4 + i) else s.variableData i
    { s with
      variableData := data
      stores := s.stores ++ (List.range n).map .variableData
      calls := s.calls ++
        [(⟨UInt16.ofNat (256 * (s.rx3DataBuff 1).toNat + (s.rx3DataBuff 2).toNat), data 0, data 1⟩,
          s.rx3DataBuff 3)] }
  else s

/-- One round of the loop of `DealSeriAceptData`. -/
def round (s : Seri) : Seri :=
  let s := s.head
  if s.checkout = 1 then (fill s.length.toNat 0 { s with checkout := 0 }).dispatch else s

/-- Up to `n` rounds. -/
def rounds : ℕ → Seri → Seri
  | 0, s => s
  | n + 1, s => if 9 ≤ s.uart.getCharsInRxBuf then rounds n s.round else s

end Seri

/-- `DealSeriAceptData`.  `length` and `checkout` are not initialised.  Every round takes a
byte out of the buffer. -/
def dealSeriAceptData (length checkout : UInt8) (u : Uart3) : Seri :=
  Seri.rounds u.getCharsInRxBuf ⟨u, length, checkout, fun _ => 0, fun _ => 0, [], []⟩

/-! ## Calls one after the other -/

/-- The bytes that arrive before a call of `DealSeriAceptData`, and what the call finds in its
uninitialised variables. -/
structure Visit where
  bytes : List UInt8
  length : UInt8
  checkout : UInt8

/-- The receive buffer, and the stores and calls so far. -/
structure Touch where
  uart : Uart3
  stores : List Store
  calls : List (Frame × UInt8)

namespace Touch

/-- The receive buffer when the program starts. -/
def start : Touch := ⟨.start, [], []⟩

/-- Bytes arrive. -/
def arrive (bs : List UInt8) (u : Uart3) : Uart3 := bs.foldl (fun u b => u.irq b) u

/-- Some bytes arrive, then `DealSeriAceptData` is called. -/
def visit (s : Touch) (v : Visit) : Option Touch :=
  let d := dealSeriAceptData v.length v.checkout (arrive v.bytes s.uart)
  some ⟨d.uart, s.stores ++ d.stores, s.calls ++ d.calls⟩

end Touch

end MealVendor
