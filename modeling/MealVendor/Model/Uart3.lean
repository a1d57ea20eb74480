import MealVendor.Lib.Ring
import MealVendor.Model.Data

/-!
# The bytes from the touch screen

`USART3_IRQHandler` puts the bytes of the screen into a buffer of 200 cells,
`USART3_GetChar` takes them out again.  The length of the queue is a byte; no function
compares it with the number of cells.
-/

namespace MealVendor

/-- `RX3BUF_SIZE`. -/
def rx3bufSize : ℕ := 200

/-- The receive buffer of the screen.  `rx3Buff` has 200 cells. -/
structure Uart3 where
  rx3Buff : ℕ → UInt8
  uartInpLen : UInt8
  rxIndexR : ℕ
  rxIndexW : ℕ

namespace Uart3

/-- The globals when the program starts. -/
def start : Uart3 := ⟨fun _ => 0, 0, 0, 0⟩

/-- `USART3_GetChar`: the byte it stores, if it returns 1. -/
def getChar (u : Uart3) : Option UInt8 × Uart3 :=
  if u.uartInpLen = 0 then (none, u)
  else
    (some (u.rx3Buff u.rxIndexR),
      { u with uartInpLen := u.uartInpLen - 1, rxIndexR := Lib.Ring.next rx3bufSize u.rxIndexR })

/-- `UART3_GetCharsInRxBuf`. -/
def getCharsInRxBuf (u : Uart3) : ℕ := u.uartInpLen.toNat

/-- `UART3_ClrRxBuf`. -/
def clrRxBuf (u : Uart3) : Uart3 := { u with rx3Buff := fun _ => 0 }

/-- `USART3_IRQHandler`: a byte from the screen. -/
def irq (b : UInt8) (u : Uart3) : Uart3 :=
  { u with
    uartInpLen := u.uartInpLen + 1
    rx3Buff := Function.update u.rx3Buff u.rxIndexW b
    rxIndexW := Lib.Ring.next rx3bufSize u.rxIndexW }

/-- The bytes that up to `n` calls of `USART3_GetChar` return. -/
def drain : ℕ → Uart3 → List UInt8
  | 0, _ => []
  | n + 1, u =>
    match u.getChar with
    | (some b, v) => b :: drain n v
    | (none, _) => []

/-- The readable bytes: what `USART3_GetChar` returns until it fails.  The length is a byte,
so that 256 calls are enough. -/
def readable (u : Uart3) : List UInt8 := u.drain 256

variable {u : Uart3}

lemma getChar_of_eq (h : u.uartInpLen = 0) : u.getChar = (none, u) := by
  rw [getChar, if_pos h]

lemma getChar_of_ne (h : u.uartInpLen ≠ 0) :
    u.getChar = (some (u.rx3Buff u.rxIndexR),
      { u with uartInpLen := u.uartInpLen - 1,
               rxIndexR := Lib.Ring.next rx3bufSize u.rxIndexR }) := by
  rw [getChar, if_neg h]

/-- The length byte counts the calls that succeed. -/
lemma length_drain (n : ℕ) (u : Uart3) : (u.drain n).length = min n u.getCharsInRxBuf := by
  induction n generalizing u with
  | zero => rw [Nat.zero_min]; rfl
  | succ n ih =>
    rw [drain]
    by_cases h : u.uartInpLen = 0
    · rw [getChar_of_eq h, getCharsInRxBuf, h]
      rfl
    · have hpos : 0 < u.uartInpLen := UInt8.pos_iff_ne_zero.mpr h
      have hlen : 0 < u.uartInpLen.toNat := UInt8.lt_iff_toNat_lt.mp hpos
      have hpred := UInt8.toNat_pred hpos
      rw [getChar_of_ne h, List.length_cons, ih, getCharsInRxBuf, getCharsInRxBuf, hpred]
      omega

/-- The number of readable bytes is what the program takes for it. -/
lemma length_readable (u : Uart3) : u.readable.length = u.getCharsInRxBuf := by
  rw [readable, length_drain, getCharsInRxBuf]
  have := u.uartInpLen.toNat_lt
  omega

end Uart3

end MealVendor
