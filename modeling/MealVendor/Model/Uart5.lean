import Mathlib.Logic.Function.Iterate
import MealVendor.Lib.Transition
import Mathlib.Tactic.SplitIfs

/-!
# Frames of the server

A frame is `0x02`, a command, the length of the payload, the payload, `0x03` and a checksum of
everything between.  `MealComparefunDemo` builds frames, `UART5_IRQHandler` receives them byte by
byte.
-/

namespace MealVendor

/-! ## The checksum -/

/-- One round of the loop over the bits of a byte. -/
def crcBit (crc : UInt32) : UInt32 :=
  if crc &&& 0x0001 ≠ 0 then (crc >>> 1) ^^^ 0x08408 else crc >>> 1

/-- One byte enters the checksum. -/
def crcByte (crc : UInt32) (b : UInt8) : UInt32 := crcBit^[8] (crc ^^^ b.toUInt32)

/-- `GetCrc16`. -/
def getCrc16 (bufData : List UInt8) : UInt32 :=
  if bufData = [] then 1 else bufData.foldl crcByte 0

/-! ## Numbers of two bytes -/

/-- `HL_IntToBuffer`: the high byte first. -/
def hlIntToBuffer (v : UInt16) : List UInt8 := [(v >>> 8).toUInt8, (v &&& 0xff).toUInt8]

/-- `HL_BufferToInit`. -/
def hlBufferToInit (b₀ b₁ : UInt8) : UInt16 := (b₀.toUInt16 <<< 8) + b₁.toUInt16

/-- Two bytes as they are put together by `UART5_IRQHandler`. -/
def word (b₀ b₁ : UInt8) : ℕ := b₀.toNat * 256 + b₁.toNat

/-! ## Building a frame -/

/-- The frame that `MealComparefunDemo` makes of a buffer: the command and the length are put
into its bytes 1 to 4, the checksum into its last two bytes. -/
def mealFrame (cmd : UInt16) (p : List UInt8) : List UInt8 :=
  let p := p.take 1 ++ hlIntToBuffer cmd ++ p.drop 3
  let p := p.take 3 ++ hlIntToBuffer (UInt16.ofNat (p.length - 8)) ++ p.drop 5
  let crc := getCrc16 ((p.drop 1).take (p.length - 4))
  p.take (p.length - 2) ++ hlIntToBuffer crc.toUInt16

/-! ## Receiving a frame -/

/-- What `UART5_IRQHandler` keeps.  `rx1Buf` has 512 cells. -/
structure Uart5 where
  rx1Right : Bool
  rx1Buf : ℕ → UInt8
  rx1BufIndex : ℕ
  rx1Sync : Bool
  rx1Vaild : Bool
  rx1DataLen : ℕ
  crcValue : UInt32

namespace Uart5

/-- The globals when the program starts. -/
def start : Uart5 where
  rx1Right := false
  rx1Buf := fun _ => 0
  rx1BufIndex := 0
  rx1Sync := false
  rx1Vaild := false
  rx1DataLen := 0
  crcValue := 0

/-- The frame has begun. -/
def head (s : Uart5) : Uart5 :=
  { s with rx1Sync := true, rx1BufIndex := 0, rx1Vaild := true, crcValue := 0, rx1Right := false }

/-- The length is known with the fifth byte. -/
def length (s : Uart5) : Uart5 :=
  if s.rx1BufIndex = 4 then { s with rx1DataLen := word (s.rx1Buf 2) (s.rx1Buf 3) } else s

/-- The checksum takes in the byte, up to the end of the payload. -/
def check (res : UInt8) (s : Uart5) : Uart5 :=
  if s.rx1Vaild then
    { s with
      rx1Vaild := !decide (s.rx1BufIndex = s.rx1DataLen + 3 ∧ s.rx1DataLen ≠ 0)
      crcValue := crcByte s.crcValue res }
  else s

/-- Whether the frame is complete and right. -/
def ends (s : Uart5) : Bool :=
  s.rx1BufIndex == s.rx1DataLen + 6 && s.rx1Buf (s.rx1DataLen + 4) == 0x03 &&
    word (s.rx1Buf (s.rx1DataLen + 5)) (s.rx1Buf (s.rx1DataLen + 6)) == s.crcValue.toNat

/-- `UART5_IRQHandler`.  There is no next state where it would store behind the end of
`rx1Buf`. -/
def receive (s : Uart5) (res : UInt8) : Option Uart5 :=
  if s.rx1Sync then
    if s.rx1BufIndex < 512 then
      let s := { s with rx1Buf := Function.update s.rx1Buf s.rx1BufIndex res }
      let s := s.length.check res
      some (if s.ends then
          { s with
            rx1Sync := false, rx1BufIndex := 0, rx1Vaild := true, crcValue := 0, rx1Right := true }
        else { s with rx1BufIndex := s.rx1BufIndex + 1 })
    else none
  else some (if res = 0x02 then s.head else s)

section Frame

variable (s : Uart5) (res : UInt8)

@[simp] lemma length_rx1Sync : s.length.rx1Sync = s.rx1Sync := by unfold length; split_ifs <;> rfl
@[simp] lemma length_rx1Right : s.length.rx1Right = s.rx1Right := by
  rw [length]; split_ifs <;> rfl
@[simp] lemma length_rx1Buf : s.length.rx1Buf = s.rx1Buf := by unfold length; split_ifs <;> rfl
@[simp] lemma length_rx1BufIndex : s.length.rx1BufIndex = s.rx1BufIndex := by
  rw [length]; split_ifs <;> rfl
@[simp] lemma length_rx1Vaild : s.length.rx1Vaild = s.rx1Vaild := by
  rw [length]; split_ifs <;> rfl
@[simp] lemma length_crcValue : s.length.crcValue = s.crcValue := by
  rw [length]; split_ifs <;> rfl
@[simp] lemma check_rx1Sync : (s.check res).rx1Sync = s.rx1Sync := by
  rw [check]; split_ifs <;> rfl
@[simp] lemma check_rx1Right : (s.check res).rx1Right = s.rx1Right := by
  rw [check]; split_ifs <;> rfl
@[simp] lemma check_rx1Buf : (s.check res).rx1Buf = s.rx1Buf := by unfold check; split_ifs <;> rfl
@[simp] lemma check_rx1BufIndex : (s.check res).rx1BufIndex = s.rx1BufIndex := by
  rw [check]; split_ifs <;> rfl
@[simp] lemma check_rx1DataLen : (s.check res).rx1DataLen = s.rx1DataLen := by
  rw [check]; split_ifs <;> rfl

end Frame

/-- The bytes of a stream, one after the other. -/
def feed (s : Uart5) (bs : List UInt8) : Option Uart5 := Lib.runFrom receive s bs

/-- What `CmdDataSend` does before it sends. -/
def cmdDataSend (s : Uart5) : Uart5 :=
  { s with rx1Sync := false, rx1BufIndex := 0, rx1Vaild := true, crcValue := 0, rx1Right := false }

end Uart5

end MealVendor
