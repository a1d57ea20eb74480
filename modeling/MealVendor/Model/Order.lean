import MealVendor.Lib.Transition
import MealVendor.Model.Arm

/-!
# Commands to the arm

The six `Order…` functions differ in the line that they send.  The rest is one loop: it looks for
ACK, then at the time, then for NACK, and sends the line again after a NACK, up to three times.  The
interrupts set the flags of `machinerec` and count the time between any two of these steps.
-/

namespace MealVendor

/-! ## The lines -/

namespace Cmd

/-- `SendLink`. -/
def sendLink : List UInt8 := [0x50, 0x30, 0x30, 0x30, 0x0d, 0x0a]

/-- `MachineInit`. -/
def machineInit : List UInt8 := [0x49, 0x30, 0x30, 0x30, 0x0d, 0x0a]

/-- `SendCoord`. -/
def sendCoord (floor row : UInt8) : List UInt8 :=
  [0x4d, UInt8.ofNat (0x30 + (floor.toNat + 1) / 10), UInt8.ofNat (0x30 + (floor.toNat + 1) % 10),
    0x41 + row, 0x0d, 0x0a]

/-- `StopSell`. -/
def stopSell : List UInt8 := [0x43, 0x30, 0x30, 0x30, 0x0d, 0x0a]

/-- `GetMeal`. -/
def getMeal : List UInt8 := [0x47, 0x30, 0x30, 0x30, 0x0d, 0x0a]

/-- `SetTemper`. -/
def setTemper (temper : UInt8) : List UInt8 :=
  [0x48, 0x44, 0x30 + temper / 10, 0x30 + temper % 10, 0x0d, 0x0a]

end Cmd

/-! ## The loop -/

/-- Where an `Order…` function is: before the test of `reack`, of `LinkTime`, of `renack`, before
what follows when `renack` was set, before the test of `RetryFre`, or at one of its returns. -/
inductive OrderPc
  | ack | time | nack | retry | count
  | acked | late | refused
deriving DecidableEq

/-- What the function has returned. -/
def OrderPc.value : OrderPc → Option UInt8
  | .acked => some 1
  | .late | .refused => some 0
  | _ => none

/-- A call of an `Order…` function.  `sent` only records what is sent. -/
structure OrderCall where
  cmd : List UInt8
  arm : Arm
  retryFre : ℕ
  pc : OrderPc
  sent : List (List UInt8)

/-- What happens during a call: the arm sends ACK or NACK, which comes between lines, a second
passes, or the function goes on. -/
inductive OrderEvent
  | ack | nack | tick | prog
deriving DecidableEq

/-- `USART6_IRQHandler` sets the flag for ACK. -/
def Arm.hearAck (a : Arm) : Arm := { a with reack := true, renack := false }

/-- `USART6_IRQHandler` sets the flag for NACK. -/
def Arm.hearNack (a : Arm) : Arm := { a with reack := false, renack := true }

/-- Both flags are cleared. -/
def Arm.clearFlags (a : Arm) : Arm := { a with reack := false, renack := false }

namespace OrderCall

/-- The beginning of an `Order…` function. -/
def start (cmd : List UInt8) (a : Arm) : OrderCall where
  cmd := cmd
  arm := { a with linkTime := 0 }
  retryFre := 0
  pc := .ack
  sent := [cmd]

/-- The next test of the loop, or what follows it. -/
def prog (c : OrderCall) : OrderCall :=
  match c.pc with
  | .ack =>
    if c.arm.reack then { c with arm := { c.arm.clearFlags with linkTime := 0 }, pc := .acked }
    else { c with pc := .time }
  | .time =>
    if 1 < c.arm.linkTime then { c with arm := { c.arm with linkTime := 0 }, pc := .late }
    else { c with pc := .nack }
  | .nack => if c.arm.renack then { c with pc := .retry } else { c with pc := .count }
  | .retry =>
    { c with
      arm := c.arm.clearFlags
      retryFre := c.retryFre + 1
      pc := .count
      sent := c.sent ++ [c.cmd] }
  | .count =>
    if 3 ≤ c.retryFre then
      { c with arm := { c.arm.clearFlags with linkTime := 0 }, pc := .refused }
    else { c with pc := .ack }
  | .acked | .late | .refused => c

/-- One event, until the function has returned. -/
def step (c : OrderCall) (e : OrderEvent) : Option OrderCall :=
  if c.pc.value.isSome then none
  else some (match e with
    | .ack => { c with arm := c.arm.hearAck }
    | .nack => { c with arm := c.arm.hearNack }
    | .tick => { c with arm := { c.arm with linkTime := c.arm.linkTime + 1 } }
    | .prog => c.prog)

/-- The state after these events. -/
def run (c : OrderCall) (es : List OrderEvent) : Option OrderCall := Lib.runFrom step c es

/-- How often the line was sent again, or is about to be. -/
def resends (c : OrderCall) : ℕ := c.sent.length - 1 + if c.pc = .retry then 1 else 0

end OrderCall

/-! ## The six functions -/

/-- `OrderSendLink`. -/
def orderSendLink : Arm → OrderCall := .start Cmd.sendLink

/-- `OrderMachineInit`. -/
def orderMachineInit : Arm → OrderCall := .start Cmd.machineInit

/-- `OrderSendCoord`. -/
def orderSendCoord (floor row : UInt8) : Arm → OrderCall := .start (Cmd.sendCoord floor row)

/-- `OrderStopSell`. -/
def orderStopSell : Arm → OrderCall := .start Cmd.stopSell

/-- `OrderGetMeal`. -/
def orderGetMeal : Arm → OrderCall := .start Cmd.getMeal

/-- `OrderSetTemper`. -/
def orderSetTemper (inputtemper : UInt8) : Arm → OrderCall := .start (Cmd.setTemper inputtemper)

/-- The `Order…` functions. -/
inductive OrderFn
  | link
  | machineInit
  | sendCoord (floor row : UInt8)
  | stopSell
  | getMeal
  | setTemper (inputtemper : UInt8)
deriving DecidableEq

/-- A call of one of the functions. -/
def OrderFn.call : OrderFn → Arm → OrderCall
  | .link => orderSendLink
  | .machineInit => orderMachineInit
  | .sendCoord floor row => orderSendCoord floor row
  | .stopSell => orderStopSell
  | .getMeal => orderGetMeal
  | .setTemper inputtemper => orderSetTemper inputtemper

lemma OrderFn.call_eq (f : OrderFn) (a : Arm) : ∃ cmd, f.call a = .start cmd a := by
  cases f <;> exact ⟨_, rfl⟩

end MealVendor
