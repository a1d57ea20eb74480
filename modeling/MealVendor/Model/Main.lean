import MealVendor.Model.Dispense
import MealVendor.Lib.Transition

/-!
# The main program

One step of the whole machine: an interrupt, a message of the screen where
`DealSeriAceptData` is called, or the next piece of the main program.
-/

namespace MealVendor

namespace Session

/-- The state `hpper_out` with change to give: `sent` of `num` coins come out.  What is
left is returned in a byte. -/
def payOut (num sent : ℕ) (s : Session) : Session :=
  { s with userAct := { s.userAct with
      moneyBack := Int16.ofNat (UInt8.ofNat (num - sent)).toNat } }.emit (.payOut sent)

/-- The state `hpper_out` without change to give, after a purchase. -/
def serve (s : Session) : Session := { s with current := .mealOut }.emit .serve

/-- The state `hpper_out` without change to give, after a cancelled purchase. -/
def idle (s : Session) : Session :=
  { s with current := .currentTemperature, userAct := { s.userAct with cancle := 0 } }

end Session

namespace Machine

/-- The end of the idle state: the count-down of the selection page starts again. -/
def idleTail (s : Machine) : Machine :=
  (if s.session.userAct.mealID ≠ 0 ∧ s.timers.waitTime = 0 then s.onTimers Timers.waitTimeInit
  else s).goto .deal

/-- The state `hpper_out`. -/
def hpperOut (io : Io) (s : Machine) : Machine :=
  if 0 < s.session.userAct.moneyBack then
    let num := s.session.userAct.moneyBack.toInt.toNat
    let sent := sentCoins io.pe9 num
    let s := (s.onSession (Session.payOut num sent)).goto .deal
    if sent < num then { s with erroRecord := s.erroRecord ||| bit coinhoopersetEmpty } else s
  else if s.session.userAct.cancle = 0 then
    ((s.onTimers fun t => { t with waitTime := 5, tim4 := true }).onSession Session.serve).goto .deal
  else if 0x10 < s.erroRecord then
    (s.onSession fun t => { t with current := .erroHanle }).goto .deal
  else (s.onSession Session.idle).goto .deal

/-- `switch(Current)`. -/
def switch (io : Io) (s : Machine) : Machine :=
  match s.session.current with
  | .currentTemperature =>
    if 5 ≤ s.arm.linkTime then (s.order .sendLink).goto (.link 0) else s.idleTail
  | .waitforMoney => s.saveUserData.waitPayMoney io
  | .hpperOut => s.hpperOut io
  | .mealOut => s.saveUserData.goto .find
  | .dataUpload =>
    ((s.dataUpload true).onSession fun t => { t with current := .mealOut }).goto .deal
  | .erroHanle => s.pollAbnormalHandle 33

/-- The checks of `main` before its loop: the network, the sign-in, the card reader, the
hopper and the bill acceptor. -/
def checkFailed (n : ℕ) (io : Io) (s : Machine) : Option ℕ :=
  match n with
  | 0 => if io.ok then none else some networkErro
  | 1 => if io.ok then none else some signinErro
  | 2 => if io.ok then none else some cardchckErro
  | 3 => if s.coinTotoal < 50 ∨ io.pe9 0 = false then some coinhoopersetErro else none
  | _ => if io.ok then none else some billsetErro

/-- The check after check `n`, or the loop. -/
def nextCheck (n : ℕ) : Pc := if n < 4 then .check (n + 1) else .deal

/-- One check of `main` before its loop. -/
def check (n : ℕ) (io : Io) (s : Machine) : Machine :=
  let s := if n = 4 then s.resetCoinsCount else s
  match s.checkFailed n io with
  | some e => s.abnormalHandle e (.check n)
  | none => s.goto (nextCheck n)

/-- The beginning of `OrderSendLink` in `OnlymachieInit`. -/
def initLink (s : Machine) : Machine := (s.order .sendLink).goto (.initLink 0)

/-- The waiting loop of `OnlymachieInit` after `manageusart6data`. -/
def initCheck (s : Machine) : Machine :=
  if s.arm.rerelative ∨ 60 ≤ s.arm.linkTime then s.goto (.check 0) else s.goto .initWait

/-- The main program goes on after `AbnormalHandle`. -/
def resume (s : Machine) : Ret → Machine
  | .start =>
    (s.onArm fun a => { a.clearBuff with rerelative := false }).initLink
  | .init => (s.onArm Arm.clearBuff).initCheck
  | .check n => s.goto (nextCheck n)
  | .main => (s.onArm Arm.clearBuff).goto .switch
  | .bill => s.nextPoint .p5
  | .goal => (s.onArm Arm.clearBuff).goalCheck
  | .door => (s.onArm Arm.clearBuff).doorCheck
  | .away => (s.onArm Arm.clearBuff).awayCheck
  | .poll i => s.pollAbnormalHandle i

/-- The next piece of the main program. -/
def go (io : Io) (s : Machine) : Machine :=
  match s.session.pc with
  | .initLink r =>
    s.waitOrder .sendLink r .initLink
      (fun s => (s.order .machineInit).goto (.initOrder 0)) initLink
  | .initOrder r =>
    s.waitOrder .machineInit r .initOrder
      (fun s => (s.onArm fun a => { a with linkTime := 0 }).goto .initWait) initLink
  | .initWait => s.manageusart6data .init initCheck
  | .check n => s.check n io
  | .deal => s.manageusart6data .main (goto .switch)
  | .switch => s.switch io
  | .link r => s.waitOrder .sendLink r .link idleTail idleTail
  | .cardRead szt money cnt => s.cardRead szt money cnt io
  | .cardDeal szt money cnt => s.cardDeal szt money cnt
  | .cardDeduct _ money => s.cardDeduct money io
  | .payTail => s.payTail
  | .find => s.find
  | .take => s.take io
  | .coord r => s.coord r
  | .goal => s.goal
  | .getMeal r => s.getMeal r
  | .door => s.door
  | .away => s.away
  | .count => s.countMeal
  | .abnormal e ret => if s.erroFlag = 0 then s.abnormalEnd e ret else s
  | .resume ret => s.resume ret

end Machine

/-- The places where `DealSeriAceptData` is called. -/
def Pc.deals : Pc → Bool
  | .deal => true
  | .cardDeal .. => true
  | .abnormal .. => true
  | _ => false

/-! ## Events -/

/-- What can happen next. -/
inductive Event
  /-- A pulse of the coin acceptor. -/
  | coinIn
  /-- A pulse of the hopper. -/
  | coinOut
  | tim3
  | tim4
  | tim5
  | tim7
  | pvd
  /-- A byte from the arm. -/
  | usart6 (b : UInt8)
  /-- A message of the screen. -/
  | screen (f : Frame) (io : Io)
  /-- The main program runs on. -/
  | go (io : Io)

/-- One step of the machine.  A timer interrupts only while it is enabled, and a message of
the screen is dealt with only where the main program looks for one. -/
def step (s : Machine) : Event → Option Machine
  | .coinIn => some s.coinIn
  | .coinOut => some s.coinOut
  | .tim3 => if s.timers.tim3 then some s.tim3 else none
  | .tim4 => if s.timers.tim4 then some s.tim4 else none
  | .tim5 => some s.tim5
  | .tim7 => if s.timers.tim7 then some s.tim7 else none
  | .pvd => some s.pvd
  | .usart6 b => some (s.usart6 b)
  | .screen f io => if s.session.pc.deals then some (s.changeVariableValues f io) else none
  | .go io => some (s.go io)

section Step

variable {s t : Machine}

/-- A timer interrupts while it is enabled. -/
lemma step_tim3 (h : step s .tim3 = some t) : s.timers.tim3 = true ∧ t = s.tim3 := by
  rw [step, Option.ite_none_right_eq_some, Option.some_inj] at h
  exact h.imp_right Eq.symm

lemma step_tim4 (h : step s .tim4 = some t) : t = s.tim4 := by
  rw [step, Option.ite_none_right_eq_some, Option.some_inj] at h
  exact h.2.symm

lemma step_tim7 (h : step s .tim7 = some t) : t = s.tim7 := by
  rw [step, Option.ite_none_right_eq_some, Option.some_inj] at h
  exact h.2.symm

/-- A message is dealt with where the main program looks for one. -/
lemma step_screen {f : Frame} {io : Io} (h : step s (.screen f io) = some t) :
    s.session.pc.deals = true ∧ t = s.changeVariableValues f io := by
  rw [step, Option.ite_none_right_eq_some, Option.some_inj] at h
  exact h.imp_right Eq.symm

end Step

/-- The message of the screen in an event. -/
def Event.frame : Event → Option Frame
  | .screen f _ => some f
  | _ => none

/-- Whether the main program runs on. -/
def Event.runs : Event → Bool
  | .go _ => true
  | _ => false

/-- A message of the screen while the devices have no trouble. -/
def Event.touch (adress : UInt16) (value : UInt8) : Event := .screen ⟨adress, 0, value⟩ .quiet

/-- The main program runs on while the devices have no trouble. -/
def Event.next : Event := .go .quiet

/-! ## Power-up -/

/-- The state after a reset: the initial values of the globals, and the backup registers. -/
def Machine.reset (bkp : Fin 20 → UInt32) : Machine where
  session := ⟨UserSelection.zero, .currentTemperature, .p1, .resume .start, []⟩
  stock := ⟨fun _ => FloorAttribute.empty, fun _ => ⟨fun _ _ => 0, 0⟩, FloorAttribute.empty, none⟩
  timers := ⟨0, false, false, false⟩
  arm := ⟨0, fun _ => 0, 0, false, false, false, false, false, false, false, false, false⟩
  dispMeal := fun _ => ⟨0⟩
  erroRecord := 0
  erroFlag := 0
  coinsCount := 0
  coinTotoal := 0
  moneyBack := 0
  customerSel := CustomerSel.zero
  passWordLen := 0
  inputPassWord := fun _ => 0
  cardbalenceCancelFlag := false
  bkp := bkp

/-- An erased byte of the flash is taken for 0. -/
def erased (b : UInt8) : UInt8 := if b = 0xff then 0 else b

/-- A floor as it is read from the flash. -/
def FloorAttribute.read (f : FloorAttribute) : FloorAttribute :=
  ⟨erased f.mealID, erased f.mealCount, fun c => erased (f.count c), erased f.floorNum⟩

/-- `hardfawreInit`, as far as memory is concerned: the stock is read from the flash, the
data of the last user from the backup registers. -/
def Machine.hardfawreInit (flash : Floor → FloorAttribute) (io : Io) (s : Machine) : Machine :=
  let s := { s with stock.floorMeal := fun i => (flash i).read }.readCoins
  let s := { s with stock := (s.stock.writeMeal io.flash).statisticsTotal }.readUserData
  if s.erroRecord ≠ 0 then
    if s.erroRecord &&& bit 0 ≠ 0 then s.abnormalHandle 0 .start else s
  else s.clearUserBuffer

/-- The state `hardfawreInit` leaves after a reset. -/
def powerUp (bkp : Fin 20 → UInt32) (flash : Floor → FloorAttribute) (io : Io) : Machine :=
  (Machine.reset bkp).hardfawreInit flash io

/-- The states that power-up can leave. -/
def IsPowerUp (s : Machine) : Prop := ∃ bkp flash io, s = powerUp bkp flash io

/-- `CoinsCount` and `PassWordLen` are 0 when the program starts. -/
lemma IsPowerUp.counts {s : Machine} (h : IsPowerUp s) :
    s.coinsCount = 0 ∧ s.passWordLen = 0 := by
  obtain ⟨bkp, flash, io, rfl⟩ := h
  rw [powerUp, Machine.hardfawreInit]
  dsimp only
  rw [Machine.abnormalHandle]
  split_ifs <;> exact ⟨rfl, rfl⟩

/-- A machine with nothing saved whose first floor holds `n` meals of the first kind in each
column. -/
def stocked (n : UInt8) : Machine :=
  powerUp (fun _ => 0) (fun i => if i = 0 then ⟨1, 3 * n, fun _ => n, 1⟩ else .empty) .quiet

lemma stocked_isPowerUp (n : UInt8) : IsPowerUp (stocked n) := ⟨_, _, _, rfl⟩

/-- A line of the arm. -/
def armLine (cs : List Char) : List Event := cs.map fun c => .usart6 c.toUInt8

/-- From power-up to the main loop: the arm answers to the link and to the initialisation
and reports its place, the checks pass but the one of the hopper, whose error is cleared. -/
def startUp : List Event :=
  List.flatten
    [[.next, .usart6 0x06, .next, .usart6 0x06, .next],
     armLine ['N', 'O', 'R', '0', '\r', '\n'],
     [.next, .next, .next, .next, .next, .touch 0x54 1, .next, .next, .next]]

/-- One round of the main loop in the state `waitfor_money`. -/
def payRound (io : Io) : List Event := [.next, .go io, .next]

/-- The arm takes out a meal that was found. -/
def fetchMeal : List Event :=
  List.flatten
    [[.next, .usart6 0x06, .next], armLine ['S', '0', '0', '0', '\r', '\n'],
     [.next, .usart6 0x06, .next], armLine ['O', 'U', 'T', '0', '\r', '\n'],
     [.next], armLine ['F', 'I', 'N', '0', '\r', '\n'], [.next, .next]]

/-- A cart is paid in cash with a bill of `b`, up to point 9. -/
def payWithBill (b : BillRead) : List Event :=
  List.flatten
    [[.touch 0x02 1], payRound .quiet, payRound { Io.quiet with bill := b }, payRound .quiet,
     payRound .quiet]

/-- One meal is chosen, put into the cart and paid in cash with a bill of `b`. -/
def payCash (b : BillRead) : List Event :=
  List.flatten [startUp, [.touch 0x00 1, .touch 0x01 3], payWithBill b]

/-- One meal is paid with a bill of twenty. -/
def payOne : List Event := payCash .twenty ++ [.next, .next]

/-- One meal is paid with a bank card. -/
def payCard : List Event :=
  List.flatten [startUp, [.touch 0x00 1, .touch 0x01 3, .touch 0x02 2], List.replicate 10 .next]

/-- The change is paid out, and the first meal is looked for. -/
def payOutAndServe : List Event := List.replicate 8 .next

/-- The place of the next meal is found and the arm is sent there. -/
def sendArm : List Event := List.replicate 4 .next

/-- Two meals are chosen and paid with two bills of twenty. -/
def payTwo : List Event :=
  List.flatten
    [startUp, [.touch 0x00 1, .touch 0x30 2, .touch 0x01 3],
     [.touch 0x02 1], payRound .quiet, payRound { Io.quiet with bill := .twenty },
     [.touch 0x02 1], payRound .quiet, payRound { Io.quiet with bill := .twenty },
     List.replicate 12 .next]

/-- A meal is looked for, handed out and reported. -/
def serveMeal : List Event := List.flatten [sendArm, fetchMeal, [.next, .next]]

/-- The meal is uploaded, and nothing is left in the cart. -/
def uploadAndEnd : List Event := List.replicate 5 .next

end MealVendor
