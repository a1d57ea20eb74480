import MealVendor.Model.Stock

/-!
# The state of the whole machine and its interrupts

The state holds every global variable the main program and the interrupt handlers share,
the program counter of the main program, and a *trace*: the list of what has happened so
far, the latest first.  No function of the model reads the trace; it is there for the
statements.

The main program is cut where it waits and where it calls a handler: between two cuts it
runs undisturbed, at a cut any interrupt may come.
-/

namespace MealVendor

/-! ## What happens -/

/-- The commands the machine sends to its arm. -/
inductive Command
  | sendLink
  | machineInit
  | sendCoord (floor : Floor) (row : Column)
  | getMeal
  | setTemper (temper : UInt8)
deriving DecidableEq

/-- What is recorded in the trace. -/
inductive Obs
  /-- A coin has been counted. -/
  | coin
  /-- A bill of this value has been counted. -/
  | bill (value : ℕ)
  /-- A card reader was told to debit `money` while `outstanding` was still to be paid. -/
  | request (money outstanding : ℤ)
  /-- A card was debited. -/
  | debit (money : ℤ)
  /-- Coins were paid out in the state `hpper_out`. -/
  | payOut (coins : ℕ)
  /-- `WaitPayMoney` returned `Status_OK`, with this selection. -/
  | paid (u : UserSelection)
  /-- `WaitPayMoney` has run out of time. -/
  | timeout
  /-- The cancel key of the payment page. -/
  | cancel
  /-- `ClearUserBuffer`. -/
  | clear
  /-- `WaitMeal` has failed, and this is to be paid back. -/
  | takemealErro (moneyBack : ℕ)
  /-- The main program went from `hpper_out` to `meal_out`. -/
  | serve
  /-- `FindMeal` has found a meal of this kind in this place. -/
  | find (k : Kind) (line : Floor) (column : Column)
  /-- `Meal_takeout` was incremented. -/
  | takeout
  /-- `WaitMeal` returned `takeafter_meal`. -/
  | takeafter
  /-- `DataUpload`. -/
  | upload (success : Bool) (sel : CustomerSel)
  /-- A command to the arm. -/
  | command (c : Command)
  /-- The acknowledgement of a line of the arm. -/
  | reply (ack : Bool)
  /-- The cost of a kind was set from the count `d` on its selection page, at the price of
  the selected meal. -/
  | draft (k : Kind) (mealID d : UInt8)
  /-- The count of a kind was put into the cart. -/
  | put (k : Kind)
  /-- The count of a kind was changed on the cart page. -/
  | column (k : Kind)

/-! ## The program counter -/

/-- Where `AbnormalHandle` returns to. -/
inductive Ret
  /-- `PowerupAbnormalHandle` in `hardfawreInit`. -/
  | start
  /-- `manageusart6data` in `OnlymachieInit`. -/
  | init
  /-- The checks of `main` before its loop. -/
  | check (n : ℕ)
  /-- `manageusart6data` in the loop of `main`. -/
  | main
  /-- `ReadBill` in `WaitPayMoney`. -/
  | bill
  /-- `manageusart6data` in the three waiting loops of `WaitMeal`. -/
  | goal
  | door
  | away
  /-- `PollAbnormalHandle`, after the record with this number. -/
  | poll (i : ℕ)
deriving DecidableEq

/-- The program counter of the main program. -/
inductive Pc
  /-- `OnlymachieInit`: in `OrderSendLink`, in `OrderMachineInit`, waiting for the arm. -/
  | initLink (retry : ℕ)
  | initOrder (retry : ℕ)
  | initWait
  /-- The checks of `main` before its loop. -/
  | check (n : ℕ)
  /-- `DealSeriAceptData` and `manageusart6data` in the loop of `main`. -/
  | deal
  /-- `switch(Current)`. -/
  | switch
  /-- `OrderSendLink` in the idle state. -/
  | link (retry : ℕ)
  /-- `GpbocDeduct` and `SztDeduct`: reading the card, dealing with the screen in between,
  waiting for the answer to the debit. -/
  | cardRead (szt : Bool) (money : ℤ) (cnt : ℕ)
  | cardDeal (szt : Bool) (money : ℤ) (cnt : ℕ)
  | cardDeduct (szt : Bool) (money : ℤ)
  /-- The end of `WaitPayMoney`, after its `switch`. -/
  | payTail
  /-- Case 0 of `WaitMeal`. -/
  | find
  /-- Case 1. -/
  | take
  /-- Case 2, in `OrderSendCoord`. -/
  | coord (retry : ℕ)
  /-- Case 3: waiting for the arm, then in `OrderGetMeal`. -/
  | goal
  | getMeal (retry : ℕ)
  /-- Case 4: waiting for the meal at the door, then for the customer. -/
  | door
  | away
  /-- Case 5. -/
  | count
  /-- The loop of `AbnormalHandle`. -/
  | abnormal (erro : ℕ) (ret : Ret)
  /-- `AbnormalHandle` has returned. -/
  | resume (ret : Ret)
deriving DecidableEq

/-! ## The state -/

/-- The part of the state a sale is about. -/
structure Session where
  userAct : UserSelection
  current : Current
  currentPoint : CurrentPoint
  pc : Pc
  trace : List Obs

/-- `WaitTime` and whether the timers that count it down are enabled. -/
structure Timers where
  waitTime : UInt8
  tim3 : Bool
  tim4 : Bool
  tim7 : Bool

/-- What the arm has sent, `machinerec`, and the time since the last command. -/
structure Arm where
  linkTime : UInt8
  usart6Buff : Fin 6 → UInt8
  usart6Index : ℕ
  usart6DataFlag : Bool
  reack : Bool
  renack : Bool
  rerelative : Bool
  regoal : Bool
  retodoor : Bool
  remealaway : Bool
  remealnoaway : Bool
  reenablegetmeal : Bool

/-- The state of the machine. -/
structure Machine where
  session : Session
  stock : Stock
  timers : Timers
  arm : Arm
  dispMeal : Fin 4 → DispMealStuct
  erroRecord : Int32
  erroFlag : UInt16
  coinsCount : ℕ
  coinTotoal : UInt16
  /-- The global `MoneyBack`, a hundred times the field of `UserAct`. -/
  moneyBack : ℤ
  customerSel : CustomerSel
  passWordLen : ℕ
  inputPassWord : Fin 6 → UInt8
  cardbalenceCancelFlag : Bool
  /-- The backup registers `RTC_BKP_DR0` to `RTC_BKP_DR19`. -/
  bkp : Fin 20 → UInt32

/-! ## Small steps on the parts -/

/-- Records something in the trace. -/
def Session.emit (o : Obs) (s : Session) : Session := { s with trace := o :: s.trace }

/-- The main program goes on at `p`. -/
def Session.goto (p : Pc) (s : Session) : Session := { s with pc := p }

namespace Session

variable (s : Session) (o : Obs) (p : Pc)

@[simp] lemma emit_userAct : (s.emit o).userAct = s.userAct := rfl
@[simp] lemma emit_current : (s.emit o).current = s.current := rfl
@[simp] lemma emit_currentPoint : (s.emit o).currentPoint = s.currentPoint := rfl
@[simp] lemma emit_pc : (s.emit o).pc = s.pc := rfl
@[simp] lemma emit_trace : (s.emit o).trace = o :: s.trace := rfl
@[simp] lemma goto_userAct : (s.goto p).userAct = s.userAct := rfl
@[simp] lemma goto_current : (s.goto p).current = s.current := rfl
@[simp] lemma goto_currentPoint : (s.goto p).currentPoint = s.currentPoint := rfl
@[simp] lemma goto_pc : (s.goto p).pc = p := rfl
@[simp] lemma goto_trace : (s.goto p).trace = s.trace := rfl

end Session

namespace Timers

/-- `WaitTimeInit`. -/
def waitTimeInit (t : Timers) : Timers := { t with waitTime := 60 }

def openTIM3 (t : Timers) : Timers := { t with waitTime := 60, tim3 := true }

def closeTIM3 (t : Timers) : Timers := { t with waitTime := 60, tim3 := false }

def openTIM4 (t : Timers) : Timers := { t with tim4 := true }

def closeTIM4 (t : Timers) : Timers := { t with tim4 := false }

def openTIM7 (t : Timers) : Timers := { t with tim7 := true }

def closeTIM7 (t : Timers) : Timers := { t with tim7 := false }

end Timers

namespace UserSelection

/-- `ClearUserBuffer`.  The change, the number of meals taken out, the ticket flag and the
cancel flag are not cleared. -/
def clearUserBuffer (u : UserSelection) : UserSelection :=
  { UserSelection.zero with
    mealTakeout := u.mealTakeout
    moneyBack := u.moneyBack
    printTick := u.printTick
    cancle := u.cancle }

/-- `AcountCopy`. -/
def acountCopy (u : UserSelection) : UserSelection := { u with mealCntT := u.mealCnt }

/-- The sum of the counts of the cart, as it is stored in `Meal_totoal`. -/
def total (u : UserSelection) : UInt8 := UInt8.ofNat (∑ k, (u.mealCnt k).toNat)

/-- The sum of the costs, as it is stored in `PayShould`. -/
def costs (u : UserSelection) : UInt16 := UInt16.ofNat (∑ k, (u.mealCost k).toNat)

/-- The price of the cart, as an integer. -/
def cartPrice (u : UserSelection) : ℕ := ∑ k, price k * (u.mealCnt k).toNat

/-- A cart of four counts of a byte costs less than 2 ^ 15. -/
lemma cartPrice_le (u : UserSelection) : u.cartPrice ≤ 15300 := by
  rw [cartPrice]
  calc ∑ k, price k * (u.mealCnt k).toNat ≤ ∑ _k : Kind, 3825 := by
        refine Finset.sum_le_sum fun k _ => ?_
        have := (u.mealCnt k).toNat_lt
        rw [price_eq]
        omega
    _ = 15300 := by simp

end UserSelection

/-- `ClearUserBuffer` on the whole session. -/
def Session.clearUserBuffer (s : Session) : Session :=
  { s with userAct := s.userAct.clearUserBuffer }.emit .clear

/-- A coin has been counted. -/
def Session.addCoin (s : Session) : Session :=
  { s with userAct := { s.userAct with
      payForCoins := s.userAct.payForCoins + 1
      payAlready := s.userAct.payAlready + 1 } }.emit .coin

namespace Machine

/-- A change of the session only. -/
def onSession (f : Session → Session) (s : Machine) : Machine := { s with session := f s.session }

/-- Records something in the trace. -/
def emit (o : Obs) (s : Machine) : Machine := s.onSession (Session.emit o)

/-- The main program goes on at `p`. -/
def goto (p : Pc) (s : Machine) : Machine := s.onSession (Session.goto p)

/-- A change of the timers only. -/
def onTimers (f : Timers → Timers) (s : Machine) : Machine := { s with timers := f s.timers }

/-- `ClearUserBuffer`. -/
def clearUserBuffer (s : Machine) : Machine := s.onSession Session.clearUserBuffer

/-- `OpenCashSystem` and `CloseCashSystem`, of which only `CoinsCount = 0` is seen here. -/
def resetCoinsCount (s : Machine) : Machine := { s with coinsCount := 0 }

/-- A change of what the arm has sent. -/
def onArm (f : Arm → Arm) (s : Machine) : Machine := { s with arm := f s.arm }

/-! ## The backup registers -/

/-- `RTC_WriteBackupRegister`. -/
def writeBackup (r : Fin 20) (v : UInt32) (s : Machine) : Machine :=
  { s with bkp := Function.update s.bkp r v }

/-- `WriteCoins`. -/
def writeCoins (s : Machine) : Machine := s.writeBackup 13 s.coinTotoal.toUInt32

/-- The registers and values `SaveUserData` writes, in its order. -/
def userData (erroRecord : Int32) (u : UserSelection) : List (Fin 20 × UInt32) :=
  [(13, erroRecord.toUInt32),
   (4, (u.mealCnt 0).toUInt32), (5, (u.mealCnt 1).toUInt32),
   (6, (u.mealCnt 2).toUInt32), (7, (u.mealCnt 3).toUInt32),
   (8, u.mealTotoal.toUInt32), (9, u.mealTakeout.toUInt32),
   (10, u.payShould.toUInt32), (11, u.payAlready.toUInt32),
   (12, u.moneyBack.toInt32.toUInt32),
   (14, (u.mealCntT 0).toUInt32), (15, (u.mealCntT 1).toUInt32),
   (16, (u.mealCntT 2).toUInt32), (17, (u.mealCntT 3).toUInt32)]

/-- `SaveUserData`. -/
def saveUserData (s : Machine) : Machine :=
  (userData s.erroRecord s.session.userAct).foldl (fun s w => s.writeBackup w.1 w.2) s

section Frame

variable (s : Machine)

@[simp] lemma onSession_session (f : Session → Session) :
    (s.onSession f).session = f s.session := rfl
@[simp] lemma onSession_stock (f : Session → Session) : (s.onSession f).stock = s.stock := rfl
@[simp] lemma onSession_timers (f : Session → Session) : (s.onSession f).timers = s.timers := rfl
@[simp] lemma onSession_arm (f : Session → Session) : (s.onSession f).arm = s.arm := rfl
@[simp] lemma emit_session (o : Obs) : (s.emit o).session = s.session.emit o := rfl
@[simp] lemma emit_stock (o : Obs) : (s.emit o).stock = s.stock := rfl
@[simp] lemma goto_session (p : Pc) : (s.goto p).session = s.session.goto p := rfl
@[simp] lemma goto_stock (p : Pc) : (s.goto p).stock = s.stock := rfl
@[simp] lemma onTimers_session (f : Timers → Timers) : (s.onTimers f).session = s.session := rfl
@[simp] lemma onTimers_stock (f : Timers → Timers) : (s.onTimers f).stock = s.stock := rfl
@[simp] lemma onArm_session (f : Arm → Arm) : (s.onArm f).session = s.session := rfl
@[simp] lemma onArm_stock (f : Arm → Arm) : (s.onArm f).stock = s.stock := rfl
@[simp] lemma clearUserBuffer_session :
    s.clearUserBuffer.session = s.session.clearUserBuffer := rfl
@[simp] lemma clearUserBuffer_stock : s.clearUserBuffer.stock = s.stock := rfl
@[simp] lemma resetCoinsCount_session : s.resetCoinsCount.session = s.session := rfl
@[simp] lemma resetCoinsCount_stock : s.resetCoinsCount.stock = s.stock := rfl
@[simp] lemma writeBackup_session (r : Fin 20) (v : UInt32) :
    (s.writeBackup r v).session = s.session := rfl
@[simp] lemma writeBackup_stock (r : Fin 20) (v : UInt32) :
    (s.writeBackup r v).stock = s.stock := rfl
@[simp] lemma writeCoins_session : s.writeCoins.session = s.session := rfl
@[simp] lemma writeCoins_stock : s.writeCoins.stock = s.stock := rfl

/-- Writing several registers only changes the registers. -/
lemma foldl_writeBackup (ws : List (Fin 20 × UInt32)) :
    ws.foldl (fun s w => s.writeBackup w.1 w.2) s =
      { s with bkp := ws.foldl (fun b w => Function.update b w.1 w.2) s.bkp } := by
  induction ws generalizing s with
  | nil => rfl
  | cons w ws ih => rw [List.foldl_cons, ih]; rfl

@[simp] lemma saveUserData_session : s.saveUserData.session = s.session := by
  rw [saveUserData, foldl_writeBackup]

@[simp] lemma saveUserData_stock : s.saveUserData.stock = s.stock := by
  rw [saveUserData, foldl_writeBackup]

@[simp] lemma saveUserData_timers : s.saveUserData.timers = s.timers := by
  rw [saveUserData, foldl_writeBackup]

end Frame

/-- `ReadCoins`. -/
def readCoins (s : Machine) : Machine := { s with coinTotoal := (s.bkp 13).toUInt16 }

/-- `ReadUserData`. -/
def readUserData (s : Machine) : Machine :=
  { s with
    session.userAct :=
      { s.session.userAct with
        mealCnt := fun k => (s.bkp ⟨4 + k.val, by omega⟩).toUInt8
        mealTotoal := (s.bkp 8).toUInt8
        mealTakeout := (s.bkp 9).toUInt8
        payShould := (s.bkp 10).toUInt16
        payAlready := (s.bkp 11).toUInt16
        moneyBack := (s.bkp 12).toUInt16.toInt16
        mealCntT := fun k => (s.bkp ⟨14 + k.val, by omega⟩).toUInt8 }
    erroRecord := (s.bkp 13).toInt32 }

/-! ## The interrupt handlers -/

/-- `EXTI15_10_IRQHandler` for a pulse of the coin acceptor: two pulses are one coin. -/
def coinIn (s : Machine) : Machine :=
  let s := { s with coinsCount := s.coinsCount + 1 }
  let s :=
    if s.coinsCount = 2 then
      { s with
        coinsCount := 0
        session := s.session.addCoin
        coinTotoal := s.coinTotoal + 1 }
    else s
  s.writeCoins

/-- `EXTI15_10_IRQHandler` for a pulse of the hopper, which has paid out a coin. -/
def coinOut (s : Machine) : Machine := { s with coinTotoal := s.coinTotoal - 1 }.writeCoins

/-- `TIM3_IRQHandler`: at the end of the 60 s the selection is cleared. -/
def tim3 (s : Machine) : Machine :=
  if 0 < s.timers.waitTime then
    s.onTimers fun t => { t with waitTime := t.waitTime - 1 }
  else (s.onTimers Timers.closeTIM3).clearUserBuffer

/-- `TIM4_IRQHandler` and `TIM7_IRQHandler`, which close themselves at the end. -/
def tim4 (s : Machine) : Machine :=
  s.onTimers fun t =>
    if 0 < t.waitTime then { t with waitTime := t.waitTime - 1 } else t.closeTIM4

def tim7 (s : Machine) : Machine :=
  s.onTimers fun t =>
    if 0 < t.waitTime then { t with waitTime := t.waitTime - 1 } else t.closeTIM7

/-- `TIM5_IRQHandler`. -/
def tim5 (s : Machine) : Machine := { s with arm.linkTime := s.arm.linkTime + 1 }

/-- `PVD_IRQHandler`: the power is failing. -/
def pvd (s : Machine) : Machine :=
  { s with erroRecord := s.erroRecord ||| bit outageErro }.saveUserData

end Machine

namespace Arm

/-- A byte is stored; a seventh byte has no place in the buffer. -/
def store (b : UInt8) (a : Arm) : Arm :=
  { a with
    usart6Buff := if h : a.usart6Index < 6 then
        Function.update a.usart6Buff ⟨a.usart6Index, h⟩ b
      else a.usart6Buff
    usart6Index := a.usart6Index + 1 }

/-- Whether the last two bytes are a carriage return and a line feed. -/
def endOfLine (a : Arm) : Bool :=
  if h : 2 ≤ a.usart6Index ∧ a.usart6Index ≤ 6 then
    a.usart6Buff ⟨a.usart6Index - 2, by omega⟩ == 0x0d &&
      a.usart6Buff ⟨a.usart6Index - 1, by omega⟩ == 0x0a
  else false

/-- The first byte decides whether the arm has sent ACK or NACK. -/
def acknowledge (a : Arm) : Arm :=
  if a.usart6Buff 0 = 0x06 then
    { a with usart6Buff := Function.update a.usart6Buff 0 0, usart6Index := 0
             reack := true, renack := false }
  else if a.usart6Buff 0 = 0x15 then
    { a with usart6Buff := Function.update a.usart6Buff 0 0, usart6Index := 0
             reack := false, renack := true }
  else a

/-- The index starts again when the buffer is full. -/
def wrap (a : Arm) : Arm := if 6 < a.usart6Index then { a with usart6Index := 0 } else a

end Arm

/-- `USART6_IRQHandler`: a byte from the arm. -/
def Machine.usart6 (b : UInt8) (s : Machine) : Machine :=
  let a := (s.arm.store b).acknowledge
  if a.endOfLine then
    { s with arm := { a with usart6DataFlag := true }.wrap }.emit (.reply (a.usart6Index == 6))
  else { s with arm := a.wrap }

end MealVendor
