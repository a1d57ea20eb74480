import MealVendor.Model.Display
import MealVendor.Model.Main

/-!
# What every step sends to the screen

The functions of the main program once more, one after the other: each is written here as the bytes
it sends to the screen.  A value that is shown, and that the model of the program does not keep, is
given from outside.
-/

namespace MealVendor.Show

/-! ## Addresses -/

/-- More pages. -/
def logoInterface : UInt8 := 0x00
def errInterface : UInt8 := 0x01
def mealoutInterface : UInt8 := 0x15
def temperatureSetInterface : UInt8 := 0x1C
def dataSynchronization : UInt8 := 0x1E
def onlymachieInitInterface : UInt8 := 0x2A
def signInFunctionInterface : UInt8 := 0x2B
def sztGpbocAutoCheckInInterface : UInt8 := 0x2C

/-- `meat` to `fish`: how many meals of each kind are left, on the menu. -/
def meat : UInt16 := 0x0021

/-- `erro_num`: the code of an error. -/
def erroNum : UInt16 := 0x4D00

def floorNum : UInt16 := 0x0014
def currentTemprature : UInt16 := 0x0020
def coinsBack : UInt16 := 0x0050

/-- The page for a card. -/
def cardbalenceBefore : UInt16 := 0x0060
def amountofConsumption : UInt16 := 0x0065
def cardbalenceAfter : UInt16 := 0x006A

/-- The first row of the page for the comparison with the server. -/
def syncColumn1stName : UInt16 := 0x4500
def syncColumn1stNumber : UInt16 := 0x4900

/-- `TPC_Enable`. -/
def tpcEnable : UInt8 := 0x0B

/-! ## Frames -/

/-- `VariableChagelong`. -/
def variableChagelong (adress : UInt16) (value : UInt32) : List UInt8 :=
  setWord 8 value.toUInt16 (setWord 6 (value >>> 16).toUInt16
    (setWord 4 adress ((temp 10 variableWrite).set 2 7)))

/-- `ScreenControl`.  The address of the register takes the place of the command. -/
def screenControl (cmd : UInt8) : List UInt8 := ((temp 8 registerWrite).set 3 tpcEnable).set 5 cmd

/-- `DisplayAbnormal`. -/
def displayAbnormal (abnomalCode : List UInt8) : List UInt8 :=
  mystrcat abnomalCode 4 (setWord 4 erroNum ((temp 20 variableWrite).set 2 7))

/-- `DispLeftMeal`. -/
def dispLeftMeal (s : Stock) : List UInt8 :=
  (List.finRange 4).flatMap fun k =>
    (setWord 4 (meat + UInt16.ofNat k.val) ((temp 8 variableWrite).set 2 5)).set 7
      (s.defineMeal k).mealCount

/-- `SyncMealNameDisp`. -/
def syncMealNameDisp : UInt8 → UInt8 → List UInt8 := nameDisp syncColumn1stName

/-- `SyncMealCntDisp`. -/
def syncMealCntDisp : UInt8 → UInt8 → List UInt8 := textDisp syncColumn1stNumber

/-! ## Values from outside -/

/-- What is shown and is not kept by the model of the program: the temperature; the coins that are
left after `coins_key`, and those that were paid out; what is on a card, and what
`GpbocDeduct` and `SztDeduct` show of a payment; the parts of `MealCompareData`. -/
structure Values where
  temperature : UInt8
  coinsLeft : UInt16
  coinsOut : UInt16
  cardMoney : UInt32
  deducted : Option (UInt32 × UInt32)
  part : Kind → UInt8

/-! ## Messages of the screen -/

/-- `mealcnt_choose`. -/
def mealcntChoose (d : UInt8) (s : Machine) : List UInt8 :=
  if d = 2 then pageChange menuInterface
  else if d = 3 then
    let u := s.session.userAct.putIntoShopCart
    if 0 < u.mealTotoal then settleAccounts u else []
  else if d = 4 then pageChange menuInterface
  else []

/-- `payment_method`. -/
def paymentMethod (d : UInt8) (s : Machine) : List UInt8 :=
  if s.session.userAct.acountCopy.payShould = 0 then pageChange menuInterface
  else pageChange (acountInterface + 2) ++ if d = 4 then pageChange menuInterface else []

/-- `bill_print`. -/
def billPrint (d : UInt8) (s : Machine) : List UInt8 :=
  if d = 1 ∨ d = 2 then if s.erroFlag = 0 then pageChange mealoutInterface else [] else []

/-- `record_clear`. -/
def recordClear (d : UInt8) : List UInt8 := if d = 2 then pageChange errInterface else []

/-- `admin_set`. -/
def adminSet (mealneedSync : Bool) (d : UInt8) (io : Io) (s : Machine) : List UInt8 :=
  if d = 1 then pageChange temperatureSetInterface
  else if d = 2 then dispLeftMeal (s.adminSet d io).stock
  else if d = 3 then if mealneedSync then [] else pageChange menuInterface
  else []

/-- `meal_num`. -/
def mealNum (d : UInt8) (s : Stock) : List UInt8 :=
  initSetting { s with curFloor := { s.curFloor with mealID := d } } ++
    variableChage floorNum (s.mealNum d).curFloor.floorNum.toUInt16

/-- The rows of the edited floor, as `mealinput_choose` shows them. -/
def rows (n : UInt8) : List UInt8 :=
  variableChage row1st n.toUInt16 ++ variableChage row2nd n.toUInt16 ++
    variableChage row3rd n.toUInt16

/-- The two frames of a row of the page for the comparison. -/
def syncRow (mealId mealCnt floor : UInt8) : List UInt8 :=
  syncMealNameDisp mealId floor ++ syncMealCntDisp mealCnt floor

/-- The rows with these kinds. -/
def syncRows (mealCnt : Kind → UInt8) : List Kind → ℕ → List UInt8
  | [], _ => []
  | k :: ks, floor =>
    syncRow k.id (mealCnt k) (UInt8.ofNat floor) ++ syncRows mealCnt ks (floor + 1)

/-- The kinds of which the server has another count. -/
def syncKinds (part : Kind → UInt8) : List Kind :=
  (List.finRange 4).filter fun k => decide (part k ≠ 0xff)

/-- The fourth key of `mealinput_choose`: the comparison with the server. -/
def synchronize (part : Kind → UInt8) (s : Stock) : List UInt8 :=
  (List.range 4).flatMap (fun i => syncRow 0 0xff (UInt8.ofNat i)) ++ screenControl 0x00 ++
    (if part = fun _ => 0xff then
      pageChange dataSynchronization ++
        syncRows (fun k => (s.defineMeal k).mealCount) (List.finRange 4) 0
    else pageChange (dataSynchronization + 2) ++ syncRows part (syncKinds part) 0) ++
    screenControl 0x01 ++ dispLeftMeal s

/-- `mealinput_choose`. -/
def mealinputChoose (v : Values) (d : UInt8) (io : Io) (s : Machine) : List UInt8 :=
  if d = 1 then rows 3
  else if d = 2 then rows 0
  else if d = 3 then dispLeftMeal (s.mealinputChoose d io).stock
  else if d = 4 then synchronize v.part s.stock
  else if d = 5 then pageChange mealSetInterface
  else []

/-- `coins_key`. -/
def coinsKey (v : Values) (d : UInt8) : List UInt8 :=
  if d = 1 then
    variableChage coinsBack 0 ++ variableChage coinsIn v.coinsLeft ++
      variableChage coinsBack v.coinsOut
  else if d = 2 then pageChange menuInterface
  else []

/-- `ChangeVariableValues`. -/
def changeVariableValues (mealneedSync : Bool) (v : Values) (f : Frame) (io : Io) (s : Machine) :
    List UInt8 :=
  match f.variable with
  | none => []
  | some .mealChoose => mealChoose f.data1 s
  | some (.count k) => count k f.data1 s
  | some .mealcntChoose => mealcntChoose f.data1 s
  | some (.column i) => column i f.data1 s
  | some .paymentMethod => paymentMethod f.data1 s
  | some .caedbalenceCancel => pageChange (acountInterface + 2)
  | some .billPrint => billPrint f.data1 s
  | some .password => password f.data1 s
  | some .recordClear => recordClear f.data1
  | some .adminSet => adminSet mealneedSync f.data1 io s
  | some .mealNum => mealNum f.data1 s.stock
  | some .floorNum =>
    initSetting { s.stock with curFloor := { s.stock.curFloor with floorNum := f.data1 } }
  | some (.row _) => []
  | some .mealinputChoose => mealinputChoose v f.data1 io s
  | some .tempratureSet => []
  | some .coinsKey => coinsKey v f.data1
  | some .coinsIn => variableChage coinsIn (s.coinsIn f.data0 f.data1).coinTotoal

/-! ## Errors -/

/-- The codes in `AbnormalHandle`. -/
def abnormalCodes : List (ℕ × List Char) :=
  [(outageErro, ['E', '0', '7', '0']), (0x02, ['E', '0', '0', '0']),
   (billsetErro, ['E', '0', '1', '0']), (0x04, ['E', '0', '2', '0']),
   (coinhoopersetErro, ['E', '0', '3', '0']), (coinhoopersetEmpty, ['E', '0', '3', '2']),
   (0x07, ['E', '0', '4', '0']), (0x08, ['E', '0', '5', '0']), (networkErro, ['E', '0', '6', '0']),
   (xTimeout, ['E', '1', '0', '1']), (xLeftlimit, ['E', '1', '0', '2']),
   (xRightlimit, ['E', '1', '0', '3']), (mealtakeTimeout, ['E', '2', '0', '1']),
   (yTimeout, ['E', '3', '0', '1']), (linkTimeout, ['E', '4', '0', '1']),
   (zTimeout, ['E', '5', '0', '1']), (zUplimit, ['E', '5', '0', '2']),
   (zDownlimit, ['E', '5', '0', '3']), (solenoidTimeout, ['E', '6', '0', '1']),
   (eepromErro, ['E', '7', '1', '1']), (sendUR6Erro, ['E', '8', '0', '1']),
   (getMealError, ['E', '8', '0', '2']), (mealNoAway, ['E', '8', '0', '3'])]

/-- The code of an error, if it has one. -/
def abnormalCode (erro : ℕ) : Option (List UInt8) :=
  (abnormalCodes.lookup erro).map fun cs => cs.map Char.toUInt8

/-- `AbnormalHandle`, up to its loop.  For `X_rightlimit` the code comes before the page. -/
def abnormalHandle (erro : ℕ) (s : Machine) : List UInt8 :=
  match abnormalCode erro with
  | some code =>
    if erro = outageErro ∧ ¬ 0 < s.session.userAct.moneyBack then []
    else if erro = xRightlimit then displayAbnormal code ++ pageChange errInterface
    else pageChange errInterface ++ displayAbnormal code
  | none => []

/-- `manageusart6data`, with what comes after it. -/
def manageusart6data (k : Machine → List UInt8) (s : Machine) : List UInt8 :=
  if s.arm.usart6DataFlag then
    let s := { s with arm.usart6DataFlag := false }
    match armError s.arm.usart6Buff with
    | some e => abnormalHandle e s
    | none => k { s with arm := s.arm.readLine.clearBuff }
  else k s

/-- `PollAbnormalHandle`. -/
def pollAbnormalHandle (i : ℕ) (s : Machine) : List UInt8 :=
  match Machine.pollNext s.erroRecord i with
  | some e => abnormalHandle e s
  | none => []

/-! ## The main program -/

/-- One round of an `Order…` function: nothing is sent to the screen before it has ended. -/
def waitOrder (r : ℕ) (done fail : List UInt8) (s : Machine) : List UInt8 :=
  match (s.arm.order r).1 with
  | .done => done
  | .failed _ => fail
  | .again _ => []
  | .wait => []

/-- The end of the idle state. -/
def idleTail (s : Machine) : List UInt8 :=
  if s.session.userAct.mealID ≠ 0 then
    if s.timers.waitTime = 0 then pageChange menuInterface
    else if s.timers.waitTime ≠ 60 then variableChage countDowm s.timers.waitTime.toUInt16
    else []
  else []

/-- `switch(Current)`. -/
def switch (io : Io) (s : Machine) : List UInt8 :=
  match s.session.current with
  | .currentTemperature => if 5 ≤ s.arm.linkTime then [] else idleTail s
  | .waitforMoney =>
    waitPayMoney io s ++
      if s.session.currentPoint = .p3 ∧ io.bill = .rejected then
        abnormalHandle billsetErro s
      else []
  | .hpperOut => []
  | .mealOut => []
  | .dataUpload => []
  | .erroHanle => pollAbnormalHandle 33 s

/-- The page that is opened in front of a check of `main`. -/
def checkPage (n : ℕ) : List UInt8 :=
  match n with
  | 0 => pageChange signInFunctionInterface
  | 1 => []
  | 2 => pageChange sztGpbocAutoCheckInInterface
  | 3 => []
  | _ => pageChange logoInterface

/-- What comes after a check of `main`: after the last one the menu is opened. -/
def checked (n : ℕ) (s : Machine) : List UInt8 :=
  if n < 4 then [] else dispLeftMeal s.stock ++ pageChange menuInterface

/-- A check of `main`. -/
def check (n : ℕ) (io : Io) (s : Machine) : List UInt8 :=
  checkPage n ++
    match s.checkFailed n io with
    | some e => abnormalHandle e s
    | none => checked n s

/-- A card is read. -/
def cardRead (v : Values) (szt : Bool) (money : ℤ) (cnt : ℕ) (io : Io) (s : Machine) :
    List UInt8 :=
  (if cnt = 0 then
    variableChagelong amountofConsumption 0 ++ variableChagelong cardbalenceBefore 0 ++
      variableChagelong cardbalenceAfter 0
  else []) ++
  if io.ok then
    variableChagelong cardbalenceBefore v.cardMoney ++
      if szt ∨ 0 ≤ money then [] else pageChange (acountInterface + 2)
  else if szt ∧ s.cardbalenceCancelFlag then pageChange (acountInterface + 2)
  else []

/-- The screen has been dealt with. -/
def cardDeal (szt : Bool) (cnt : ℕ) (s : Machine) : List UInt8 :=
  if ¬ szt ∧ s.cardbalenceCancelFlag then pageChange (acountInterface + 2)
  else if cnt < 15 then []
  else pageChange (acountInterface + 2)

/-- The answer to the debit. -/
def cardDeduct (v : Values) (io : Io) : List UInt8 :=
  if io.ok then
    match v.deducted with
    | some (amount, balance) =>
      variableChagelong amountofConsumption amount ++ variableChagelong cardbalenceAfter balance
    | none => []
  else pageChange (acountInterface + 2)

/-- The first loop of case 4 of `WaitMeal` after `manageusart6data`. -/
def doorCheck (s : Machine) : List UInt8 :=
  if s.arm.retodoor then []
  else if s.arm.reenablegetmeal then pageChange errInterface
  else []

/-- The main program goes on after `AbnormalHandle`. -/
def resume (s : Machine) : Ret → List UInt8
  | .start => pageChange onlymachieInitInterface
  | .init => []
  | .check n => checked n s
  | .main => []
  | .bill => []
  | .goal => []
  | .door => doorCheck (s.onArm Arm.clearBuff)
  | .away => []
  | .poll i => pollAbnormalHandle i s

/-- The next piece of the main program. -/
def go (v : Values) (io : Io) (s : Machine) : List UInt8 :=
  match s.session.pc with
  | .initLink _ => []
  | .initOrder _ => []
  | .initWait => manageusart6data (fun _ => []) s
  | .check n => check n io s
  | .deal => manageusart6data (fun _ => []) s
  | .switch => switch io s
  | .link r =>
    let shown := variableChage currentTemprature v.temperature.toUInt16 ++ idleTail s
    waitOrder r shown shown s
  | .cardRead szt money cnt => cardRead v szt money cnt io s
  | .cardDeal szt _ cnt => cardDeal szt cnt s
  | .cardDeduct _ _ => cardDeduct v io
  | .payTail => if s.timers.waitTime = 0 then pageChange menuInterface else []
  | .find => if s.session.userAct.firstKind = none then pageChange menuInterface else []
  | .take => dispLeftMeal (s.take io).stock
  | .coord r => waitOrder r [] (pageChange errInterface) s
  | .goal =>
    if 10 < s.arm.linkTime then pageChange errInterface else manageusart6data (fun _ => []) s
  | .getMeal r => waitOrder r [] (pageChange errInterface) s
  | .door => if 120 < s.arm.linkTime then pageChange errInterface else manageusart6data doorCheck s
  | .away =>
    if 180 < s.arm.linkTime then pageChange errInterface else manageusart6data (fun _ => []) s
  | .count =>
    variableChage mealoutAlready s.countMeal.session.userAct.mealTakeout.toUInt16 ++
      pageChange mealoutInterface
  | .abnormal _ _ => []
  | .resume ret => resume s ret

/-- One step of the machine.  Of the interrupts only that of timer 4 sends something. -/
def step (mealneedSync : Bool) (v : Values) (s : Machine) : Event → List UInt8
  | .tim4 =>
    if 0 < s.timers.waitTime then []
    else if s.erroFlag = 0 then pageChange mealoutInterface
    else []
  | .screen f io => changeVariableValues mealneedSync v f io s
  | .go io => go v io s
  | _ => []

end MealVendor.Show
