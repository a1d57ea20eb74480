import MealVendor.Model.Pay
import MealVendor.Model.Printer
import MealVendor.Model.Serial

/-!
# What the screen is sent

A function of this file copies a frame into the array `temp`, fills in an address and the data,
and sends the whole array, the zeros behind the frame included.  Each is written here as the bytes
on the line.  The frames of `VariableWrite` go to the variables of the screen, those of
`RegisterWrite` to its registers.
-/

namespace MealVendor.Show

/-! ## Addresses -/

/-- `PIC_ID`. -/
def picID : UInt8 := 0x03

/-- The pages. -/
def menuInterface : UInt8 := 0x02
def acountInterface : UInt8 := 0x10
def ticketPrintInterface : UInt8 := 0x13
def passwordInterface : UInt8 := 0x16
def mealSetInterface : UInt8 := 0x18
def coinsetInterface : UInt8 := 0x22
def cardbalenceInterface : UInt8 := 0x25
def userAbonamalRecordInterface : UInt8 := 0x27

/-- What has been paid, and the time that is left for it. -/
def paymentCoin : UInt16 := 0x0025
def paymentBill : UInt16 := 0x0026
def paymentCard : UInt16 := 0x0027
def waitPayfor : UInt16 := 0x0028
def mealoutTotle : UInt16 := 0x002A
def mealoutAlready : UInt16 := 0x002B

/-- The password page, and the pages it leads to. -/
def passwordShow : UInt16 := 0x0005
def row1st : UInt16 := 0x0011
def row2nd : UInt16 := 0x0012
def row3rd : UInt16 := 0x0013
def coinsIn : UInt16 := 0x0051

/-- The first row of the cart page, and its last line. -/
def column1stName : UInt16 := 0x4100
def column1stCount : UInt16 := 0x0042
def column1stCost : UInt16 := 0x0043
def mealtotoalCost : UInt16 := 0x004F

/-- The page with the record of a sale that failed. -/
def recordColumn1stName : UInt16 := 0x5000
def recordColumn1stCntT : UInt16 := 0x5400
def recordColumn1stCnt : UInt16 := 0x5800
def recordUserActPayAlready : UInt16 := 0x5C00
def recordUserActPayBack : UInt16 := 0x5D00

/-! ## Frames -/

/-- `VariableWrite`. -/
def variableWrite : List UInt8 := [fh0, fh1, 0x00, 0x82, 0x00, 0x00, 0x00, 0x00]

/-- `RegisterWrite`. -/
def registerWrite : List UInt8 := [fh0, fh1, 0x04, 0x80, 0x00, 0x00, 0x00]

/-- The array `temp` of this size, with the frame copied to its front. -/
def temp (size : ℕ) (frame : List UInt8) : List UInt8 :=
  frame ++ List.replicate (size - frame.length) 0

/-- The stores through `myunion`: the bytes of a word, the high one first. -/
def setWord (i : ℕ) (w : UInt16) (p : List UInt8) : List UInt8 :=
  (p.set i (w >>> 8).toUInt8).set (i + 1) w.toUInt8

/-- `mystrcat`. -/
def mystrcat (src : List UInt8) (length : ℕ) (dest : List UInt8) : List UInt8 :=
  (List.range length).foldl (fun p i => p.set (6 + i) (src.getD i 0)) dest

/-- `meat_name`, `chicken_name`, `duck_name`, `fish_name`, and how much of each is copied. -/
def mealName : Kind → List UInt8
  | 0 => [0xba, 0xec, 0xc2, 0xdc, 0xb2, 0xb7, 0xb3, 0xb4, 0xc8, 0xe2]
  | 1 => [0xcf, 0xe3, 0xb9, 0xbd, 0xbb, 0xac, 0xbc, 0xa6]
  | 2 => [0xb4, 0xe0, 0xc6, 0xa4, 0xbf, 0xbe, 0xd1, 0xbc]
  | 3 => [0xba, 0xec, 0xc9, 0xd5, 0xd3, 0xe3, 0xbf, 0xe9]

/-- `sprintf(buffer, "%d", meal_cnt)`. -/
def decimal (n : UInt8) : List UInt8 := (Nat.toDigits 10 n.toNat).map fun c => UInt8.ofNat c.toNat

/-! ## One frame -/

/-- `VariableChage`. -/
def variableChage (adress value : UInt16) : List UInt8 :=
  setWord 6 value (setWord 4 adress ((temp 8 variableWrite).set 2 5))

/-- `PageChange`. -/
def pageChange (page : UInt8) : List UInt8 := ((temp 7 registerWrite).set 4 picID).set 6 page

/-- The name of a meal, or none, in row `floor` of a page. -/
def nameDisp (adress : UInt16) (mealId floor : UInt8) : List UInt8 :=
  let p := setWord 4 (adress + floor.toUInt16 * 0x0100) ((temp 30 variableWrite).set 2 15)
  match Kind.ofID mealId with
  | some k => mystrcat (mealName k) (mealName k).length p
  | none => p

/-- `MealNameDisp`. -/
def mealNameDisp : UInt8 → UInt8 → List UInt8 := nameDisp column1stName

/-- `AbnomalMealNameDisp`. -/
def abnomalMealNameDisp : UInt8 → UInt8 → List UInt8 := nameDisp recordColumn1stName

/-- A byte in row `floor` of the cart page.  The frame is longer than the word, and the zeros
behind it go to the variables that follow. -/
def byteDisp (adress : UInt16) (value floor : UInt8) : List UInt8 :=
  (setWord 4 (adress + floor.toUInt16 * 3) ((temp 20 variableWrite).set 2 13)).set 7 value

/-- `MealCntDisp`. -/
def mealCntDisp : UInt8 → UInt8 → List UInt8 := byteDisp column1stCount

/-- `MealCostDisplay`. -/
def mealCostDisplay : UInt8 → UInt8 → List UInt8 := byteDisp column1stCost

/-- A count in row `floor` of the record page, as a text.  0xff stands for no text. -/
def textDisp (adress : UInt16) (mealCnt floor : UInt8) : List UInt8 :=
  let cnt := if mealCnt = 0xff then 0 else (decimal mealCnt).length
  mystrcat (decimal mealCnt) cnt
    (setWord 4 (adress + floor.toUInt16 * 0x0100)
      ((temp 20 variableWrite).set 2 (UInt8.ofNat (4 + cnt))))

/-- `AbnomalMealCnttDisp`. -/
def abnomalMealCnttDisp : UInt8 → UInt8 → List UInt8 := textDisp recordColumn1stCntT

/-- `AbnomalMealCntDisp`. -/
def abnomalMealCntDisp : UInt8 → UInt8 → List UInt8 := textDisp recordColumn1stCnt

/-- `DisplayPassWord`. -/
def displayPassWord (passWordLen : ℕ) : List UInt8 :=
  mystrcat (List.replicate passWordLen 0x2A) passWordLen
    (setWord 4 passwordShow ((temp 20 variableWrite).set 2 (UInt8.ofNat (passWordLen + 4))))

/-! ## The cart page -/

/-- The kinds in the cart, one after the other: what the rows of `DispMeal` are filled with. -/
def cartKinds (u : UserSelection) : List Kind :=
  (List.finRange 4).filter fun k => decide (0 < u.mealCnt k)

/-- The three frames of a row: the name, the count and the cost, of which only the low byte is
kept in `DispMeal`. -/
def cartRow (mealId mealCnt mealCost floor : UInt8) : List UInt8 :=
  mealNameDisp mealId floor ++ mealCntDisp mealCnt floor ++ mealCostDisplay mealCost floor

/-- The last loop of `SettleAccounts`. -/
def cartRows (u : UserSelection) : List Kind → ℕ → List UInt8
  | [], _ => []
  | k :: ks, floor =>
    cartRow k.id (u.mealCnt k) (u.mealCost k).toUInt8 (UInt8.ofNat floor) ++
      cartRows u ks (floor + 1)

/-- `SettleAccounts`: the rows are emptied, the page is opened, and the rows are filled. -/
def settleAccounts (u : UserSelection) : List UInt8 :=
  (List.range 4).flatMap (fun i => cartRow 0 0 0 (UInt8.ofNat i)) ++
    pageChange acountInterface ++
    variableChage paymentCoin u.payForCoins ++ variableChage paymentBill u.payForBills ++
    variableChage paymentCard u.payForCards ++ variableChage waitPayfor 60 ++
    cartRows u (cartKinds u) 0 ++ variableChage mealtotoalCost u.settle.payShould

/-- The address of the count of row `i`. -/
def columnCount (i : Fin 4) : UInt16 := column1stCount + UInt16.ofNat (3 * i.val)

/-- The message of the screen for row `i`. -/
def column (i : Fin 4) (d : UInt8) (s : Machine) : List UInt8 :=
  let u := (s.column i d).session.userAct
  (match Kind.ofID (s.dispMeal i).mealId with
    | some k =>
      if d ≤ (s.stock.defineMeal k).mealCount then
        variableChage (columnCount i) (u.mealCnt k).toUInt16 ++
          variableChage (columnCount i + 1) (u.mealCost k)
      else variableChage (columnCount i) (u.mealCnt k).toUInt16
    | none => if (s.dispMeal i).mealId = 0 then variableChage (columnCount i) 0 else []) ++
  variableChage mealtotoalCost u.payShould

/-- The `switch` of `WaitPayMoney`, and what the main program does after `Status_OK`. -/
def waitPayMoney (io : Io) (s : Machine) : List UInt8 :=
  let u := (s.waitPayMoney io).session.userAct
  variableChage waitPayfor s.timers.waitTime.toUInt16 ++
    match s.session.currentPoint with
    | .p3 => if io.bill.value = 0 then [] else variableChage paymentBill u.payForBills
    | .p5 => variableChage paymentCoin u.payForCoins ++ variableChage paymentCard u.payForCards
    | .p7 => pageChange cardbalenceInterface
    | .p8 => pageChange cardbalenceInterface
    | .p9 =>
      variableChage mealoutTotle u.mealTotoal.toUInt16 ++ pageChange ticketPrintInterface ++
        variableChage mealoutAlready u.mealTakeout.toUInt16
    | _ => []

/-! ## The page of a kind -/

/-- `Meal1st_interface` to `Meal4th_interface`. -/
def mealInterface : Kind → UInt8 := ![0x04, 0x07, 0x0A, 0x0D]

/-- `count_dowm`. -/
def countDowm : UInt16 := 0x003F

/-- `meat_cnt`, `chicken_cnt`, `duck_cnt`, `fish_cnt`. -/
def mealCnt : Kind → UInt16 := ![0x0030, 0x0033, 0x0036, 0x0039]

/-- `meat_cost`, `chicken_cost`, `duck_cost`, `fish_cost`. -/
def mealCost : Kind → UInt16 := ![0x0032, 0x0035, 0x0038, 0x003B]

/-- `MealCostDisp`: the cost goes to the page of the kind, whose address is computed in a byte. -/
def mealCostDisp (mealId mealCount : UInt8) : List UInt8 :=
  (((temp 8 variableWrite).set 2 5).set 5 (0x32 + (mealId - 1) * 3)).set 7
    (getMealPrice mealId mealCount)

/-- `meal_choose`. -/
def mealChoose (d : UInt8) (s : Machine) : List UInt8 :=
  match Kind.ofID d with
  | some k =>
    if 0 < (s.stock.defineMeal k).mealCount then
      variableChage countDowm 60 ++ pageChange (mealInterface k) ++ variableChage (mealCnt k) 1 ++
        mealCostDisp d 1
    else []
  | none => if d = 0x05 then pageChange passwordInterface else []

/-- Where a count beyond the stock is corrected.  For the fourth kind this is the cost of the
third. -/
def corrected : Kind → UInt16 := ![mealCnt 0, mealCnt 1, mealCnt 2, mealCost 2]

/-- `meat_cnt` and its siblings. -/
def count (k : Kind) (d : UInt8) (s : Machine) : List UInt8 :=
  let u := (s.count k d).session.userAct
  mealCostDisp u.mealID (u.mealCntT k) ++
    if d ≤ (s.stock.defineMeal k).mealCount then []
    else variableChage (corrected k) (u.mealCntT k).toUInt16

/-! ## The record page -/

/-- The three frames of a row: the name, the count that was ordered and the count that is left. -/
def recordRow (mealId mealCntT mealCnt floor : UInt8) : List UInt8 :=
  abnomalMealNameDisp mealId floor ++ abnomalMealCnttDisp mealCntT floor ++
    abnomalMealCntDisp mealCnt floor

/-- The rows that `DisplayUserRecord` fills. -/
def recordRows (u : UserSelection) : List Kind → ℕ → List UInt8
  | [], _ => []
  | k :: ks, floor =>
    recordRow k.id (u.mealCntT k) (u.mealCnt k) (UInt8.ofNat floor) ++ recordRows u ks (floor + 1)

/-- `DisplayUserRecord`. -/
def displayUserRecord (u : UserSelection) : List UInt8 :=
  (List.range 4).flatMap (fun i => recordRow 0 0xff 0xff (UInt8.ofNat i)) ++
    recordRows u (cartKinds u) 0 ++
    if 0 < u.moneyBack then
      variableChage recordUserActPayAlready u.payAlready ++
        variableChage recordUserActPayBack u.displayUserRecord.moneyBack.toUInt16
    else variableChage recordUserActPayAlready 0 ++ variableChage recordUserActPayBack 0

/-! ## The password page -/

/-- `InitSetting`. -/
def initSetting (s : Stock) : List UInt8 :=
  let c := s.initSetting.curFloor
  variableChage row1st (c.count 0).toUInt16 ++ variableChage row2nd (c.count 1).toUInt16 ++
    variableChage row3rd (c.count 2).toUInt16

/-- The confirm key. -/
def confirmPassWord (s : Machine) : List UInt8 :=
  if s.inputPassWord = Machine.passWord then
    displayPassWord 0 ++
      if s.erroFlag ≠ 0 then [] else pageChange mealSetInterface ++ initSetting s.stock
  else if s.inputPassWord = Machine.adminPassWord then
    if s.erroFlag ≠ 0 then
      pageChange userAbonamalRecordInterface ++ displayUserRecord s.session.userAct ++
        displayPassWord 0
    else pageChange coinsetInterface ++ variableChage coinsIn s.coinTotoal ++ displayPassWord 0
  else pageChange passwordInterface ++ displayPassWord 0

/-- `password`: a digit, the backspace key, confirm, return. -/
def password (d : UInt8) (s : Machine) : List UInt8 :=
  if d ≤ 0x0F then if s.passWordLen < 6 then displayPassWord (s.passWordLen + 1) else []
  else if d = 0x10 then if 0 < s.passWordLen then displayPassWord (s.passWordLen - 1) else []
  else if d = 0x11 then confirmPassWord s
  else if d = 0x12 then
    if s.erroFlag ≠ 0 then [] else pageChange menuInterface ++ displayPassWord 0
  else []

end MealVendor.Show
