import MealVendor.Model.Machine

/-!
# The messages of the touch screen

`ChangeVariableValues` is called for every message of the screen, whatever the state of the
machine.  It is cut here into one function for each variable, in the order of its
`switch`.  Everything that only goes back to the screen (pages, displayed values, voices) is
left out.
-/

namespace MealVendor

/-! ## The variables of the screen -/

/-- The variables of the screen that `ChangeVariableValues` reacts to. -/
inductive Variable
  | mealChoose
  | mealcntChoose
  | paymentMethod
  | billPrint
  | password
  | adminSet
  /-- `row_1st`, `row_2nd`, `row_3rd`. -/
  | row (c : Column)
  | floorNum
  | mealNum
  | mealinputChoose
  | tempratureSet
  /-- `meat_cnt`, `chicken_cnt`, `duck_cnt`, `fish_cnt`. -/
  | count (k : Kind)
  /-- `column1st_count` to `column4th_count`. -/
  | column (i : Fin 4)
  | coinsIn
  | coinsKey
  | caedbalenceCancel
  | recordClear
deriving DecidableEq

/-- The addresses of the variables. -/
def Variable.adresses : List (UInt16 × Variable) :=
  [(0x0000, .mealChoose), (0x0001, .mealcntChoose), (0x0002, .paymentMethod),
   (0x0003, .billPrint), (0x0004, .password), (0x0006, .adminSet),
   (0x0011, .row 0), (0x0012, .row 1), (0x0013, .row 2),
   (0x0014, .floorNum), (0x0015, .mealNum), (0x001A, .mealinputChoose),
   (0x001F, .tempratureSet),
   (0x0030, .count 0), (0x0033, .count 1), (0x0036, .count 2), (0x0039, .count 3),
   (0x0042, .column 0), (0x0045, .column 1), (0x0048, .column 2), (0x004B, .column 3),
   (0x0051, .coinsIn), (0x0052, .coinsKey), (0x0053, .caedbalenceCancel),
   (0x0054, .recordClear)]

/-- A message of the screen: `VariableAdress`, `VariableData[0]` and `VariableData[1]`. -/
structure Frame where
  adress : UInt16
  data0 : UInt8
  data1 : UInt8

/-- The variable a message is about. -/
def Frame.variable (f : Frame) : Option Variable := Variable.adresses.lookup f.adress

/-! ## What the devices answer -/

/-- What `ReadBill` finds in the buffer of the bill acceptor. -/
inductive BillRead
  | none
  | five
  | ten
  | twenty
  | rejected
deriving DecidableEq

/-- The value `ReadBills` returns. -/
def BillRead.value : BillRead → ℕ
  | five => 5
  | ten => 10
  | twenty => 20
  | _ => 0

/-- The answers the devices give while the main program does one step. -/
structure Io where
  bill : BillRead
  /-- Pin 9 of port E before the n-th coin is paid out: whether the hopper has coins. -/
  pe9 : ℕ → Bool
  /-- What `WriteMeal` reads back if its comparison fails. -/
  flash : Option (Floor → FloorAttribute)
  /-- Whether the operation at hand succeeds: a card read or debited, a check passed. -/
  ok : Bool

/-- Devices without trouble and without money. -/
def Io.quiet : Io := ⟨.none, fun _ => true, none, true⟩

/-- `SendOutN_Coin(num)`: how many coins are paid out before pin 9 reports that the hopper
is empty. -/
def sentCoins (pe9 : ℕ → Bool) (num : ℕ) : ℕ := ((List.range num).takeWhile pe9).length

lemma sentCoins_le (pe9 : ℕ → Bool) (num : ℕ) : sentCoins pe9 num ≤ num := by
  rw [sentCoins]
  calc ((List.range num).takeWhile pe9).length ≤ (List.range num).length :=
        (List.takeWhile_prefix _).length_le
    _ = num := List.length_range

/-! ## The handlers that change the selection -/

/-- `GetMealPrice`: the price is a `char`. -/
def getMealPrice (mealType count : UInt8) : UInt8 :=
  match Kind.ofID mealType with
  | some k => UInt8.ofNat (price k * count.toNat)
  | none => 0

namespace UserSelection

/-- `meal_choose` with value 1 to 4, if there is such a meal. -/
def choose (k : Kind) (u : UserSelection) : UserSelection :=
  { u with mealID := k.id, mealCntT := Function.update u.mealCntT k 1 }

/-- `meat_cnt` and its siblings, with a count the stock allows. -/
def draft (k : Kind) (d : UInt8) (u : UserSelection) : UserSelection :=
  { u with
    mealCntT := Function.update u.mealCntT k d
    mealCost := Function.update u.mealCost k (getMealPrice u.mealID d).toUInt16 }

/-- The same with a count the stock does not allow: the stock is taken for the count, and
the cost is not touched. -/
def draftAll (k : Kind) (stock : UInt8) (u : UserSelection) : UserSelection :=
  { u with mealCntT := Function.update u.mealCntT k stock }

/-- `PutIntoShopCart`. -/
def putIntoShopCart (u : UserSelection) : UserSelection :=
  let u := match Kind.ofID u.mealID with
    | some k =>
      { u with
        mealCnt := Function.update u.mealCnt k (u.mealCntT k)
        mealCost := Function.update u.mealCost k (getMealPrice u.mealID (u.mealCntT k)).toUInt16 }
    | none => u
  { u with mealTotoal := u.total }

/-- The store into `PayShould` at the end of `SettleAccounts` and of a column change. -/
def settle (u : UserSelection) : UserSelection := { u with payShould := u.costs }

/-- A column change with a count the stock allows. -/
def setColumn (k : Kind) (d : UInt8) (u : UserSelection) : UserSelection :=
  { u with
    mealCnt := Function.update u.mealCnt k d
    mealCost := Function.update u.mealCost k (UInt16.ofNat (d.toNat * price k)) }

/-- The change `DisplayUserRecord` computes: what was paid less what was taken out. -/
def recordChange (u : UserSelection) : ℤ :=
  u.payAlready.toNat - ∑ k, (((u.mealCntT k).toNat : ℤ) - (u.mealCnt k).toNat) * price k

/-- `DisplayUserRecord`. -/
def displayUserRecord (u : UserSelection) : UserSelection :=
  if 0 < u.moneyBack then { u with moneyBack := Int16.ofInt u.recordChange } else u

/-- It changes nothing but `MoneyBack`. -/
lemma displayUserRecord_eq (u : UserSelection) :
    u.displayUserRecord = { u with moneyBack := u.displayUserRecord.moneyBack } := by
  rw [displayUserRecord]
  split_ifs <;> rfl

/-- The money already paid becomes the change: `MoneyBack = PayAlready`. -/
def payBack (u : UserSelection) : UserSelection := { u with moneyBack := u.payAlready.toInt16 }

end UserSelection

namespace Session

/-- `PutIntoShopCart`. -/
def putIntoShopCart (s : Session) : Session :=
  let s' := { s with userAct := s.userAct.putIntoShopCart }
  match Kind.ofID s.userAct.mealID with
  | some k => s'.emit (.put k)
  | none => s'

/-- The cancel key of `payment_method`, which is also reached when nothing is to be
paid. -/
def cancelPayment (s : Session) : Session :=
  let s := { s with currentPoint := .p0, userAct := s.userAct.payBack }.clearUserBuffer
  { s with userAct := { s.userAct with cancle := 1 }, current := .hpperOut }.emit .cancel

end Session

/-! ### What putting a kind into the cart keeps -/

section Put

variable (u : UserSelection) (s : Session)

/-- The money and the flags are the same after `PutIntoShopCart`. -/
lemma UserSelection.putIntoShopCart_money :
    u.putIntoShopCart.payAlready = u.payAlready ∧ u.putIntoShopCart.payShould = u.payShould ∧
      u.putIntoShopCart.payForCoins = u.payForCoins ∧
      u.putIntoShopCart.payForBills = u.payForBills ∧
      u.putIntoShopCart.payForCards = u.payForCards ∧
      u.putIntoShopCart.moneyBack = u.moneyBack ∧ u.putIntoShopCart.cancle = u.cancle := by
  rw [UserSelection.putIntoShopCart]
  dsimp only
  split <;> exact ⟨rfl, rfl, rfl, rfl, rfl, rfl, rfl⟩

lemma UserSelection.putIntoShopCart_mealCnt :
    u.putIntoShopCart.mealCnt = match Kind.ofID u.mealID with
      | some k => Function.update u.mealCnt k (u.mealCntT k)
      | none => u.mealCnt := by
  rw [UserSelection.putIntoShopCart]
  cases Kind.ofID u.mealID <;> rfl

namespace Session

@[simp] lemma putIntoShopCart_userAct :
    s.putIntoShopCart.userAct = s.userAct.putIntoShopCart := by
  unfold putIntoShopCart
  dsimp only
  split <;> rfl

@[simp] lemma putIntoShopCart_pc : s.putIntoShopCart.pc = s.pc := by
  unfold putIntoShopCart
  dsimp only
  split <;> rfl

@[simp] lemma putIntoShopCart_current : s.putIntoShopCart.current = s.current := by
  unfold putIntoShopCart
  dsimp only
  split <;> rfl

@[simp] lemma putIntoShopCart_currentPoint :
    s.putIntoShopCart.currentPoint = s.currentPoint := by
  unfold putIntoShopCart
  dsimp only
  split <;> rfl

end Session

end Put

/-! ## One function for each variable -/

namespace Machine

/-- `meal_choose`.  The fifth key opens the password page. -/
def mealChoose (d : UInt8) (s : Machine) : Machine :=
  let s := s.onTimers Timers.closeTIM4
  match Kind.ofID d with
  | some k =>
    if 0 < (s.stock.defineMeal k).mealCount then
      (s.onSession fun t => { t with userAct := t.userAct.choose k }).onTimers Timers.openTIM3
    else s
  | none => s

/-- `meat_cnt`, `chicken_cnt`, `duck_cnt`, `fish_cnt`. -/
def count (k : Kind) (d : UInt8) (s : Machine) : Machine :=
  if d ≤ (s.stock.defineMeal k).mealCount then
    (s.onSession fun t => { t with userAct := t.userAct.draft k d }).emit
      (.draft k s.session.userAct.mealID d)
  else
    s.onSession fun t => { t with userAct := t.userAct.draftAll k (s.stock.defineMeal k).mealCount }

/-- The rows of the shopping-cart page that `SettleAccounts` fills: the kinds in the cart,
one after the other. -/
def cartRows (u : UserSelection) (i : Fin 4) : DispMealStuct :=
  match ((List.finRange 4).filter fun k => decide (0 < u.mealCnt k))[i.val]? with
  | some k => ⟨k.id⟩
  | none => ⟨0⟩

/-- `SettleAccounts`. -/
def settleAccounts (s : Machine) : Machine :=
  ({ s with dispMeal := cartRows s.session.userAct }.onTimers Timers.openTIM7).onSession fun t =>
    { t with userAct := t.userAct.settle }

/-- The third key of `mealcnt_choose`: to the cart. -/
def enterCart (s : Machine) : Machine :=
  let s := s.onSession Session.putIntoShopCart
  if 0 < s.session.userAct.mealTotoal then
    (s.settleAccounts.onTimers fun t => t.closeTIM3.openTIM7).onSession fun t =>
      { t with current := .waitforMoney }
  else s

/-- `mealcnt_choose`: choose on, to the cart, cancel. -/
def mealcntChoose (d : UInt8) (s : Machine) : Machine :=
  if d = 2 then (s.onSession Session.putIntoShopCart).onTimers Timers.waitTimeInit
  else if d = 3 then s.enterCart
  else if d = 4 then
    (s.clearUserBuffer.onTimers Timers.closeTIM3).onSession fun t =>
      { t with current := .currentTemperature }
  else s

/-- The column counts of the cart page: row `i` holds the kind the last `SettleAccounts`
put there. -/
def column (i : Fin 4) (d : UInt8) (s : Machine) : Machine :=
  let s := match Kind.ofID (s.dispMeal i).mealId with
    | some k =>
      if d ≤ (s.stock.defineMeal k).mealCount then
        (s.onSession fun t => { t with userAct := t.userAct.setColumn k d }).emit (.column k)
      else s
    | none => s
  s.onSession fun t => { t with userAct := t.userAct.settle }

/-- The cancel branch of `payment_method`. -/
def cancelPayment (s : Machine) : Machine :=
  (s.resetCoinsCount.onTimers fun t => t.closeTIM3.closeTIM7).onSession Session.cancelPayment

/-- `payment_method`: cash, bank card, Shenzhen Tong card, cancel. -/
def paymentMethod (d : UInt8) (s : Machine) : Machine :=
  let s := s.onSession fun t => { t with userAct := t.userAct.acountCopy }
  if s.session.userAct.payShould = 0 then s.cancelPayment
  else if d = 1 then s.resetCoinsCount.onSession fun t => { t with currentPoint := .p2 }
  else if d = 2 then s.resetCoinsCount.onSession fun t => { t with currentPoint := .p7 }
  else if d = 3 then s.resetCoinsCount.onSession fun t => { t with currentPoint := .p8 }
  else if d = 4 then s.cancelPayment
  else s

/-- `bill_print`.  `PrintTickFun` clears the flag again and leaves timer 4 enabled, before
the timer is closed. -/
def billPrint (d : UInt8) (s : Machine) : Machine :=
  if d = 1 ∨ d = 2 then
    (s.onSession fun t => { t with userAct := { t.userAct with printTick := 0 } }).onTimers
      Timers.closeTIM4
  else s

/-- `GetPassWord` and `GetAdminPassWord`. -/
def passWord : Fin 6 → UInt8 := ![5, 1, 8, 5, 1, 8]

def adminPassWord : Fin 6 → UInt8 := ![1, 2, 3, 4, 5, 6]

/-- The confirm key of the password page. -/
def confirmPassWord (s : Machine) : Machine :=
  let s' := { s with passWordLen := 0 }
  if s.inputPassWord = passWord then
    if s.erroFlag ≠ 0 then s' else { s' with stock := s.stock.initSetting }
  else if s.inputPassWord = adminPassWord ∧ s.erroFlag ≠ 0 then
    s'.onSession fun t => { t with userAct := t.userAct.displayUserRecord }
  else s'

/-- `password`: a digit, the backspace key, confirm, return. -/
def password (d : UInt8) (s : Machine) : Machine :=
  if d ≤ 0x0F then
    if h : s.passWordLen < 6 then
      { s with
        inputPassWord := Function.update s.inputPassWord ⟨s.passWordLen, h⟩ d
        passWordLen := s.passWordLen + 1 }
    else s
  else if d = 0x10 then
    if 0 < s.passWordLen then
      { s with
        inputPassWord := if h : s.passWordLen < 6 then
            Function.update s.inputPassWord ⟨s.passWordLen, h⟩ 0
          else s.inputPassWord
        passWordLen := s.passWordLen - 1 }
    else s
  else if d = 0x11 then s.confirmPassWord
  else if d = 0x12 then if s.erroFlag ≠ 0 then s else { s with passWordLen := 0 }
  else s

/-- `record_clear`: the first key ends the loop of `AbnormalHandle`. -/
def recordClear (d : UInt8) (s : Machine) : Machine := if d = 1 then { s with erroFlag := 0 } else s

/-- `admin_set`: the second key clears the stock. -/
def adminSet (d : UInt8) (io : Io) (s : Machine) : Machine :=
  if d = 2 then { s with stock := s.stock.clearAll io.flash } else s

/-- `mealinput_choose`: fill up, clear out, confirm, return.  The fourth key compares with
the server and changes nothing here. -/
def mealinputChoose (d : UInt8) (io : Io) (s : Machine) : Machine :=
  if d = 1 then { s with stock := s.stock.fill 3 9 }
  else if d = 2 then { s with stock := s.stock.fill 0 0 }
  else if d = 3 then { s with stock := s.stock.confirm io.flash }
  else if d = 5 then { s with stock := s.stock.back }
  else s

/-- `coins_in`: the administrator enters the number of coins. -/
def coinsIn (d0 d1 : UInt8) (s : Machine) : Machine :=
  { s with coinTotoal := UInt16.ofNat (256 * d0.toNat + d1.toNat) }.writeCoins

/-- `ChangeVariableValues`.  `temprature_set` only sends a command to the arm, `coins_key`
only pays out coins to the administrator. -/
def changeVariableValues (f : Frame) (io : Io) (s : Machine) : Machine :=
  match f.variable with
  | none => s
  | some .mealChoose => s.mealChoose f.data1
  | some (.count k) => s.count k f.data1
  | some .mealcntChoose => s.mealcntChoose f.data1
  | some (.column i) => s.column i f.data1
  | some .paymentMethod => s.paymentMethod f.data1
  | some .caedbalenceCancel => { s with cardbalenceCancelFlag := true }
  | some .billPrint => s.billPrint f.data1
  | some .password => s.password f.data1
  | some .recordClear => s.recordClear f.data1
  | some .adminSet => s.adminSet f.data1 io
  | some .mealNum => { s with stock := s.stock.mealNum f.data1 }
  | some .floorNum => { s with stock := s.stock.floorNum f.data1 }
  | some (.row c) => { s with stock := s.stock.row c f.data1 }
  | some .mealinputChoose => s.mealinputChoose f.data1 io
  | some .tempratureSet => s.emit (.command (.setTemper f.data1))
  | some .coinsKey => s
  | some .coinsIn => s.coinsIn f.data0 f.data1

end Machine

end MealVendor
