import Mathlib.Tactic
import Mathlib.Algebra.BigOperators.Fin

/-!
# The data of the vending machine

The global variables of the firmware, as the header files declare them: the user's
selection `UserAct`, the floor table that is also written to the flash, the table
`DefineMeal` of the four kinds, and the enumerations of the main program.

C promotes every operand to `int` and truncates when it stores.  Accordingly a field has
the fixed-width type of the source, arithmetic is done on `ℕ` or `ℤ`, and every store
goes through `UInt8.ofNat`, `UInt16.ofNat` or `Int16.ofInt`.  Plain `char` is unsigned in
this project.
-/

namespace MealVendor

/-- A byte above 0 is lowered without wrapping. -/
lemma UInt8.toNat_pred {x : UInt8} (h : 0 < x) : (x - 1).toNat = x.toNat - 1 := by
  have h1 : (1 : UInt8) ≤ x := by
    rw [UInt8.le_iff_toNat_le]
    exact UInt8.lt_iff_toNat_lt.mp h
  rw [UInt8.toNat_sub_of_le _ _ h1]
  rfl

/-- A word of at most 15 bits is the same as a signed one. -/
lemma UInt16.toInt_toInt16_of_le {x : UInt16} (h : x.toNat ≤ 32767) :
    x.toInt16.toInt = x.toNat := by
  change x.toBitVec.toInt = _
  rw [BitVec.toInt_eq_toNat_of_lt]
  · rfl
  · change 2 * x.toNat < 2 ^ 16
    omega

/-! ## The four kinds of meal -/

/-- The four kinds of meal, `DefineMeal[0]` to `DefineMeal[3]`. -/
abbrev Kind := Fin 4

/-- The floors of the store, `FloorMeal[0]` to `FloorMeal[14]`. -/
abbrev Floor := Fin 15

/-- The columns of a floor: `FCount`, `SCount` and `TCount`. -/
abbrev Column := Fin 3

instance neZero_three : NeZero 3 := ⟨by decide⟩

instance neZero_four : NeZero 4 := ⟨by decide⟩

instance neZero_six : NeZero 6 := ⟨by decide⟩

instance neZero_fifteen : NeZero 15 := ⟨by decide⟩

instance neZero_twenty : NeZero 20 := ⟨by decide⟩

/-- The `MealID` of a kind: 1 to 4. -/
def Kind.id (k : Kind) : UInt8 := UInt8.ofNat (k.val + 1)

/-- The kind that a `MealID` names, if it names one. -/
def Kind.ofID (id : UInt8) : Option Kind :=
  if id = 1 then some 0 else if id = 2 then some 1
  else if id = 3 then some 2 else if id = 4 then some 3 else none

def price1st : ℕ := 15
def price2nd : ℕ := 15
def price3rd : ℕ := 15
def price4th : ℕ := 15

/-- The price of a kind: `price_1st` to `price_4th`. -/
def price : Kind → ℕ := ![price1st, price2nd, price3rd, price4th]

@[simp] lemma price_eq (k : Kind) : price k = 15 := by
  fin_cases k <;> rfl

@[simp] lemma Kind.ofID_id (k : Kind) : Kind.ofID k.id = some k := by
  fin_cases k <;> rfl

lemma Kind.ofID_eq_some {id : UInt8} {k : Kind} (h : Kind.ofID id = some k) : id = k.id := by
  unfold Kind.ofID at h
  split_ifs at h <;> cases h <;> assumption

lemma Kind.id_injective : Function.Injective Kind.id := by
  intro j k h
  have := Kind.ofID_id j
  rw [h, Kind.ofID_id] at this
  exact (Option.some.inj this).symm

@[simp] lemma Kind.id_ne_zero (k : Kind) : k.id ≠ 0 := by
  fin_cases k <;> decide

@[simp] lemma Kind.ofID_zero : Kind.ofID 0 = none := rfl

/-! ## The user's selection -/

/-- `UserSelection`, the type of the global `UserAct`.  The four counters of a field
family (`MealCnt_1st` to `MealCnt_4th`) are one function of the kind. -/
structure UserSelection where
  /-- `MealCnt_1st_t` …: the count on the selection page, before it is put in the cart. -/
  mealCntT : Kind → UInt8
  /-- `MealCnt_1st` …: the count in the cart. -/
  mealCnt : Kind → UInt8
  /-- `MealCost_1st` …: the cost of each kind. -/
  mealCost : Kind → UInt16
  payShould : UInt16
  mealID : UInt8
  mealTotoal : UInt8
  mealTakeout : UInt8
  payForCoins : UInt16
  payForBills : UInt16
  payForCards : UInt16
  payAlready : UInt16
  /-- Signed, so that the change never reads as 0xfffe. -/
  moneyBack : Int16
  printTick : UInt8
  payType : UInt8
  cancle : UInt8

/-- The selection of the zero-initialised global. -/
def UserSelection.zero : UserSelection where
  mealCntT := fun _ => 0
  mealCnt := fun _ => 0
  mealCost := fun _ => 0
  payShould := 0
  mealID := 0
  mealTotoal := 0
  mealTakeout := 0
  payForCoins := 0
  payForBills := 0
  payForCards := 0
  payAlready := 0
  moneyBack := 0
  printTick := 0
  payType := 0
  cancle := 0

/-- A row of the shopping-cart page, `DispMealStuct`, as far as it is read back: the
counts and costs of a row are only sent to the screen. -/
structure DispMealStuct where
  mealId : UInt8

/-! ## The stock -/

/-- `FloorAttribute`: what one floor of the store holds. -/
structure FloorAttribute where
  mealID : UInt8
  mealCount : UInt8
  /-- `FCount`, `SCount`, `TCount`. -/
  count : Column → UInt8
  floorNum : UInt8
deriving DecidableEq

/-- A floor with nothing in it. -/
def FloorAttribute.empty : FloorAttribute := ⟨0, 0, fun _ => 0, 0⟩

/-- `MealAttribute`: where the meals of one kind are, and how many there are. -/
structure MealAttribute where
  position : Floor → Column → UInt8
  mealCount : UInt8

/-- The tables about the stock, with the `Line` and `Column` that `FindMeal` leaves
behind; `none` is the place (15, 3) behind the last one. -/
structure Stock where
  /-- `FloorMealMessageWriteToFlash.FloorMeal`. -/
  floorMeal : Floor → FloorAttribute
  defineMeal : Kind → MealAttribute
  curFloor : FloorAttribute
  place : Option (Floor × Column)

/-! ## The enumerations of the main program -/

/-- The values of `Current`, the main state. -/
inductive Current
  | currentTemperature
  | waitforMoney
  | hpperOut
  | mealOut
  | dataUpload
  | erroHanle
deriving DecidableEq

/-- The values of `CurrentPoint`, the step of `WaitPayMoney`; `p4` does not occur. -/
inductive CurrentPoint
  | p0 | p1 | p2 | p3 | p5 | p6 | p7 | p8 | p9
deriving DecidableEq

/-- What `WaitMeal` returns. -/
inductive MealStatus
  | tookoneMeal
  | tookkindMeal
  | takeafterMeal
  | takemealErro
deriving DecidableEq

/-! ## The error codes -/

def outageErro : ℕ := 0x01
def billsetErro : ℕ := 0x03
def coinhoopersetErro : ℕ := 0x05
def coinhoopersetEmpty : ℕ := 0x06
def networkErro : ℕ := 0x09
def signinErro : ℕ := 0x0a
def cardchckErro : ℕ := 0x0b
def xTimeout : ℕ := 0x10
def xLeftlimit : ℕ := 0x11
def xRightlimit : ℕ := 0x12
def mealtakeTimeout : ℕ := 0x13
def yTimeout : ℕ := 0x14
def linkTimeout : ℕ := 0x15
def zTimeout : ℕ := 0x16
def zUplimit : ℕ := 0x17
def zDownlimit : ℕ := 0x18
def solenoidTimeout : ℕ := 0x19
def eepromErro : ℕ := 0x1a
def sendUR6Erro : ℕ := 0x1b
def getMealError : ℕ := 0x1c
def mealNoAway : ℕ := 0x1d

/-- `1 << e` as the processor computes it: a shift by 32 gives 0. -/
def bit (e : ℕ) : Int32 := if e < 32 then (1 : Int32) <<< Int32.ofNat e else 0

/-! ## What is uploaded -/

/-- `CustomerSel__struction`: the record `MealArr` fills for the server. -/
structure CustomerSel where
  mealID : Fin 4 → UInt8
  mealNo : UInt8
  dealBalance : Fin 6 → UInt8
  payType : UInt8
  mealPrice : Fin 6 → UInt8
  change : Fin 6 → UInt8
  remainMealNum : Fin 2 → UInt8
  mealName : UInt8
deriving DecidableEq

/-- The zero-initialised record. -/
def CustomerSel.zero : CustomerSel :=
  ⟨fun _ => 0, 0, fun _ => 0, 0, fun _ => 0, fun _ => 0, fun _ => 0, 0⟩

end MealVendor
