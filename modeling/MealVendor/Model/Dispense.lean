import MealVendor.Model.Pay

/-!
# Taking out the meals

`WaitMeal` takes out one meal: it looks for a place, lets the arm fetch the meal and waits
until the customer has taken it.  Its do-while is cut at every place where it waits for the
arm.
-/

namespace MealVendor

namespace UserSelection

/-- The kind case 0 of `WaitMeal` chooses: the first one in the cart. -/
def firstKind (u : UserSelection) : Option Kind :=
  (List.finRange 4).find? fun k => decide (0 < u.mealCnt k)

lemma firstKind_pos {u : UserSelection} {k : Kind} (h : u.firstKind = some k) :
    0 < u.mealCnt k := by
  unfold firstKind at h
  simpa using List.find?_some h

lemma firstKind_none {u : UserSelection} (h : u.firstKind = none) (k : Kind) :
    u.mealCnt k = 0 := by
  unfold firstKind at h
  rw [List.find?_eq_none] at h
  have := h k (List.mem_finRange k)
  simpa using this

/-- Case 5: the counter of the kind in `MealID` is lowered, if there is one. -/
def takeOut (u : UserSelection) : UserSelection :=
  let u' := { u with mealTakeout := u.mealTakeout + 1 }
  match Kind.ofID u.mealID with
  | some k => { u' with mealCnt := Function.update u.mealCnt k (u.mealCnt k - 1) }
  | none => u'

/-- The money and the flags are the same after case 5. -/
lemma takeOut_money (u : UserSelection) :
    u.takeOut.payAlready = u.payAlready ∧ u.takeOut.payShould = u.payShould ∧
      u.takeOut.payForCoins = u.payForCoins ∧ u.takeOut.payForBills = u.payForBills ∧
      u.takeOut.payForCards = u.payForCards ∧ u.takeOut.moneyBack = u.moneyBack ∧
      u.takeOut.cancle = u.cancle := by
  rw [takeOut]
  dsimp only
  split <;> exact ⟨rfl, rfl, rfl, rfl, rfl, rfl, rfl⟩

/-- The counter of the kind in `MealID` is lowered, and no other. -/
lemma takeOut_mealCnt {u : UserSelection} {k : Kind} (h : Kind.ofID u.mealID = some k) :
    u.takeOut.mealCnt = Function.update u.mealCnt k (u.mealCnt k - 1) := by
  rw [takeOut]
  rw [h]

lemma takeOut_mealCnt_of_none {u : UserSelection} (h : Kind.ofID u.mealID = none) :
    u.takeOut.mealCnt = u.mealCnt := by
  rw [takeOut]
  rw [h]

lemma takeOut_mealID (u : UserSelection) : u.takeOut.mealID = u.mealID := by
  rw [takeOut]
  dsimp only
  split <;> rfl

/-- What the main program clears after `takeafter_meal`, besides `ClearUserBuffer`. -/
def takeAfter (u : UserSelection) : UserSelection :=
  { u with moneyBack := 0, mealTakeout := 0 }

/-- What the main program pays back after `takemeal_erro`: the price of the rest of the
cart. -/
def takeError (u : UserSelection) : UserSelection :=
  { u with moneyBack := Int16.ofNat u.cartPrice, cancle := 1 }

end UserSelection

namespace Session

/-- `takeafter_meal` in the main program. -/
def takeAfter (s : Session) : Session :=
  { { s with userAct := s.userAct.takeAfter }.clearUserBuffer with
    current := .currentTemperature }.emit .takeafter

/-- `takemeal_erro` in the main program. -/
def takeError (s : Session) : Session :=
  { s with userAct := s.userAct.takeError, current := .hpperOut }.emit
    (.takemealErro s.userAct.cartPrice)

/-- Case 5, and `tookone_meal` or `tookkind_meal` in the main program. -/
def takeOut (s : Session) : Session :=
  { s with userAct := s.userAct.takeOut, current := .dataUpload }.emit .takeout

/-- A meal of this kind was found. -/
def found (k : Kind) (l : Floor) (c : Column) (s : Session) : Session :=
  { s with userAct := { s.userAct with mealID := k.id } }.emit (.find k l c)

/-- No meal of this kind was found. -/
def notFound (k : Kind) (s : Session) : Session :=
  { s with userAct := { s.userAct with mealID := k.id } }

end Session

namespace Machine

/-- `WaitMeal` returns `takemeal_erro` after this error. -/
def takemealErro (erro : ℕ) (s : Machine) : Machine :=
  ({ s with erroRecord := s.erroRecord ||| bit erro }.onSession Session.takeError).goto .deal

/-- A command is sent, and the time since then starts. -/
def order (c : Command) (s : Machine) : Machine :=
  (s.onArm fun a => { a with linkTime := 0 }).emit (.command c)

/-- One round of an `Order…` function that sends `c`: `fail` and `done` come after it. -/
def waitOrder (c : Command) (r : ℕ) (again : ℕ → Pc) (done fail : Machine → Machine)
    (s : Machine) : Machine :=
  let s' := s.onArm fun _ => (s.arm.order r).2
  match (s.arm.order r).1 with
  | .done => done s'
  | .failed sent => fail (if sent then s'.emit (.command c) else s')
  | .again r => (s'.emit (.command c)).goto (again r)
  | .wait => s'

/-- What a round of an `Order…` function can leave. -/
lemma waitOrder_cases {P : Machine → Prop} {c : Command} {r : ℕ} {again : ℕ → Pc}
    {done fail : Machine → Machine} {s s' : Machine}
    (hs : s' = s.onArm fun _ => (s.arm.order r).2) (hdone : P (done s')) (hfail : P (fail s'))
    (hsent : P (fail (s'.emit (.command c))))
    (hagain : ∀ r, P ((s'.emit (.command c)).goto (again r))) (hwait : P s') :
    P (s.waitOrder c r again done fail) := by
  subst hs
  unfold waitOrder
  dsimp only
  cases (s.arm.order r).1 with
  | done => exact hdone
  | failed sent =>
    cases sent with
    | true => exact hsent
    | false => exact hfail
  | again r => exact hagain r
  | wait => exact hwait

/-- Case 0. -/
def find (s : Machine) : Machine :=
  match s.session.userAct.firstKind with
  | none => (s.onSession Session.takeAfter).goto .deal
  | some k =>
    let s := { s with stock.place := s.stock.findMeal k }
    match s.stock.place with
    | some (l, c) => (s.onSession (Session.found k l c)).goto .take
    | none => s.onSession (Session.notFound k)

/-- Case 1, and the beginning of `OrderSendCoord`.  Case 0 has left a place behind. -/
def take (io : Io) (s : Machine) : Machine :=
  match s.stock.place with
  | some (l, c) =>
    let k := Kind.ofID s.session.userAct.mealID
    ({ s with stock := ((s.stock.takeMeal k l c).writeMeal io.flash).statisticsTotal }.order
      (.sendCoord l c)).goto (.coord 0)
  | none => s

/-- Case 2. -/
def coord (r : ℕ) (s : Machine) : Machine :=
  match s.stock.place with
  | some (l, c) =>
    s.waitOrder (.sendCoord l c) r .coord
      (fun s => (s.onArm fun a => { a with linkTime := 0, rerelative := false }).goto .goal)
      (takemealErro sendUR6Erro)
  | none => s

/-- Case 3 after `manageusart6data`: the arm may have arrived. -/
def goalCheck (s : Machine) : Machine :=
  if s.arm.regoal then
    ((s.onArm fun a => { a with regoal := false }).order .getMeal).goto (.getMeal 0)
  else s.goto .goal

/-- Case 3. -/
def goal (s : Machine) : Machine :=
  if 10 < s.arm.linkTime then
    (s.onArm fun a => { a with linkTime := 0 }).takemealErro sendUR6Erro
  else s.manageusart6data .goal goalCheck

/-- `OrderGetMeal` in case 3. -/
def getMeal (r : ℕ) (s : Machine) : Machine :=
  s.waitOrder .getMeal r .getMeal
    (fun s => (s.onArm fun a => { a with linkTime := 0 }).goto .door)
    (fun s => (s.onArm fun a => { a with linkTime := 0 }).takemealErro sendUR6Erro)

/-- The first loop of case 4 after `manageusart6data`: the meal may have arrived, or the arm
may not have got it. -/
def doorCheck (s : Machine) : Machine :=
  if s.arm.retodoor then
    (s.onArm fun a => { a with retodoor := false, linkTime := 0 }).goto .away
  else if s.arm.reenablegetmeal then
    (s.onArm fun a => { a with reenablegetmeal := false }).takemealErro getMealError
  else s.goto .door

/-- The first loop of case 4. -/
def door (s : Machine) : Machine :=
  if 120 < s.arm.linkTime then s.takemealErro sendUR6Erro
  else s.manageusart6data .door doorCheck

/-- The second loop of case 4 after `manageusart6data`: the customer may have taken the
meal, or may not have taken it in time. -/
def awayCheck (s : Machine) : Machine :=
  if s.arm.remealaway then
    (s.onArm fun a => { a with linkTime := 0, remealaway := false, remealnoaway := false }).goto
      .count
  else if s.arm.remealnoaway then
    (s.onArm fun a => { a with linkTime := 0, remealnoaway := false }).goto .count
  else s.goto .away

/-- The second loop of case 4. -/
def away (s : Machine) : Machine :=
  if 180 < s.arm.linkTime then s.takemealErro mealNoAway
  else s.manageusart6data .away awayCheck

/-- Case 5. -/
def countMeal (s : Machine) : Machine := (s.onSession Session.takeOut).goto .deal

end Machine

end MealVendor
