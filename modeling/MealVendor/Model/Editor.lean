import MealVendor.Model.Screen

/-!
# The administrator edits a floor

The messages of the pages on which the administrator says what lies on a floor.  They go to one
edited floor, `CurFloor`, and `FloorNum - 1` is taken for its place in the floor table without a
look at it.  Beside the stock it is kept here where the table was accessed, and which number of a
floor was on the screen last.
-/

namespace MealVendor

/-- A message of the administrator about the stock. -/
inductive AdminMsg
  /-- The confirm key of the password page, with the right password and without an error. -/
  | enter
  | mealNum (d : UInt8)
  | floorNum (d : UInt8)
  /-- `row_1st`, `row_2nd`, `row_3rd`. -/
  | row (c : Column) (d : UInt8)
  /-- A key of `mealinput_choose`, with what `WriteMeal` reads back if its comparison fails. -/
  | key (d : UInt8) (readBack : Option (Floor → FloorAttribute))

/-- The message of the administrator in a message of the screen. -/
def AdminMsg.ofFrame (f : Frame) (io : Io) : Option AdminMsg :=
  match f.variable with
  | some .mealNum => some (.mealNum f.data1)
  | some .floorNum => some (.floorNum f.data1)
  | some (.row c) => some (.row c f.data1)
  | some .mealinputChoose => some (.key f.data1 io.flash)
  | _ => none

/-- The stock while it is edited. -/
structure Editor where
  stock : Stock
  /-- The number of a floor that was shown or entered last. -/
  shown : Option UInt8
  /-- The indices at which `InitSetting` and the confirm key have accessed the floor table, the
  latest first. -/
  accesses : List ℤ

/-- The loop of `meal_num`: the first floor with nothing on it is edited next. -/
def Stock.suggest (s : Stock) : Stock :=
  match (List.finRange 15).find? fun i => (s.floorMeal i).mealCount = 0 with
  | some i => { s with curFloor := { s.curFloor with floorNum := UInt8.ofNat (i.val + 1) } }
  | none => s

namespace Editor

/-- Before the first message of the administrator `CurFloor` is 0. -/
def start (s : Stock) : Editor := ⟨{ s with curFloor := FloorAttribute.empty }, none, []⟩

/-- `FloorMeal[CurFloor.FloorNum - 1]` is accessed; the index is an `int`. -/
def access (e : Editor) : Editor :=
  { e with accesses := ((e.stock.curFloor.floorNum.toNat : ℤ) - 1) :: e.accesses }

/-- The entries of `FloorMeal` are accessed by a loop up to `FloorMealNum`. -/
def accessAll (e : Editor) : Editor :=
  { e with accesses := (List.range 15).map Int.ofNat ++ e.accesses }

/-- `InitSetting`. -/
def initSetting (e : Editor) : Editor := { e.access with stock := e.stock.initSetting }

/-- `meal_num`: the number of the suggested floor is shown, and so is the old one if there is no
floor to suggest. -/
def mealNum (d : UInt8) (e : Editor) : Editor :=
  let e := { e with stock.curFloor.mealID := d }.initSetting
  let s := e.stock.suggest
  { e with stock := s, shown := some s.curFloor.floorNum }

/-- `floor_num`. -/
def floorNum (d : UInt8) (e : Editor) : Editor :=
  { e with stock.curFloor.floorNum := d, shown := some d }.initSetting

/-- The confirm key of `mealinput_choose`: the edited floor is stored, and the loops that sum up
the meals go over the whole table. -/
def confirm (readBack : Option (Floor → FloorAttribute)) (e : Editor) : Editor :=
  { e.access.accessAll with stock := e.stock.confirm readBack }

/-- `mealinput_choose`. -/
def key (d : UInt8) (readBack : Option (Floor → FloorAttribute)) (e : Editor) : Editor :=
  if d = 1 then { e with stock := e.stock.fill 3 9 }
  else if d = 2 then { e with stock := e.stock.fill 0 0 }
  else if d = 3 then e.confirm readBack
  else if d = 5 then { e with stock := e.stock.back }
  else e

/-- One message. -/
def handle (e : Editor) : AdminMsg → Editor
  | .enter => e.initSetting
  | .mealNum d => e.mealNum d
  | .floorNum d => e.floorNum d
  | .row c d => { e with stock := e.stock.row c d }
  | .key d readBack => e.key d readBack

lemma mealNum_stock (d : UInt8) (e : Editor) : (e.mealNum d).stock = e.stock.mealNum d := rfl

lemma key_stock (d : UInt8) (readBack : Option (Floor → FloorAttribute)) (e : Editor) :
    (e.key d readBack).stock =
      if d = 1 then e.stock.fill 3 9
      else if d = 2 then e.stock.fill 0 0
      else if d = 3 then e.stock.confirm readBack
      else if d = 5 then e.stock.back
      else e.stock := by
  rw [key]
  split_ifs <;> rfl

/-- The machine does with its stock what the editor does. -/
lemma changeVariableValues_stock {f : Frame} {io : Io} {m : AdminMsg} {s : Machine} {e : Editor}
    (hm : AdminMsg.ofFrame f io = some m) (he : e.stock = s.stock) :
    (s.changeVariableValues f io).stock = (e.handle m).stock := by
  rw [AdminMsg.ofFrame] at hm
  rw [Machine.changeVariableValues]
  split at hm
  · next hv =>
    cases hm
    rw [hv, handle, mealNum_stock, he]
  · next hv =>
    cases hm
    rw [hv, handle, ← he]
    rfl
  · next c hv =>
    cases hm
    rw [hv, handle, ← he]
  · next hv =>
    cases hm
    rw [hv, handle, key_stock, he]
    dsimp only [Machine.mealinputChoose]
    split_ifs <;> rfl
  · cases hm

/-- The confirm key of the password page calls `InitSetting`. -/
lemma confirmPassWord_stock {s : Machine} {e : Editor} (hp : s.inputPassWord = Machine.passWord)
    (herro : s.erroFlag = 0) (he : e.stock = s.stock) :
    s.confirmPassWord.stock = (e.handle .enter).stock := by
  rw [Machine.confirmPassWord, if_pos hp, if_neg (not_not_intro herro), handle, initSetting, he]

end Editor

end MealVendor
