import MealVendor.Model.Data

/-!
# The stock tables

The floor table says what lies on each floor; `DefineMeal` says for each kind where its
meals lie and how many there are.  The second is computed from the first, by
`StatisticsTotal` over the entries of the matching floors only, and by the confirm key of
the administrator over all entries.
-/

namespace MealVendor

namespace Stock

/-- The number of meals on the floors of kind `j`, summed up in a byte as the loops of
`StatisticsTotal` and of the confirm key do. -/
def mealSum (floorMeal : Floor → FloorAttribute) (j : Kind) : UInt8 :=
  (List.finRange 15).foldl
    (fun n i => if (floorMeal i).mealID = j.id then n + (floorMeal i).mealCount else n) 0

/-- `StatisticsTotal`: the counts are summed up again, and the positions are copied from
the floors that hold the kind.  Positions on other floors keep their old value. -/
def statisticsTotal (s : Stock) : Stock :=
  { s with
    defineMeal := fun j =>
      { mealCount := mealSum s.floorMeal j
        position := fun i c =>
          if (s.floorMeal i).mealID = j.id then (s.floorMeal i).count c
          else (s.defineMeal j).position i c } }

/-- The loops over `DefineMeal` in the confirm key: every entry is cleared before the
matching floors are copied. -/
def rebuild (s : Stock) : Stock :=
  { s with
    defineMeal := fun j =>
      { mealCount := mealSum s.floorMeal j
        position := fun i c =>
          if (s.floorMeal i).mealID = j.id then (s.floorMeal i).count c else 0 } }

/-- The places of the store in the order in which `FindMeal` visits them. -/
def places : List (Floor × Column) :=
  (List.finRange 15).flatMap fun line => (List.finRange 3).map fun column => (line, column)

/-- `FindMeal`: the first place with a meal of kind `k`. -/
def findMeal (k : Kind) (s : Stock) : Option (Floor × Column) :=
  places.find? fun p => decide (0 < (s.defineMeal k).position p.1 p.2)

/-- `WriteMeal`, as far as the RAM is concerned.  `none` says that the data read back
passed the comparison; `some r` that it failed, and that the second reading, which goes
straight into the floor table, returned `r`. -/
def writeMeal (readBack : Option (Floor → FloorAttribute)) (s : Stock) : Stock :=
  match readBack with
  | none => s
  | some r => { s with floorMeal := r }

/-- The decrements of case 1 of `WaitMeal` at floor `l` and column `c`.  `MealID` may
have been cleared since case 0; `DefineMeal[-1]` is then no entry of the table. -/
def takeMeal (k : Option Kind) (l : Floor) (c : Column) (s : Stock) : Stock :=
  { s with
    floorMeal := Function.update s.floorMeal l
      { s.floorMeal l with
        mealCount := (s.floorMeal l).mealCount - 1
        count := Function.update (s.floorMeal l).count c ((s.floorMeal l).count c - 1) }
    defineMeal :=
      match k with
      | none => s.defineMeal
      | some k => Function.update s.defineMeal k
          { mealCount := (s.defineMeal k).mealCount - 1
            position := Function.update (s.defineMeal k).position l
              (Function.update ((s.defineMeal k).position l) c
                ((s.defineMeal k).position l c - 1)) } }

/-- The index `CurFloor.FloorNum - 1` into the floor table, when it is one. -/
def curIndex (s : Stock) : Option Floor :=
  if h : 1 ≤ s.curFloor.floorNum.toNat ∧ s.curFloor.floorNum.toNat ≤ 15 then
    some ⟨s.curFloor.floorNum.toNat - 1, by omega⟩
  else none

/-- `InitSetting`: the counts of the edited floor are shown if the floor holds the edited
kind.  Outside the table no floor is taken to match. -/
def initSetting (s : Stock) : Stock :=
  match s.curIndex with
  | some i =>
    if (s.floorMeal i).mealID = s.curFloor.mealID then
      { s with curFloor := { s.curFloor with
          mealCount := (s.floorMeal i).mealCount, count := (s.floorMeal i).count } }
    else { s with curFloor := { s.curFloor with mealCount := 0, count := fun _ => 0 } }
  | none => { s with curFloor := { s.curFloor with mealCount := 0, count := fun _ => 0 } }

/-- The key "clear everything" of the administrator: `admin_set` with value 2. -/
def clearAll (readBack : Option (Floor → FloorAttribute)) (s : Stock) : Stock :=
  ({ s with floorMeal := fun _ => FloorAttribute.empty }.writeMeal readBack).statisticsTotal

/-- `meal_num`: another kind is edited; the first floor with nothing on it is suggested. -/
def mealNum (d : UInt8) (s : Stock) : Stock :=
  let s := initSetting { s with curFloor := { s.curFloor with mealID := d } }
  match (List.finRange 15).find? fun i => (s.floorMeal i).mealCount = 0 with
  | some i => { s with curFloor := { s.curFloor with floorNum := UInt8.ofNat (i.val + 1) } }
  | none => s

/-- `floor_num`: another floor is edited. -/
def floorNum (d : UInt8) (s : Stock) : Stock :=
  initSetting { s with curFloor := { s.curFloor with floorNum := d } }

/-- `row_1st`, `row_2nd`, `row_3rd`: the count of one column of the edited floor. -/
def row (c : Column) (d : UInt8) (s : Stock) : Stock :=
  { s with curFloor := { s.curFloor with count := Function.update s.curFloor.count c d } }

/-- Fill up (3 in each column) and clear out (0 in each column) of `mealinput_choose`. -/
def fill (n total : UInt8) (s : Stock) : Stock :=
  { s with curFloor := { s.curFloor with mealCount := total, count := fun _ => n } }

/-- The confirm key of `mealinput_choose`.  A floor number outside 1 to 15 stores outside
the table; that store is left out. -/
def confirm (readBack : Option (Floor → FloorAttribute)) (s : Stock) : Stock :=
  let cur := { s.curFloor with
    mealCount := s.curFloor.count 0 + s.curFloor.count 1 + s.curFloor.count 2 }
  let s := { s with curFloor := cur }
  let s := match s.curIndex with
    | some i => { s with floorMeal := Function.update s.floorMeal i cur }
    | none => s
  ((rebuild s).statisticsTotal).writeMeal readBack

/-- The return key of `mealinput_choose`. -/
def back (s : Stock) : Stock := { s with curFloor := FloorAttribute.empty }

end Stock

end MealVendor
