import MealVendor.Lib.Torn
import MealVendor.Model.Data

/-!
# The stock table in the flash

`WriteMeal` erases the sector, writes the floor table and compares what it reads back.  If it is not
the same, it writes again and reads into the floor table itself.  What the flash makes of each of
these is given from outside; what it holds is followed byte by byte.
-/

namespace MealVendor

/-- The 90 bytes of `FlashBuffer`. -/
abbrev FlashBuffer := Fin 90 → UInt8

/-- The bytes of a floor, in the order of `FloorMeal`. -/
def FloorAttribute.byte (f : FloorAttribute) : Fin 6 → UInt8 :=
  ![f.mealID, f.mealCount, f.count 0, f.count 1, f.count 2, f.floorNum]

/-- `FlashBuffer` and `FloorMeal` are the same bytes. -/
def flashBuffer (floorMeal : Floor → FloorAttribute) : FlashBuffer := fun i =>
  (floorMeal ⟨i / 6, by omega⟩).byte ⟨i % 6, by omega⟩

/-- The floors that are read out of `FlashBuffer`. -/
def floorMealOf (b : FlashBuffer) : Floor → FloorAttribute := fun l =>
  let byte (k : Fin 6) := b ⟨6 * l + k, by omega⟩
  ⟨byte 0, byte 1, ![byte 2, byte 3, byte 4], byte 5⟩

/-- What the flash does in a call of `WriteMeal`: what the cells hold when the sector is erased,
when they are written, and when they are written again, and what is read. -/
structure FlashAir where
  erased : FlashBuffer
  written : FlashBuffer
  read : FlashBuffer
  rewritten : FlashBuffer
  reread : FlashBuffer

/-- What the cells hold in the course of `SPI_FLASH_BufferWrite`. -/
def bufferWrite (written cells : FlashBuffer) : List FlashBuffer :=
  (List.range 91).map (Lib.torn written cells)

/-- `WriteMeal`: the floor table in the RAM afterwards, and what the flash holds at each step. -/
def writeMealBytes (air : FlashAir) (ram cells : FlashBuffer) : FlashBuffer × List FlashBuffer :=
  let contents := cells :: bufferWrite air.written air.erased
  if ram = air.read then (ram, contents)
  else (air.reread, contents ++ bufferWrite air.rewritten air.written)

end MealVendor
