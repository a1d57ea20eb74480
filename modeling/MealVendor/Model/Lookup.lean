import MealVendor.Model.Uart5

/-!
# Looking up an item of a reply

`MealDataCompareFun` looks up the status and the compared meals in the reply with `GetData`.
-/

namespace MealVendor

/-- `GetData`: what it stores from `dest[0]` on; it returns how many bytes these are. -/
def getData (souce : ℕ → UInt8) (sLen : ℕ) (cmd : UInt8) : List UInt8 :=
  match (List.range sLen).find? fun i => souce i == cmd with
  | some i =>
    let cmdlenght := hlBufferToInit (souce (i + 1)) (souce (i + 2))
    (List.range cmdlenght.toNat).map fun j => souce (i + j + 3)
  | none => []

/-- Where `MealDataCompareFun` lets `GetData` store. -/
inductive CompareDest
  | returnDataLenght
  | tempBuffer

/-- The size of what is passed. -/
def CompareDest.size : CompareDest → ℕ
  | returnDataLenght => 2
  | tempBuffer => 140

/-- A call of `GetData` in `MealDataCompareFun`. -/
def compareGetData (rx1Buf : ℕ → UInt8) (cmd : UInt8) : List UInt8 :=
  getData rx1Buf (hlBufferToInit (rx1Buf 2) (rx1Buf 3)).toNat cmd

end MealVendor
