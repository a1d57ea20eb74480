import MealVendor.Model.Hex
import MealVendor.Model.Network
import Mathlib.Data.List.GetD

/-!
# Records on the card

`Sd_Write` puts the values of a meal into a buffer, each followed by a comma, and `HextoChar`
writes them out as text.  `SearchSeparator` and `StringToHexGroup1` read them back for
`TakeMealsFun1`, which reports the meal again.
-/

namespace MealVendor

/-- The separator `','`. -/
def comma : UInt8 := 0x2c

/-- The flag of a meal that is still to be reported. -/
def charN : UInt8 := 0x6e

/-- The flag of a meal that has been reported. -/
def charY : UInt8 := 0x79

/-! ## Writing a record -/

/-- `HextoChar` with `temp` commas behind it.  There is no text where it reads behind the end of
the buffer. -/
def hextoCharFrom : ℕ → List UInt8 → Option (List UInt8)
  | _, [] => none
  | temp, b :: bs =>
    if b = comma then (hextoCharFrom (temp + 1) bs).map (b :: ·)
    else if b = charN ∨ b = charY then
      -- in the name of the meal the byte is dropped
      if temp ≠ 9 then some [b, 0x0d] else hextoCharFrom temp bs
    else if temp ≠ 9 then
      (hextoCharFrom temp bs).map
        (hexDigit ((b &&& 0xf0) >>> 4) :: hexDigit (b &&& 0x0f) :: ·)
    else (hextoCharFrom temp bs).map (b :: ·)

/-- `HextoChar`. -/
def hextoChar (buffer : List UInt8) : Option (List UInt8) := hextoCharFrom 0 buffer

namespace Net

/-- The value in the array `g`, behind its tag and its length. -/
def value (n : Net) (g : Glob) : List UInt8 := (n.bytes g).drop 3

/-- The values of a record, in their order. -/
def recordGlobs : List Glob :=
  [.tid, .brwn, .bno, .deviceArea, .deviceAreaNO, .dealBalance, .mealID, .mealNO, .mealName,
    .mealPrice, .payType, .change, .remainMealNum, .takeMealFlag, .mac]

/-- `mem_copy01`: a value and the comma behind it. -/
def memCopy01 (n : Net) (g : Glob) : List UInt8 := n.value g ++ [comma]

/-- `Send_Buf` of `Sd_Write`: the length is put into its bytes 3 and 4, and the place of the
checksum is 0. -/
def sendBuf (n : Net) (erroFlag : UInt8) : List UInt8 :=
  let p := [0x02, 0x80, 0x00, 0x00, 0x00, comma] ++ recordGlobs.flatMap n.memCopy01 ++
    [0x03, 0x00, 0x00]
  p.take 3 ++ hlIntToBuffer (UInt16.ofNat (p.length - 8)) ++ p.drop 5 ++ [comma, erroFlag]

/-- The 512 bytes of `Rec_Buf` that are written to the card. -/
def recBuf (n : Net) (erroFlag : UInt8) : Option (List UInt8) :=
  (hextoChar (n.sendBuf erroFlag)).map fun text => text ++ List.replicate (512 - text.length) 0

/-- `Sd_Write`, with what is written to the card. -/
def sdWrite (erroFlag takeoutFlag : UInt8) (sel : CustomerSel) (now : StructTD) (n : Net) :
    Option (List UInt8 × Net) :=
  let n := (n.getBRWN now).fillMeal sel takeoutFlag
  (n.recBuf erroFlag).map fun p => (p, n)

end Net

/-! ## Reading a record -/

/-- `SearchSeparator` with `cnt` commas behind it.  There is no result where it reads behind the end
of the block. -/
def searchSeparatorFrom (separator : ℕ) : ℕ → List UInt8 → Option (List UInt8)
  | _, [] => none
  | cnt, c :: cs =>
    if c = comma then
      if cnt + 1 = separator then some [] else searchSeparatorFrom separator (cnt + 1) cs
    else if cnt + 1 = separator then
      if separator = 18 then some [c] else (searchSeparatorFrom separator cnt cs).map (c :: ·)
    else if cnt = separator then some []
    else searchSeparatorFrom separator cnt cs

/-- `SearchSeparator`: what stands between the commas before and behind the item `separator`. -/
def searchSeparator (souce : List UInt8) (separator : ℕ) : Option (List UInt8) :=
  searchSeparatorFrom separator 0 souce

/-- `StringToHexGroup1` from the character `i` on, with `k` pairs to go. -/
def stringToHexFrom (inStrBuffer : ℕ → UInt8) : ℕ → ℕ → Bool × List UInt8
  | 0, _ => (true, [])
  | k + 1, i =>
    match hexValue (inStrBuffer i), hexValue (inStrBuffer (i + 1)) with
    | some hByte, some lByte =>
      let r := stringToHexFrom inStrBuffer k (i + 2)
      (r.1, ((hByte <<< 4) &&& 0xf0 ||| lByte) :: r.2)
    | _, _ => (false, [])

/-- `StringToHexGroup1`: what it returns, and what it stores from the start of `OutHexBuffer` on. -/
def stringToHexGroup1 (inStrBuffer : ℕ → UInt8) (strLength : ℕ) : Bool × List UInt8 :=
  stringToHexFrom inStrBuffer ((strLength + 1) / 2) 0

namespace Net

/-- `SearchSeparator(ReadBuf, SendBuffer, k)`. -/
def search (k : ℕ) (n : Net) : Option Net :=
  (searchSeparator (n.bytes .readSdBuff) k).map fun seg => n.copy .readBuf 0 seg

/-- `SearchSeparator(ReadBuf, SendBuffer, k)` and `StringToHexGroup1(temp, ReadBuf, strLength)`. -/
def searchHex (k strLength : ℕ) (n : Net) : Option Net :=
  (n.search k).map fun n => n.copy .temp 0 (stringToHexGroup1 (n.cell .readBuf) strLength).2

/-- The first bytes of the array `g`. -/
def first (n : Net) (g : Glob) (k : ℕ) : List UInt8 := (List.range k).map (n.cell g)

lemma first_copy (n : Net) (g : Glob) (f : List UInt8) :
    (n.copy g 0 f).first g f.length = f := by
  rw [first]
  refine List.ext_getElem (by rw [List.length_map, List.length_range]) fun i hi hi' => ?_
  rw [List.getElem_map, List.getElem_range, copy_cell_self, if_pos (by omega), Nat.sub_zero,
    List.getD_eq_getElem _ _ hi']

lemma first_getD (n : Net) (g : Glob) {i k : ℕ} (hi : i < k) :
    (n.first g k).getD i 0 = n.cell g i := by
  have hlen : i < ((List.range k).map (n.cell g)).length := by
    rw [List.length_map, List.length_range]
    exact hi
  rw [first, List.getD_eq_getElem _ _ hlen, List.getElem_map, List.getElem_range]

/-- The item `k` of the record, `size` bytes long, becomes the value of `g`. -/
def restore (g : Glob) (k size : ℕ) (n : Net) : Option Net :=
  (n.searchHex k (2 * size)).map fun n => n.copy g 3 (n.first .temp size)

/-- The values of the report are taken from the record, behind its head.  Two bytes more than there
are in the record are taken for `RemainMealNum` and `TakeMealFlag`. -/
def restoreMeal (n : Net) : Option Net := do
  let n ← n.restore .brwn 3 7
  let n ← n.restore .dealBalance 7 6
  let n ← n.restore .mealID 8 4
  let n ← n.restore .mealNO 9 1
  let n ← (n.search 10).map fun n => n.copy .mealName 3 (n.first .readBuf 20)
  let n ← n.restore .mealPrice 11 6
  let n ← n.restore .payType 12 1
  let n ← n.restore .change 13 6
  let n ← (n.searchHex 14 4).map fun n => n.copy .remainMealNum 3 (n.first .temp 4)
  (n.searchHex 15 4).map fun n => n.copy .takeMealFlag 3 (n.first .temp 4)

/-- `TakeMealsFun1`, for the record in `ReadSdBuff`. -/
def takeMealsFun1 (air : Air) (n : Net) : Option (UInt8 × Net) := do
  let n ← (n.copy .temp 0 (List.replicate 10 0)).memSet00 air
  let n ← n.searchHex 1 10
  let head := n.first .temp 5
  let n ← n.restoreMeal
  let p := head ++ n.mealItems ++ [0x03, 0x00, 0x00]
  let (i, n) ← n.mealComparefunDemo 0x0800 p air
  some (takeMealsReply i n.uart, n.storeLenght .readSdBuff p)

end Net

end MealVendor
