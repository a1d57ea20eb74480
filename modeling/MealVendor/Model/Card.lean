import MealVendor.Model.Record

/-!
# The files on the card

There is a file for each day, to which `DataUpload` appends a record of 512 bytes for each meal.
`SendtoServce` looks through the files of seven days for records that are still to be reported.
`Index` is where the next record is read from; it counts records here, bytes in the program.
The calls of the file system succeed, except that a file that is not there cannot be opened.
-/

namespace MealVendor

/-! ## Days -/

/-- `isRunNian`. -/
def isRunNian (y : UInt16) : Bool := y % 4 == 0 && y % 100 != 0 || y % 400 == 0

/-- `getDays`. -/
def getDays (y : UInt16) (m : UInt8) : UInt8 :=
  if m = 1 ∨ m = 3 ∨ m = 5 ∨ m = 7 ∨ m = 8 ∨ m = 10 ∨ m = 12 then 31
  else if m = 4 ∨ m = 6 ∨ m = 9 ∨ m = 11 then 30
  else if m = 2 then (if isRunNian y then 29 else 28)
  else 0

/-- `itoa`: the name of the file of a day. -/
def itoa (a : StructTD) : List UInt8 :=
  ([2, 0, a.year / 10, a.year % 10, a.month / 10, a.month % 10, a.date / 10, a.date % 10].map
    (· + 0x30)) ++ [0x2e, 0x74, 0x78, 0x74]

/-! ## The card -/

/-- The card, the arrays of the requests, and where the next record is read from.  `calls` only
records which records were sent to the server, and what came of it. -/
structure Card where
  files : List UInt8 → Option (List (List UInt8))
  net : Net
  index : ℕ
  calls : List (List UInt8 × ℕ × UInt8)

namespace Card

/-- `Fwriter`: a record is appended to the file. -/
def fwriter (fName p : List UInt8) (c : Card) : Card :=
  { c with files := Function.update c.files fName (some ((c.files fName).getD [] ++ [p])) }

/-- `Fread(ReadSdBuff)`. -/
def fread (fName : List UInt8) (c : Card) : UInt8 × Card :=
  match c.files fName with
  | none => (1, c)
  | some rs =>
    -- at the end of the file nothing is read
    let net := match rs[c.index]? with
      | none => c.net
      | some p => c.net.copy .readSdBuff 0 p
    (if rs.length < c.index + 1 then 1 else 0, { c with net := net, index := c.index + 1 })

/-- The record `r` of the file is marked as reported. -/
def setFlag (fName : List UInt8) (r : ℕ) (c : Card) : Card :=
  { c with
    files := Function.update c.files fName ((c.files fName).map (·.modify r (·.set 167 charY))) }

/-- `ReadDatatoBuffer`, with `times` rounds to go.  The request with the number `k` is answered by
`airs k`. -/
def readDatatoBufferFrom (airs : ℕ → Air) (fName : List UInt8) : ℕ → Card → Option (Bool × Card)
  | 0, c => some (true, c)
  | times + 1, c => do
    let r := c.fread fName
    if r.1 = 0x01 then some (true, r.2)
    else
      let n ← r.2.net.search 18
      if n.cell .readBuf 0 = charN then
        let (i, n) ← n.takeMealsFun1 (airs c.calls.length)
        let c' := { r.2 with net := n, calls := c.calls ++ [(fName, c.index, i)] }
        if i = 0 then readDatatoBufferFrom airs fName times (c'.setFlag fName c.index)
        else some (false, c')
      else readDatatoBufferFrom airs fName times { r.2 with net := n }

lemma fread_calls (fName : List UInt8) (c : Card) : (c.fread fName).2.calls = c.calls := by
  rw [fread]
  split <;> rfl

/-- A round of `ReadDatatoBuffer`: the end of the file, a record that is not to be reported, one
that is reported, and one that the server refuses. -/
lemma readDatatoBufferFrom_succ {airs : ℕ → Air} {fName : List UInt8} {times : ℕ} {c c' : Card}
    {b : Bool} (h : c.readDatatoBufferFrom airs fName (times + 1) = some (b, c')) :
    ((c.fread fName).1 = 0x01 ∧ b = true ∧ c' = (c.fread fName).2) ∨
    ((c.fread fName).1 ≠ 0x01 ∧ ∃ n, (c.fread fName).2.net.search 18 = some n ∧
      ((n.cell .readBuf 0 ≠ charN ∧
        { (c.fread fName).2 with net := n }.readDatatoBufferFrom airs fName times = some (b, c')) ∨
      (n.cell .readBuf 0 = charN ∧ ∃ i n', n.takeMealsFun1 (airs c.calls.length) = some (i, n') ∧
        ((i = 0 ∧ ({ (c.fread fName).2 with
            net := n', calls := c.calls ++ [(fName, c.index, i)] }.setFlag fName
            c.index).readDatatoBufferFrom airs fName times = some (b, c')) ∨
        (i ≠ 0 ∧ b = false ∧ c' = { (c.fread fName).2 with
            net := n', calls := c.calls ++ [(fName, c.index, i)] }))))) := by
  unfold readDatatoBufferFrom at h
  simp only [Option.bind_eq_bind] at h
  split_ifs at h with hend
  · cases h
    exact .inl ⟨hend, rfl, rfl⟩
  · obtain ⟨n, hn, h⟩ := Option.bind_eq_some_iff.mp h
    refine .inr ⟨hend, n, hn, ?_⟩
    split_ifs at h with hflag
    · obtain ⟨⟨i, n'⟩, hi, h⟩ := Option.bind_eq_some_iff.mp h
      refine .inr ⟨hflag, i, n', hi, ?_⟩
      dsimp only at h
      split_ifs at h with hzero
      · exact .inl ⟨hzero, h⟩
      · cases h
        exact .inr ⟨hzero, rfl, rfl⟩
    · exact .inl ⟨hflag, h⟩

/-- `ReadDatatoBuffer`. -/
def readDatatoBuffer (airs : ℕ → Air) (fName : List UInt8) (c : Card) : Option (Bool × Card) :=
  c.readDatatoBufferFrom airs fName 1000

/-- The day whose file comes next in `SendtoServce`. -/
def nextDay (d : StructTD) : StructTD :=
  let d := if d.date = 1 then
      { d with
        date := getDays (2000 + d.year.toUInt16) d.month
        month := if d.month = 1 then 12 else d.month }
    else d
  { d with date := d.date - 1 }

/-- `SendtoServce`, with `days` rounds to go. -/
def sendtoServceFrom (airs : ℕ → Air) : ℕ → StructTD → Card → Option Card
  | 0, _, c => some c
  | days + 1, d, c =>
    (c.readDatatoBuffer airs (itoa d)).bind fun r => r.2.sendtoServceFrom airs days (nextDay d)

/-- `SendtoServce`. -/
def sendtoServce (airs : ℕ → Air) (d : StructTD) (c : Card) : Option Card :=
  c.sendtoServceFrom airs 7 d

/-- `DataUpload`: the meal is reported and recorded, with the flag that is the first result.  The
clock is read before, for the report and for the record. -/
def dataUpload (takemealFlag : UInt8) (sel : CustomerSel) (date now now' : StructTD) (air : Air)
    (c : Card) : Option (UInt8 × Card) := do
  let n := c.net.copy .recordBuffer 0 (List.replicate 254 0)
  let (i, n) ← n.takeMealsFun .recordBuffer takemealFlag sel now air
  let flag := if i = 0x01 then charN else charY
  let (p, n) ← n.sdWrite flag takemealFlag sel now'
  some (flag, { c with net := n }.fwriter (itoa date) p)

end Card

end MealVendor
