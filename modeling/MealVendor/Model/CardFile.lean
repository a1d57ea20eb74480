import MealVendor.Model.Record

/-!
# The bytes of a file on the card

`Card` reads and marks whole records.  Here is what `Fread` and `ReadDatatoBuffer` do with the bytes
of the file of one day, through the file pointer of `fsrc` and with `Index` in bytes.  All calls of
the file system succeed, and the file is there.
-/

namespace MealVendor

/-! ## The file system -/

/-- An open file: its bytes and the file pointer. -/
structure Fil where
  data : List UInt8
  fptr : ℕ

namespace Fil

/-- `fsize`. -/
def fsize (f : Fil) : ℕ := f.data.length

/-- `f_open`. -/
def fOpen (f : Fil) : Fil := { f with fptr := 0 }

/-- `f_lseek`.  A file that may be written becomes longer if `ofs` is behind its end; the new bytes
are what was on the card. -/
def fLseek (onCard : ℕ → UInt8) (ofs : ℕ) (f : Fil) : Fil where
  data := f.data ++ (List.range (ofs - f.fsize)).map fun i => onCard (f.fsize + i)
  fptr := ofs

/-- What `f_read` reads: at most `btr` bytes, up to the end of the file. -/
def readable (btr : ℕ) (f : Fil) : List UInt8 := (f.data.drop f.fptr).take btr

/-- `f_read`, as far as the file is concerned. -/
def fRead (btr : ℕ) (f : Fil) : Fil := { f with fptr := f.fptr + (f.readable btr).length }

/-- `f_write`. -/
def fWrite (bytes : List UInt8) (f : Fil) : Fil where
  data := f.data.take f.fptr ++ bytes ++ f.data.drop (f.fptr + bytes.length)
  fptr := f.fptr + bytes.length

end Fil

/-! ## `ReadDatatoBuffer` -/

/-- The file of the day and the buffers.  `sent` only records what is given to `TakeMealsFun1`. -/
structure CardFile where
  fsrc : Fil
  index : ℕ
  readSdBuff : ℕ → UInt8
  readBuf : ℕ → UInt8
  sent : List (List UInt8)

namespace CardFile

variable (onCard : ℕ → UInt8)

/-- `ReadSdBuff` has 512 cells. -/
def block (s : CardFile) : List UInt8 := (List.range 512).map s.readSdBuff

/-- `Fread(ReadSdBuff)`. -/
def fread (s : CardFile) : UInt8 × CardFile :=
  let f := s.fsrc.fOpen.fLseek onCard s.index
  let s := { s with
    fsrc := f.fRead 512
    readSdBuff := overwrite s.readSdBuff 0 (f.readable 512)
    index := s.index + 512 }
  (if s.fsrc.fsize < s.index then 1 else 0, s)

/-- The flag of the record that was read is overwritten. -/
def writeFlag (s : CardFile) : CardFile :=
  { s with fsrc := (s.fsrc.fLseek onCard (s.index - 512 + 167)).fWrite [charY] }

/-- `ReadDatatoBuffer` with `times` rounds to go.  The call number `k` of `TakeMealsFun1` returns
`results k`. -/
def readDatatoBufferFrom (results : ℕ → UInt8) : ℕ → CardFile → Option (Bool × CardFile)
  | 0, s => some (true, s)
  | times + 1, s =>
    let r := s.fread onCard
    if r.1 = 0x01 then some (true, r.2)
    else
      (searchSeparator r.2.block 18).bind fun seg =>
        let s := { r.2 with readBuf := overwrite r.2.readBuf 0 seg }
        if s.readBuf 0 = charN then
          let i := results s.sent.length
          let s := { s with sent := s.sent ++ [s.block] }
          if i = 0 then readDatatoBufferFrom results times (s.writeFlag onCard)
          else some (false, s)
        else readDatatoBufferFrom results times s

/-- `ReadDatatoBuffer`. -/
def readDatatoBuffer (results : ℕ → UInt8) (s : CardFile) : Option (Bool × CardFile) :=
  s.readDatatoBufferFrom onCard results 1000

end CardFile

end MealVendor
