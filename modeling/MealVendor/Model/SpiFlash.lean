import MealVendor.Lib.Nor
import MealVendor.Model.Flash
import Mathlib.Data.UInt

/-!
# The flash at the SPI

The functions of `spi_flash.c` select the chip, exchange bytes with it one by one and deselect it.
They are written over any chip; `W25Q` is the chip of the machine, as its data sheet has it.
-/

namespace MealVendor

/-- The lines to a chip: `SPI_FLASH_CS_LOW`, a byte for a byte, and `SPI_FLASH_CS_HIGH`. -/
structure SpiBus (σ : Type*) where
  csLow : σ → σ
  exchange : UInt8 → σ → UInt8 × σ
  csHigh : σ → σ

namespace SpiFlash

variable {σ : Type*} (bus : SpiBus σ)

/-! ## The low layer -/

/-- `SPI_FLASH_SendByte`. -/
def sendByte (byte : UInt8) (s : σ) : UInt8 × σ := bus.exchange byte s

/-- Bytes whose answers are dropped. -/
def send (s : σ) (bytes : List UInt8) : σ := bytes.foldl (fun s byte => (sendByte bus byte s).2) s

/-- `Dummy_Byte`. -/
def dummyByte : UInt8 := 0xA5

/-- The answers to `n` dummy bytes. -/
def receive : ℕ → σ → List UInt8 × σ
  | 0, s => ([], s)
  | n + 1, s =>
    let (byte, s) := sendByte bus dummyByte s
    let (bytes, s) := receive n s
    (byte :: bytes, s)

/-- The high, the medium and the low address byte. -/
def addressBytes (addr : UInt32) : List UInt8 :=
  [((addr &&& 0xFF0000) >>> 16).toUInt8, ((addr &&& 0xFF00) >>> 8).toUInt8, (addr &&& 0xFF).toUInt8]

/-- `SPI_FLASH_WriteEnable`. -/
def writeEnable (s : σ) : σ := bus.csHigh (send bus (bus.csLow s) [0x06])

/-- The loop of `SPI_FLASH_WaitForWriteEnd`, for a number of rounds. -/
def pollStatus : ℕ → σ → Option σ
  | 0, _ => none
  | fuel + 1, s =>
    let (flashStatus, s) := sendByte bus dummyByte s
    if flashStatus &&& 0x01 = 0x01 then pollStatus fuel s else some s

/-- `SPI_FLASH_WaitForWriteEnd`. -/
def waitForWriteEnd (fuel : ℕ) (s : σ) : Option σ :=
  (pollStatus bus fuel (send bus (bus.csLow s) [0x05])).map bus.csHigh

/-- `SPI_FLASH_ReadID`. -/
def readID (s : σ) : UInt32 × σ :=
  let (temp0, s) := sendByte bus dummyByte (send bus (bus.csLow s) [0x9F])
  let (temp1, s) := sendByte bus dummyByte s
  let (temp2, s) := sendByte bus dummyByte s
  ((temp0.toUInt32 <<< 16) ||| (temp1.toUInt32 <<< 8) ||| temp2.toUInt32, bus.csHigh s)

/-- `SPI_FLASH_ReadDeviceID`. -/
def readDeviceID (s : σ) : UInt32 × σ :=
  let s := send bus (bus.csLow s) [0xAB, dummyByte, dummyByte, dummyByte]
  let (temp, s) := sendByte bus dummyByte s
  (temp.toUInt32, bus.csHigh s)

/-! ## The high layer -/

/-- `SPI_FLASH_SectorErase`. -/
def sectorErase (fuel : ℕ) (sectorAddr : UInt32) (s : σ) : Option σ :=
  let s := send bus (bus.csLow (writeEnable bus s)) (0x20 :: addressBytes sectorAddr)
  waitForWriteEnd bus fuel (bus.csHigh s)

/-- The `n` bytes behind a pointer. -/
def bytesAt (pBuffer : ℕ → UInt8) (n : ℕ) : List UInt8 := (List.range n).map pBuffer

/-- A pointer moved on. -/
def advance (pBuffer : ℕ → UInt8) (n : ℕ) : ℕ → UInt8 := fun i => pBuffer (n + i)

/-- The arguments of a call of `SPI_FLASH_PageWrite`. -/
structure PageWrite where
  pBuffer : ℕ → UInt8
  writeAddr : UInt32
  numByteToWrite : UInt16

/-- What `SPI_FLASH_PageWrite` sends behind the address. -/
def PageWrite.data (w : PageWrite) : List UInt8 :=
  bytesAt w.pBuffer (if w.numByteToWrite > 256 then 256 else w.numByteToWrite).toNat

/-- `SPI_FLASH_PageWrite`. -/
def pageWrite (fuel : ℕ) (s : σ) (w : PageWrite) : Option σ :=
  let s := bus.csLow (writeEnable bus s)
  let s := send bus s (0x02 :: addressBytes w.writeAddr ++ w.data)
  waitForWriteEnd bus fuel (bus.csHigh s)

/-- `while (NumOfPage--)`, and what comes behind it. -/
def wholePages (rest : (ℕ → UInt8) → UInt32 → List PageWrite) :
    ℕ → (ℕ → UInt8) → UInt32 → List PageWrite
  | 0, pBuffer, writeAddr => rest pBuffer writeAddr
  | numOfPage + 1, pBuffer, writeAddr =>
    ⟨pBuffer, writeAddr, 256⟩ :: wholePages rest numOfPage (advance pBuffer 256) (writeAddr + 256)

/-- The calls of `SPI_FLASH_PageWrite` in `SPI_FLASH_BufferWrite`. -/
def pageWrites (pBuffer : ℕ → UInt8) (writeAddr : UInt32) (numByteToWrite : UInt16) :
    List PageWrite :=
  let addr : UInt8 := (writeAddr % 256).toUInt8
  let count : UInt8 := (256 - addr.toUInt16).toUInt8
  let numOfPage : UInt8 := (numByteToWrite / 256).toUInt8
  let numOfSingle : UInt8 := (numByteToWrite % 256).toUInt8
  if addr = 0 then
    if numOfPage = 0 then [⟨pBuffer, writeAddr, numByteToWrite⟩]
    else wholePages (fun pBuffer writeAddr => [⟨pBuffer, writeAddr, numOfSingle.toUInt16⟩])
      numOfPage.toNat pBuffer writeAddr
  else if numOfPage = 0 then
    if numOfSingle > count then
      let temp : UInt8 := numOfSingle - count
      [⟨pBuffer, writeAddr, count.toUInt16⟩,
        ⟨advance pBuffer count.toNat, writeAddr + count.toUInt32, temp.toUInt16⟩]
    else [⟨pBuffer, writeAddr, numByteToWrite⟩]
  else
    let numByteToWrite := numByteToWrite - count.toUInt16
    let numOfPage : UInt8 := (numByteToWrite / 256).toUInt8
    let numOfSingle : UInt8 := (numByteToWrite % 256).toUInt8
    ⟨pBuffer, writeAddr, count.toUInt16⟩ ::
      wholePages (fun pBuffer writeAddr =>
          if numOfSingle ≠ 0 then [⟨pBuffer, writeAddr, numOfSingle.toUInt16⟩] else [])
        numOfPage.toNat (advance pBuffer count.toNat) (writeAddr + count.toUInt32)

/-- `SPI_FLASH_BufferWrite`. -/
def bufferWrite (fuel : ℕ) (pBuffer : ℕ → UInt8) (writeAddr : UInt32) (numByteToWrite : UInt16)
    (s : σ) : Option σ :=
  (pageWrites pBuffer writeAddr numByteToWrite).foldlM (pageWrite bus fuel) s

/-- `SPI_FLASH_BufferRead`: the bytes that go to the buffer. -/
def bufferRead (readAddr : UInt32) (numByteToRead : UInt16) (s : σ) : List UInt8 × σ :=
  let s := send bus (bus.csLow s) (0x03 :: addressBytes readAddr)
  let (bytes, s) := receive bus numByteToRead.toNat s
  (bytes, bus.csHigh s)

/-- `Buffercmp`. -/
def buffercmp (pBuffer1 pBuffer2 : ℕ → UInt8) : ℕ → Bool
  | 0 => true
  | n + 1 =>
    if pBuffer1 0 ≠ pBuffer2 0 then false
    else buffercmp (advance pBuffer1 1) (advance pBuffer2 1) n

/-! ## The stock table -/

/-- A pointer to `FlashBuffer`. -/
def pointer (b : FlashBuffer) : ℕ → UInt8 := fun i => if h : i < 90 then b ⟨i, h⟩ else 0xFF

/-- The table that is read into a buffer. -/
def table (bytes : List UInt8) : FlashBuffer := fun i => bytes.getD i 0

/-- What is left of `WriteMeal`: `FlashBuffer`, `TransferStatus1` and the chip. -/
structure Saved (σ : Type*) where
  flashBuffer : FlashBuffer
  transferStatus1 : Bool
  chip : σ

/-- `WriteMeal`. -/
def writeMeal (fuel : ℕ) (flashBuffer : FlashBuffer) (s : σ) : Option (Saved σ) :=
  let (_, s) := readDeviceID bus s
  let (_, s) := readID bus s
  let (_, s) := bufferRead bus 0 90 s
  (sectorErase bus fuel 0 s).bind fun s =>
  (bufferWrite bus fuel (pointer flashBuffer) 0 90 s).bind fun s =>
  let (tempBuffer, s) := bufferRead bus 0 90 s
  let temp := pointer (table tempBuffer)
  if buffercmp (pointer flashBuffer) temp 90 then some ⟨flashBuffer, true, s⟩
  else
    (bufferWrite bus fuel (pointer flashBuffer) 0 90 s).bind fun s =>
    let (bytes, s) := bufferRead bus 0 90 s
    some ⟨table bytes, buffercmp (pointer (table bytes)) temp 90, s⟩

/-- `ReadMeal`. -/
def readMeal (s : σ) : FlashBuffer × σ :=
  let (bytes, s) := bufferRead bus 0 90 s
  (table bytes, s)

/-- `ClearMealInfo`. -/
def clearMealInfo (fuel : ℕ) (s : σ) : Option σ := sectorErase bus fuel 0 s

/-- Cells that are erased count as nothing. -/
def clearBlank (flashBuffer : FlashBuffer) : FlashBuffer := fun i =>
  if flashBuffer i = 0xff then 0 else flashBuffer i

/-- What `hardfawreInit` does with the table when the machine is switched on. -/
def hardfawreInit (fuel : ℕ) (s : σ) : Option (Saved σ) :=
  let (flashBuffer, s) := readMeal bus s
  writeMeal bus fuel (clearBlank flashBuffer) s

end SpiFlash

/-! ## The chip -/

/-- A W25Q64: what its cells do, what it answers when it is asked for its name, and for how many
bytes on the bus it is busy with an instruction. -/
structure W25Q where
  prog : ℕ → UInt8 → UInt8 → UInt8
  erase : ℕ → UInt8 → UInt8
  time : (ℕ → UInt8) → List UInt8 → ℕ
  jedecID : ℕ → UInt8
  deviceID : UInt8

/-- What a chip holds, and the bytes since it was selected. -/
structure FlashChip where
  mem : ℕ → UInt8
  writeEnabled : Bool
  busy : ℕ
  received : Option (List UInt8)

namespace W25Q

variable (k : W25Q)

/-- 8 MiB in pages of 256 bytes and sectors of 4 KiB. -/
def nor : Lib.Nor UInt8 where
  size := 0x800000
  page := 256
  sector := 4096
  page_pos := by decide
  size_pos := by decide
  page_dvd := by decide
  prog := k.prog
  erase := k.erase

/-- The address of three bytes. -/
def address (high medium low : UInt8) : ℕ :=
  65536 * high.toNat + 256 * medium.toNat + low.toNat

/-- The status register, with the flags `WEL` and `WIP`. -/
def status (c : FlashChip) : UInt8 :=
  (if c.writeEnabled then 0x02 else 0) ||| (if c.busy = 0 then 0 else 0x01)

/-- What the chip sends during a byte, of those since it was selected the next one. -/
def answer (c : FlashChip) : List UInt8 → UInt8
  | [] => 0xFF
  | op :: args =>
    if op = 0x05 then status c
    else if c.busy ≠ 0 then 0xFF
    else if op = 0x03 then
      match args with
      | high :: medium :: low :: rest => c.mem (k.nor.cell (address high medium low + rest.length))
      | _ => 0xFF
    else if op = 0x9F then k.jedecID args.length
    else if op = 0xAB then if args.length < 3 then 0xFF else k.deviceID
    else 0xFF

/-- The instruction that ends when the chip is deselected. -/
def execute (c : FlashChip) : List UInt8 → FlashChip
  | [] => c
  | op :: args =>
    if c.busy ≠ 0 then c
    else if op = 0x06 then if args = [] then { c with writeEnabled := true } else c
    else if op = 0x20 then
      match args with
      | [high, medium, low] =>
        if c.writeEnabled then
          { c with mem := k.nor.eraseSector c.mem (address high medium low), writeEnabled := false,
                   busy := k.time c.mem (op :: args) }
        else c
      | _ => c
    else if op = 0x02 then
      match args with
      | high :: medium :: low :: data =>
        -- without a byte there is nothing to program
        if c.writeEnabled && !data.isEmpty then
          { c with mem := k.nor.programPage c.mem (address high medium low) data,
                   writeEnabled := false, busy := k.time c.mem (op :: args) }
        else c
      | _ => c
    else c

/-- The chip at its lines.  While it is not selected it does not listen. -/
def bus : SpiBus FlashChip where
  csLow c := { c with received := some [] }
  exchange byte c :=
    match c.received with
    | none => (0xFF, { c with busy := c.busy - 1 })
    | some bytes =>
      (k.answer c bytes, { c with busy := c.busy - 1, received := some (bytes ++ [byte]) })
  csHigh c := { k.execute c (c.received.getD []) with received := none }

end W25Q

end MealVendor
