import MealVendor.Model.Lookup
import MealVendor.Model.Network

/-!
# The other requests

Besides signing in and reporting a meal, the program compares its meals with those of the server,
tells its state, asks for the time, signs out and closes the day.  The functions are alike: the
receive buffer is cleared, the items are put together, the packet is sent and the reply waited for.
-/

namespace MealVendor

/-- `tmp_yy` and so on: what the clock is set to. -/
structure Tmp where
  yy : UInt32
  m2 : UInt32
  dd : UInt32
  ww : UInt32
  hh : UInt32
  mm : UInt32
  ss : UInt32
deriving DecidableEq

namespace Net

/-- `Send_Buf`: the place for command and length, the items, the end and the place for the
checksum. -/
def packet (items : List UInt8) : List UInt8 :=
  [0x02, 0x00, 0x00, 0x00, 0x00] ++ items ++ [0x03, 0x00, 0x00]

/-! ## The items -/

/-- What follows `Send_Buf[0..4]` when the program signs in. -/
def signInItems (n : Net) : List UInt8 :=
  n.bytes .tid ++ n.bytes .mid ++ n.bytes .mName ++ n.bytes .brwn ++ n.bytes .bno ++
    n.bytes .deviceArea ++ n.bytes .deviceAreaNO ++ n.bytes .appVersion ++
    n.bytes .paraFileVersion ++ n.bytes .bDataFileVersion ++ n.bytes .chechStatus

/-- What `StructCopyToBuffer` copies of a meal: number, name, count, price and type. -/
def mealRecord (k : Kind) (mealCount : UInt8) : List UInt8 :=
  [0x10, 0x00, 0x00, ![0x20, 0x23, 0x26, 0x24] k] ++ maelName k ++ [0x00, mealCount] ++
    [0x00, 0x00, 0x15, 0x00] ++ [0x43, 0x30, 0x30, 0x31]

/-- `Buffer`, with 306 bytes, once `StructCopyToBuffer` has filled it. -/
def structCopyToBuffer (mealCount : Kind → UInt8) : List UInt8 :=
  let meals := mealRecord 0 (mealCount 0) ++ mealRecord 1 (mealCount 1) ++
    mealRecord 2 (mealCount 2) ++ mealRecord 3 (mealCount 3)
  meals ++ List.replicate (306 - meals.length) 0x00

def compareItems (mealCount : Kind → UInt8) (n : Net) : List UInt8 :=
  n.bytes .tid ++ n.bytes .brwn ++ n.bytes .bno ++ n.bytes .deviceArea ++ n.bytes .deviceAreaNO ++
    [0xbc, 0x01, 0x32] ++ structCopyToBuffer mealCount

def signOutItems (n : Net) : List UInt8 := n.bytes .tid ++ n.bytes .brwn ++ n.bytes .bno

/-- The loop of `StatusUploadingFun` stores the state in `DeviceStatus`, the high byte first.  Its
third round reads `behind` behind `state_temp` and stores it behind `DeviceStatus`, which is in
`DealData`, the array that is declared next, if the linker puts it there. -/
def fillStatus (next : Bool) (erroStatus : UInt16) (behind : UInt8) (n : Net) : Net :=
  let state0 : UInt8 := ((erroStatus >>> 8) &&& 0x00ff).toUInt8
  let state1 : UInt8 := (erroStatus &&& 0x00ff).toUInt8
  let n := n.copy .deviceStatus 3 [state0, state1, behind]
  if next then n.put .dealData 0 behind else n

def statusItems (n : Net) : List UInt8 :=
  n.bytes .tid ++ n.bytes .brwn ++ n.bytes .bno ++ n.bytes .deviceStatus

def echoItems (n : Net) : List UInt8 := n.bytes .tid ++ n.bytes .dealData ++ n.bytes .dealTime

def mealUploadingItems (n : Net) : List UInt8 :=
  n.bytes .tid ++ n.bytes .brwn ++ n.bytes .bno ++ n.bytes .deviceArea ++ n.bytes .deviceAreaNO ++
    n.bytes .mac

def clearingItems (n : Net) : List UInt8 :=
  n.bytes .tid ++ n.bytes .brwn ++ n.bytes .bno ++ n.bytes .mac

/-! ## The requests -/

/-- A request under a new serial number; the result is 1 if there was no reply. -/
def request (cmd : UInt16) (items : Net → List UInt8) (now : StructTD) (air : Air) (n : Net) :
    Option (UInt8 × Net) :=
  (n.memSet00 air).bind fun n =>
    let n := n.getBRWN now
    n.mealComparefunDemo cmd (packet (items n)) air

/-- `SignOutFun`. -/
def signOutFun : StructTD → Air → Net → Option (UInt8 × Net) := request 0x0300 signOutItems

/-- `StatusUploadingFun`. -/
def statusUploadingFun (next : Bool) (erroStatus : UInt16) (behind : UInt8) (now : StructTD)
    (air : Air) (n : Net) : Option (UInt8 × Net) :=
  (n.memSet00 air).bind fun n =>
    let n := (n.getBRWN now).fillStatus next erroStatus behind
    n.mealComparefunDemo 0x0400 (packet n.statusItems) air

/-- `MealUploadingFun`. -/
def mealUploadingFun : StructTD → Air → Net → Option (UInt8 × Net) :=
  request 0x0400 mealUploadingItems

/-- `ClearingFun`. -/
def clearingFun : StructTD → Air → Net → Option (UInt8 × Net) := request 0x0500 clearingItems

/-- What `MealDataCompareFun` makes of the reply: `MealCompareData.MealComparePart`.  `lenght0` is
`ReturnData.Lenght[0]` from the call before. -/
def compareReply (rx1Buf : ℕ → UInt8) (lenght0 : UInt8) (part : Kind → UInt8) : Kind → UInt8 :=
  let lenght0 := (compareGetData rx1Buf 0xc0).headD lenght0
  if lenght0 = 0x00 then fun _ => 0xff
  else if lenght0 = 0x24 then fun _ => 0xff
  else if (compareGetData rx1Buf 0xbc).length > 34 then fun k =>
    if rx1Buf (45 + k * 35) = 0x04 then 0xff else rx1Buf (36 + k * 35)
  else part

/-- `MealDataCompareFun`, with `ReturnData.Lenght[0]` and `MealCompareData`.  The total is the four
parts, and 0 at first. -/
def mealDataCompareFun (mealCount : Kind → UInt8) (lenght0 : UInt8) (now : StructTD) (air : Air)
    (n : Net) : Option (UInt8 × (Kind → UInt8) × Net) :=
  (request 0x0200 (compareItems mealCount) now air n).map fun r =>
    let rx := r.2.uart.rx1Buf
    if r.1 = 0x01 then (lenght0, fun _ => 0, r.2)
    else ((compareGetData rx 0xc0).headD lenght0, compareReply rx lenght0 fun _ => 0, r.2)

/-! ## The time -/

/-- A byte with two decimal digits. -/
def digits (b : UInt8) : UInt32 := b.toUInt32 / 16 * 10 + b.toUInt32 % 16

/-- What `EchoFun` takes from a reply. -/
def echoTmp (rx1Buf : ℕ → UInt8) (t : Tmp) : Tmp :=
  { t with
    yy := digits (rx1Buf 8), m2 := digits (rx1Buf 9), dd := digits (rx1Buf 10)
    hh := digits (rx1Buf 14), mm := digits (rx1Buf 15), ss := digits (rx1Buf 16) }

/-- `EchoFun` also puts the numbers into the receive buffer. -/
def echoRx (rx1Buf : ℕ → UInt8) : ℕ → UInt8 := fun i =>
  if i ∈ [7, 8, 9, 10, 14, 15, 16] then (digits (rx1Buf i)).toUInt8 else rx1Buf i

/-- `EchoFun`. -/
def echoFun (air : Air) (t : Tmp) (n : Net) : Option (UInt8 × Tmp × Net) :=
  (n.memSet00 air).bind fun n =>
    (n.mealComparefunDemo 0x0700 (packet n.echoItems) air).map fun r =>
      let rx := r.2.uart.rx1Buf
      if r.1 = 0x01 then (1, t, r.2)
      else if hlBufferToInit (rx 2) (rx 3) = 0x00 then (1, t, r.2)
      else if rx 0 = 0x07 ∧ rx 1 = 0x10 then
        (0, echoTmp rx t, { r.2 with uart := { r.2.uart with rx1Buf := echoRx rx } })
      else (1, t, r.2)

/-! ## Trying again -/

/-- `EchoFuntion`: at most 100 tries.  `fptr` is called behind the one that is answered. -/
def echoFuntion {α : Type*} (fptr : Tmp → α → α) :
    ℕ → List Air → Tmp → α → Net → Option (Bool × Tmp × α × Net)
  | 0, _, t, a, n => some (false, t, a, n)
  | i + 1, airs, t, a, n =>
    (n.echoFun (airs.headD ⟨[], []⟩) t).bind fun r =>
      if r.1 = 0x00 then some (true, r.2.1, fptr r.2.1 a, r.2.2)
      else echoFuntion fptr i airs.tail r.2.1 a r.2.2

/-- `SignInFunction`: at most 50 tries, each at its time. -/
def signInFunction : ℕ → List (StructTD × Air) → Net → Option (Bool × Net)
  | 0, _, n => some (false, n)
  | i + 1, airs, n =>
    let air := airs.headD (.zero, ⟨[], []⟩)
    (n.signInFun air.1 air.2).bind fun r =>
      if r.1 = 0x00 then some (true, r.2) else signInFunction i airs.tail r.2

end Net

end MealVendor
