import MealVendor.Model.Data
import MealVendor.Model.Uart5

/-!
# Requests to the server

A request is put together from global arrays, each of which holds a tag, a length and a value; some
values are refilled for each request.  The reply is looked for a number of times, in whatever the
receiver has by then.  Every store into one of the arrays is recorded, with its index, whether it is
inside of the array or not.
-/

namespace MealVendor

/-! ## Arrays -/

/-- The arrays that requests are made of and stored in. -/
inductive Glob
  | tid | brwn | bno | deviceArea | deviceAreaNO | deviceStatus | dealData | dealTime
  | dealBalance | mealID | mealNO | mealName | mealPrice | payType | change | remainMealNum
  | takeMealFlag | mac
  | mName | mid | appVersion | paraFileVersion | bDataFileVersion | chechStatus
  | updataFlag | ack | wordKeyCipher
  | recordBuffer | readSdBuff | readBuf | temp
deriving DecidableEq

/-- The size with which an array is declared. -/
def Glob.size : Glob → ℕ
  | tid => 7
  | brwn => 10
  | bno => 6
  | deviceArea => 6
  | deviceAreaNO => 7
  | deviceStatus => 5
  | dealData => 7
  | dealTime => 6
  | dealBalance => 9
  | mealID => 7
  | mealNO => 4
  | mealName => 23
  | mealPrice => 9
  | payType => 4
  | change => 9
  | remainMealNum => 5
  | takeMealFlag => 5
  | mac => 11
  | mName => 23
  | mid => 6
  | appVersion => 11
  | paraFileVersion => 11
  | bDataFileVersion => 11
  | chechStatus => 5
  | updataFlag => 4
  | ack => 4
  | wordKeyCipher => 11
  | recordBuffer => 254
  | readSdBuff => 512
  | readBuf => 20
  | temp => 10

/-- The values with which the arrays are declared. -/
def Glob.init : Glob → List UInt8
  | tid => [0xa2, 0x00, 0x04, 0x10, 0x00, 0x00, 0x06]
  | brwn => [0xa6, 0x00, 0x07, 0x00, 0x00, 0x00, 0x00, 0x00, 0x00, 0x00]
  | bno => [0xa7, 0x00, 0x03, 0x00, 0x00, 0x00]
  | deviceArea => [0xac, 0x00, 0x03, 0x17, 0x03, 0x02]
  | deviceAreaNO => [0xad, 0x00, 0x04, 0x17, 0x03, 0x02, 0x07]
  | deviceStatus => [0xae, 0x00, 0x02, 0xe0, 0x10]
  | dealData => [0xa9, 0x00, 0x04]
  | dealTime => [0xaa, 0x00, 0x03]
  | dealBalance => [0xb0, 0x00, 0x06]
  | mealID => [0xb1, 0x00, 0x04, 0x10, 0x00, 0x00, 0x20]
  | mealNO => [0xb2, 0x00, 0x01]
  | mealName => [0xb3, 0x00, 0x14] ++ "abcdeabcdeabcdeabcda".toUTF8.toList
  | mealPrice => [0xbd, 0x00, 0x06]
  | payType => [0xbf, 0x00, 0x01]
  | change => [0xd7, 0x00, 0x06]
  | remainMealNum => [0xd8, 0x00, 0x02]
  | takeMealFlag => [0xdb, 0x00, 0x02]
  | mac => [0xc9, 0x00, 0x08]
  | mName => [0xa4, 0x00, 0x14] ++ List.replicate 19 0x00 ++ [0x01]
  | mid => [0xa3, 0x00, 0x03, 0x10, 0x00, 0x01]
  | appVersion => [0xc2, 0x00, 0x08] ++ List.replicate 7 0x00 ++ [0x01]
  | paraFileVersion => [0xc3, 0x00, 0x08] ++ List.replicate 7 0x00 ++ [0x01]
  | bDataFileVersion => [0xc4, 0x00, 0x08] ++ List.replicate 7 0x00 ++ [0x01]
  | chechStatus => [0xab, 0x00, 0x02]
  | updataFlag | ack | wordKeyCipher | recordBuffer | readSdBuff | readBuf | temp => []

/-- What the program holds for its requests.  `stores` and `sent` only record what is done: the
stores into the arrays and the frames that are sent. -/
structure Net where
  cell : Glob → ℕ → UInt8
  uart : Uart5
  stores : List (Glob × ℕ)
  sent : List (List UInt8)

namespace Net

/-- The globals when the program starts; what is not given a value is 0. -/
def start : Net where
  cell := fun g i => g.init.getD i 0
  uart := .start
  stores := []
  sent := []

/-- `g[i] = v`. -/
def put (g : Glob) (i : ℕ) (v : UInt8) (n : Net) : Net :=
  { n with
    cell := Function.update n.cell g (Function.update (n.cell g) i v)
    stores := (g, i) :: n.stores }

/-- The bytes `bs` are stored from `g[i]` on. -/
def copy (g : Glob) : ℕ → List UInt8 → Net → Net
  | _, [], n => n
  | i, b :: bs, n => copy g (i + 1) bs (n.put g i b)

/-- The array `g`. -/
def bytes (n : Net) (g : Glob) : List UInt8 := (List.range g.size).map (n.cell g)

section Stores

variable (n : Net) (g : Glob) (i : ℕ) (v : UInt8) (bs : List UInt8)

@[simp] lemma put_uart : (n.put g i v).uart = n.uart := rfl
@[simp] lemma put_sent : (n.put g i v).sent = n.sent := rfl
@[simp] lemma put_stores : (n.put g i v).stores = (g, i) :: n.stores := rfl

lemma copy_cons (b : UInt8) : n.copy g i (b :: bs) = (n.put g i b).copy g (i + 1) bs := rfl

@[simp] lemma copy_uart : (n.copy g i bs).uart = n.uart := by
  induction bs generalizing i n with
  | nil => rfl
  | cons b bs ih => rw [copy_cons, ih, put_uart]

@[simp] lemma copy_sent : (n.copy g i bs).sent = n.sent := by
  induction bs generalizing i n with
  | nil => rfl
  | cons b bs ih => rw [copy_cons, ih, put_sent]

variable {g} {g' : Glob}

lemma put_cell_of_ne (h : g' ≠ g) : (n.put g i v).cell g' = n.cell g' := Function.update_of_ne h _ _

/-- The other arrays stay as they are. -/
lemma copy_cell_of_ne (h : g' ≠ g) : (n.copy g i bs).cell g' = n.cell g' := by
  induction bs generalizing i n with
  | nil => rfl
  | cons b bs ih => rw [copy_cons, ih, put_cell_of_ne _ _ _ h]

/-- What stands in the array afterwards. -/
lemma copy_cell_self (g : Glob) (j : ℕ) : (n.copy g i bs).cell g j =
    if i ≤ j ∧ j < i + bs.length then bs.getD (j - i) 0 else n.cell g j := by
  induction bs generalizing i n with
  | nil => rw [if_neg (by rw [List.length_nil]; omega)]; rfl
  | cons b bs ih =>
    have hput : ∀ k, (n.put g i b).cell g k = if k = i then b else n.cell g k := by
      intro k
      rw [put]
      dsimp only
      rw [Function.update_self, Function.update_apply]
    rw [copy_cons, ih, hput, List.length_cons]
    rcases Nat.lt_trichotomy j i with h | rfl | h
    · rw [if_neg (by omega), if_neg (by omega), if_neg (by omega)]
    · rw [if_neg (by omega), if_pos rfl, if_pos (by omega), Nat.sub_self]
      rfl
    · obtain ⟨k, rfl⟩ := Nat.exists_eq_add_of_lt h
      rw [show i + k + 1 - i = k + 1 by omega, List.getD_cons_succ,
        show i + k + 1 - (i + 1) = k by omega]
      by_cases hk : k < bs.length
      · rw [if_pos (by omega), if_pos (by omega)]
      · rw [if_neg (by omega), if_neg (by omega), if_neg (by omega)]

end Stores

end Net

/-! ## The clock and the names of the meals -/

/-- `TimeDate`. -/
structure StructTD where
  hours : UInt8
  minutes : UInt8
  senconds : UInt8
  month : UInt8
  date : UInt8
  year : UInt8

/-- `TimeDate` before the clock is read. -/
def StructTD.zero : StructTD := ⟨0, 0, 0, 0, 0, 0⟩

/-- The names in the table `Meal`, filled up with zeros. -/
def maelName : Kind → List UInt8
  | 0 => [0xba, 0xec, 0xc2, 0xdc, 0xb2, 0xb7, 0xb3, 0xb4, 0xc8, 0xe2] ++ List.replicate 6 0x20 ++
      List.replicate 4 0x00
  | 1 => [0xcf, 0xe3, 0xb9, 0xbd, 0xbb, 0xac, 0xbc, 0xa6] ++ List.replicate 8 0x20 ++
      List.replicate 4 0x00
  | 2 => [0xb4, 0xe0, 0xc6, 0xa4, 0xc9, 0xd5, 0xd1, 0xbc] ++ List.replicate 8 0x20 ++
      List.replicate 4 0x00
  | 3 => [0xba, 0xec, 0xc9, 0xd5, 0xd3, 0xe3, 0xbf, 0xe9] ++ List.replicate 8 0x20 ++
      List.replicate 4 0x00

/-- Two decimal digits in a byte. -/
def bcdByte (v : UInt8) : UInt8 := v / 10 * 16 + v % 10

/-- `GetBRWN`: the time is the serial number. -/
def Net.getBRWN (now : StructTD) (n : Net) : Net :=
  n.copy .brwn 3
    [bcdByte 20, bcdByte now.year, bcdByte now.month, bcdByte now.date, bcdByte now.hours,
      bcdByte now.minutes, bcdByte now.senconds]

/-! ## Waiting for a reply -/

/-- A byte on the line from the server.  A byte of a reply knows the request that is replied to;
the program does not. -/
structure RxByte where
  val : UInt8
  reply : Option ℕ

/-- What arrives while the program deals with a request: before the request is sent, and before
each time the program looks for the reply. -/
structure Air where
  early : List RxByte
  polls : List (List RxByte)

/-- The receiver gets what arrives. -/
def Uart5.hear (s : Uart5) (bs : List RxByte) : Option Uart5 := s.feed (bs.map RxByte.val)

/-- `while (--Waittimeout)`: the receiver is looked at `t` times.  The result is 1 if there was
nothing. -/
def Uart5.wait : ℕ → List (List RxByte) → Uart5 → Option (UInt8 × Uart5)
  | 0, _, s => some (1, s)
  | t + 1, air, s =>
    (s.hear (air.headD [])).bind fun s =>
      if s.rx1Right then some (0, { s with rx1Right := false }) else s.wait t air.tail

namespace Net

/-- `mem_set_00(rx1Buf, sizeof(rx1Buf))`, and what arrives until the request is sent. -/
def memSet00 (air : Air) (n : Net) : Option Net :=
  ({ n.uart with rx1Buf := fun _ => 0 }.hear air.early).map fun s => { n with uart := s }

/-- `MealComparefunDemo`: the receiver is reset, the frame is sent, and the reply waited for. -/
def mealComparefunDemo (cmd : UInt16) (p : List UInt8) (air : Air) (n : Net) :
    Option (UInt8 × Net) :=
  (n.uart.cmdDataSend.wait 249 air.polls).map fun r =>
    (r.1, { n with uart := r.2, sent := n.sent ++ [mealFrame cmd p] })

/-! ## A meal is reported -/

/-- What follows `Send_Buf[0..4]` in the report of a meal. -/
def mealItems (n : Net) : List UInt8 :=
  n.bytes .tid ++ n.bytes .brwn ++ n.bytes .bno ++ n.bytes .deviceArea ++ n.bytes .deviceAreaNO ++
    n.bytes .dealBalance ++ n.bytes .mealID ++ n.bytes .mealNO ++ n.bytes .mealName ++
    n.bytes .mealPrice ++ n.bytes .payType ++ n.bytes .change ++ n.bytes .remainMealNum ++
    n.bytes .takeMealFlag ++ n.bytes .mac

/-- The values of the meal that was sold, as `TakeMealsFun` and `Sd_Write` fill them in.  A number
that is not in the table of the meals leaves the name as it is. -/
def fillMeal (sel : CustomerSel) (takeoutFlag : UInt8) (n : Net) : Net :=
  let n := n.copy .dealBalance 3 (List.ofFn sel.dealBalance)
  let n := n.copy .mealID 3 (List.ofFn sel.mealID)
  let n := n.put .mealNO 3 sel.mealNo
  let n := match Kind.ofID sel.mealName with
    | some k => n.copy .mealName 3 (maelName k)
    | none => n
  let n := n.copy .mealPrice 3 (List.ofFn sel.mealPrice)
  let n := n.put .payType 3 sel.payType
  let n := n.copy .change 3 (List.ofFn sel.change)
  let n := n.copy .remainMealNum 3 (List.ofFn sel.remainMealNum)
  n.put .takeMealFlag 4 takeoutFlag

/-- What `TakeMealsFun` and `TakeMealsFun1` make of the reply. -/
def takeMealsReply (i : UInt8) (s : Uart5) : UInt8 :=
  if i = 0x01 then 1
  else if hlBufferToInit (s.rx1Buf 2) (s.rx1Buf 3) = 0x00 then 1
  else if s.rx1Buf 0 = 0x07 ∧ s.rx1Buf 1 = 0x10 then
    if s.rx1Buf 7 = 0x00 then 0
    else if s.rx1Buf 7 = 0x24 then 1
    else 0
  else 0

/-- The end of `TakeMealsFun` and `TakeMealsFun1`: the length of the frame `p` is stored behind the
1019 bytes of `SendBuffer`. -/
def storeLenght (sendBuffer : Glob) (p : List UInt8) (n : Net) : Net :=
  n.copy sendBuffer 1019 (hlIntToBuffer (UInt16.ofNat p.length))

/-- `TakeMealsFun`. -/
def takeMealsFun (sendBuffer : Glob) (takeoutFlag : UInt8) (sel : CustomerSel) (now : StructTD)
    (air : Air) (n : Net) : Option (UInt8 × Net) :=
  (n.memSet00 air).bind fun n =>
    let n := (n.getBRWN now).fillMeal sel takeoutFlag
    let p := [0x02, 0x00, 0x00, 0x00, 0x00] ++ n.mealItems ++ [0x03, 0x00, 0x00]
    (n.mealComparefunDemo 0x0800 p air).map fun r =>
      let n := (r.2.copy sendBuffer 0 (mealFrame 0x0800 p)).storeLenght sendBuffer p
      (takeMealsReply r.1 r.2.uart, n)

/-! ## Signing in -/

/-- What `SignInFun` takes from the reply. -/
def signInReply (s : Uart5) (n : Net) : Net :=
  let rx (i k : ℕ) := (List.range k).map fun j => s.rx1Buf (i + j)
  let n := n.copy .mName 0 (rx 4 23)
  let n := n.copy .bno 3 (rx 30 3)
  let n := n.copy .appVersion 0 (rx 0x21 11)
  let n := n.copy .paraFileVersion 0 (rx 0x2c 11)
  let n := n.copy .bDataFileVersion 0 (rx 0x37 11)
  let n := n.copy .updataFlag 0 (rx 0x42 4)
  let n := n.copy .ack 0 (rx 0x46 4)
  let n := n.copy .wordKeyCipher 0 (rx 0x4a 11)
  n.copy .mac 0 (rx 0x55 11)

/-- `SignInFun`. -/
def signInFun (now : StructTD) (air : Air) (n : Net) : Option (UInt8 × Net) :=
  (n.memSet00 air).bind fun n =>
    let n := n.getBRWN now
    let p := [0x02, 0x00, 0x00, 0x00, 0x00] ++ n.bytes .tid ++ n.bytes .mid ++ n.bytes .mName ++
      n.bytes .brwn ++ n.bytes .bno ++ n.bytes .deviceArea ++ n.bytes .deviceAreaNO ++
      n.bytes .appVersion ++ n.bytes .paraFileVersion ++ n.bytes .bDataFileVersion ++
      n.bytes .chechStatus ++ [0x03, 0x00, 0x00]
    (n.mealComparefunDemo 0x0100 p air).map fun r =>
      if r.1 = 0x01 then (1, r.2)
      else if hlBufferToInit (r.2.uart.rx1Buf 2) (r.2.uart.rx1Buf 3) = 0x00 then (1, r.2)
      else
        let n := r.2.signInReply r.2.uart
        (if n.cell .ack 3 = 0x24 then 1 else 0, n)

end Net

end MealVendor
