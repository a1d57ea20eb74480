import MealVendor.Model.Hex
import MealVendor.Model.Network

/-!
# Commands to the card reader

Every `Order_…` function fills a local array: 21 bytes of `SztFixData` or `GpbocFixData`, the
payload, the checksum and an end byte.  How many bytes are summed up and where the checksum stands
is written out in each of them.
-/

namespace MealVendor

/-- `TimeDate` with the day of the week. -/
structure Clock extends StructTD where
  weekDay : UInt8

/-- `DectoBCD`. -/
def dectoBCD (dec : UInt8) : UInt8 := UInt8.ofNat (dec.toNat / 10 * 16 + dec.toNat % 10)

/-- The globals that the commands are made of.  `startNum` and `dataend` are those of
`SztSendData`. -/
structure SztSend where
  sztSamNum : Fin 4 → UInt8
  gpbocSamNum : Fin 4 → UInt8
  startNum : UInt8
  dataend : UInt8
  userNo : Fin 3 → UInt8
  newtime : Fin 8 → UInt8
  timeMode : UInt8
  timeDate : Clock
  gpbocInitPutInParameter : Fin 32 → UInt8

/-- `MustSendData`. -/
def mustSendData (lenH lenL : UInt8) (samNum : Fin 4 → UInt8) (startNum orderNum : UInt8) :
    List UInt8 :=
  [0x00, 0x00, 0xff, lenH, lenL, 0x06, 0xff, 0xff, 0xff, 0xff, 0x05] ++ List.ofFn samNum ++
    [startNum, orderNum, 0x00, 0x01, 0x00, 0x01]

/-- The sum of `n` cells from the source address on. -/
def checkSum (data : ℕ → UInt8) (n : ℕ) : UInt8 := ((List.range n).map fun i => data (5 + i)).sum

/-- The bytes of `money`, the lowest first. -/
def moneyBytes (money : UInt32) : List UInt8 :=
  [money.toUInt8, (money >>> 8).toUInt8, (money >>> 16).toUInt8, (money >>> 24).toUInt8]

namespace SztSend

/-- `SztFixData`. -/
def sztFixData (lenH lenL orderNum : UInt8) (s : SztSend) : List UInt8 × SztSend :=
  let s := { s with startNum := s.startNum + 1, dataend := 0x00 }
  (mustSendData lenH lenL s.sztSamNum s.startNum orderNum, s)

/-- `GpbocFixData`; it counts `SztSendData.startNum`. -/
def gpbocFixData (lenH lenL orderNum : UInt8) (s : SztSend) : List UInt8 × SztSend :=
  let s := { s with startNum := s.startNum + 1 }
  (mustSendData lenH lenL s.gpbocSamNum s.startNum orderNum, s)

/-- The bytes that an order sends: the payload is filled in, `n` bytes are summed up, the checksum
is stored in cell `dcs`, and `size` bytes are sent.  `data` is what the local array holds before. -/
def orderData (data : ℕ → UInt8) (payload : List UInt8) (n dcs size : ℕ)
    (r : List UInt8 × SztSend) : List UInt8 × SztSend :=
  let data := overwrite (overwrite data 0 r.1) 21 payload
  let temp := checkSum data n
  ((List.range size).map (overwrite data dcs [0 - temp, r.2.dataend]), r.2)

variable (data : ℕ → UInt8)

/-- `Order_Ifn_QueryStatus`. -/
def orderIfnQueryStatus (s : SztSend) : List UInt8 × SztSend :=
  orderData data [] 16 21 23 ({ s with sztSamNum := fun _ => 0 }.sztFixData 0x00 0x10 0x20)

/-- `Order_SztUserLogin`. -/
def orderSztUserLogin (s : SztSend) : List UInt8 × SztSend :=
  orderData data (List.ofFn s.userNo) 19 24 26 (s.sztFixData 0x00 0x13 0x40)

/-- The date and the time, from the century to the second. -/
def dateTime (c : Clock) : List UInt8 :=
  [0x20, dectoBCD c.year, dectoBCD c.month, dectoBCD c.date, dectoBCD c.hours,
    dectoBCD c.minutes, dectoBCD c.senconds]

/-- `Order_SztTimeCheck`; `RTC_TimeShow` reads the clock. -/
def orderSztTimeCheck (now : Clock) (s : SztSend) : List UInt8 × SztSend :=
  let r := s.sztFixData 0x00 0x19 0x24
  orderData data (dateTime now ++ [dectoBCD now.weekDay, s.timeMode]) 25 30 32
    (r.1, { r.2 with timeDate := now })

/-- `Order_SztDeductOnce`. -/
def orderSztDeductOnce (money : Int32) (now : Clock) (s : SztSend) : List UInt8 × SztSend :=
  let r := s.sztFixData 0x00 0x1B 0x42
  orderData data (moneyBytes money.toUInt32 ++ dateTime now) 27 32 34
    (r.1, { r.2 with timeDate := now })

/-- `Order_SztDeductAgain`. -/
def orderSztDeductAgain (money : Int32) (now : Clock) (s : SztSend) : List UInt8 × SztSend :=
  let r := s.sztFixData 0x00 0x1B 0x82
  orderData data (moneyBytes money.toUInt32 ++ dateTime now) 27 32 34
    (r.1, { r.2 with timeDate := now })

/-- The first seven bytes of `newtime`. -/
def rechargeTime (s : SztSend) : List UInt8 := (List.ofFn s.newtime).take 7

/-- `Order_SztRechargeOnce`. -/
def orderSztRechargeOnce (s : SztSend) : List UInt8 × SztSend :=
  orderData data s.rechargeTime 23 28 30 (s.sztFixData 0x00 0x17 0x54)

/-- `Order_SztRechargeAgain`: the bytes are summed up before the time is filled in, and only up to
there. -/
def orderSztRechargeAgain (s : SztSend) : List UInt8 × SztSend :=
  let r := s.sztFixData 0x00 0x17 0x94
  let data := overwrite data 0 r.1
  let temp := checkSum data 16
  let data := overwrite data 21 s.rechargeTime
  ((List.range 30).map (overwrite data 28 [0 - temp, r.2.dataend]), r.2)

/-- `Order_Gpboc_Init`. -/
def orderGpbocInit (s : SztSend) : List UInt8 × SztSend :=
  orderData data (List.ofFn s.gpbocInitPutInParameter) 48 53 55
    ({ s with gpbocSamNum := fun _ => 0xff }.gpbocFixData 0x00 0x30 0xC2)

/-- `Order_Gpboc_ReadCard`. -/
def orderGpbocReadCard (s : SztSend) : List UInt8 × SztSend :=
  orderData data [0x02, 0x00] 18 23 25 (s.gpbocFixData 0x00 0x12 0xC6)

/-- `Order_Gpboc_Deduct`. -/
def orderGpbocDeduct (submoney : UInt32) (s : SztSend) : List UInt8 × SztSend :=
  orderData data (moneyBytes submoney ++ [0x20]) 21 26 28 (s.gpbocFixData 0x00 0x15 0xC8)

end SztSend

/-- The commands. -/
inductive SztOrder
  | queryStatus
  | userLogin
  | timeCheck (now : Clock)
  | deductOnce (money : Int32) (now : Clock)
  | deductAgain (money : Int32) (now : Clock)
  | rechargeOnce
  | rechargeAgain
  | gpbocInit
  | gpbocReadCard
  | gpbocDeduct (submoney : UInt32)

/-- What a command sends. -/
def SztSend.order (data : ℕ → UInt8) (s : SztSend) : SztOrder → List UInt8 × SztSend
  | .queryStatus => s.orderIfnQueryStatus data
  | .userLogin => s.orderSztUserLogin data
  | .timeCheck now => s.orderSztTimeCheck data now
  | .deductOnce money now => s.orderSztDeductOnce data money now
  | .deductAgain money now => s.orderSztDeductAgain data money now
  | .rechargeOnce => s.orderSztRechargeOnce data
  | .rechargeAgain => s.orderSztRechargeAgain data
  | .gpbocInit => s.orderGpbocInit data
  | .gpbocReadCard => s.orderGpbocReadCard data
  | .gpbocDeduct submoney => s.orderGpbocDeduct data submoney

end MealVendor
