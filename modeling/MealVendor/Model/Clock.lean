import MealVendor.Model.Request
import MealVendor.Model.SztOrder

/-!
# The clock

The clock has a register for the time and one for the date, with two decimal digits for each field.
It is set from the numbers `tmp_yy` and so on, and read into `TimeDate`.  What the hardware does
when a register is set is given from outside.
-/

namespace MealVendor

/-- The registers `TR` and `DR`, and the backup register 0. -/
structure Rtc where
  tr : UInt32
  dr : UInt32
  bkp : UInt32
deriving DecidableEq

/-- Whether `RTC_EnterInitMode` and `RTC_WaitForSynchro` end in time. -/
structure Setting where
  init : Bool
  synchro : Bool

/-- The numbers that `tmp_yy` and so on are declared with. -/
def Tmp.init : Tmp where
  yy := 0x09
  m2 := 0x01
  dd := 0x01
  ww := 0x01
  hh := 0x17
  mm := 0x3b
  ss := 0x01

/-- The loop of `RTC_ByteToBcd2`. -/
def byteToBcd2From (bcdhigh value : UInt8) : UInt8 × UInt8 :=
  if 10 ≤ value then byteToBcd2From (bcdhigh + 1) (value - 10) else (bcdhigh, value)
termination_by value.toNat
decreasing_by
  rename_i h
  rw [UInt8.toNat_sub_of_le _ _ h]
  have : 10 ≤ value.toNat := h
  show value.toNat - 10 < value.toNat
  omega

/-- `RTC_ByteToBcd2`. -/
def byteToBcd2 (value : UInt8) : UInt8 :=
  let r := byteToBcd2From 0 value
  (r.1 <<< 4) ||| r.2

/-- `RTC_Bcd2ToByte`. -/
def bcd2ToByte (value : UInt8) : UInt8 := ((value &&& 0xf0) >>> 4) * 10 + (value &&& 0x0f)

namespace Rtc

/-- `RTC_SetTime` with numbers, when the clock counts 24 hours; whether it succeeds. -/
def setTime (hours minutes seconds : UInt8) (w : Setting) (r : Rtc) : Bool × Rtc :=
  let tmpreg := (byteToBcd2 hours).toUInt32 <<< 16 ||| (byteToBcd2 minutes).toUInt32 <<< 8 |||
    (byteToBcd2 seconds).toUInt32
  if w.init then (w.synchro, { r with tr := tmpreg &&& 0x007f7f7f }) else (false, r)

/-- `RTC_GetTime`: the hours, the minutes and the seconds. -/
def getTime (r : Rtc) : UInt8 × UInt8 × UInt8 :=
  let tmpreg := r.tr &&& 0x007f7f7f
  (bcd2ToByte ((tmpreg &&& 0x003f0000) >>> 16).toUInt8,
    bcd2ToByte ((tmpreg &&& 0x00007f00) >>> 8).toUInt8, bcd2ToByte (tmpreg &&& 0x0000007f).toUInt8)

/-- The month that `RTC_SetDate` makes of a month with bit 4. -/
def monthOf (month : UInt8) : UInt8 :=
  if month &&& 0x10 = 0x10 then (month &&& ~~~0x10) + 0x0a else month

/-- `RTC_SetDate` with numbers; whether it succeeds. -/
def setDate (year month date weekDay : UInt8) (w : Setting) (r : Rtc) : Bool × Rtc :=
  let tmpreg := (byteToBcd2 year).toUInt32 <<< 16 |||
    (byteToBcd2 (monthOf month)).toUInt32 <<< 8 ||| (byteToBcd2 date).toUInt32 |||
    weekDay.toUInt32 <<< 13
  if w.init then (w.synchro, { r with dr := tmpreg &&& 0x00ffff3f }) else (false, r)

/-- `RTC_GetDate`: the year, the month, the day of the month and of the week. -/
def getDate (r : Rtc) : UInt8 × UInt8 × UInt8 × UInt8 :=
  let tmpreg := r.dr &&& 0x00ffff3f
  (bcd2ToByte ((tmpreg &&& 0x00ff0000) >>> 16).toUInt8,
    bcd2ToByte ((tmpreg &&& 0x00001f00) >>> 8).toUInt8,
    bcd2ToByte (tmpreg &&& 0x0000003f).toUInt8, ((tmpreg &&& 0x0000e000) >>> 13).toUInt8)

/-- The backup register says that the clock is set. -/
def mark (ok : Bool) (r : Rtc) : Rtc := if ok then { r with bkp := 0x32f2 } else r

/-- `RTC_TimeRegulate`, without its alarm: the time is set and then the date. -/
def timeRegulate (wTime wDate : Setting) (t : Tmp) (r : Rtc) : Rtc :=
  let (ok, r) := r.setTime t.hh.toUInt8 t.mm.toUInt8 t.ss.toUInt8 wTime
  let r := r.mark ok
  let (ok, r) := r.setDate t.yy.toUInt8 t.m2.toUInt8 t.dd.toUInt8 t.ww.toUInt8 wDate
  r.mark ok

/-- `RTC_TimeShow`: what stands in `TimeDate`. -/
def timeShow (r : Rtc) : Clock :=
  let (hours, minutes, senconds) := r.getTime
  let (year, month, date, weekDay) := r.getDate
  { hours, minutes, senconds, month, date, year, weekDay }

/-- `MyRTC_Init`: a clock that is not marked is set to the numbers that are declared, if `RTC_Init`
succeeds. -/
def myRtcInit (init : Bool) (wTime wDate : Setting) (r : Rtc) : Rtc :=
  if r.bkp ≠ 0x32f2 ∧ init then r.timeRegulate wTime wDate .init else r

end Rtc

end MealVendor
