import MealVendor.Model.Clock
import MealVendor.Model.Uart2

/-!
# Signing in at the card reader

Before the first sale `Szt_GpbocAutoCheckIn` signs in for both kinds of cards.  Every command is
followed by `ManageReOrderType`, and by the `Manage…` function if the reply has the type that
belongs to the command.  What is said is recorded: the frames, and the buffer as it is looked at.
-/

namespace MealVendor

/-- A command and, if its reply has the right type, the buffer with the reply. -/
structure Said where
  frame : List UInt8
  reply : Option (ℕ → UInt8)

/-- What comes from outside with a command: what the local array holds, what the reader answers, and
how the clock is set, if it is. -/
structure Turn where
  data : ℕ → UInt8
  answer : Answer
  time : Setting
  date : Setting

/-- The globals that are used while signing in. -/
structure Reader where
  uart : Uart2
  send : SztSend
  gpbocSendDataParameter : Fin 32 → UInt8
  gpbocCheckOutParameter : Fin 32 → UInt8
  tmp : Tmp
  rtc : Rtc
  said : List Said

/-! ## The other commands -/

namespace SztSend

variable (data : ℕ → UInt8)

/-- A command with the parameter `sub`. -/
def orderSztAuto (sub : UInt8) (s : SztSend) : List UInt8 × SztSend :=
  orderData data [sub] 17 22 24 (s.sztFixData 0x00 0x11 0x78)

/-- `Order_SztAutoCheckIn`. -/
def orderSztAutoCheckIn (s : SztSend) : List UInt8 × SztSend := s.orderSztAuto data 0x03

/-- `Order_SztAutoDownload`. -/
def orderSztAutoDownload (s : SztSend) : List UInt8 × SztSend := s.orderSztAuto data 0x01

/-- `Order_SztAutoSendData`. -/
def orderSztAutoSendData (s : SztSend) : List UInt8 × SztSend := s.orderSztAuto data 0x02

/-- `Order_Gpboc_SendData`. -/
def orderGpbocSendData (parameter : Fin 32 → UInt8) (s : SztSend) : List UInt8 × SztSend :=
  orderData data (List.ofFn parameter) 48 53 55 (s.gpbocFixData 0x00 0x30 0xca)

/-- `Order_Gpboc_Check_Out`. -/
def orderGpbocCheckOut (parameter : Fin 32 → UInt8) (s : SztSend) : List UInt8 × SztSend :=
  orderData data (List.ofFn parameter) 48 53 55 (s.gpbocFixData 0x00 0x30 0xcc)

end SztSend

/-- `BCDtoDec`. -/
def bcdToDec (bcd : UInt8) : UInt8 := ((bcd >>> 4) &&& 0x0f) * 10 + (bcd &&& 0x0f)

namespace Reader

/-! ## The replies -/

/-- A `Manage…` function: it keeps something of the reply if the status is 0. -/
def manageStatus (keep : Reader → Reader) (s : Reader) : UInt8 × Reader :=
  (s.uart.printBuf2 27 + 1, if s.uart.printBuf2 27 = 0x00 then keep s else s)

/-- `ManageQueryStatus`; what it puts into `Szt_deviceInf` is not used. -/
def manageQueryStatus : Reader → UInt8 × Reader := manageStatus fun s =>
  { s with send := { s.send with sztSamNum := fun i => s.uart.printBuf2 (12 + i) } }

/-- `ManageSztUserLogin`. -/
def manageSztUserLogin : Reader → UInt8 × Reader := manageStatus id

/-- What `ManageSztTimeCheck` sets the clock to. -/
def timeCheckTmp (printBuf2 : ℕ → UInt8) : Tmp where
  yy := (bcdToDec (printBuf2 29)).toUInt32
  m2 := (bcdToDec (printBuf2 30)).toUInt32
  dd := (bcdToDec (printBuf2 31)).toUInt32
  ww := (bcdToDec (printBuf2 35)).toUInt32
  hh := (bcdToDec (printBuf2 32)).toUInt32
  mm := (bcdToDec (printBuf2 33)).toUInt32
  ss := (bcdToDec (printBuf2 34)).toUInt32

/-- `ManageSztTimeCheck`. -/
def manageSztTimeCheck (wTime wDate : Setting) : Reader → UInt8 × Reader := manageStatus fun s =>
  let tmp := timeCheckTmp s.uart.printBuf2
  { s with tmp := tmp, rtc := s.rtc.timeRegulate wTime wDate tmp }

/-- `ManageSztAutoManage`. -/
def manageSztAutoManage : Reader → UInt8 × Reader := manageStatus id

/-- `ManageGpbocInit`; `UpInitData` is not used. -/
def manageGpbocInit : Reader → UInt8 × Reader := manageStatus fun s =>
  { s with send := { s.send with gpbocSamNum := fun i => s.uart.printBuf2 (12 + i) } }

/-- `ManageGpbocSendData`; `UpSendData` is not used. -/
def manageGpbocSendData : Reader → UInt8 × Reader := manageStatus id

/-- `ManageGpbocCheckOut`; `UpCheckOutData` is not used. -/
def manageGpbocCheckOut : Reader → UInt8 × Reader := manageStatus id

/-! ## A command and its reply -/

/-- An `Order_…` function and `ManageReOrderType`, and then the `Manage…` function if the reply has
the type `type`; the flag is 0 if it has not.  The next of the turns `v` is taken. -/
def exchange (v : ℕ → Turn) (order : (ℕ → UInt8) → Reader → List UInt8 × SztSend) (type : UInt8)
    (manage : Turn → Reader → UInt8 × Reader) (s : Reader) : Option (UInt8 × Reader) :=
  let t := v s.said.length
  let sent := order t.data s
  let uart := s.uart.reset
  (t.answer.manageReOrderType uart).map fun (temp : UInt8) =>
    let uart := uart.receive t.answer.bytes
    let reply := if temp = type then some uart.printBuf2 else none
    let s := { s with uart := uart, send := sent.2, said := s.said ++ [⟨sent.1, reply⟩] }
    if temp = type then manage t s else (0, s)

section Commands

variable (v : ℕ → Turn)

def queryStatus : Reader → Option (UInt8 × Reader) :=
  exchange v (fun data s => s.send.orderIfnQueryStatus data) 0x21 fun _ => manageQueryStatus

/-- The command has the time of the clock in it. -/
def timeCheck : Reader → Option (UInt8 × Reader) :=
  exchange v (fun data s => s.send.orderSztTimeCheck data s.rtc.timeShow) 0x25 fun t =>
    manageSztTimeCheck t.time t.date

def userLogin : Reader → Option (UInt8 × Reader) :=
  exchange v (fun data s => s.send.orderSztUserLogin data) 0x41 fun _ => manageSztUserLogin

def autoCheckIn : Reader → Option (UInt8 × Reader) :=
  exchange v (fun data s => s.send.orderSztAutoCheckIn data) 0x79 fun _ => manageSztAutoManage

def autoDownload : Reader → Option (UInt8 × Reader) :=
  exchange v (fun data s => s.send.orderSztAutoDownload data) 0x79 fun _ => manageSztAutoManage

def autoSendData : Reader → Option (UInt8 × Reader) :=
  exchange v (fun data s => s.send.orderSztAutoSendData data) 0x79 fun _ => manageSztAutoManage

def gpbocInit : Reader → Option (UInt8 × Reader) :=
  exchange v (fun data s => s.send.orderGpbocInit data) 0xc3 fun _ => manageGpbocInit

def gpbocSendData : Reader → Option (UInt8 × Reader) :=
  exchange v (fun data s => s.send.orderGpbocSendData data s.gpbocSendDataParameter) 0xcb fun _ =>
    manageGpbocSendData

def gpbocCheckOut : Reader → Option (UInt8 × Reader) :=
  exchange v (fun data s => s.send.orderGpbocCheckOut data s.gpbocCheckOutParameter) 0xcd fun _ =>
    manageGpbocCheckOut

/-! ## Signing in -/

/-- `Gpboc_CheckIn`: each command waits for the one before it, and the flag of the last is
returned. -/
def gpbocCheckIn (s : Reader) : Option (UInt8 × Reader) :=
  (s.queryStatus v).bind fun (flag1, s) =>
    if flag1 = 1 then
      (s.gpbocInit v).bind fun (flag2, s) =>
        if flag2 = 1 then
          (s.gpbocSendData v).bind fun (flag3, s) =>
            if flag3 = 1 then
              (s.gpbocCheckOut v).bind fun (flag4, s) =>
                if flag4 = 1 then s.gpbocInit v else some (0, s)
            else some (0, s)
        else some (0, s)
    else some (0, s)

/-- `Szt_CheckIn`: the time and the user, and later the download and the upload, do not wait for
each other. -/
def sztCheckIn (s : Reader) : Option (UInt8 × Reader) :=
  (s.queryStatus v).bind fun (flag1, s) =>
    if flag1 = 1 then
      (s.timeCheck v).bind fun (flag2, s) =>
        (s.userLogin v).bind fun (flag3, s) =>
          if flag2 = 1 ∧ flag3 = 1 then
            (s.autoCheckIn v).bind fun (flag4, s) =>
              if flag4 = 1 then
                (s.autoDownload v).bind fun (flag5, s) =>
                  (s.autoSendData v).map fun (flag6, s) =>
                    (if flag5 = 1 ∧ flag6 = 1 then 1 else 0, s)
              else some (0, s)
          else some (0, s)
    else some (0, s)

/-- A loop of `Szt_GpbocAutoCheckIn`: signing in is only tried again while the flag is 0, but the
rounds are counted all the same. -/
def checkInLoop (checkIn : Reader → Option (UInt8 × Reader)) :
    ℕ → UInt8 → Reader → Option (Bool × Reader)
  | 0, _, s => some (false, s)
  | n + 1, flag, s =>
    (if flag = 0 then checkIn s else some (flag, s)).bind fun (flag, s) =>
      if flag = 1 then some (true, s) else checkInLoop checkIn n flag s

/-- `Szt_GpbocAutoCheckIn`. -/
def sztGpbocAutoCheckIn (s : Reader) : Option (Bool × Reader) :=
  (checkInLoop (gpbocCheckIn v) 1001 0 s).bind fun (done, s) =>
    if done then checkInLoop (sztCheckIn v) 1001 0 s else some (false, s)

end Commands

end Reader

end MealVendor
