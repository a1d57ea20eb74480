import MealVendor.Model.Screen

/-!
# The arm, the server and the handling of errors

`manageusart6data` reads a line of the arm; a line with an error code calls
`AbnormalHandle`, which does not return before the administrator has cleared the error and
deals with the messages of the screen until then.  `DataUpload` tells the server about a
meal; `AbnormalHandle` calls it as well.
-/

namespace MealVendor

/-! ## Lines of the arm -/

/-- The error codes by the digits after the `E`. -/
def armErrors : List ((UInt8 × UInt8 × UInt8) × ℕ) :=
  [((1, 0, 1), xTimeout), ((1, 0, 2), xLeftlimit), ((1, 0, 3), xRightlimit),
   ((2, 0, 1), mealtakeTimeout), ((3, 0, 1), yTimeout), ((4, 0, 1), linkTimeout),
   ((5, 0, 1), zTimeout), ((5, 0, 2), zUplimit), ((5, 0, 3), zDownlimit),
   ((6, 0, 1), solenoidTimeout), ((7, 1, 1), eepromErro)]

/-- The error code of a line `E…`.  Its digits are compared with numbers, not with
characters. -/
def armError (b : Fin 6 → UInt8) : Option ℕ :=
  if b 0 = 'E'.toUInt8 then armErrors.lookup (b 1, b 2, b 3) else none

/-- The errors of the arm are the ones from `X_timeout` on. -/
lemma le_of_armError {b : Fin 6 → UInt8} {e : ℕ} (h : armError b = some e) : xTimeout ≤ e := by
  have hall : ∀ p ∈ armErrors, xTimeout ≤ p.2 := by decide
  unfold armError at h
  split_ifs at h
  obtain ⟨l₁, l₂, hl, -⟩ := List.lookup_eq_some_iff.mp h
  exact hall _ (hl ▸ List.mem_append_right _ List.mem_cons_self)

/-- Whether the buffer starts with these four characters. -/
def startsWith (b : Fin 6 → UInt8) (c₀ c₁ c₂ c₃ : Char) : Bool :=
  b 0 == c₀.toUInt8 && b 1 == c₁.toUInt8 && b 2 == c₂.toUInt8 && b 3 == c₃.toUInt8

/-- Whether the buffer ends with a carriage return and a line feed. -/
def endsLine (b : Fin 6 → UInt8) : Bool := b 4 == 0x0d && b 5 == 0x0a

/-- The flags of `machinerec` after the line in the buffer. -/
def Arm.readLine (a : Arm) : Arm :=
  let b := a.usart6Buff
  if startsWith b 'N' 'O' 'R' '0' then { a with rerelative := true }
  else if startsWith b 'S' '0' '0' '0' then { a with regoal := true }
  else if startsWith b 'O' 'U' 'T' '0' then { a with retodoor := true }
  else if startsWith b 'F' 'I' 'N' '0' then { a with remealaway := true }
  else if startsWith b 'T' '0' '0' '0' && endsLine b then { a with remealnoaway := true }
  else if (startsWith b 'T' '0' '0' '1' || startsWith b 'T' '0' '0' '2' ||
      startsWith b 'T' '0' '0' '3' || startsWith b 'T' '0' '0' '4') && endsLine b then
    { a with reenablegetmeal := true }
  else a

/-- The end of `manageusart6data`: the buffer is empty again. -/
def Arm.clearBuff (a : Arm) : Arm := { a with usart6Index := 0, usart6Buff := fun _ => 0 }

/-! ## Commands to the arm -/

/-- What one round of the loop of an `Order…` function comes to. -/
inductive OrderResult
  | done
  /-- Too late, or refused for the third time; the command is sent again even then. -/
  | failed (sent : Bool)
  /-- The command is sent again. -/
  | again (retry : ℕ)
  | wait
deriving DecidableEq

/-- One round of the loop that all `Order…` functions share; `r` is `RetryFre`. -/
def Arm.order (r : ℕ) (a : Arm) : OrderResult × Arm :=
  let heard := { a with reack := false, renack := false }
  if a.reack then (.done, { heard with linkTime := 0 })
  else if 1 < a.linkTime then (.failed false, { a with linkTime := 0 })
  else if a.renack then
    if 3 ≤ r + 1 then (.failed true, { heard with linkTime := 0 }) else (.again (r + 1), heard)
  else (.wait, a)

/-! ## The upload -/

/-- Two decimal digits of an amount in one byte. -/
def bcd (n d : ℤ) : UInt8 :=
  let x := UInt8.ofInt ((n.tdiv d).tmod 100)
  x / 10 * 16 + x % 10

/-- The price of a kind as it is uploaded, times a hundred. -/
def payBill (index : UInt8) : ℤ :=
  match Kind.ofID index with
  | some k => price k * 100
  | none => 0

/-- The number under which the server knows a kind, and its price. -/
def mealName (k : Kind) (sel : CustomerSel) : CustomerSel :=
  { sel with
    mealID := ![0x10, 0x00, 0x00, ![0x20, 0x23, 0x26, 0x24] k]
    mealPrice := ![0x00, 0x00, 0x00, 0x00, 0x15, 0x00] }

/-- `MealArr`.  An index outside 1 to 4 keeps the meal and the price of the last upload; its
remaining count is then no entry of `DefineMeal`.  The last digit of the balance is taken
from the change. -/
def mealArr (index : UInt8) (payType : UInt8) (moneyBack : ℤ) (stock : Stock)
    (sel : CustomerSel) : CustomerSel :=
  let change : Fin 6 → UInt8 :=
    ![bcd moneyBack 10000000000, bcd moneyBack 100000000, bcd moneyBack 1000000,
      bcd moneyBack 10000, bcd moneyBack 100, bcd moneyBack 1]
  let pay := payBill index
  { match Kind.ofID index with
      | some k => mealName k sel
      | none => sel with
    mealNo := 1
    payType := payType
    change := change
    remainMealNum := ![0, match Kind.ofID index with
      | some k => (stock.defineMeal k).mealCount
      | none => 0]
    mealName := index
    dealBalance :=
      ![bcd pay 10000000000, bcd pay 100000000, bcd pay 1000000, bcd pay 10000, bcd pay 100,
        UInt8.ofInt (pay.tmod 100) / 10 * 16 + change 5 % 10] }

namespace Machine

/-- `DataUpload`: the change is uploaded once. -/
def dataUpload (success : Bool) (s : Machine) : Machine :=
  let u := s.session.userAct
  let sel := mealArr u.mealID u.payType s.moneyBack s.stock s.customerSel
  { s with customerSel := sel, moneyBack := 0 }.emit (.upload success sel)

/-! ## Errors -/

/-- `AbnormalHandle`, up to its loop.  A power failure with nothing to pay back returns at
once and leaves `erro_flag` set. -/
def abnormalHandle (erro : ℕ) (ret : Ret) (s : Machine) : Machine :=
  let s := { s with erroFlag := UInt16.ofNat erro, erroRecord := s.erroRecord ||| bit erro }
  if erro = outageErro ∧ ¬ 0 < s.session.userAct.moneyBack then
    { s with erroRecord := s.erroRecord &&& ~~~(bit erro) }.goto (.resume ret)
  else
    let s := if xTimeout ≤ erro ∧ erro ≤ getMealError then s.dataUpload false else s
    s.goto (.abnormal erro ret)

/-- The end of the loop of `AbnormalHandle`: after an error of the arm the data of the user
is cleared. -/
def abnormalEnd (erro : ℕ) (ret : Ret) (s : Machine) : Machine :=
  let s := if xTimeout ≤ erro then s.clearUserBuffer.saveUserData else s
  let s := { s with erroRecord := s.erroRecord &&& ~~~(bit erro) }
  (s.writeBackup 13 s.erroRecord.toUInt32).goto (.resume ret)

/-- `manageusart6data`.  With an error code the rest of the function comes after
`AbnormalHandle` has returned. -/
def manageusart6data (ret : Ret) (k : Machine → Machine) (s : Machine) : Machine :=
  if s.arm.usart6DataFlag then
    let s := { s with arm.usart6DataFlag := false }
    match armError s.arm.usart6Buff with
    | some e => s.abnormalHandle e ret
    | none => k { s with arm := s.arm.readLine.clearBuff }
  else k s

/-- What `manageusart6data` can leave: an error, or what comes after it. -/
lemma manageusart6data_cases {P : Machine → Prop} {ret : Ret} {k : Machine → Machine}
    {s s' : Machine} (hs : s' = { s with arm.usart6DataFlag := false })
    (herror : s.arm.usart6DataFlag = true → ∀ e, armError s.arm.usart6Buff = some e →
      P (s'.abnormalHandle e ret))
    (hread : s.arm.usart6DataFlag = true → P (k { s' with arm := s'.arm.readLine.clearBuff }))
    (hnone : s.arm.usart6DataFlag = false → P (k s)) : P (s.manageusart6data ret k) := by
  subst hs
  rw [manageusart6data]
  split_ifs with hflag
  · dsimp only
    split
    · next e he => exact herror hflag e he
    · exact hread hflag
  · exact hnone (Bool.eq_false_iff.mpr hflag)

/-- The highest record below `i` that is set. -/
def pollNext (erroRecord : Int32) : ℕ → Option ℕ
  | 0 => none
  | i + 1 => if i ≠ 0 ∧ erroRecord &&& bit i ≠ 0 then some i else pollNext erroRecord i

/-- The rest of `PollAbnormalHandle` from the record below `i` on, and the end of the state
`erro_hanle`. -/
def pollAbnormalHandle (i : ℕ) (s : Machine) : Machine :=
  match pollNext s.erroRecord i with
  | some e => s.abnormalHandle e (.poll e)
  | none => (s.onSession fun t => { t with current := .currentTemperature }).goto .deal

end Machine

end MealVendor
