import Mathlib.Data.List.TakeWhile
import MealVendor.Model.Printer
import MealVendor.Sale.Costs

/-!
# What the receipt says

The receipt is true exactly if the counts have one digit, what was received and the change fit into
a byte, and the amount due and the costs are still in `UserAct` when it is printed.
-/

namespace MealVendor

/-! ## What is meant -/

/-- The money received, whatever it was paid with. -/
def UserSelection.received (u : UserSelection) : ℕ :=
  u.payForBills.toNat + u.payForCoins.toNat + u.payForCards.toNat

/-- A digit of a decimal number. -/
def isDigit (c : UInt8) : Bool := 0x30 ≤ c && c ≤ 0x39

/-- The number that the `n` characters from cell `i` on stand for, if all of them are digits. -/
def decimalAt (line : List UInt8) (i n : ℕ) : Option ℕ :=
  let field := (line.drop i).take n
  if field.length = n ∧ field.all isDigit then
    some (field.foldl (fun v c => 10 * v + (c.toNat - 0x30)) 0)
  else none

/-- The number in the column for the count, which ends with a tab. -/
def countOf (line : List UInt8) : Option ℕ :=
  decimalAt line 10 ((line.drop 10).takeWhile fun c => c != 0x09).length

/-- The receipt says what was bought and paid. -/
structure Truthful (u : UserSelection) (t : Ticket) : Prop where
  bought : ∀ k, 0 < u.mealCnt k → ∃ line ∈ t.meals k,
    countOf line = some (u.mealCnt k).toNat ∧ decimalAt line 15 3 = some (u.mealCost k).toNat
  notBought : ∀ k, u.mealCnt k = 0 → t.meals k = none
  due : decimalAt t.amounts 5 3 = some u.payShould.toNat
  received : decimalAt t.amounts 13 3 = some u.received
  change : (decimalAt t.amounts 21 3).map Int.ofNat = some u.moneyBack.toInt

/-- A purchase with counts of two digits and amounts of three. -/
structure UserSelection.Small (u : UserSelection) : Prop where
  mealCnt : ∀ k, (u.mealCnt k).toNat ≤ 99
  mealCost : ∀ k, (u.mealCost k).toNat ≤ 999
  payShould : u.payShould.toNat ≤ 999
  received : u.received ≤ 999
  moneyBack : u.moneyBack.toInt ≤ 999

/-- The purchase fits on the receipt, and when it is printed the selection `v` still has the amount
due and the costs. -/
structure Printable (u v : UserSelection) : Prop where
  mealCnt : ∀ k, (u.mealCnt k).toNat ≤ 9
  received : u.received ≤ 255
  moneyBack : 0 ≤ u.moneyBack.toInt ∧ u.moneyBack.toInt ≤ 255
  due : v.payShould = u.payShould ∧ u.payShould.toNat ≤ 999
  mealCost : ∀ k, 0 < u.mealCnt k → v.mealCost k = u.mealCost k ∧ (u.mealCost k).toNat ≤ 999

variable {line : List UInt8} {i v n : ℕ}

/-! ## Digits -/

lemma digitChar_toNat (h : n ≤ 207) : (digitChar n).toNat = n + 0x30 := by
  rw [digitChar, UInt8.toNat_ofNat']
  omega

/-- The characters below the digits. -/
lemma digitChar_ne {c : UInt8} (h : n ≤ 207) (hc : c < 0x30) : digitChar n ≠ c := by
  rintro rfl
  rw [UInt8.lt_iff_toNat_lt, digitChar_toNat h] at hc
  exact absurd hc (Nat.not_lt.mpr (Nat.le_add_left _ _))

lemma isDigit_iff {c : UInt8} : isDigit c = true ↔ 0x30 ≤ c ∧ c ≤ 0x39 := by
  simp [isDigit]

lemma isDigit_digitChar (h : n ≤ 207) : isDigit (digitChar n) = true ↔ n ≤ 9 := by
  rw [isDigit_iff, UInt8.le_iff_toNat_le, UInt8.le_iff_toNat_le, digitChar_toNat h]
  change 0x30 ≤ n + 0x30 ∧ n + 0x30 ≤ 0x39 ↔ n ≤ 9
  omega

/-- Each digit adds one place. -/
lemma foldl_digits_lt {cs : List UInt8} (h : ∀ c ∈ cs, c ≤ 0x39) (hv : v < 10 ^ n) :
    cs.foldl (fun v c => 10 * v + (c.toNat - 0x30)) v < 10 ^ (n + cs.length) := by
  induction cs generalizing v n with
  | nil => exact hv
  | cons c cs ih =>
    rw [List.forall_mem_cons, UInt8.le_iff_toNat_le] at h
    have hc : c.toNat ≤ 57 := h.1
    have hnext : 10 * v + (c.toNat - 0x30) < 10 ^ (n + 1) := by
      rw [pow_succ]
      omega
    have hlen : n + (c :: cs).length = n + 1 + cs.length := by
      rw [List.length_cons]
      omega
    rw [List.foldl_cons, hlen]
    exact ih h.2 hnext

/-- A field of `n` digits stands for a number of `n` digits. -/
lemma decimalAt_lt (h : decimalAt line i n = some v) : v < 10 ^ n := by
  rw [decimalAt, Option.ite_none_right_eq_some, Option.some_inj, List.all_eq_true] at h
  obtain ⟨⟨hlen, hdigits⟩, rfl⟩ := h
  have hle : ∀ c ∈ (line.drop i).take n, c ≤ 0x39 := fun c hc => (isDigit_iff.mp (hdigits c hc)).2
  have hlt := foldl_digits_lt (v := 0) (n := 0) hle Nat.one_pos
  rw [Nat.zero_add, hlen] at hlt
  exact hlt

/-- A field of one digit. -/
lemma decimalAt_one (hfield : (line.drop i).take 1 = [digitChar v]) (hv : v ≤ 207) :
    decimalAt line i 1 = some n ↔ v = n ∧ n ≤ 9 := by
  rw [decimalAt, hfield]
  simp only [List.length_singleton, List.all_cons, List.all_nil, Bool.and_true, true_and,
    isDigit_digitChar hv, List.foldl_cons, List.foldl_nil, digitChar_toNat hv]
  split_ifs with h
  · rw [Option.some_inj]
    omega
  · exact iff_of_false nofun (by omega)

/-- A field of three digits. -/
lemma decimalAt_three (hfield : (line.drop i).take 3 =
      [digitChar (v / 100), digitChar (v % 100 / 10), digitChar (v % 100 % 10)])
    (hv : v < 20800) : decimalAt line i 3 = some n ↔ v = n ∧ n ≤ 999 := by
  have h₁ : v / 100 ≤ 207 := by omega
  have h₂ : v % 100 / 10 ≤ 207 := by omega
  have h₃ : v % 100 % 10 ≤ 207 := by omega
  have hdigits : [digitChar (v / 100), digitChar (v % 100 / 10), digitChar (v % 100 % 10)].all
      isDigit = true ↔ v ≤ 999 := by
    rw [List.all_eq_true, List.forall_mem_cons, List.forall_mem_cons, List.forall_mem_singleton,
      isDigit_digitChar h₁, isDigit_digitChar h₂, isDigit_digitChar h₃]
    omega
  rw [decimalAt, hfield]
  simp only [hdigits, List.length_cons, List.length_nil, true_and, List.foldl_cons, List.foldl_nil,
    digitChar_toNat h₁, digitChar_toNat h₂, digitChar_toNat h₃]
  split_ifs with h
  · rw [Option.some_inj]
    omega
  · exact iff_of_false nofun (by omega)

/-! ## The lines -/

/-- A line without the character 0 is printed as it is. -/
lemma printed_eq (h : ∀ c ∈ line, c ≠ 0) : printed line = line := by
  rw [printed, List.takeWhile_eq_self_iff]
  intro c hc
  exact bne_iff_ne.mpr (h c hc)

lemma set_ne_zero (h : ∀ c ∈ line, c ≠ 0) {b : UInt8} (hb : b ≠ 0) : ∀ c ∈ line.set i b, c ≠ 0 := by
  intro c hc
  rcases List.mem_or_eq_of_mem_set hc with hmem | rfl
  · exact h c hmem
  · exact hb

lemma setThree_ne_zero (h : ∀ c ∈ line, c ≠ 0) (hv : v < 20800) :
    ∀ c ∈ setThree i v line, c ≠ 0 := by
  rw [setThree]
  refine set_ne_zero (set_ne_zero (set_ne_zero h ?_) ?_) ?_ <;>
    exact digitChar_ne (by omega) (by decide)

variable {u w : UserSelection} {p : PStuction}

lemma printed_copyMeal (k : Kind) (hcost : (w.mealCost k).toNat < 20800) :
    printed (copyMeal p w k) = copyMeal p w k := by
  have htext : ∀ c ∈ mealText k, c ≠ 0 := by
    fin_cases k <;> simp [mealText, nameText]
  refine printed_eq (setThree_ne_zero (set_ne_zero htext ?_) hcost)
  exact digitChar_ne (by omega) (by decide)

lemma printed_copyAmounts (hdue : w.payShould.toNat < 20800) :
    printed (copyAmounts p w amountsText) = copyAmounts p w amountsText := by
  have hback := p.pMoneyBack.toNat_lt
  have hpay := p.pPaymoney.toNat_lt
  refine printed_eq (setThree_ne_zero (setThree_ne_zero (setThree_ne_zero ?_ hdue) ?_) ?_)
  · simp [amountsText]
  · omega
  · omega

/-- What is in the fields of a line of a kind. -/
lemma decimalAt_copyMeal (k : Kind) (hcost : (w.mealCost k).toNat < 20800) :
    (countOf (copyMeal p w k) = some n ↔ (p.pNumber k).toNat % 10 = n ∧ n ≤ 9) ∧
      (decimalAt (copyMeal p w k) 15 3 = some i ↔ (w.mealCost k).toNat = i ∧ i ≤ 999) := by
  have hdigit : (p.pNumber k).toNat % 10 ≤ 207 := by omega
  have hdrop : ∃ rest, (copyMeal p w k).drop 10 =
      digitChar ((p.pNumber k).toNat % 10) :: 0x09 :: rest := by
    fin_cases k <;> exact ⟨_, rfl⟩
  obtain ⟨rest, hrest⟩ := hdrop
  -- the count has one cell
  have hcolumn : (((copyMeal p w k).drop 10).takeWhile fun c => c != 0x09).length = 1 := by
    have hne : digitChar ((p.pNumber k).toNat % 10) ≠ 0x09 := digitChar_ne hdigit (by decide)
    simp [hrest, hne]
  rw [countOf, hcolumn]
  refine ⟨decimalAt_one ?_ hdigit, decimalAt_three ?_ hcost⟩
  · rw [hrest]
    rfl
  · fin_cases k <;> rfl

/-- What is in the fields of the line of the amounts. -/
lemma decimalAt_copyAmounts (hdue : w.payShould.toNat < 20800) :
    (decimalAt (copyAmounts p w amountsText) 5 3 = some n ↔ w.payShould.toNat = n ∧ n ≤ 999) ∧
      (decimalAt (copyAmounts p w amountsText) 13 3 = some i ↔ p.pPaymoney.toNat = i ∧ i ≤ 999) ∧
      decimalAt (copyAmounts p w amountsText) 21 3 = some p.pMoneyBack.toNat := by
  have hback := p.pMoneyBack.toNat_lt
  have hpay := p.pPaymoney.toNat_lt
  refine ⟨decimalAt_three rfl hdue, decimalAt_three rfl (by omega), ?_⟩
  exact (decimalAt_three rfl (by omega)).mpr ⟨rfl, by omega⟩

/-! ## The receipt -/

variable {now : StructTD}

/-- The line of a kind that was bought. -/
lemma sprt_meals {k : Kind} (hk : 0 < u.mealCnt k) (hcost : (w.mealCost k).toNat < 20800) :
    (sprt now (.fill u) w).meals k = some (copyMeal (.fill u) w k) := by
  have hpos : 0 < (PStuction.fill u).pNumber k := hk
  rw [sprt]
  dsimp only
  rw [if_pos hpos, printed_copyMeal k hcost]

lemma bought_iff {k : Kind} (hk : 0 < u.mealCnt k) (hcost : (w.mealCost k).toNat < 20800) :
    (∃ line ∈ (sprt now (.fill u) w).meals k, countOf line = some (u.mealCnt k).toNat ∧
        decimalAt line 15 3 = some (u.mealCost k).toNat) ↔
      (u.mealCnt k).toNat ≤ 9 ∧ w.mealCost k = u.mealCost k ∧ (u.mealCost k).toNat ≤ 999 := by
  have hline := decimalAt_copyMeal (p := .fill u) (n := (u.mealCnt k).toNat)
    (i := (u.mealCost k).toNat) k hcost
  rw [sprt_meals hk hcost, ← UInt16.toNat_inj]
  simp only [Option.mem_def, Option.some_inj, exists_eq_left', hline.1, hline.2]
  change ((u.mealCnt k).toNat % 10 = _ ∧ _) ∧ _ ↔ _
  omega

lemma notBought (k : Kind) (hk : u.mealCnt k = 0) :
    (sprt now (.fill u) w).meals k = none := by
  have hpos : ¬ 0 < u.mealCnt k := by
    rw [hk]
    decide
  exact if_neg hpos

/-- The amounts, where the amount due has at most 207 hundreds. -/
lemma amounts_iff (now : StructTD) (u : UserSelection) (hdue : w.payShould.toNat < 20800) :
    (decimalAt (sprt now (.fill u) w).amounts 5 3 = some u.payShould.toNat ∧
        decimalAt (sprt now (.fill u) w).amounts 13 3 = some u.received ∧
        (decimalAt (sprt now (.fill u) w).amounts 21 3).map Int.ofNat = some u.moneyBack.toInt) ↔
      (w.payShould = u.payShould ∧ u.payShould.toNat ≤ 999) ∧ u.received ≤ 255 ∧
        0 ≤ u.moneyBack.toInt ∧ u.moneyBack.toInt ≤ 255 := by
  have hline : (sprt now (.fill u) w).amounts = copyAmounts (.fill u) w amountsText :=
    printed_copyAmounts hdue
  have hfields := decimalAt_copyAmounts (p := .fill u) (n := u.payShould.toNat) (i := u.received)
    hdue
  have hpay : (PStuction.fill u).pPaymoney.toNat = u.received % 256 := UInt8.toNat_ofNat'
  have hback : ((PStuction.fill u).pMoneyBack.toNat : ℤ) = u.moneyBack.toInt % 256 := by
    change ((UInt8.ofInt u.moneyBack.toInt).toNat : ℤ) = _
    rw [UInt8.ofInt, UInt8.toNat_ofNat']
    omega
  rw [hline, hfields.1, hfields.2.1, hfields.2.2, Option.map_some, Option.some_inj, hpay,
    Int.ofNat_eq_natCast, hback, ← UInt16.toNat_inj]
  omega

/-- The receipt that is printed with the selection `w` after `u` was paid. -/
lemma truthful_sprt_iff (hw : BillFits u.payShould w) :
    Truthful u (sprt now (.fill u) w) ↔ Printable u w := by
  have hcost : ∀ k, (w.mealCost k).toNat < 20800 := fun k => (hw.mealCost k).trans_lt (by decide)
  by_cases hdue : w.payShould.toNat < 20800
  · have hamounts := amounts_iff now u hdue
    constructor
    · intro h
      obtain ⟨hpay, hreceived, hback⟩ := hamounts.mp ⟨h.due, h.received, h.change⟩
      have hmeal : ∀ k, 0 < u.mealCnt k → (u.mealCnt k).toNat ≤ 9 ∧
          w.mealCost k = u.mealCost k ∧ (u.mealCost k).toNat ≤ 999 :=
        fun k hk => (bought_iff hk (hcost k)).mp (h.bought k hk)
      refine ⟨fun k => ?_, hreceived, hback, hpay, fun k hk => (hmeal k hk).2⟩
      by_cases hk : 0 < u.mealCnt k
      · exact (hmeal k hk).1
      · rw [UInt8.not_lt] at hk
        exact (UInt8.le_iff_toNat_le.mp hk).trans (Nat.zero_le 9)
    · intro h
      obtain ⟨hpay, hreceived, hback⟩ := hamounts.mpr ⟨h.due, h.received, h.moneyBack⟩
      exact ⟨fun k hk => (bought_iff hk (hcost k)).mpr ⟨h.mealCnt k, h.mealCost k hk⟩, notBought,
        hpay, hreceived, hback⟩
  · -- such an amount can only be the one that was due already, and has more than three digits
    have hsame : w.payShould = u.payShould := hw.payShould.resolve_left (by omega)
    rw [hsame] at hdue
    constructor
    · intro h
      have := decimalAt_lt h.due
      omega
    · intro h
      have := h.due.2
      omega

/-! ## Runs -/

namespace Printer

/-- `WaitPayMoney` returns `Status_OK` behind the stores of its point 9, and says so in the
trace. -/
lemma step_returnsOk {s t : Machine} {e : Event} (h : returnsOk s e = true)
    (hstep : MealVendor.step s e = some t) : t.session = s.session.statusOk.goto .deal := by
  rw [returnsOk, Bool.and_eq_true, decide_eq_true_eq] at h
  obtain ⟨hruns, hpc, hcurrent, hpoint⟩ := h
  cases e with
  | go io =>
    cases hstep
    have hsave : s.saveUserData.session = s.session := Machine.saveUserData_session s
    rw [Machine.go, hpc]
    dsimp only
    rw [Machine.switch, hcurrent]
    dsimp only
    rw [Machine.waitPayMoney, hsave, hpoint]
    dsimp only [Machine.statusOk]
    split_ifs <;> simp only [Machine.goto_session, Machine.resetCoinsCount_session,
      Machine.onSession_session, Machine.onTimers_session, hsave]
  | coinIn | coinOut | tim3 | tim4 | tim5 | tim7 | pvd | usart6 | screen => cases hruns

/-- The costs are small, and what was saved for the printer is what was paid last. -/
structure Saved (p : Printer) : Prop where
  mealCost : ∀ k, (p.machine.session.userAct.mealCost k).toNat ≤ 3825
  paid : ∀ u, p.paid = some u →
    p.printStruct = .fill u ∧ BillFits u.payShould p.machine.session.userAct

lemma Saved.step {p q : Printer} {e : Event} (h : p.Saved) (hstep : p.step e = some q) :
    q.Saved := by
  rw [Printer.step, Option.map_eq_some_iff] at hstep
  obtain ⟨t, ht, rfl⟩ := hstep
  have hnow : BillFits p.machine.session.userAct.payShould p.machine.session.userAct :=
    ⟨h.mealCost, .inr rfl⟩
  have hcost := (step_billFits hnow ht).mealCost
  split_ifs with hok
  · -- the costs and the amount due are the ones that were paid
    refine ⟨hcost, fun u hu => ?_⟩
    cases hu
    refine ⟨rfl, ?_⟩
    rw [step_returnsOk hok ht]
    exact ⟨h.mealCost, .inr rfl⟩
  · refine ⟨hcost, fun u hu => ?_⟩
    obtain ⟨hfill, hfits⟩ := h.paid u hu
    exact ⟨hfill, step_billFits hfits ht⟩

lemma start_saved {s : Machine} (hs : IsPowerUp s) : (start s).Saved := by
  obtain ⟨bkp, flash, io, rfl⟩ := hs
  refine ⟨fun k => ?_, fun u hu => ?_⟩
  · have hzero : (powerUp bkp flash io).session.userAct.mealCost k = 0 := by
      rw [powerUp_session]
      dsimp only
      split_ifs <;> rfl
    rw [start, hzero]
    exact Nat.zero_le _
  · cases hu

/-- What holds of the printer in every run. -/
lemma run_saved {s : Machine} (hs : IsPowerUp s) {es : List Event} {p : Printer}
    (hrun : Lib.runFrom Printer.step (start s) es = some p) : p.Saved :=
  (Lib.Runs.of_runFrom hrun).invariant (fun _ _ _ h _ hstep => h.step hstep) (start_saved hs)

/-- A receipt says what was bought and paid exactly if the purchase fits on it and the bill has not
changed since. -/
theorem receipt_truthful_iff {s : Machine} (hs : IsPowerUp s) {es : List Event} {p : Printer}
    (hrun : Lib.runFrom Printer.step (start s) es = some p) {u : UserSelection}
    (hpaid : p.paid = some u) {now : StructTD} {e : Event} {t : Ticket}
    (hprint : p.receipt now e = some t) :
    Truthful u t ↔ Printable u p.machine.session.userAct := by
  obtain ⟨hfill, hfits⟩ := (run_saved hs hrun).paid u hpaid
  unfold receipt at hprint
  split at hprint
  · rw [Option.ite_none_right_eq_some] at hprint
    obtain ⟨-, ⟨⟩⟩ := hprint
    rw [hfill]
    exact truthful_sprt_iff hfits
  · cases hprint

/-- The key for the receipt. -/
def printKey : Event := .touch 0x03 1

/-- Ten meals are chosen, put into the cart and paid with a bank card. -/
def payTen : List Event :=
  List.flatten [startUp, [.touch 0x00 1, .touch 0x30 10, .touch 0x01 3, .touch 0x02 2],
    List.replicate 12 .next]

instance (u : UserSelection) : Decidable u.Small :=
  decidable_of_iff ((∀ k, (u.mealCnt k).toNat ≤ 99) ∧ (∀ k, (u.mealCost k).toNat ≤ 999) ∧
    u.payShould.toNat ≤ 999 ∧ u.received ≤ 999 ∧ u.moneyBack.toInt ≤ 999)
    ⟨fun ⟨h₁, h₂, h₃, h₄, h₅⟩ => ⟨h₁, h₂, h₃, h₄, h₅⟩, fun h => ⟨h.1, h.2, h.3, h.4, h.5⟩⟩

instance (u v : UserSelection) : Decidable (Printable u v) :=
  decidable_of_iff ((∀ k, (u.mealCnt k).toNat ≤ 9) ∧ u.received ≤ 255 ∧
    (0 ≤ u.moneyBack.toInt ∧ u.moneyBack.toInt ≤ 255) ∧
    (v.payShould = u.payShould ∧ u.payShould.toNat ≤ 999) ∧
    ∀ k, 0 < u.mealCnt k → v.mealCost k = u.mealCost k ∧ (u.mealCost k).toNat ≤ 999)
    ⟨fun ⟨h₁, h₂, h₃, h₄, h₅⟩ => ⟨h₁, h₂, h₃, h₄, h₅⟩, fun h => ⟨h.1, h.2, h.3, h.4, h.5⟩⟩

/-- One meal was paid with a bill of twenty. -/
theorem receipt_truthful_one : ∃ p u t,
    Lib.runFrom Printer.step (start (stocked 3)) payOne = some p ∧ p.paid = some u ∧
      p.receipt .zero printKey = some t ∧ u.received = 20 ∧ Truthful u t := by
  have hrun : (Lib.runFrom Printer.step (start (stocked 3)) payOne).any
      (fun p => (p.receipt .zero printKey).isSome ∧ p.paid.any fun u =>
        u.received = 20 ∧ Printable u p.machine.session.userAct) = true := by
    decide +kernel
  obtain ⟨p, hp, hprint, hpaid⟩ := Lib.exists_of_any hrun
  obtain ⟨u, hu, hreceived, hfits⟩ := Lib.exists_of_any hpaid
  obtain ⟨t, ht⟩ := Option.isSome_iff_exists.mp hprint
  exact ⟨p, u, t, hp, hu, ht, hreceived,
    (receipt_truthful_iff (stocked_isPowerUp 3) hp hu ht).mpr hfits⟩

/-- Ten meals are paid with a bank card.  The receipt counts 0 of them. -/
theorem receipt_of_ten_meals : ¬ ∀ (s : Machine) (es : List Event) (p : Printer)
    (u : UserSelection) (now : StructTD) (e : Event) (t : Ticket), IsPowerUp s →
    Lib.runFrom Printer.step (start s) es = some p → p.paid = some u → u.Small →
    p.receipt now e = some t → Truthful u t := by
  intro hall
  have hrun : (Lib.runFrom Printer.step (start (stocked 4)) payTen).any
      (fun p => p.paid.any fun u => u.Small ∧ (p.receipt .zero printKey).any fun t =>
        u.mealCnt 0 = 10 ∧ (t.meals 0).any fun line => countOf line = some 0) = true := by
    decide +kernel
  rw [Option.any_eq_true] at hrun
  obtain ⟨p, hp, hpaid⟩ := hrun
  obtain ⟨u, hu, hsmall, hticket⟩ := Lib.exists_of_any hpaid
  obtain ⟨t, ht, hcnt, hmeal⟩ := Lib.exists_of_any hticket
  obtain ⟨line, hline, hzero⟩ := Lib.exists_of_any hmeal
  have htrue := hall _ _ p u .zero printKey t (stocked_isPowerUp 4) hp hu hsmall ht
  obtain ⟨line', hline', hcount, -⟩ := htrue.bought 0 (by rw [hcnt]; decide)
  cases hline.symm.trans hline'
  rw [hzero, hcnt] at hcount
  exact absurd hcount (by decide)

end Printer

end MealVendor
