import MealVendor.Delivery.Order
import MealVendor.Model.Main

/-!
# The amounts of a report

Both amounts of a report have two decimal digits in each byte.  The change is always right.  The
last byte of the price takes its second digit from the last byte of the change, so the price is
right exactly if that digit is 0.
-/

namespace MealVendor

/-- `MealArr` on the globals that it writes. -/
def Machine.runMealArr (index : UInt8) (s : Machine) : Machine :=
  { s with
    customerSel := mealArr index s.session.userAct.payType s.moneyBack s.stock s.customerSel
    moneyBack := 0 }

/-- `DataUpload` calls `MealArr` for the meal that was handed out. -/
lemma Machine.dataUpload_eq (success : Bool) (s : Machine) :
    s.dataUpload success = (s.runMealArr s.session.userAct.mealID).emit
      (.upload success (s.runMealArr s.session.userAct.mealID).customerSel) :=
  rfl

/-- The number that six bytes stand for with two decimal digits each. -/
def bcdValue (bs : Fin 6 → UInt8) : ℕ :=
  (List.finRange 6).foldl (fun n i => 100 * n + (10 * ((bs i).toNat / 16) + (bs i).toNat % 16)) 0

/-- The bytes hold decimal digits only, those of `n`. -/
structure IsBcd (bs : Fin 6 → UInt8) (n : ℤ) : Prop where
  valid : ∀ i, (bs i).toNat / 16 ≤ 9 ∧ (bs i).toNat % 16 ≤ 9
  value : bcdValue bs = n

/-- What `MealArr` leaves for a meal of kind `k`: the change and the price in decimal digits, and
no change for the next report. -/
structure ReportsAmounts (k : Kind) (s : Machine) : Prop where
  change : IsBcd (s.runMealArr k.id).customerSel.change s.moneyBack
  dealBalance : IsBcd (s.runMealArr k.id).customerSel.dealBalance (100 * price k)
  moneyBack : (s.runMealArr k.id).moneyBack = 0

/-! ## Two digits in a byte -/

/-- A number below a hundred in two digits. -/
lemma toNat_twoDigits {v : ℕ} (hv : v < 100) :
    (UInt8.ofNat v / 10 * 16 + UInt8.ofNat v % 10).toNat = 16 * (v / 10) + v % 10 := by
  have hall : ∀ v : Fin 100,
      (UInt8.ofNat v / 10 * 16 + UInt8.ofNat v % 10).toNat = 16 * (v.val / 10) + v.val % 10 := by
    decide +kernel
  exact hall ⟨v, hv⟩

lemma ofInt_natCast_of_lt {v : ℕ} (hv : v < 100) : UInt8.ofInt (v : ℤ) = UInt8.ofNat v := by
  have hmod : ((v : ℤ) % 2 ^ 8).toNat = v := by omega
  rw [UInt8.ofInt, hmod]

lemma toNat_bcd (n d : ℕ) : (bcd n d).toNat = 16 * (n / d % 100 / 10) + n / d % 100 % 10 := by
  have hv : n / d % 100 < 100 := Nat.mod_lt _ (by decide)
  rw [bcd, ← Int.ofNat_tdiv, show (100 : ℤ) = ((100 : ℕ) : ℤ) from rfl, ← Int.ofNat_tmod,
    ofInt_natCast_of_lt hv]
  exact toNat_twoDigits hv

/-- The two digits of a byte and the number they stand for. -/
lemma bcd_digits (n d : ℕ) {e : ℤ} (he : e = d) :
    ((bcd n e).toNat / 16 ≤ 9 ∧ (bcd n e).toNat % 16 ≤ 9) ∧
      10 * ((bcd n e).toNat / 16) + (bcd n e).toNat % 16 = n / d % 100 := by
  have := toNat_bcd n d
  rw [he]
  omega

/-- Two more digits. -/
lemma add_two_digits (n d : ℕ) : 100 * (n / (d * 100)) + n / d % 100 = n / d := by
  rw [← Nat.div_div_eq_div_mul]
  exact Nat.div_add_mod ..

/-- An amount of at most twelve digits is written as it is. -/
lemma digits_isBcd {n : ℕ} (hn : n < 10 ^ 12) : IsBcd (digits n) n := by
  have hfirst : n / 10000000000 % 100 = n / 10000000000 := Nat.mod_eq_of_lt (by omega)
  have h₀ := bcd_digits n 10000000000 (e := 10000000000) (by norm_num)
  have h₁ := bcd_digits n 100000000 (e := 100000000) (by norm_num)
  have h₂ := bcd_digits n 1000000 (e := 1000000) (by norm_num)
  have h₃ := bcd_digits n 10000 (e := 10000) (by norm_num)
  have h₄ := bcd_digits n 100 (e := 100) (by norm_num)
  have h₅ := bcd_digits n 1 (e := 1) (by norm_num)
  refine ⟨fun i => ?_, ?_⟩
  · fin_cases i
    exacts [h₀.1, h₁.1, h₂.1, h₃.1, h₄.1, h₅.1]
  · have hvalue : bcdValue (digits n) = 100 * (100 * (100 * (100 * (100 * (100 * 0 +
        n / 10000000000 % 100) + n / 100000000 % 100) + n / 1000000 % 100) + n / 10000 % 100) +
        n / 100 % 100) + n / 1 % 100 := by
      rw [← h₀.2, ← h₁.2, ← h₂.2, ← h₃.2, ← h₄.2, ← h₅.2, bcdValue]
      simp only [List.finRange_succ, List.finRange_zero, List.foldl]
      rfl
    rw [hvalue, hfirst, Nat.mul_zero, Nat.zero_add, add_two_digits n 100000000,
      add_two_digits n 1000000, add_two_digits n 10000, add_two_digits n 100, add_two_digits n 1,
      Nat.div_one]

/-! ## The last byte of the price -/

/-- The price of a meal, and in the last byte the last digit of the change. -/
lemma dealBalance_eq (k : Kind) (s : Machine) :
    (s.runMealArr k.id).customerSel.dealBalance =
      ![0, 0, 0, 0, 0x15, (s.runMealArr k.id).customerSel.change 5 % 10] := by
  have hpay : payBill k.id = 1500 := by
    rw [payBill, Kind.ofID_id]
    dsimp only
    rw [price_eq]
    rfl
  have h₀ : bcd 1500 10000000000 = 0 := by decide
  have h₁ : bcd 1500 100000000 = 0 := by decide
  have h₂ : bcd 1500 1000000 = 0 := by decide
  have h₃ : bcd 1500 10000 = 0 := by decide
  have h₄ : bcd 1500 100 = 0x15 := by decide
  have h₅ : UInt8.ofInt ((1500 : ℤ).tmod 100) / 10 * 16 = 0 := by decide
  rw [Machine.runMealArr, mealArr, hpay]
  dsimp only
  rw [h₀, h₁, h₂, h₃, h₄, h₅, UInt8.zero_add]

lemma change_eq (k : Kind) (s : Machine) :
    (s.runMealArr k.id).customerSel.change = digits s.moneyBack :=
  rfl

/-- The price is right exactly if its last byte is 0. -/
lemma isBcd_price_iff {b : UInt8} :
    IsBcd ![0, 0, 0, 0, 0x15, b] 1500 ↔ b.toNat = 0 := by
  have hvalue : bcdValue ![0, 0, 0, 0, 0x15, b] =
      100 * 15 + (10 * (b.toNat / 16) + b.toNat % 16) := by
    rw [bcdValue]
    simp [List.finRange_succ]
  constructor
  · intro h
    have := h.value
    rw [hvalue] at this
    omega
  · intro h
    refine ⟨fun i => ?_, ?_⟩
    · have hlast : b.toNat / 16 ≤ 9 ∧ b.toNat % 16 ≤ 9 := by omega
      revert i
      simpa [Fin.forall_fin_succ] using hlast
    · rw [hvalue]
      omega

variable {s : Machine}

/-- The digit that the price takes from a change of `n`. -/
lemma lastDigit_toNat {n : ℕ} (hn : s.moneyBack = n) (k : Kind) :
    ((s.runMealArr k.id).customerSel.change 5 % 10).toNat =
      (6 * (n % 100 / 10) + n % 10) % 10 := by
  have hbcd := toNat_bcd n 1
  rw [Nat.div_one, Nat.cast_one] at hbcd
  have hlast : (s.runMealArr k.id).customerSel.change 5 = bcd n 1 := by
    rw [change_eq, hn]
    rfl
  rw [hlast, UInt8.toNat_mod, hbcd]
  change (16 * (n % 100 / 10) + n % 100 % 10) % 10 = _
  omega

/-- The amounts of a report are right exactly if the last byte of the change, which is taken for a
number, ends with the digit 0. -/
theorem reportsAmounts_iff (k : Kind) (s : Machine) (hlow : 0 ≤ s.moneyBack)
    (hhigh : s.moneyBack < 2 ^ 31) :
    ReportsAmounts k s ↔ (6 * (s.moneyBack % 100 / 10) + s.moneyBack % 10) % 10 = 0 := by
  obtain ⟨n, hn⟩ := Int.eq_ofNat_of_zero_le hlow
  have hdigit := lastDigit_toNat hn k
  have hprice : IsBcd (s.runMealArr k.id).customerSel.dealBalance (100 * price k) ↔
      (6 * (n % 100 / 10) + n % 10) % 10 = 0 := by
    rw [dealBalance_eq, price_eq, ← hdigit]
    exact isBcd_price_iff
  have hchange : IsBcd (s.runMealArr k.id).customerSel.change s.moneyBack := by
    rw [change_eq, hn]
    exact digits_isBcd (by omega)
  have hcast : (6 * (s.moneyBack % 100 / 10) + s.moneyBack % 10) % 10 = 0 ↔
      (6 * (n % 100 / 10) + n % 10) % 10 = 0 := by
    rw [hn]
    norm_cast
  rw [hcast, ← hprice]
  exact ⟨fun h => h.dealBalance, fun h => ⟨hchange, h, rfl⟩⟩

/-- A machine with this change to report. -/
def changed (n : ℤ) : Machine := { Machine.reset (fun _ => 0) with moneyBack := n }

/-- Every change that is a number of coins is reported with the right price. -/
theorem reportsAmounts_five : ReportsAmounts 0 (changed 500) :=
  (reportsAmounts_iff 0 (changed 500) (by decide) (by decide)).mpr (by decide)

/-- With a change of 0.05 the first meal is reported with a price of 15.05. -/
theorem reportsAmounts_fails : ¬ ∀ (k : Kind) (s : Machine), 0 ≤ s.moneyBack →
    s.moneyBack < 2 ^ 31 → ReportsAmounts k s := by
  intro h
  have hvalue := (h 0 (changed 5) (by decide) (by decide)).dealBalance.value
  rw [dealBalance_eq] at hvalue
  exact absurd hvalue (by decide)

end MealVendor
