import MealVendor.Sale.Payment

/-!
# Where the money is

What was taken in is still in `PayAlready`, is owed as change, was paid back or has bought
something.  The interrupt of timer 3, the cancel key of the selection page and the end of
an error of the arm clear `PayAlready` without looking; the cancel key of the payment page
and the end of its time move it into `MoneyBack`, whatever is there.
-/

namespace MealVendor

namespace Session

/-- The part of `PayAlready` that has bought nothing yet. -/
def pending (s : Session) : ℤ := s.userAct.payAlready.toNat - s.book.spent

/-- The money taken in is still pending, is owed, was returned or has bought something. -/
def Balanced (s : Session) : Prop :=
  s.book.taken = s.pending + s.userAct.moneyBack.toInt + s.book.returned + s.book.bought

/-- Nothing in `PayAlready` is pending. -/
def Settled (s : Session) : Prop := s.userAct.payAlready.toNat = s.book.spent

/-- `PayAlready` can be moved into `MoneyBack`: no change is owed, nothing of it is used up,
and the value fits. -/
def Refundable (s : Session) : Prop :=
  s.userAct.moneyBack = 0 ∧ s.book.spent = 0 ∧ s.userAct.payAlready.toNat ≤ 32767

/-- Point 9 can complete the payment: no change is owed, nothing is used up, enough was
paid, and the change fits. -/
def Completable (s : Session) : Prop :=
  s.userAct.moneyBack = 0 ∧ s.book.spent = 0 ∧
    s.userAct.payShould.toNat ≤ s.userAct.payAlready.toNat ∧
    s.userAct.payAlready.toNat ≤ s.userAct.payShould.toNat + 32767

variable (s : Session)

instance : Decidable s.Balanced := inferInstanceAs (Decidable (_ = _))

instance : Decidable s.Settled := inferInstanceAs (Decidable (_ = _))

instance : Decidable s.Refundable := inferInstanceAs (Decidable (_ ∧ _))

instance : Decidable s.Completable := inferInstanceAs (Decidable (_ ∧ _))

end Session

/-- The selection page's cancel key finds nothing pending, the one of the payment page
finds what can be moved, and the administrator's record computes the change that is owed. -/
def ScreenLosesNothing (s : Machine) (f : Frame) : Prop :=
  (f.variable = some .mealcntChoose → f.data1 = 4 → s.session.Settled) ∧
  (f.variable = some .paymentMethod → s.session.userAct.payShould = 0 ∨ f.data1 = 4 →
    s.session.Refundable) ∧
  (f.showsRecord s → 0 < s.session.userAct.moneyBack →
    Int16.ofInt s.session.userAct.recordChange = s.session.userAct.moneyBack)

/-- What comes in fits; a payment is completed, refunded and closed with nothing owed and
nothing pending; what the hopper still owes fits into a byte. -/
def ProgramLosesNothing (s : Machine) (io : Io) : Prop :=
  let u := s.session.userAct
  (s.session.paysAt .p3 → u.payAlready.toNat + io.bill.value < 65536) ∧
  (s.session.paysAt .p9 → s.session.Completable) ∧
  (io.ok → ∀ money ∈ s.session.pc.deducts, money = u.outstanding ∧ 0 ≤ money) ∧
  (s.session.pc = .payTail → s.timers.waitTime = 0 → s.session.Refundable) ∧
  (s.session.pc = .switch → s.session.current = .hpperOut → 0 < u.moneyBack →
    u.moneyBack.toInt.toNat - sentCoins io.pe9 u.moneyBack.toInt.toNat < 256) ∧
  (s.session.pc = .find → u.firstKind = none → u.moneyBack = 0 ∧ s.session.Settled) ∧
  (s.session.pc.flight → ¬ s.session.pc.doomed → u.moneyBack = 0) ∧
  (s.session.pc.doomed → s.erroFlag = 0 → s.session.Settled)

/-- `PayAlready` is cleared only when nothing is pending, moved only when it can be moved, and
`MoneyBack` is overwritten only when nothing is owed. -/
def NothingLost (s : Machine) : Event → Prop
  | .coinIn => s.coinsCount + 1 = 2 → s.session.userAct.payAlready.toNat + 1 < 65536
  | .tim3 => s.timers.waitTime = 0 → s.session.Settled
  | .screen f _ => ScreenLosesNothing s f
  | .go io => ProgramLosesNothing s io
  | _ => True

instance (s : Machine) (f : Frame) : Decidable (ScreenLosesNothing s f) :=
  inferInstanceAs (Decidable (_ ∧ _))

instance (s : Machine) (io : Io) : Decidable (ProgramLosesNothing s io) :=
  inferInstanceAs (Decidable (_ ∧ _))

instance (s : Machine) : ∀ e, Decidable (NothingLost s e)
  | .coinIn => inferInstanceAs (Decidable (_ → _ < _))
  | .tim3 => inferInstanceAs (Decidable (_ → s.session.Settled))
  | .screen f _ => inferInstanceAs (Decidable (ScreenLosesNothing s f))
  | .go io => inferInstanceAs (Decidable (ProgramLosesNothing s io))
  | .coinOut | .tim4 | .tim5 | .tim7 | .pvd | .usart6 _ => .isTrue trivial

/-- Power-up with no money and no change left over from before. -/
def EmptyPowerUp (s : Machine) : Prop :=
  IsPowerUp s ∧ s.session.userAct.payAlready = 0 ∧ s.session.userAct.moneyBack = 0

namespace Session.Balanced

variable {s t : Session}

/-- Neither the money nor the book is touched. -/
lemma same (h : s.Balanced) (hA : t.userAct.payAlready = s.userAct.payAlready)
    (hM : t.userAct.moneyBack = s.userAct.moneyBack) (hb : t.book.taken = s.book.taken ∧
      t.book.spent = s.book.spent ∧ t.book.returned = s.book.returned ∧
      t.book.bought = s.book.bought) : t.Balanced := by
  rw [Balanced, pending] at h ⊢
  rw [hA, hM, hb.1, hb.2.1, hb.2.2.1, hb.2.2.2]
  exact h

lemma calm (h : s.Balanced) (ht : s.Calm t) : t.Balanced := by
  refine h.same ht.userAct.payAlready ht.userAct.moneyBack ?_
  rw [ht.book]
  exact ⟨rfl, rfl, rfl, rfl⟩

/-- The selection is cleared when nothing is pending. -/
lemma clear (h : s.Balanced) (hsettled : s.Settled) : s.clearUserBuffer.Balanced := by
  rw [Balanced, pending] at h ⊢
  unfold Settled at hsettled
  change s.book.taken = ((0 : ℕ) : ℤ) - (0 : ℕ) + s.userAct.moneyBack.toInt + s.book.returned +
    s.book.bought
  omega

/-- `PayAlready` is moved into `MoneyBack`, and the selection is cleared. -/
lemma payBack (h : s.Balanced) (hfit : s.Refundable) (hA : t.userAct.payAlready = 0)
    (hM : t.userAct.moneyBack = s.userAct.payAlready.toInt16)
    (hb : t.book.taken = s.book.taken ∧ t.book.spent = 0 ∧
      t.book.returned = s.book.returned ∧ t.book.bought = s.book.bought) : t.Balanced := by
  obtain ⟨hback, hspent, hle⟩ := hfit
  have hmove := UInt16.toInt_toInt16_of_le hle
  rw [Balanced, pending] at h ⊢
  rw [hback, hspent] at h
  rw [hA, hM, hb.1, hb.2.1, hb.2.2.1, hb.2.2.2, hmove]
  change _ = _ + (0 : ℤ) + _ + _ at h
  change _ = ((0 : ℕ) : ℤ) - _ + _ + _ + _
  omega

/-- Coins and bills, without wrapping. -/
lemma add (h : s.Balanced) {n : ℕ} (hfit : s.userAct.payAlready.toNat + n < 65536)
    (hA : t.userAct.payAlready.toNat = (s.userAct.payAlready.toNat + n) % 65536)
    (hM : t.userAct.moneyBack = s.userAct.moneyBack) (hb : t.book.taken = s.book.taken + n ∧
      t.book.spent = s.book.spent ∧ t.book.returned = s.book.returned ∧
      t.book.bought = s.book.bought) : t.Balanced := by
  rw [Balanced, pending] at h ⊢
  rw [hA, hM, hb.1, hb.2.1, hb.2.2.1, hb.2.2.2, Nat.mod_eq_of_lt hfit]
  push_cast
  omega

/-- A card was debited with what is still to be paid. -/
lemma cardPaid (h : s.Balanced) {money : ℤ} (hmoney : money = s.userAct.outstanding)
    (hpos : 0 ≤ money) : (s.cardPaid money).Balanced := by
  unfold UserSelection.outstanding at hmoney
  have hle : s.userAct.payAlready ≤ s.userAct.payShould := by
    rw [UInt16.le_iff_toNat_le]
    omega
  have hpay : (s.userAct.payAlready + (s.userAct.payShould - s.userAct.payAlready)).toNat =
      s.userAct.payShould.toNat := by
    have := s.userAct.payShould.toNat_lt
    have := UInt16.le_iff_toNat_le.mp hle
    rw [UInt16.toNat_add, UInt16.toNat_sub_of_le _ _ hle]
    omega
  rw [Balanced, pending] at h ⊢
  change s.book.taken + money =
    ((s.userAct.payAlready + (s.userAct.payShould - s.userAct.payAlready)).toNat : ℤ) -
      s.book.spent + s.userAct.moneyBack.toInt + s.book.returned + s.book.bought
  omega

/-- Point 9. -/
lemma statusOk (h : s.Balanced) (hfit : s.Completable) : s.statusOk.Balanced := by
  obtain ⟨hback, hspent, hle, hle'⟩ := hfit
  have hchange : (Int16.ofInt ((s.userAct.payAlready.toNat : ℤ) -
      s.userAct.payShould.toNat)).toInt = s.userAct.payAlready.toNat - s.userAct.payShould.toNat :=
    Int16.toInt_ofInt_of_le (by omega) (by omega)
  rw [Balanced, pending] at h ⊢
  rw [hback, hspent] at h
  change _ = _ + (0 : ℤ) + _ + _ at h
  change s.book.taken = (s.userAct.payAlready.toNat : ℤ) - s.userAct.payAlready.toNat +
    (Int16.ofInt ((s.userAct.payAlready.toNat : ℤ) - s.userAct.payShould.toNat)).toInt +
      s.book.returned + (s.book.bought + s.userAct.payShould.toNat)
  rw [hchange]
  omega

/-- The hopper pays out, and what is left fits into a byte. -/
lemma payOut (h : s.Balanced) {sent : ℕ} (hpos : 0 < s.userAct.moneyBack)
    (hsent : sent ≤ s.userAct.moneyBack.toInt.toNat)
    (hfit : s.userAct.moneyBack.toInt.toNat - sent < 256) :
    (s.payOut s.userAct.moneyBack.toInt.toNat sent).Balanced := by
  have hpos' : 0 < s.userAct.moneyBack.toInt := Int16.lt_iff_toInt_lt.mp hpos
  have hleft : (Int16.ofNat (UInt8.ofNat (s.userAct.moneyBack.toInt.toNat - sent)).toNat).toInt =
      s.userAct.moneyBack.toInt - sent := by
    rw [UInt8.toNat_ofNat_of_lt' hfit, Int16.toInt_ofNat_of_lt (by omega)]
    omega
  rw [Balanced, pending] at h ⊢
  change s.book.taken = _ - (s.book.spent : ℤ) +
    (Int16.ofNat (UInt8.ofNat (s.userAct.moneyBack.toInt.toNat - sent)).toNat).toInt +
      ((s.book.returned + sent : ℕ) : ℤ) + s.book.bought
  rw [hleft]
  push_cast
  change s.book.taken = ((s.userAct.payAlready.toNat : ℤ) - s.book.spent) + _ + _ + _
  omega

/-- The rest of the cart is paid back. -/
lemma takeError (h : s.Balanced) (hback : s.userAct.moneyBack = 0) : s.takeError.Balanced := by
  have hrest : (Int16.ofNat s.userAct.cartPrice).toInt = s.userAct.cartPrice := by
    have := s.userAct.cartPrice_le
    exact Int16.toInt_ofNat_of_lt (by omega)
  rw [Balanced, pending] at h ⊢
  rw [hback] at h
  change _ = _ + (0 : ℤ) + _ + _ at h
  change s.book.taken = (s.userAct.payAlready.toNat : ℤ) - s.book.spent +
    (Int16.ofNat s.userAct.cartPrice).toInt + s.book.returned +
      (s.book.bought - s.userAct.cartPrice)
  rw [hrest]
  omega

/-- Every move under the condition keeps the balance. -/
lemma move {s : Machine} {e : Event} {t : Session} (h : s.session.Balanced)
    (hG : NothingLost s e) (hm : Move s e t) : t.Balanced := by
  have hput := s.session.userAct.putIntoShopCart_money
  cases hm with
  | calm ht => exact h.calm ht
  | coin hcnt =>
    refine h.add (n := 1) (hG hcnt) ?_ rfl ⟨rfl, rfl, rfl, rfl⟩
    exact UInt16.toNat_add _ _
  | expire hopen hwait => exact h.clear (hG hwait)
  | put hpc hf hd =>
    refine h.same ?_ ?_ ?_
    · rw [putIntoShopCart_userAct]; exact hput.1
    · rw [putIntoShopCart_userAct]; exact hput.2.2.2.2.2.1
    · rw [putIntoShopCart_book]; exact ⟨rfl, rfl, rfl, rfl⟩
  | enter hpc hf hd htotal =>
    refine h.same hput.1 hput.2.2.2.2.2.1 ?_
    rw [show s.session.enterCart.book = s.session.book from putIntoShopCart_book _]
    exact ⟨rfl, rfl, rfl, rfl⟩
  | drop hpc hf hd => exact (h.clear (hG.1 hf hd)).same rfl rfl ⟨rfl, rfl, rfl, rfl⟩
  | column => exact h.same rfl rfl ⟨rfl, rfl, rfl, rfl⟩
  | recalc => exact h.same rfl rfl ⟨rfl, rfl, rfl, rfl⟩
  | cancel hpc hf hd => exact h.payBack (hG.2.1 hf hd) rfl rfl ⟨rfl, rfl, rfl, rfl⟩
  | record hpc hrec =>
    have hkeep : s.session.userAct.displayUserRecord = s.session.userAct := by
      rw [UserSelection.displayUserRecord]
      split_ifs with hpos
      · rw [hG.2.2 hrec hpos]
      · rfl
    rw [displayUserRecord, hkeep]
    exact h
  | @bill io v hpc hc h3 hv h0 =>
    have hfit := hG.1 ⟨hpc, hc, h3⟩
    rw [← hv] at hfit
    rw [readBills_of_ne h0]
    refine h.add hfit ?_ rfl ⟨rfl, rfl, rfl, rfl⟩
    change (s.session.userAct.payAlready + UInt16.ofNat v).toNat = _
    rw [UInt16.toNat_add, UInt16.toNat_ofNat_of_lt']
    change v < 65536
    omega
  | enough => exact h.same rfl rfl ⟨rfl, rfl, rfl, rfl⟩
  | request => exact h.same rfl rfl ⟨rfl, rfl, rfl, rfl⟩
  | @cardPaid io szt money hpc hok =>
    have hded : money ∈ s.session.pc.deducts := by
      rw [hpc]
      rfl
    obtain ⟨hmoney, hpos⟩ := hG.2.2.1 hok money hded
    exact (h.cardPaid hmoney hpos).same rfl rfl ⟨rfl, rfl, rfl, rfl⟩
  | timeout hpc hwait =>
    refine h.payBack (hG.2.2.2.1 hpc hwait) ?_ ?_ ?_
    · rw [goto_userAct, timeout_userAct]
      rfl
    · rw [goto_userAct, timeout_userAct]
      rfl
    · rw [goto_book, timeout_book]
      exact ⟨rfl, rfl, rfl, rfl⟩
  | statusOk hpc hc h9 =>
    exact (h.statusOk (hG.2.1 ⟨hpc, hc, h9⟩)).same rfl rfl ⟨rfl, rfl, rfl, rfl⟩
  | @payOut io sent hpc hc hm hsent =>
    have hfit := hG.2.2.2.2.1 hpc hc hm
    rw [← hsent] at hfit
    have hle : sent ≤ s.session.userAct.moneyBack.toInt.toNat := hsent ▸ sentCoins_le _ _
    exact (h.payOut hm hle hfit).same rfl rfl ⟨rfl, rfl, rfl, rfl⟩
  | serve | toErro | idle | found | uploaded | polled =>
    exact h.same rfl rfl ⟨rfl, rfl, rfl, rfl⟩
  | takeAfter hpc hk =>
    obtain ⟨hback, hsettled⟩ := hG.2.2.2.2.2.1 hpc hk
    refine (h.clear hsettled).same rfl ?_ ⟨rfl, rfl, rfl, rfl⟩
    exact hback.symm
  | takeError hf hd ht =>
    have hback := hG.2.2.2.2.2.2.1 hf hd
    refine ((h.calm ht).takeError ?_).same rfl rfl ⟨rfl, rfl, rfl, rfl⟩
    rw [ht.userAct.moneyBack]
    exact hback
  | takeOut =>
    have hu := s.session.userAct.takeOut_money
    have hb := s.session.book.takeOut_money
    exact h.same hu.1 hu.2.2.2.2.2.1 ⟨hb.1, hb.2.1, hb.2.2.2.1, hb.2.2.2.2⟩
  | @abnormalEnd io e ret hpc h0 =>
    split_ifs with he
    · have hd : s.session.pc.doomed := by simp [hpc, Pc.doomed, he]
      have hsettled := hG.2.2.2.2.2.2.2 hd h0
      exact (h.clear hsettled).same rfl rfl ⟨rfl, rfl, rfl, rfl⟩
    · exact h.same rfl rfl ⟨rfl, rfl, rfl, rfl⟩

end Session.Balanced

/-- In every run from power-up with nothing left over in which nothing pending is cleared and
nothing owed is overwritten: at every step the money taken in is still pending, is owed, was
returned or has bought something. -/
theorem money_balanced {s : Machine} (h : Lib.Reach step EmptyPowerUp NothingLost s) :
    s.session.Balanced := by
  refine h.invariant (I := fun s => s.session.Balanced) ?_ ?_
  · rintro _ ⟨⟨bkp, flash, io, rfl⟩, hA, hM⟩
    rw [Session.Balanced, Session.pending]
    rw [(powerUp_start bkp flash io).2.2.1, hA, hM]
    rfl
  · intro s e s' hs hG hstep
    exact hs.move hG (step_move hstep)

/-! ### A whole sale, and a coin that is lost -/

/-- A run that meets the condition: a meal is paid with a bill of twenty, the change is paid
out, the meal is taken. -/
theorem money_balanced_sale :
    ∃ t, Lib.checkedRun step NothingLost (stocked 3)
        (List.flatten [payOne, payOutAndServe, fetchMeal, uploadAndEnd]) = some t ∧
      t.session.book.taken = 20 ∧ t.session.book.returned = 5 ∧ t.session.book.bought = 15 ∧
      t.session.Balanced := by
  have hrun : (Lib.checkedRun step NothingLost (stocked 3)
      (List.flatten [payOne, payOutAndServe, fetchMeal, uploadAndEnd])).any
        (fun t => t.session.current = .currentTemperature ∧ t.session.book.taken = 20 ∧
          t.session.book.returned = 5 ∧ t.session.book.bought = 15) = true := by
    decide +kernel
  obtain ⟨t, ht, -, htaken, hreturned, hbought⟩ := Lib.exists_of_any hrun
  have hempty : EmptyPowerUp (stocked 3) := ⟨stocked_isPowerUp 3, rfl, rfl⟩
  exact ⟨t, ht, htaken, hreturned, hbought, money_balanced ⟨_, _, hempty, .of_checkedRun ht⟩⟩

/-- A coin is put in while the cart is shown, and then the cancel key of the selection page
is pressed: the coin is gone. -/
theorem coin_lost_by_cancel :
    ¬ ∀ s, Lib.Reach step EmptyPowerUp Lib.anyEvent s → s.session.Balanced := by
  have hempty : EmptyPowerUp (stocked 3) := ⟨stocked_isPowerUp 3, rfl, rfl⟩
  refine Lib.not_forall_reach hempty
    (startUp ++ [.touch 0x00 1, .touch 0x01 3, .coinIn, .coinIn, .touch 0x01 4]) ?_
  decide +kernel

end MealVendor
