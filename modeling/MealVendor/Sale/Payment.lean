import MealVendor.Errors.Record
import MealVendor.Sale.Flow

/-!
# What a completed payment is worth

`PayAlready` is kept beside the three sums it consists of, all in 16 bits.  Point 6 of
`WaitPayMoney` tests whether enough was paid, point 9 computes the change, in the next call.
A card is read for the amount that was to be paid when its payment began, so nothing may change
the bill or add money until the card has been debited.  What a card is really debited with is not
known to the program, which only sees what the functions of the reader return.
-/

namespace MealVendor

/-- What is claimed of the end of a payment and of a request to a card. -/
def Obs.Sound (o : Obs) (b : Book) : Prop :=
  match o with
  | .paid u =>
    u.payShould.toNat ≤ u.payAlready.toNat ∧
      u.moneyBack.toInt = u.payAlready.toNat - u.payShould.toNat ∧
      u.payAlready.toNat = u.payForBills.toNat + u.payForCoins.toNat + u.payForCards.toNat ∧
      (u.payForCards.toNat : ℤ) = b.debited
  | .request money outstanding => money = outstanding ∧ 0 < money
  | _ => True

instance (o : Obs) (b : Book) : Decidable (o.Sound b) := by
  cases o <;> unfold Obs.Sound <;> infer_instance

lemma Obs.sound_of_quiet (o : Obs) (h : o.quiet) (b : Book) : o.Sound b := by
  cases o with
  | paid | request => cases h
  | _ => trivial

/-! ## The condition -/

/-- The bill a message computes, if it computes one. -/
def Frame.bill (f : Frame) (s : Machine) : Option UInt16 :=
  let u := s.session.userAct
  match f.variable with
  | some .mealcntChoose =>
    if f.data1 = 3 ∧ 0 < u.putIntoShopCart.mealTotoal then some u.putIntoShopCart.costs else none
  | some (.column i) =>
    match Kind.ofID (s.dispMeal i).mealId with
    | some k =>
      if f.data1 ≤ (s.stock.defineMeal k).mealCount then some (u.setColumn k f.data1).costs
      else some u.costs
    | none => some u.costs
  | _ => none

section Bill

variable {s : Machine} {f : Frame}

/-- The bill that is computed when the cart is opened. -/
lemma enterCart_mem_bill (hf : f.variable = some .mealcntChoose) (hd : f.data1 = 3)
    (htotal : 0 < s.session.userAct.putIntoShopCart.mealTotoal) :
    s.session.enterCart.userAct.payShould ∈ f.bill s := by
  simp [Frame.bill, hf, hd, htotal, Session.enterCart, UserSelection.settle]

/-- The bill of a column change. -/
lemma setColumn_mem_bill {i : Fin 4} {k : Kind} (hf : f.variable = some (.column i))
    (hk : Kind.ofID (s.dispMeal i).mealId = some k)
    (hd : f.data1 ≤ (s.stock.defineMeal k).mealCount) :
    (s.session.setColumn k f.data1).userAct.payShould ∈ f.bill s := by
  simp [Frame.bill, hf, hk, hd, Session.setColumn, Session.recalc, UserSelection.settle]

/-- The same where the count is not taken. -/
lemma recalc_mem_bill {i : Fin 4} (hf : f.variable = some (.column i))
    (hd : ∀ k, Kind.ofID (s.dispMeal i).mealId = some k →
      ¬ f.data1 ≤ (s.stock.defineMeal k).mealCount) :
    s.session.recalc.userAct.payShould ∈ f.bill s := by
  rw [Frame.bill]
  rw [hf]
  dsimp only
  cases hk : Kind.ofID (s.dispMeal i).mealId with
  | none => rfl
  | some k =>
    dsimp only
    rw [if_neg (hd k hk)]
    rfl

end Bill

/-- The next piece of the program is this point of `WaitPayMoney`. -/
def Session.paysAt (s : Session) (p : CurrentPoint) : Prop :=
  s.pc = .switch ∧ s.current = .waitforMoney ∧ s.currentPoint = p

instance (s : Session) (p : CurrentPoint) : Decidable (s.paysAt p) :=
  inferInstanceAs (Decidable (_ ∧ _))

/-- The amount a card was asked for. -/
def Pc.deducts : Pc → Option ℤ
  | .cardDeduct _ money => some money
  | _ => none

/-- The places of the functions that read and debit a card. -/
def Pc.asks : Pc → Bool
  | .cardRead .. | .cardDeal .. | .cardDeduct .. => true
  | _ => false

/-- The messages that clear the selection. -/
def Frame.drops (f : Frame) (s : Machine) : Prop :=
  f.variable = some .mealcntChoose ∧ f.data1 = 4 ∨ f.cancels s

instance (f : Frame) (s : Machine) : Decidable (f.drops s) :=
  inferInstanceAs (Decidable (_ ∨ _))

/-- No sum needs more than 16 bits; from point 6 on the bill is covered by `PayAlready` alone.  A
card payment begins while something is to be paid and no card has been debited, and until it is
over no coin comes in, the bill stays the same and the selection is not cleared.  (A bank card is
not asked for a negative amount.) -/
def PaymentKept (s : Machine) (e : Event) : Prop :=
  let u := s.session.userAct
  match e with
  | .coinIn => s.coinsCount + 1 = 2 →
    u.payAlready.toNat + 1 < 65536 ∧ s.session.pc.asks = false
  | .tim3 => s.session.pc.asks → s.timers.waitTime ≠ 0
  | .screen f _ =>
    (s.session.currentPoint = .p9 → ∀ v ∈ f.bill s, v.toNat ≤ u.payAlready.toNat) ∧
    (s.session.pc.asks → (∀ v ∈ f.bill s, v = u.payShould) ∧ ¬ f.drops s)
  | .go io =>
    (s.session.paysAt .p3 → u.payAlready.toNat + io.bill.value < 65536) ∧
    (s.session.paysAt .p6 → u.enough → u.payShould.toNat ≤ u.payAlready.toNat) ∧
    (s.session.paysAt .p9 → u.payAlready.toNat ≤ u.payShould.toNat + 32767) ∧
    (s.session.paysAt .p7 → u.payForCards = 0 ∧ u.payAlready ≠ u.payShould) ∧
    (s.session.paysAt .p8 → u.payForCards = 0 ∧ u.payAlready < u.payShould)
  | _ => True

instance (s : Machine) : ∀ e, Decidable (PaymentKept s e)
  | .coinIn => inferInstanceAs (Decidable (_ → _ < _ ∧ _))
  | .tim3 => inferInstanceAs (Decidable (_ → _))
  | .screen f _ => inferInstanceAs (Decidable ((_ → ∀ v ∈ f.bill s, _) ∧
      (_ → (∀ v ∈ f.bill s, _) ∧ _)))
  | .go _ => inferInstanceAs (Decidable (_ ∧ _))
  | .coinOut | .tim4 | .tim5 | .tim7 | .pvd | .usart6 _ => .isTrue trivial

/-- Power-up with no money left over from before. -/
def FreshPowerUp (s : Machine) : Prop := IsPowerUp s ∧ s.session.userAct.payAlready = 0

/-! ## While a card is waited for -/

/-- What is known of the amount a card is asked for. -/
def Pc.Asks (u : UserSelection) : Pc → Prop
  | .cardRead szt money _ | .cardDeal szt money _ =>
    money = u.outstanding ∧ u.payForCards = 0 ∧ (szt ∨ 0 ≤ money → 0 < money)
  | .cardDeduct _ money => money = u.outstanding ∧ u.payForCards = 0 ∧ 0 < money
  | _ => True

namespace Pc.Asks

variable {u v : UserSelection} {p : Pc}

lemma of_not_pays (h : p.pays = false) : p.Asks u := by
  cases p <;> trivial

lemma of_not_asks (h : p.asks = false) : p.Asks u := by
  cases p <;> trivial

/-- Only what is to be paid and the cards matter. -/
lemma congr (h : p.Asks u) (ho : v.outstanding = u.outstanding)
    (hc : v.payForCards = u.payForCards) : p.Asks v := by
  cases p <;> first | trivial | (simp only [Asks, ho, hc]; exact h)

end Pc.Asks

section Asks

variable {s : Machine} {e : Event} {t : Session}

/-- While a card is waited for, no event that is allowed changes what is to be paid. -/
lemma PaymentKept.outstanding (hG : PaymentKept s e) (hasks : s.session.pc.asks = true)
    (hruns : e.runs = false) (hm : Move s e t) :
    t.userAct.outstanding = s.session.userAct.outstanding ∧
      t.userAct.payForCards = s.session.userAct.payForCards := by
  have hput := s.session.userAct.putIntoShopCart_money
  -- the bill of a message is the old one
  have hbill : ∀ {v : UserSelection}, v.payShould = s.session.userAct.payShould →
      v.payAlready = s.session.userAct.payAlready →
      v.outstanding = s.session.userAct.outstanding := by
    intro v hs ha
    rw [UserSelection.outstanding, UserSelection.outstanding, hs, ha]
  cases hm with
  | calm ht => exact ⟨hbill ht.userAct.payShould ht.userAct.payAlready, ht.userAct.payForCards⟩
  | coin hcnt => exact absurd ((hG hcnt).2.symm.trans hasks) (by decide)
  | expire _ hwait => exact absurd hwait (hG hasks)
  | put =>
    rw [Session.putIntoShopCart_userAct]
    exact ⟨hbill hput.2.1 hput.1, hput.2.2.2.2.1⟩
  | enter hpc hf hd htotal =>
    exact ⟨hbill ((hG.2 hasks).1 _ (enterCart_mem_bill hf hd htotal)) hput.1, hput.2.2.2.2.1⟩
  | drop _ hf hd => exact absurd (.inl ⟨hf, hd⟩) (hG.2 hasks).2
  | column hpc hf hk hd =>
    exact ⟨hbill ((hG.2 hasks).1 _ (setColumn_mem_bill hf hk hd)) rfl, rfl⟩
  | recalc hpc hf hd => exact ⟨hbill ((hG.2 hasks).1 _ (recalc_mem_bill hf hd)) rfl, rfl⟩
  | cancel _ hf hd => exact absurd (.inr ⟨hf, hd⟩) (hG.2 hasks).2
  | record =>
    rw [Session.displayUserRecord, s.session.userAct.displayUserRecord_eq]
    exact ⟨rfl, rfl⟩
  | _ => cases hruns

/-- The program comes to a place of `WaitPayMoney` only from another one, or by its call. -/
lemma Move.pays {io : Io} (hm : Move s (.go io) t) (hp : t.pc.pays) :
    s.session.pc.pays ∨ s.session.pc = .switch ∧ s.session.current = .waitforMoney := by
  cases hm with
  | calm ht => exact ht.pays hp
  | bill hpc hc => exact .inr ⟨hpc, hc⟩
  | enough hpc hc => exact .inr ⟨hpc, hc⟩
  | request hpc => exact .inl (by rw [hpc]; rfl)
  | cardPaid hpc => exact .inl (by rw [hpc]; rfl)
  | @abnormalEnd io e ret hpc =>
    have hret : (Pc.resume ret).pays = true := by
      revert hp
      split_ifs <;> exact id
    exact .inl (by rw [hpc]; exact hret)
  | _ => cases hp

/-- A card payment begins with what is to be paid. -/
lemma beginCard_asks {s' : Machine} {szt : Bool}
    (hcards : s'.session.userAct.payForCards = 0)
    (hpos : szt ∨ 0 ≤ s'.session.userAct.outstanding → 0 < s'.session.userAct.outstanding) :
    (s'.beginCard szt).session.pc.Asks (s'.beginCard szt).session.userAct :=
  ⟨rfl, hcards, hpos⟩

/-- One call of `WaitPayMoney`. -/
lemma waitPayMoney_asks {s' : Machine} {io : Io} (hs : s'.session = s.session)
    (hpc : s.session.pc = .switch) (hc : s.session.current = .waitforMoney)
    (hG : PaymentKept s (.go io)) :
    (s'.waitPayMoney io).session.pc.Asks (s'.waitPayMoney io).session.userAct := by
  rw [Machine.waitPayMoney]
  cases hpoint : s'.session.currentPoint with
  | p7 =>
    obtain ⟨hcards, hne⟩ := hG.2.2.2.1 ⟨hpc, hc, hs ▸ hpoint⟩
    refine beginCard_asks (hs ▸ hcards) fun hle => ?_
    rw [UserSelection.outstanding, hs] at hle ⊢
    have : s.session.userAct.payAlready.toNat ≠ s.session.userAct.payShould.toNat :=
      fun heq => hne (UInt16.toNat.inj heq)
    have := hle.resolve_left (by decide)
    omega
  | p8 =>
    obtain ⟨hcards, hlt⟩ := hG.2.2.2.2 ⟨hpc, hc, hs ▸ hpoint⟩
    refine beginCard_asks (hs ▸ hcards) fun _ => ?_
    rw [UserSelection.outstanding, hs]
    have := UInt16.lt_iff_toNat_lt.mp hlt
    omega
  | p1 | p3 =>
    dsimp only [Machine.abnormalHandle]
    split_ifs <;> trivial
  | p0 | p2 | p5 | p6 | p9 => trivial

/-- What is known of a card payment, while the program runs on. -/
lemma go_asks {io : Io} (h : s.session.pc.Asks s.session.userAct) (hG : PaymentKept s (.go io)) :
    (s.go io).session.pc.Asks (s.go io).session.userAct := by
  by_cases hp : s.session.pc.pays ∨ s.session.pc = .switch ∧ s.session.current = .waitforMoney
  · rw [Machine.go]
    rcases hp with hp | ⟨hpc, hc⟩
    · cases hpc : s.session.pc with
      | cardRead szt money cnt =>
        rw [hpc] at h
        dsimp only [Machine.cardRead]
        split_ifs with hok hm
        · exact ⟨h.1, h.2.1, h.2.2 hm⟩
        · trivial
        · trivial
        · exact h
      | cardDeal szt money cnt =>
        rw [hpc] at h
        dsimp only [Machine.cardDeal]
        split_ifs
        · trivial
        · exact h
        · trivial
      | cardDeduct szt money => trivial
      | payTail => trivial
      | abnormal erro ret =>
        dsimp only
        split_ifs
        · trivial
        · rw [hpc]
          trivial
      | resume ret =>
        rw [hpc] at hp
        cases ret with
        | bill => trivial
        | _ => cases hp
      | _ =>
        rw [hpc] at hp
        cases hp
    · rw [hpc]
      dsimp only
      rw [Machine.switch, hc]
      exact waitPayMoney_asks s.saveUserData_session hpc hc hG
  · exact .of_not_pays (Bool.eq_false_iff.mpr fun h => hp (s.go_move.pays h))

/-- The same for every step. -/
lemma step_asks {s' : Machine} (h : s.session.pc.Asks s.session.userAct) (hG : PaymentKept s e)
    (hs : step s e = some s') : s'.session.pc.Asks s'.session.userAct := by
  by_cases hruns : e.runs = true
  · obtain ⟨io, rfl⟩ := Event.exists_go hruns
    cases hs
    exact go_asks h hG
  have hruns : e.runs = false := Bool.eq_false_iff.mpr hruns
  rw [(Machine.step_recorded hs hruns).1]
  by_cases hasks : s.session.pc.asks = true
  · obtain ⟨ho, hc⟩ := hG.outstanding hasks hruns (step_move hs)
    exact h.congr ho hc
  · exact .of_not_asks (Bool.eq_false_iff.mpr hasks)

end Asks

/-! ## The invariant -/

/-- `PayAlready` is the sum of its parts, the card debits are in the book, and at point 9
enough was paid. -/
structure Session.Paying (s : Session) : Prop where
  sums : s.userAct.payAlready.toNat =
    s.userAct.payForBills.toNat + s.userAct.payForCoins.toNat + s.userAct.payForCards.toNat
  debited : (s.userAct.payForCards.toNat : ℤ) = s.book.debited
  enough : s.currentPoint = .p9 → s.userAct.payShould.toNat ≤ s.userAct.payAlready.toNat
  sound : s.Always Obs.Sound

namespace Session.Paying

variable {s t : Session}

lemma calm (h : s.Paying) (ht : s.Calm t) : t.Paying where
  sums := by
    rw [ht.userAct.payAlready, ht.userAct.payForBills, ht.userAct.payForCoins,
      ht.userAct.payForCards]
    exact h.sums
  debited := by
    rw [ht.userAct.payForCards, ht.book]
    exact h.debited
  enough h9 := by
    rw [ht.userAct.payAlready, ht.userAct.payShould]
    exact h.enough (ht.point h9)
  sound := ht.always Obs.sound_of_quiet h.sound

/-- The program goes on. -/
lemma goto (h : s.Paying) (p : Pc) : (s.goto p).Paying := ⟨h.sums, h.debited, h.enough, h.sound⟩

/-- The selection is cleared. -/
lemma clear (h : s.Paying) : s.clearUserBuffer.Paying where
  sums := rfl
  debited := rfl
  enough _ := Nat.zero_le _
  sound := ⟨trivial, h.sound⟩

/-- The money is the same, and the bill too or point 9 is not reached. -/
lemma same (h : s.Paying) (hmoney : t.userAct.payAlready = s.userAct.payAlready ∧
      t.userAct.payForBills = s.userAct.payForBills ∧
      t.userAct.payForCoins = s.userAct.payForCoins ∧
      t.userAct.payForCards = s.userAct.payForCards)
    (hbook : t.book.debited = s.book.debited)
    (h9 : t.currentPoint = .p9 → t.userAct.payShould.toNat ≤ s.userAct.payAlready.toNat)
    (hsound : t.Always Obs.Sound) : t.Paying := by
  obtain ⟨hA, hB, hC, hK⟩ := hmoney
  refine ⟨?_, ?_, ?_, hsound⟩
  · rw [hA, hB, hC, hK]; exact h.sums
  · rw [hK, hbook]; exact h.debited
  · rw [hA]; exact h9

/-- A coin or a bill is added, without wrapping. -/
lemma addCoin (h : s.Paying) (hA : s.userAct.payAlready.toNat + 1 < 65536) :
    s.addCoin.Paying := by
  have hpay : (s.userAct.payAlready + 1).toNat = s.userAct.payAlready.toNat + 1 := by
    rw [UInt16.toNat_add]
    exact Nat.mod_eq_of_lt hA
  have hsums := h.sums
  have hcoins : (s.userAct.payForCoins + 1).toNat = s.userAct.payForCoins.toNat + 1 := by
    rw [UInt16.toNat_add]
    refine Nat.mod_eq_of_lt ?_
    change _ + 1 < 65536
    omega
  refine ⟨?_, h.debited, fun h9 => ?_, trivial, h.sound⟩
  · change (s.userAct.payAlready + 1).toNat = s.userAct.payForBills.toNat +
      (s.userAct.payForCoins + 1).toNat + s.userAct.payForCards.toNat
    omega
  · have := h.enough h9
    change s.userAct.payShould.toNat ≤ (s.userAct.payAlready + 1).toNat
    omega

lemma addBill (h : s.Paying) {v : ℕ} (hv : v ≠ 0)
    (hA : s.userAct.payAlready.toNat + v < 65536) : (s.readBills v).Paying := by
  have hsums := h.sums
  have hv' : (UInt16.ofNat v).toNat = v := by
    refine UInt16.toNat_ofNat_of_lt' ?_
    change v < 65536
    omega
  have hpay : (s.userAct.payAlready + UInt16.ofNat v).toNat = s.userAct.payAlready.toNat + v := by
    rw [UInt16.toNat_add, hv']
    exact Nat.mod_eq_of_lt hA
  have hbills : (s.userAct.payForBills + UInt16.ofNat v).toNat =
      s.userAct.payForBills.toNat + v := by
    rw [UInt16.toNat_add, hv']
    refine Nat.mod_eq_of_lt ?_
    change _ + v < 65536
    omega
  rw [readBills_of_ne hv]
  refine ⟨?_, h.debited, nofun, trivial, h.sound⟩
  change (s.userAct.payAlready + UInt16.ofNat v).toNat =
    (s.userAct.payForBills + UInt16.ofNat v).toNat + s.userAct.payForCoins.toNat +
      s.userAct.payForCards.toNat
  omega

/-- A card was debited with what is still to be paid, the first one of the session. -/
lemma cardPaid (h : s.Paying) {money : ℤ} (hcards : s.userAct.payForCards = 0)
    (hmoney : money = s.userAct.outstanding) (hpos : 0 < money) : (s.cardPaid money).Paying := by
  have hsums := h.sums
  have hdebited := h.debited
  rw [hcards] at hsums hdebited
  unfold UserSelection.outstanding at hmoney
  have hle : s.userAct.payAlready ≤ s.userAct.payShould := by
    rw [UInt16.le_iff_toNat_le]
    omega
  have hcard : (s.userAct.payShould - s.userAct.payAlready).toNat =
      s.userAct.payShould.toNat - s.userAct.payAlready.toNat := UInt16.toNat_sub_of_le _ _ hle
  have hpay : (s.userAct.payAlready + (s.userAct.payShould - s.userAct.payAlready)).toNat =
      s.userAct.payShould.toNat := by
    have := s.userAct.payShould.toNat_lt
    rw [UInt16.toNat_add, hcard]
    omega
  have hle' := UInt16.le_iff_toNat_le.mp hle
  change _ = _ + _ + 0 at hsums
  refine ⟨?_, ?_, nofun, trivial, h.sound⟩
  · change (s.userAct.payAlready + (s.userAct.payShould - s.userAct.payAlready)).toNat =
      s.userAct.payForBills.toNat + s.userAct.payForCoins.toNat +
        (s.userAct.payShould - s.userAct.payAlready).toNat
    omega
  · change ((s.userAct.payShould - s.userAct.payAlready).toNat : ℤ) = s.book.debited + money
    change (0 : ℤ) = _ at hdebited
    omega

/-- Point 9, with a change that fits. -/
lemma statusOk (h : s.Paying) (h9 : s.currentPoint = .p9)
    (hfit : s.userAct.payAlready.toNat ≤ s.userAct.payShould.toNat + 32767) :
    s.statusOk.Paying := by
  have hle := h.enough h9
  refine ⟨h.sums, h.debited, nofun, ⟨hle, ?_, h.sums, h.debited⟩, h.sound⟩
  change (Int16.ofInt _).toInt = _
  exact Int16.toInt_ofInt_of_le (by omega) (by omega)

/-- Every move under the condition keeps the sums. -/
lemma move {s : Machine} {e : Event} {t : Session} (h : s.session.Paying)
    (hasks : s.session.pc.Asks s.session.userAct) (hG : PaymentKept s e) (hm : Move s e t) :
    t.Paying := by
  have hput := s.session.userAct.putIntoShopCart_money
  cases hm with
  | calm ht => exact h.calm ht
  | coin hcnt => exact h.addCoin (hG hcnt).1
  | expire => exact h.clear
  | put hpc hf hd =>
    refine h.same ?_ (by simp) ?_ (putIntoShopCart_always _ Obs.sound_of_quiet h.sound)
    · rw [putIntoShopCart_userAct]
      exact ⟨hput.1, hput.2.2.2.1, hput.2.2.1, hput.2.2.2.2.1⟩
    · intro h9
      rw [putIntoShopCart_currentPoint] at h9
      rw [putIntoShopCart_userAct, hput.2.1]
      exact h.enough h9
  | enter hpc hf hd htotal =>
    refine h.same ⟨hput.1, hput.2.2.2.1, hput.2.2.1, hput.2.2.2.2.1⟩
      (congrArg Book.debited (putIntoShopCart_book _)) ?_
      (putIntoShopCart_always s.session Obs.sound_of_quiet h.sound)
    intro h9
    exact hG.1 ((putIntoShopCart_currentPoint _).symm.trans h9) _
      (enterCart_mem_bill hf hd htotal)
  | drop => exact ⟨rfl, rfl, fun _ => Nat.zero_le _, h.clear.sound⟩
  | column hpc hf hk hd =>
    exact h.same ⟨rfl, rfl, rfl, rfl⟩ rfl (fun h9 => hG.1 h9 _ (setColumn_mem_bill hf hk hd))
      ⟨trivial, h.sound⟩
  | recalc hpc hf hd =>
    exact h.same ⟨rfl, rfl, rfl, rfl⟩ rfl (fun h9 => hG.1 h9 _ (recalc_mem_bill hf hd)) h.sound
  | cancel hpc => exact ⟨rfl, rfl, by rintro ⟨⟩, trivial, h.clear.sound⟩
  | record =>
    rw [displayUserRecord, s.session.userAct.displayUserRecord_eq]
    exact h.same ⟨rfl, rfl, rfl, rfl⟩ rfl h.enough h.sound
  | bill hpc hc h3 hv h0 =>
    subst hv
    exact (h.addBill h0 (hG.1 ⟨hpc, hc, h3⟩)).goto _
  | enough hpc hc h6 he =>
    exact ⟨h.sums, h.debited, fun _ => hG.2.1 ⟨hpc, hc, h6⟩ he, h.sound⟩
  | request hpc hok hm =>
    -- the amount is what was to be paid when the card payment began
    rw [hpc] at hasks
    obtain ⟨hmoney, -, hpos⟩ := hasks
    exact ⟨h.sums, h.debited, h.enough, ⟨hmoney, hpos hm⟩, h.sound⟩
  | cardPaid hpc hok =>
    rw [hpc] at hasks
    obtain ⟨hmoney, hcards, hpos⟩ := hasks
    exact (h.cardPaid hcards hmoney hpos).goto _
  | timeout hpc =>
    refine ⟨?_, ?_, fun h9 => ?_, ?_⟩
    · rw [goto_userAct, timeout_userAct]
      rfl
    · rw [goto_userAct, timeout_userAct, goto_book, timeout_book]
      rfl
    · rw [goto_currentPoint, timeout_currentPoint] at h9
      cases h9
    · rw [Always, goto_trace, timeout_trace]
      exact ⟨trivial, h.clear.sound⟩
  | statusOk hpc hc h9 => exact (h.statusOk h9 (hG.2.2.1 ⟨hpc, hc, h9⟩)).goto _
  | payOut => exact h.same ⟨rfl, rfl, rfl, rfl⟩ rfl h.enough ⟨trivial, h.sound⟩
  | serve => exact h.same ⟨rfl, rfl, rfl, rfl⟩ rfl h.enough ⟨trivial, h.sound⟩
  | toErro => exact h.same ⟨rfl, rfl, rfl, rfl⟩ rfl h.enough h.sound
  | idle => exact h.same ⟨rfl, rfl, rfl, rfl⟩ rfl h.enough h.sound
  | found => exact h.same ⟨rfl, rfl, rfl, rfl⟩ rfl h.enough ⟨trivial, h.sound⟩
  | takeAfter =>
    exact ⟨rfl, rfl, fun _ => Nat.zero_le _, trivial, trivial, h.sound⟩
  | takeError hpc hpc' ht =>
    have ht' := h.calm ht
    exact ht'.same ⟨rfl, rfl, rfl, rfl⟩ rfl ht'.enough ⟨trivial, ht'.sound⟩
  | takeOut =>
    have hu := s.session.userAct.takeOut_money
    refine h.same ⟨hu.1, hu.2.2.2.1, hu.2.2.1, hu.2.2.2.2.1⟩ ?_ ?_ ⟨trivial, h.sound⟩
    · exact s.session.book.takeOut_money.2.2.1
    · intro h9
      rw [show (s.session.takeOut.goto .deal).userAct.payShould = _ from hu.2.1]
      exact h.enough h9
  | uploaded => exact h.same ⟨rfl, rfl, rfl, rfl⟩ rfl h.enough ⟨trivial, h.sound⟩
  | polled => exact h.same ⟨rfl, rfl, rfl, rfl⟩ rfl h.enough h.sound
  | @abnormalEnd io e ret hpc =>
    split_ifs with he
    · exact h.clear.same ⟨rfl, rfl, rfl, rfl⟩ rfl h.clear.enough h.clear.sound
    · exact h.same ⟨rfl, rfl, rfl, rfl⟩ rfl h.enough h.sound

end Session.Paying

/-- After power-up no way to pay has been used. -/
lemma powerUp_paid (bkp : Fin 20 → UInt32) (flash : Floor → FloorAttribute) (io : Io) :
    let u := (powerUp bkp flash io).session.userAct
    u.payForCoins = 0 ∧ u.payForBills = 0 ∧ u.payForCards = 0 := by
  dsimp only
  rw [powerUp_session]
  dsimp only
  split_ifs <;> exact ⟨rfl, rfl, rfl⟩

/-! ## What the cards are debited with -/

/-- Whether the selection is cleared. -/
def Obs.isClear : Obs → Bool
  | .clear => true
  | _ => false

/-- How often the selection was cleared. -/
def Session.clears (s : Session) : ℕ := (s.trace.filter Obs.isClear).length

/-- The machine, and what cards were debited with since the selection was cleared, whatever the
functions of the reader have returned. -/
structure Charged where
  machine : Machine
  charged : ℤ

namespace Charged

/-- A step of the machine, and the amount cards are debited with meanwhile. -/
def step (w : Charged) (e : Event × ℤ) : Option Charged :=
  (MealVendor.step w.machine e.1).map fun s =>
    ⟨s, if s.session.clears = w.machine.session.clears then w.charged + e.2 else 0⟩

/-- Power-up, before any card is debited. -/
def Fresh (w : Charged) : Prop := FreshPowerUp w.machine ∧ w.charged = 0

end Charged

/-- The amount for which a function of the reader returns 1 in this step. -/
def Machine.reported (s : Machine) : Event → ℤ
  | .go io => if io.ok then s.session.pc.deducts.getD 0 else 0
  | _ => 0

/-- The condition, and the reader returns 1 exactly for a card that it has debited with the amount
that it was asked for. -/
def ChargedKept (w : Charged) (e : Event × ℤ) : Prop :=
  PaymentKept w.machine e.1 ∧ e.2 = w.machine.reported e.1

instance (w : Charged) (e : Event × ℤ) : Decidable (ChargedKept w e) :=
  inferInstanceAs (Decidable (_ ∧ _))

section Charged

variable {s : Machine} {e : Event} {t : Session}

/-- Quiet observations clear nothing. -/
lemma Session.Calm.clears {s t : Session} (h : s.Calm t) : t.clears = s.clears := by
  obtain ⟨os, hos, ht⟩ := h.trace
  have hnone : os.filter Obs.isClear = [] := by
    rw [List.filter_eq_nil_iff]
    intro o ho
    have := hos o ho
    cases o <;> first | exact Bool.false_ne_true | cases this
  rw [Session.clears, ht, List.filter_append, hnone]
  rfl

/-- Unless a debit is waited for, the book of debits stays as it is until the selection is
cleared. -/
lemma Move.debited (hm : Move s e t) (hno : e.runs → s.session.pc.deducts = none) :
    t.book.debited = if t.clears = s.session.clears then s.session.book.debited else 0 := by
  have hput : s.session.putIntoShopCart.clears = s.session.clears := by
    unfold Session.putIntoShopCart
    dsimp only
    split <;> rfl
  -- nothing was cleared, or something was
  have hsame : ∀ {u : Session}, u.clears = s.session.clears →
      u.book.debited = s.session.book.debited →
      u.book.debited = if u.clears = s.session.clears then s.session.book.debited else 0 :=
    fun hc hb => by rw [if_pos hc, hb]
  have hclear : ∀ {u : Session}, u.clears = s.session.clears + 1 → u.book.debited = 0 →
      u.book.debited = if u.clears = s.session.clears then s.session.book.debited else 0 :=
    fun hc hb => by rw [if_neg (by omega), hb]
  cases hm with
  | calm ht => exact hsame ht.clears (congrArg Book.debited ht.book)
  | put => exact hsame hput (congrArg Book.debited (Session.putIntoShopCart_book _))
  | enter => exact hsame hput (congrArg Book.debited (Session.putIntoShopCart_book _))
  | bill _ _ _ _ h0 =>
    rw [Session.readBills_of_ne h0]
    exact hsame rfl rfl
  | cardPaid hpc =>
    rw [hpc] at hno
    cases hno rfl
  | timeout =>
    refine hclear ?_ ?_
    · rw [Session.clears, Session.goto_trace, Session.timeout_trace]
      rfl
    · rw [Session.goto_book, Session.timeout_book]
      rfl
  | takeError _ _ ht =>
    have hbook := congrArg Book.debited ht.book
    exact hsame ht.clears hbook
  | takeOut =>
    refine hsame rfl ?_
    exact s.session.book.takeOut_money.2.2.1
  | @abnormalEnd io erro ret =>
    by_cases he : xTimeout ≤ erro
    · rw [if_pos he]
      refine hclear rfl rfl
    · rw [if_neg he]
      exact hsame rfl rfl
  | expire | drop | cancel | takeAfter => exact hclear rfl rfl
  | coin | column | recalc | record | enough | request | statusOk | payOut | serve | toErro | idle
  | found | uploaded | polled => exact hsame rfl rfl

/-- If the reader returns 1 exactly for what it has debited, the book of debits is right. -/
lemma step_debited {s' : Machine} (hs : step s e = some s') :
    s'.session.book.debited = if s'.session.clears = s.session.clears then
      s.session.book.debited + s.reported e else 0 := by
  by_cases hno : e.runs → s.session.pc.deducts = none
  · have hzero : s.reported e = 0 := by
      cases e with
      | go io => rw [Machine.reported, hno rfl, Option.getD_none, ite_self]
      | _ => rfl
    rw [hzero, add_zero]
    exact (step_move hs).debited hno
  -- the answer to a debit
  obtain ⟨hruns, hded⟩ := Classical.not_imp.mp hno
  obtain ⟨io, rfl⟩ := Event.exists_go hruns
  cases hs
  cases hpc : s.session.pc with
  | cardDeduct szt money =>
    have hgo : s.go io = s.cardDeduct money io := by rw [Machine.go, hpc]
    rw [hgo, Machine.cardDeduct, Machine.reported, hpc]
    by_cases hok : io.ok = true
    · rw [if_pos hok, if_pos hok]
      exact (if_pos rfl).symm
    · rw [if_neg hok, if_neg hok, add_zero]
      exact (if_pos rfl).symm
  | _ =>
    rw [hpc] at hded
    exact absurd rfl hded

end Charged

/-- In every run from power-up without money left over that meets the condition: whenever
`WaitPayMoney` returns `Status_OK`, enough was paid, the change is exact and the sums agree;
whenever a card is asked for money, it is what is still to be paid, and not nothing; and
`PayForCards` is what cards were debited with since the selection was cleared. -/
theorem payment_sound {w : Charged} (h : Lib.Reach Charged.step Charged.Fresh ChargedKept w) :
    w.machine.session.Always Obs.Sound ∧
      (w.machine.session.userAct.payForCards.toNat : ℤ) = w.charged := by
  have hI : w.machine.session.Paying ∧
      w.machine.session.pc.Asks w.machine.session.userAct ∧
      w.charged = w.machine.session.book.debited := by
    refine h.invariant (I := fun w => w.machine.session.Paying ∧
      w.machine.session.pc.Asks w.machine.session.userAct ∧
      w.charged = w.machine.session.book.debited) ?_ ?_
    · rintro ⟨_, c⟩ ⟨⟨⟨bkp, flash, io, rfl⟩, h0⟩, rfl⟩
      obtain ⟨-, hpoint, hbook, -, hpays, -⟩ := powerUp_start bkp flash io
      obtain ⟨hC, hB, hK⟩ := powerUp_paid bkp flash io
      refine ⟨⟨?_, ?_, ?_, ?_⟩, .of_not_pays hpays, ?_⟩
      · show UInt16.toNat _ = _
        rw [h0, hC, hB, hK]
        rfl
      · show ((UInt16.toNat _ : ℕ) : ℤ) = Book.debited _
        rw [hK, hbook]
        rfl
      · show _ = CurrentPoint.p9 → _
        rw [hpoint]
        rintro ⟨⟩
      · show Session.Always _ _
        rw [powerUp_session]
        dsimp only
        split_ifs <;> exact of_decide_eq_true rfl
      · show (0 : ℤ) = Book.debited _
        rw [hbook]
        rfl
    · rintro w ⟨e, m⟩ w' ⟨hpaying, hasks, hcharged⟩ ⟨hG, hm⟩ hstep
      obtain ⟨s', hs, rfl⟩ := Option.map_eq_some_iff.mp hstep
      refine ⟨hpaying.move hasks hG (step_move hs), step_asks hasks hG hs, ?_⟩
      dsimp only at hm ⊢
      rw [step_debited hs, hcharged, hm]
  obtain ⟨hpaying, -, hcharged⟩ := hI
  exact ⟨hpaying.sound, hpaying.debited.trans hcharged.symm⟩

/-! ### A sale by card, and a cart that grows before point 9 -/

/-- The card is debited where `GpbocDeduct` asks it for the money. -/
def payCardCharged : List (Event × ℤ) :=
  (payCard.map (·, 0)).set (payCard.length - 7) (.next, 15)

/-- A run that meets the condition: a meal is paid by card. -/
theorem payment_sound_card :
    ∃ w, Lib.checkedRun Charged.step ChargedKept ⟨stocked 3, 0⟩ payCardCharged = some w ∧
      w.charged = 15 ∧ w.machine.session.book.lastEnd = some .paid ∧
      w.machine.session.Always Obs.Sound := by
  have hrun : (Lib.checkedRun Charged.step ChargedKept ⟨stocked 3, 0⟩ payCardCharged).any
      (fun w => w.charged = 15 ∧ w.machine.session.book.lastEnd = some .paid) = true := by
    decide +kernel
  obtain ⟨w, hw, hcharged, hpaid⟩ := Lib.exists_of_any hrun
  have hfresh : Charged.Fresh ⟨stocked 3, 0⟩ := ⟨⟨stocked_isPowerUp 3, rfl⟩, rfl⟩
  exact ⟨w, hw, hcharged, hpaid, (payment_sound ⟨_, _, hfresh, .of_checkedRun hw⟩).1⟩

/-- A bill of twenty is enough for one meal at point 6; then the count is raised to three,
and point 9 completes a payment of 45 with 20. -/
theorem completes_with_too_little :
    ¬ ∀ w, Lib.Reach Charged.step Charged.Fresh Lib.anyEvent w →
      w.machine.session.Always Obs.Sound := by
  have hfresh : Charged.Fresh ⟨stocked 3, 0⟩ := ⟨⟨stocked_isPowerUp 3, rfl⟩, rfl⟩
  refine Lib.not_forall_reach hfresh
    ((payCash .twenty ++ [Event.touch 0x42 3, Event.next, Event.next]).map (·, 0)) ?_
  decide +kernel

end MealVendor
