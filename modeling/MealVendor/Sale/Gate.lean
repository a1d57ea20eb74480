import MealVendor.Sale.Flow

/-!
# Meals are taken out only after a payment

The state `hpper_out` is entered after a payment, after a cancelled purchase and after a
payment that has run out of time, and the flag `Cancle` is to tell which.  The cancel key
sets it; the end of the time in `WaitPayMoney` does not.

Where the flag is right, a session that has ended without a payment goes back to the idle state
from `hpper_out`.  The cancel key must not be pressed while a meal is on its way, though:
`WaitMeal` would finish, and `meal_out` would be entered again behind `data_upload`.
-/

namespace MealVendor

/-- Whether the main program goes from `hpper_out` to `meal_out`. -/
def Obs.isServe : Obs → Bool
  | .serve => true
  | _ => false

/-- Meals are taken out only when the payment of the sale has ended with `Status_OK`. -/
def Obs.Gated (o : Obs) (b : Book) : Prop := o.isServe → b.lastEnd = some .paid

instance (o : Obs) (b : Book) : Decidable (o.Gated b) := inferInstanceAs (Decidable (_ → _))

lemma Obs.gated_of_not_serve {o : Obs} (h : o.isServe = false) (b : Book) : o.Gated b := by
  intro h'
  rw [h] at h'
  cases h'

lemma Obs.gated_of_quiet (o : Obs) (h : o.quiet) (b : Book) : o.Gated b :=
  gated_of_not_serve (by cases o <;> first | rfl | cases h) b

/-- When the time of a payment runs out with money to pay back, the cancel flag is set. -/
def TimeoutFlagged (s : Machine) (e : Event) : Prop :=
  e.runs → s.session.pc = .payTail → s.timers.waitTime = 0 →
    0 < s.session.userAct.payAlready.toInt16 → s.session.userAct.cancle ≠ 0

instance (s : Machine) (e : Event) : Decidable (TimeoutFlagged s e) :=
  inferInstanceAs (Decidable (_ → _))

/-- In `hpper_out` without the cancel flag the payment was completed, and so it was whenever
`meal_out` was entered. -/
structure Session.Gate (s : Session) : Prop where
  paid : s.current = .hpperOut → s.userAct.cancle = 0 → s.book.lastEnd = some .paid
  gated : s.Always Obs.Gated

namespace Session

variable {s t : Session}

lemma Gate.calm (h : s.Gate) (ht : s.Calm t) : t.Gate where
  paid hc h0 := by
    rw [ht.book]
    exact h.paid (ht.current ▸ hc) (ht.userAct.cancle ▸ h0)
  gated := ht.always Obs.gated_of_quiet h.gated

lemma Gate.clear (h : s.Gate) : s.clearUserBuffer.Gate where
  paid := h.paid
  gated := ⟨Obs.gated_of_not_serve rfl _, h.gated⟩

lemma Gate.move {s : Machine} {e : Event} {t : Session} (h : s.session.Gate)
    (hflow : s.session.Flow) (hG : TimeoutFlagged s e) (hm : Move s e t) : t.Gate := by
  cases hm with
  | calm ht => exact h.calm ht
  | coin => exact ⟨h.paid, Obs.gated_of_not_serve rfl _, h.gated⟩
  | expire => exact h.clear
  | put hpc =>
    refine ⟨fun hc h0 => ?_, putIntoShopCart_always _ Obs.gated_of_quiet h.gated⟩
    rw [putIntoShopCart_current] at hc
    rw [putIntoShopCart_userAct,
      s.session.userAct.putIntoShopCart_money.2.2.2.2.2.2] at h0
    rw [putIntoShopCart_book]
    exact h.paid hc h0
  | enter hpc => exact ⟨by rintro ⟨⟩, putIntoShopCart_always s.session Obs.gated_of_quiet h.gated⟩
  | drop hpc => exact ⟨by rintro ⟨⟩, h.clear.gated⟩
  | column hpc => exact ⟨h.paid, Obs.gated_of_not_serve rfl _, h.gated⟩
  | recalc hpc => exact ⟨h.paid, h.gated⟩
  | cancel hpc =>
    exact ⟨fun _ h0 => absurd h0 (by simp [cancelPayment]),
      Obs.gated_of_not_serve rfl _, h.clear.gated⟩
  | record hpc =>
    rw [displayUserRecord, s.session.userAct.displayUserRecord_eq]
    exact ⟨h.paid, h.gated⟩
  | bill hpc hc h3 hv h0 =>
    rw [readBills_of_ne h0]
    exact ⟨fun hc' => (by cases hc.symm.trans hc'), Obs.gated_of_not_serve rfl _, h.gated⟩
  | enough hpc hc => exact ⟨h.paid, h.gated⟩
  | request hpc => exact ⟨h.paid, Obs.gated_of_not_serve rfl _, h.gated⟩
  | cardPaid hpc => exact ⟨h.paid, Obs.gated_of_not_serve rfl _, h.gated⟩
  | @timeout io hpc hwait =>
    refine ⟨fun hc h0 => ?_, ?_⟩
    · -- with money to pay back the flag is set; without, `hpper_out` was entered before
      have h0' : s.session.userAct.cancle = 0 := by
        rw [← h0, goto_userAct, timeout_userAct]
        rfl
      by_cases hm : 0 < s.session.userAct.payAlready.toInt16
      · exact absurd h0' (hG rfl hpc hwait hm)
      · have hc' : s.session.current = .hpperOut := by
          simpa [timeout, clearUserBuffer, UserSelection.clearUserBuffer, UserSelection.payBack,
            hm] using hc
        exact absurd h0' (hflow.pays (by rw [hpc]; rfl) hc')
    · rw [Always, goto_trace, timeout_trace]
      exact ⟨Obs.gated_of_not_serve rfl _, h.clear.gated⟩
  | statusOk hpc hc h9 => exact ⟨fun _ _ => rfl, Obs.gated_of_not_serve rfl _, h.gated⟩
  | payOut hpc hc hm => exact ⟨h.paid, Obs.gated_of_not_serve rfl _, h.gated⟩
  | serve hpc hc hm h0 => exact ⟨by rintro ⟨⟩, fun _ => h.paid hc h0, h.gated⟩
  | toErro => exact ⟨by rintro ⟨⟩, h.gated⟩
  | idle => exact ⟨by rintro ⟨⟩, h.gated⟩
  | found => exact ⟨h.paid, Obs.gated_of_not_serve rfl _, h.gated⟩
  | takeAfter =>
    exact ⟨by rintro ⟨⟩, Obs.gated_of_not_serve rfl _, Obs.gated_of_not_serve rfl _, h.gated⟩
  | takeError hpc hpc' ht =>
    exact ⟨fun _ h0 => absurd h0 (by simp [takeError, UserSelection.takeError]),
      Obs.gated_of_not_serve rfl _, (h.calm ht).gated⟩
  | takeOut => exact ⟨by rintro ⟨⟩, Obs.gated_of_not_serve rfl _, h.gated⟩
  | uploaded => exact ⟨by rintro ⟨⟩, Obs.gated_of_not_serve rfl _, h.gated⟩
  | polled => exact ⟨by rintro ⟨⟩, h.gated⟩
  | @abnormalEnd io e ret hpc =>
    split_ifs with he
    · exact ⟨h.paid, h.clear.gated⟩
    · exact ⟨h.paid, h.gated⟩

end Session

/-! ## The way back -/

/-- The states in which meals are handed out. -/
def Current.serves : Current → Bool
  | .mealOut | .dataUpload => true
  | _ => false

/-- The states in which a session ends that has not been paid. -/
def Current.idles : Current → Bool
  | .hpperOut | .currentTemperature | .erroHanle => true
  | _ => false

/-- The last payment has run out of time, or was cancelled. -/
def Session.unpaid (s : Session) : Prop :=
  s.book.lastEnd = some .timeout ∨ s.book.lastEnd = some .cancel

lemma Session.unpaid.ne_paid {s : Session} (h : s.unpaid) : s.book.lastEnd ≠ some .paid := by
  rcases h with h | h <;> rw [h] <;> rintro ⟨⟩

instance (s : Session) : Decidable s.unpaid := inferInstanceAs (Decidable (_ ∨ _))

/-- The event ends a session without a payment: by the cancel key, or because the time has run
out with money to pay back. -/
def EndsUnpaid (s : Machine) : Event → Prop
  | .screen f _ => f.cancels s
  | .go _ => s.session.pc = .payTail ∧ s.timers.waitTime = 0 ∧
      0 < s.session.userAct.payAlready.toInt16
  | _ => False

/-- The page of the cart is opened for the next payment. -/
def Event.opensCart (e : Event) : Prop :=
  ∃ f ∈ e.frame, f.variable = some .mealcntChoose ∧ f.data1 = 3

/-- When the time of a payment runs out the flag is right, and the cancel key is not pressed while
a meal is on its way. -/
def RefundKept (s : Machine) (e : Event) : Prop :=
  TimeoutFlagged s e ∧ (s.session.pc.flight → ∀ f ∈ e.frame, ¬ f.cancels s)

instance (s : Machine) (e : Event) : Decidable (RefundKept s e) :=
  inferInstanceAs (Decidable (_ ∧ _))

/-- Meals are handed out after a payment only, and `WaitPayMoney` is not called meanwhile. -/
structure Session.Served (s : Session) : Prop where
  serves : s.current.serves → s.book.lastEnd = some .paid
  flight : s.pc.flight → s.book.lastEnd = some .paid
  pays : s.pc.pays → s.current.serves = false

namespace Session

variable {s t : Session}

lemma Served.calm (h : s.Served) (ht : s.Calm t) : t.Served where
  serves hc := by
    rw [ht.book]
    exact h.serves (ht.current ▸ hc)
  flight hf := by
    rw [ht.book]
    exact h.flight (ht.flight ▸ hf)
  pays hp := by
    rw [ht.current]
    rcases ht.pays hp with hs | ⟨-, hw⟩
    · exact h.pays hs
    · rw [hw]
      rfl

/-- The program is at the same place, and the state is the same or hands out no meal. -/
lemma Served.same (h : s.Served) (hpc : t.pc = s.pc)
    (hb : t.book.lastEnd = s.book.lastEnd)
    (hc : t.current = s.current ∨ t.current.serves = false) : t.Served where
  serves hs := by
    rw [hb]
    rcases hc with hc | hc
    · exact h.serves (hc ▸ hs)
    · rw [hc] at hs
      cases hs
  flight hf := by
    rw [hb]
    exact h.flight (hpc ▸ hf)
  pays hp := by
    rcases hc with hc | hc
    · rw [hc]
      exact h.pays (hpc ▸ hp)
    · exact hc

/-- Where no meal is on its way and no payment is waited for, only the state matters. -/
lemma Served.of_plain (hf : t.pc.flight = false) (hp : t.pc.pays = false)
    (hc : t.current.serves → t.book.lastEnd = some .paid) : t.Served where
  serves := hc
  flight h := by rw [hf] at h; cases h
  pays h := by rw [hp] at h; cases h

lemma Served.move {s : Machine} {e : Event} {t : Session} (h : s.session.Served)
    (hflow : s.session.Flow) (hgate : s.session.Gate) (hG : RefundKept s e) (hm : Move s e t) :
    t.Served := by
  cases hm with
  | calm ht => exact h.calm ht
  | coin => exact h.same rfl rfl (.inl rfl)
  | expire => exact h.same rfl rfl (.inl rfl)
  | put => exact h.same (by simp) (by simp) (.inl (by simp))
  | enter =>
    exact h.same (putIntoShopCart_pc _) (congrArg Book.lastEnd (putIntoShopCart_book _)) (.inr rfl)
  | drop => exact h.same rfl rfl (.inr rfl)
  | column => exact h.same rfl rfl (.inl rfl)
  | recalc => exact h.same rfl rfl (.inl rfl)
  | @cancel f io hpc hf hd =>
    -- no meal is on its way
    have hno : s.session.pc.flight ≠ true := fun hflight => hG.2 hflight f rfl ⟨hf, hd⟩
    exact ⟨by rintro ⟨⟩, fun hflight => absurd hflight hno, fun _ => rfl⟩
  | record => exact h.same rfl rfl (.inl rfl)
  | bill hpc hc h3 hv h0 =>
    rw [readBills_of_ne h0]
    refine ⟨fun hs => ?_, by rintro ⟨⟩, fun _ => ?_⟩
    · cases hc ▸ (show s.session.current.serves = true from hs)
    · show s.session.current.serves = false
      rw [hc]
      rfl
  | enough hpc hc =>
    refine ⟨fun hs => ?_, by rintro ⟨⟩, fun _ => ?_⟩
    · cases hc ▸ (show s.session.current.serves = true from hs)
    · show s.session.current.serves = false
      rw [hc]
      rfl
  | request hpc => exact ⟨h.serves, by rintro ⟨⟩, fun _ => h.pays (by rw [hpc]; rfl)⟩
  | cardPaid hpc => exact ⟨h.serves, by rintro ⟨⟩, fun _ => h.pays (by rw [hpc]; rfl)⟩
  | timeout hpc =>
    refine .of_plain rfl rfl fun hs => ?_
    have hno : s.session.current.serves = false := h.pays (by rw [hpc]; rfl)
    have hout : (s.session.timeout.goto .deal).current.serves = false := by
      rw [goto_current, timeout]
      split_ifs
      · rfl
      · exact hno
    rw [hout] at hs
    cases hs
  | statusOk => exact .of_plain rfl rfl fun _ => rfl
  | payOut hpc hc => exact .of_plain rfl rfl fun hs => h.serves hs
  | serve hpc hc hm h0 => exact .of_plain rfl rfl fun _ => hgate.paid hc h0
  | toErro => exact .of_plain rfl rfl (by rintro ⟨⟩)
  | idle => exact .of_plain rfl rfl (by rintro ⟨⟩)
  | found hpc =>
    exact ⟨h.serves, fun _ => h.serves (by rw [hflow.find hpc]; rfl), by rintro ⟨⟩⟩
  | takeAfter => exact .of_plain rfl rfl (by rintro ⟨⟩)
  | takeError => exact .of_plain rfl rfl (by rintro ⟨⟩)
  | takeOut hpc =>
    refine .of_plain rfl rfl fun _ => ?_
    have hpaid := h.flight (by rw [hpc]; rfl)
    show s.session.book.takeOut.lastEnd = some .paid
    rw [Book.takeOut]
    split <;> exact hpaid
  | uploaded hpc hc => exact .of_plain rfl rfl fun _ => h.serves (by rw [hc]; rfl)
  | polled => exact .of_plain rfl rfl (by rintro ⟨⟩)
  | @abnormalEnd io e ret hpc =>
    have hf : (Pc.resume ret).flight = s.session.pc.flight := by rw [hpc]; rfl
    have hp : (Pc.resume ret).pays = s.session.pc.pays := by rw [hpc]; rfl
    split_ifs
    · exact ⟨h.serves, fun hflight => h.flight (hf ▸ hflight), fun hpays => h.pays (hp ▸ hpays)⟩
    · exact ⟨h.serves, fun hflight => h.flight (hf ▸ hflight), fun hpays => h.pays (hp ▸ hpays)⟩

end Session

/-- What becomes of a session that ends without a payment. -/
structure Machine.Refunds (s : Machine) : Prop where
  /-- It ends in `hpper_out`, with all that was paid to be paid back. -/
  ends : ∀ e t, step s e = some t → EndsUnpaid s e → t.session.current = .hpperOut ∧
    t.session.unpaid ∧ t.session.userAct.moneyBack = s.session.userAct.payAlready.toInt16
  /-- Until the next payment is completed, no meal is handed out. -/
  apart : s.session.unpaid → s.session.current.serves = false
  /-- Until the cart is opened again, the machine pays back, is idle or shows an error. -/
  stays : s.session.unpaid → s.session.current.idles → ∀ e t, step s e = some t →
    ¬ e.opensCart → t.session.current.idles
  /-- With nothing left to be paid back it is idle or shows an error. -/
  back : s.session.unpaid → s.session.pc = .switch → s.session.current = .hpperOut →
    ∀ io, (s.go io).session.current =
      if 0 < s.session.userAct.moneyBack then .hpperOut
      else if 0x10 < s.erroRecord then .erroHanle else .currentTemperature

section Refunds

variable {s t : Machine} {e : Event}

/-- The end of a session without a payment. -/
lemma EndsUnpaid.hpperOut (h : EndsUnpaid s e) (hs : step s e = some t) :
    t.session.current = .hpperOut ∧ t.session.unpaid ∧
      t.session.userAct.moneyBack = s.session.userAct.payAlready.toInt16 := by
  cases e with
  | screen f io =>
    obtain ⟨hf, hcancel⟩ := h
    obtain ⟨-, rfl⟩ := step_screen hs
    rw [Machine.changeVariableValues, hf]
    show (s.paymentMethod f.data1).session.current = _ ∧ _
    unfold Machine.paymentMethod
    dsimp only
    -- the other branches are those of a payment that is to be made in another way
    split_ifs with h0 h1 h2 h3 h4
    · exact ⟨rfl, .inr rfl, rfl⟩
    all_goals have h4' : f.data1 = 4 := hcancel.resolve_left h0
    · cases h1.symm.trans h4'
    · cases h2.symm.trans h4'
    · cases h3.symm.trans h4'
    · exact ⟨rfl, .inr rfl, rfl⟩
    · exact absurd h4' h4
  | go io =>
    cases hs
    obtain ⟨hpc, hwait, hpay⟩ := h
    have htail : (s.go io).session = s.session.timeout.goto .deal := by
      rw [Machine.go, hpc]
      show s.payTail.session = _
      rw [Machine.payTail, if_pos hwait]
      rfl
    have hback : 0 < s.session.userAct.payBack.clearUserBuffer.moneyBack := hpay
    rw [htail]
    refine ⟨?_, .inl ?_, ?_⟩
    · rw [Session.goto_current, Session.timeout]
      exact congrArg Session.current (if_pos hback)
    · rw [Session.goto_book, Session.timeout_book]
      rfl
    · rw [Session.goto_userAct, Session.timeout_userAct]
      rfl
  | _ => cases h

/-- Without the cart being opened again, no step leads from the end of an unpaid session to
anything else. -/
lemma Session.unpaid.idles {t : Session} (h : s.session.unpaid) (hserved : s.session.Served)
    (hgate : s.session.Gate) (hidle : s.session.current.idles) (hcart : ¬ e.opensCart)
    (hm : Move s e t) : t.current.idles := by
  cases hm with
  | calm ht =>
    rw [ht.current]
    exact hidle
  | put =>
    rw [Session.putIntoShopCart_current]
    exact hidle
  | @enter f io hpc hf hd => exact absurd ⟨f, rfl, hf, hd⟩ hcart
  | bill hpc hc => exact absurd (hc ▸ hidle) (by decide)
  | enough hpc hc => exact absurd (hc ▸ hidle) (by decide)
  | timeout =>
    rw [Session.goto_current, Session.timeout]
    split_ifs
    · rfl
    · exact hidle
  | serve hpc hc hm h0 => exact absurd (hgate.paid hc h0) h.ne_paid
  | takeOut hpc => exact absurd (hserved.flight (by rw [hpc]; rfl)) h.ne_paid
  | uploaded hpc hc => exact absurd (hc ▸ hidle) (by decide)
  | abnormalEnd =>
    split_ifs
    · exact hidle
    · exact hidle
  | coin | expire | column | recalc | record | request | cardPaid | payOut | found => exact hidle
  | drop | cancel | statusOk | toErro | idle | takeAfter | takeError | polled => rfl

/-- What becomes of it in `hpper_out`. -/
lemma Session.unpaid.back (h : s.session.unpaid) (hgate : s.session.Gate)
    (hpc : s.session.pc = .switch) (hc : s.session.current = .hpperOut) (io : Io) :
    (s.go io).session.current = if 0 < s.session.userAct.moneyBack then .hpperOut
      else if 0x10 < s.erroRecord then .erroHanle else .currentTemperature := by
  have hgo : s.go io = s.hpperOut io := by
    rw [Machine.go, hpc]
    show s.switch io = _
    rw [Machine.switch, hc]
  -- the flag is set, since nothing was paid
  have h0 : s.session.userAct.cancle ≠ 0 := fun h0 => h.ne_paid (hgate.paid hc h0)
  rw [hgo, Machine.hpperOut]
  dsimp only
  split_ifs <;> first | exact hc | rfl

end Refunds

/-- A bill of five is read, and the payment is cancelled. -/
def payCancelled : List Event := payCash .five ++ .touch 0x02 4 :: payOutAndServe

end MealVendor
