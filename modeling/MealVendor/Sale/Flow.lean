import MealVendor.Sale.Inversion

/-!
# Where the program is and what it knows there

Facts that hold in every run, without any condition: a meal that is on its way was found by
`FindMeal`, and `MealID` still names its kind unless the selection was cleared meanwhile; a
payment that was cancelled while `WaitPayMoney` waited has set the cancel flag.
-/

namespace MealVendor

/-- What is known at the places of the program. -/
structure Session.Flow (s : Session) : Prop where
  /-- Messages are dealt with while a meal is on its way only after an error of the arm. -/
  stuck : s.pc.deals → s.pc.flight → s.pc.doomed
  /-- The meal on its way. -/
  held : s.pc.flight → ∃ k, s.book.lastFind = some k ∧
    (s.pc.doomed ∨ s.userAct.mealID = 0 ∨ s.userAct.mealID = k.id ∧ 0 < s.userAct.mealCnt k)
  /-- A payment that was cancelled while `WaitPayMoney` waited. -/
  pays : s.pc.pays → s.current = .hpperOut → s.userAct.cancle ≠ 0
  /-- `WaitMeal` is called in the state `meal_out`. -/
  find : s.pc = .find → s.current = .mealOut

namespace Session

variable {s t : Session}

lemma Flow.calm (h : s.Flow) (ht : s.Calm t) : t.Flow where
  stuck hdeals hflight := by
    rcases ht.stuck hdeals hflight with hs | hd
    · exact ht.doomed (h.stuck hs (ht.flight ▸ hflight))
    · exact hd
  held hflight := by
    have hflight' : s.pc.flight := ht.flight ▸ hflight
    obtain ⟨k, hk, hid⟩ := h.held hflight'
    refine ⟨k, by rw [ht.book, hk], ?_⟩
    rcases hid with hd | hid
    · exact .inl (ht.doomed hd)
    · by_cases hdeals : s.pc.deals
      · exact .inl (ht.doomed (h.stuck hdeals hflight'))
      · rw [ht.mealID hflight' hdeals, ht.userAct.mealCnt]
        exact .inr hid
  pays hpays hc := by
    rw [ht.userAct.cancle]
    rw [ht.current] at hc
    rcases ht.pays hpays with hp | ⟨-, hw⟩
    · exact h.pays hp hc
    · rw [hc] at hw; cases hw
  find hpc := by
    rw [ht.current]
    exact (ht.find hpc).elim h.find id

/-- Where no meal is on its way and no payment is waiting, nothing has to be known. -/
lemma Flow.of_plain (hf : s.pc.flight = false) (hp : s.pc.pays = false) (hfind : s.pc ≠ .find) :
    s.Flow where
  stuck _ h := by rw [hf] at h; cases h
  held h := by rw [hf] at h; cases h
  pays h := by rw [hp] at h; cases h
  find h := absurd h hfind

/-- Without an error of the arm, messages are dealt with while no meal is on its way. -/
lemma Flow.not_flight (h : s.Flow) (hdeals : s.pc.deals) (hd : ¬ s.pc.doomed) :
    s.pc.flight = false := by
  by_contra hf
  exact hd (h.stuck hdeals (by simpa using hf))

/-- A message of the screen. -/
lemma Flow.screen (h : s.Flow) (hpc : s.pc.deals) (ht : t.pc = s.pc)
    (hb : t.book.lastFind = s.book.lastFind)
    (hc : t.current = .hpperOut → t.userAct.cancle ≠ 0 ∨
      s.current = .hpperOut ∧ t.userAct.cancle = s.userAct.cancle) : t.Flow where
  stuck := by rw [ht]; exact h.stuck
  held hf := by
    rw [ht] at hf ⊢
    obtain ⟨k, hk, -⟩ := h.held hf
    exact ⟨k, hb.trans hk, .inl (h.stuck hpc hf)⟩
  pays hp hcur := by
    rw [ht] at hp
    rcases hc hcur with h1 | ⟨h1, h2⟩
    · exact h1
    · rw [h2]; exact h.pays hp h1
  find hfind := by
    rw [ht] at hfind
    rw [hfind] at hpc
    cases hpc

/-- `ClearUserBuffer` keeps what is known. -/
lemma Flow.clear (h : s.Flow) : s.clearUserBuffer.Flow where
  stuck := h.stuck
  held hf := by
    obtain ⟨k, hk, -⟩ := h.held hf
    exact ⟨k, hk, .inr (.inl rfl)⟩
  pays := h.pays
  find := h.find

/-- Case 5 lowers a counter that is above 0, if it lowers one at all. -/
lemma Flow.counter_pos (h : s.Flow) (hpc : s.pc = .count) {k : Kind}
    (hk : Kind.ofID s.userAct.mealID = some k) : 1 ≤ (s.userAct.mealCnt k).toNat := by
  obtain ⟨j, -, hd | h0 | ⟨hid, hpos⟩⟩ := h.held (by rw [hpc]; rfl)
  · rw [hpc] at hd
    cases hd
  · rw [h0] at hk
    cases hk
  · obtain rfl : j = k := Kind.id_injective (hid.symm.trans (Kind.ofID_eq_some hk))
    exact hpos

end Session

/-- Every move keeps what is known. -/
lemma Session.Flow.move {s : Machine} {e : Event} {t : Session} (h : s.session.Flow)
    (hm : Move s e t) : t.Flow := by
  cases hm with
  | calm ht => exact h.calm ht
  | coin => exact ⟨h.stuck, h.held, h.pays, h.find⟩
  | expire => exact h.clear
  | put hpc =>
    refine h.screen hpc (by simp) (by simp) fun hc => .inr ⟨by simpa using hc, ?_⟩
    rw [Session.putIntoShopCart_userAct]
    exact s.session.userAct.putIntoShopCart_money.2.2.2.2.2.2
  | enter hpc =>
    exact h.screen hpc (Session.putIntoShopCart_pc _)
      (congrArg Book.lastFind (Session.putIntoShopCart_book _)) (by rintro ⟨⟩)
  | drop hpc => exact h.screen hpc rfl rfl (by rintro ⟨⟩)
  | column hpc => exact h.screen hpc rfl rfl fun hc => .inr ⟨hc, rfl⟩
  | recalc hpc => exact h.screen hpc rfl rfl fun hc => .inr ⟨hc, rfl⟩
  | cancel hpc => exact h.screen hpc rfl rfl fun _ => .inl (by simp [Session.cancelPayment])
  | record hpc =>
    refine h.screen hpc rfl rfl fun hc => .inr ⟨hc, ?_⟩
    rw [Session.displayUserRecord, s.session.userAct.displayUserRecord_eq]
  | bill hpc hc h3 hv h0 =>
    refine ⟨by rintro ⟨⟩, by rintro ⟨⟩, fun _ hc' => ?_, by rintro ⟨⟩⟩
    rw [Session.readBills_of_ne h0] at hc'
    cases hc.symm.trans hc'
  | enough hpc hc =>
    refine ⟨by rintro ⟨⟩, by rintro ⟨⟩, fun _ hc' => ?_, by rintro ⟨⟩⟩
    cases hc.symm.trans hc'
  | request hpc =>
    exact ⟨by rintro ⟨⟩, by rintro ⟨⟩, fun _ hc => h.pays (by rw [hpc]; rfl) hc, by rintro ⟨⟩⟩
  | cardPaid hpc =>
    exact ⟨by rintro ⟨⟩, by rintro ⟨⟩, fun _ hc => h.pays (by rw [hpc]; rfl) hc, by rintro ⟨⟩⟩
  | found hpc hk hp =>
    exact ⟨by rintro ⟨⟩, fun _ => ⟨_, rfl, .inr (.inr ⟨rfl, UserSelection.firstKind_pos hk⟩)⟩,
      by rintro ⟨⟩, by rintro ⟨⟩⟩
  | @abnormalEnd io e ret hpc =>
    have hf : (Pc.resume ret).flight = s.session.pc.flight := by rw [hpc]; rfl
    have hp : (Pc.resume ret).pays = s.session.pc.pays := by rw [hpc]; rfl
    split_ifs with he
    · refine ⟨by rintro ⟨⟩, fun hflight => ?_, fun hpays => h.clear.pays (hp ▸ hpays), by rintro ⟨⟩⟩
      obtain ⟨k, hk, -⟩ := h.held (hf ▸ hflight)
      exact ⟨k, hk, .inr (.inl rfl)⟩
    · refine ⟨by rintro ⟨⟩, fun hflight => ?_, fun hpays => h.pays (hp ▸ hpays), by rintro ⟨⟩⟩
      have hno := h.not_flight (by rw [hpc]; rfl) (by simp [hpc, Pc.doomed, he])
      cases hno.symm.trans (hf ▸ hflight)
  | timeout | statusOk | payOut | serve | toErro | idle | takeAfter | takeError | takeOut
  | uploaded | polled => exact .of_plain rfl rfl (by rintro ⟨⟩)

/-! ## Power-up -/

section PowerUp

variable (bkp : Fin 20 → UInt32) (flash : Floor → FloorAttribute) (io : Io)

/-- The session after power-up: what was saved is there again, or was cleared because no
error is recorded. -/
lemma powerUp_session : (powerUp bkp flash io).session =
    let s := (Machine.reset bkp).readUserData.session
    if (bkp 13).toInt32 = 0 then s.clearUserBuffer
    else if (bkp 13).toInt32 &&& bit 0 = 0 then s else s.goto (.abnormal 0 .start) := by
  rw [powerUp, Machine.hardfawreInit]
  by_cases h : (bkp 13).toInt32 = 0
  · simp [h, Machine.readUserData, Machine.readCoins, Machine.reset]
  · by_cases h0 : (bkp 13).toInt32 &&& bit 0 = 0
    · simp [h, h0, Machine.readUserData, Machine.readCoins, Machine.reset]
    · simp [h, h0, Machine.readUserData, Machine.readCoins, Machine.reset, Machine.abnormalHandle,
        outageErro, xTimeout]

/-- After power-up the machine is idle, with nothing in the book. -/
lemma powerUp_start :
    let s := (powerUp bkp flash io).session
    s.current = .currentTemperature ∧ s.currentPoint = .p1 ∧ s.book = Book.empty ∧
      s.pc.flight = false ∧ s.pc.pays = false ∧ s.pc ≠ .find := by
  dsimp only
  rw [powerUp_session]
  dsimp only
  split_ifs <;> exact ⟨rfl, rfl, rfl, rfl, rfl, nofun⟩

lemma Session.Flow.powerUp : (powerUp bkp flash io).session.Flow :=
  have h := powerUp_start bkp flash io
  .of_plain h.2.2.2.1 h.2.2.2.2.1 h.2.2.2.2.2

end PowerUp

end MealVendor
