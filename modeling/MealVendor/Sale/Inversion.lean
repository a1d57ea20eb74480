import MealVendor.Sale.Move

/-!
# Every step is a move

The functions of the model one by one: which moves they make.
-/

namespace MealVendor

open Session

variable {s : Machine} {f : Frame} {io : Io}

/-- A step that leaves the session alone. -/
lemma Move.still {e : Event} {t : Session} (h : t = s.session) : Move s e t := h ▸ .calm (.refl _)

namespace Machine

/-! ## Interrupts -/

lemma coinIn_move : Move s .coinIn s.coinIn.session := by
  simp only [coinIn, writeCoins_session]
  split_ifs with hcnt
  · exact .coin hcnt
  · exact .still rfl

lemma tim3_move (h : s.timers.tim3) : Move s .tim3 s.tim3.session := by
  rw [tim3]
  split_ifs with hw
  · exact .still rfl
  · exact .expire h (by simpa using hw)

lemma usart6_move (b : UInt8) : Move s (.usart6 b) (s.usart6 b).session := by
  unfold usart6
  dsimp only
  split_ifs
  · exact .calm ((Calm.refl _).emit rfl)
  · exact .still rfl

/-! ## Messages of the screen -/

lemma mealChoose_calm (hpc : s.session.pc.deals) (d : UInt8) :
    s.session.Calm (s.mealChoose d).session := by
  unfold mealChoose
  dsimp only
  split
  · split_ifs
    · exact .edit ⟨rfl, rfl, rfl, rfl, rfl, rfl, rfl, rfl⟩ (fun _ h => absurd hpc h) (.inr hpc)
    · exact .refl _
  · exact .refl _

lemma count_calm (hpc : s.session.pc.deals) (k : Kind) (d : UInt8) :
    s.session.Calm (s.count k d).session := by
  rw [count]
  split_ifs
  · have hd : s.session.Calm { s.session with userAct := s.session.userAct.draft k d } :=
      .edit ⟨rfl, rfl, rfl, rfl, rfl, rfl, rfl, rfl⟩ (fun _ _ => rfl) (.inr hpc)
    exact hd.emit rfl
  · exact .edit ⟨rfl, rfl, rfl, rfl, rfl, rfl, rfl, rfl⟩ (fun _ _ => rfl) (.inr hpc)

lemma billPrint_calm (d : UInt8) : s.session.Calm (s.billPrint d).session := by
  rw [billPrint]
  split_ifs
  · exact .edit ⟨rfl, rfl, rfl, rfl, rfl, rfl, rfl, rfl⟩ (fun _ _ => rfl) (.inl rfl)
  · exact .refl _

lemma enterCart_session (h : 0 < s.session.userAct.putIntoShopCart.mealTotoal) :
    s.enterCart.session = s.session.enterCart := by
  rw [enterCart]
  simp only [onSession_session, putIntoShopCart_userAct, h, if_true, onTimers_session,
    settleAccounts]
  rfl

lemma mealcntChoose_move (hpc : s.session.pc.deals) (hf : f.variable = some .mealcntChoose) :
    Move s (.screen f io) (s.mealcntChoose f.data1).session := by
  rw [mealcntChoose]
  split_ifs with h2 h3 h4
  · exact .put hpc hf (.inl h2)
  · by_cases ht : 0 < s.session.userAct.putIntoShopCart.mealTotoal
    · rw [enterCart_session ht]
      exact .enter hpc hf h3 ht
    · rw [enterCart]
      simp only [onSession_session, putIntoShopCart_userAct, ht, if_false]
      exact .put hpc hf (.inr ⟨h3, ht⟩)
  · exact .drop hpc hf h4
  · exact .still rfl

lemma column_move (hpc : s.session.pc.deals) {i : Fin 4} (hf : f.variable = some (.column i)) :
    Move s (.screen f io) (s.column i f.data1).session := by
  unfold column
  dsimp only
  cases hk : Kind.ofID (s.dispMeal i).mealId with
  | none =>
    refine .recalc hpc hf fun k hk' => ?_
    rw [hk] at hk'
    cases hk'
  | some k =>
    dsimp only
    split_ifs with hd
    · exact .column hpc hf hk hd
    · refine .recalc hpc hf fun k' hk' => ?_
      obtain rfl : k = k' := Option.some.inj (hk.symm.trans hk')
      exact hd

lemma paymentMethod_move (hpc : s.session.pc.deals) (hf : f.variable = some .paymentMethod) :
    Move s (.screen f io) (s.paymentMethod f.data1).session := by
  have hcopy : s.session.Calm { s.session with userAct := s.session.userAct.acountCopy } :=
    .edit ⟨rfl, rfl, rfl, rfl, rfl, rfl, rfl, rfl⟩ (fun _ _ => rfl) (.inr hpc)
  unfold paymentMethod
  dsimp only
  split_ifs with h0 h1 h2 h3 h4
  · exact .cancel hpc hf (.inl h0)
  · exact .calm (hcopy.setPoint .p2 nofun)
  · exact .calm (hcopy.setPoint .p7 nofun)
  · exact .calm (hcopy.setPoint .p8 nofun)
  · exact .cancel hpc hf (.inr h4)
  · exact .calm hcopy

lemma password_move (hpc : s.session.pc.deals) (hf : f.variable = some .password) :
    Move s (.screen f io) (s.password f.data1).session := by
  rw [password]
  by_cases h11 : f.data1 = 0x11
  · rw [h11]
    have h : Move s (.screen f io) s.confirmPassWord.session := by
      rw [confirmPassWord]
      dsimp only
      split_ifs with hp he ha
      · exact .still rfl
      · exact .still rfl
      · exact .record hpc ⟨hf, h11, ha⟩
      · exact .still rfl
    simpa using h
  · simp only [h11, if_false]
    refine .still ?_
    split_ifs <;> rfl

/-- A message of the screen. -/
lemma changeVariableValues_move (hpc : s.session.pc.deals) :
    Move s (.screen f io) (s.changeVariableValues f io).session := by
  rw [changeVariableValues]
  cases hf : f.variable with
  | none => exact .still rfl
  | some v =>
    cases v with
    | mealChoose => exact .calm (mealChoose_calm hpc _)
    | mealcntChoose => exact mealcntChoose_move hpc hf
    | paymentMethod => exact paymentMethod_move hpc hf
    | billPrint => exact .calm (billPrint_calm _)
    | password => exact password_move hpc hf
    | adminSet =>
      refine .still ?_
      dsimp only [adminSet]
      split_ifs <;> rfl
    | row => exact .still rfl
    | floorNum => exact .still rfl
    | mealNum => exact .still rfl
    | mealinputChoose =>
      refine .still ?_
      dsimp only [mealinputChoose]
      split_ifs <;> rfl
    | tempratureSet => exact .calm ((Calm.refl _).emit rfl)
    | count k => exact .calm (count_calm hpc k _)
    | column i => exact column_move hpc hf
    | coinsIn => exact .still rfl
    | coinsKey => exact .still rfl
    | caedbalenceCancel => exact .still rfl
    | recordClear =>
      refine .still ?_
      dsimp only [recordClear]
      split_ifs <;> rfl

/-! ## Errors -/

/-- A call of `AbnormalHandle`. -/
lemma abnormalHandle_calm {e : ℕ} {ret : Ret} (hd : ¬ s.session.pc.doomed)
    (hf : ret.flight = s.session.pc.flight) (he : ret.flight → xTimeout ≤ e)
    (hp : ret.pays →
      s.session.pc.pays ∨ s.session.pc = .switch ∧ s.session.current = .waitforMoney) :
    s.session.Calm (s.abnormalHandle e ret).session := by
  rw [abnormalHandle]
  dsimp only
  split_ifs with h1 h2
  · exact (Calm.refl _).goto hf (absurd · hd) (by rintro ⟨⟩) hp (by rintro ⟨⟩)
  · exact (Calm.emit (.refl _) rfl).goto hf (absurd · hd)
      (fun _ h => .inr (by simpa [Pc.doomed] using he h)) hp (by rintro ⟨⟩)
  · exact (Calm.refl _).goto hf (absurd · hd)
      (fun _ h => .inr (by simpa [Pc.doomed] using he h)) hp (by rintro ⟨⟩)

/-- `manageusart6data` and what comes after it. -/
lemma manageusart6data_move {ret : Ret} {k : Machine → Machine} (hd : ¬ s.session.pc.doomed)
    (hf : ret.flight = s.session.pc.flight)
    (hp : ret.pays →
      s.session.pc.pays ∨ s.session.pc = .switch ∧ s.session.current = .waitforMoney)
    (hk : ∀ s' : Machine, s'.session = s.session → Move s (.go io) (k s').session) :
    Move s (.go io) (s.manageusart6data ret k).session := by
  refine manageusart6data_cases (P := fun s' => Move s (.go io) s'.session) rfl
    (fun _ e he => ?_) (fun _ => hk _ rfl) fun _ => hk s rfl
  exact .calm <| abnormalHandle_calm (s := { s with arm.usart6DataFlag := false }) hd hf
    (fun _ => le_of_armError he) hp

/-- The rest of `PollAbnormalHandle`. -/
lemma pollAbnormalHandle_move {i : ℕ}
    (hpc : s.session.pc = .switch ∧ s.session.current = .erroHanle ∨
      ∃ i, s.session.pc = .resume (.poll i)) :
    Move s (.go io) (s.pollAbnormalHandle i).session := by
  rw [pollAbnormalHandle]
  split
  · refine .calm (abnormalHandle_calm ?_ ?_ nofun nofun)
    all_goals rcases hpc with ⟨h, -⟩ | ⟨i, h⟩ <;> rw [h] <;> simp [Pc.doomed, Pc.flight, Ret.flight]
  · exact .polled hpc

/-! ## Taking the money -/

lemma payTail_move (hpc : s.session.pc = .payTail) : Move s (.go io) s.payTail.session := by
  rw [payTail]
  split_ifs with hw
  · exact .timeout hpc hw
  · exact .calm ((Calm.refl _).leadsTo hpc rfl)

/-- A card payment that does not go through. -/
lemma cardEnd_none_calm {p : Pc} (hpc : s.session.pc = p) (hp : p.leadsTo .payTail) :
    s.session.Calm (s.cardEnd none).session := by
  have hu : s.session.Calm
      { s.session with userAct := { s.session.userAct with payType := 0 } } :=
    .edit ⟨rfl, rfl, rfl, rfl, rfl, rfl, rfl, rfl⟩ (fun _ _ => rfl) (.inl rfl)
  exact (hu.setPoint .p1 nofun).leadsTo hpc hp

lemma cardRead_move {szt : Bool} {money : ℤ} {cnt : ℕ}
    (hpc : s.session.pc = .cardRead szt money cnt) :
    Move s (.go io) (s.cardRead szt money cnt io).session := by
  rw [cardRead]
  split_ifs with hok hm hc
  · exact .request hpc hok hm
  · exact .calm (cardEnd_none_calm hpc rfl)
  · exact .calm (cardEnd_none_calm (s := { s with cardbalenceCancelFlag := false }) hpc rfl)
  · exact .calm ((Calm.refl _).leadsTo hpc rfl)

lemma cardDeal_move {szt : Bool} {money : ℤ} {cnt : ℕ}
    (hpc : s.session.pc = .cardDeal szt money cnt) :
    Move s (.go io) (s.cardDeal szt money cnt).session := by
  rw [cardDeal]
  split_ifs
  · exact .calm (cardEnd_none_calm (s := { s with cardbalenceCancelFlag := false }) hpc rfl)
  · exact .calm ((Calm.refl _).leadsTo hpc rfl)
  · exact .calm (cardEnd_none_calm hpc rfl)

lemma cardDeduct_move {szt : Bool} {money : ℤ} (hpc : s.session.pc = .cardDeduct szt money) :
    Move s (.go io) (s.cardDeduct money io).session := by
  rw [cardDeduct]
  split_ifs with hok
  · exact .cardPaid hpc hok
  · exact .calm (cardEnd_none_calm hpc rfl)

/-- The pay type is not part of the sale. -/
lemma payType_calm (c : Char) : s.session.Calm (s.payType c).session :=
  .edit ⟨rfl, rfl, rfl, rfl, rfl, rfl, rfl, rfl⟩ (fun _ _ => rfl) (.inl rfl)

lemma waitPayMoney_move (hpc : s.session.pc = .switch) (hc : s.session.current = .waitforMoney)
    {s' : Machine} (hs : s' = s.saveUserData) :
    Move s (.go io) (s'.waitPayMoney io).session := by
  have hss : s'.session = s.session := by rw [hs, saveUserData_session]
  have hr : s.session.Calm s'.session := hss ▸ .refl _
  have hcash : s.session.Calm (s'.payType '1').session := by
    have := payType_calm (s := s') '1'
    rwa [hss] at this
  rw [waitPayMoney]
  cases h : s'.session.currentPoint with
  | p0 => exact .calm (hr.enterPay hpc hc rfl (by rintro ⟨⟩))
  | p1 =>
    dsimp only
    split_ifs
    · exact .calm ((hcash.setPoint .p3 (by rintro ⟨⟩)).enterPay hpc hc rfl (by rintro ⟨⟩))
    · exact .calm (hr.enterPay hpc hc rfl (by rintro ⟨⟩))
  | p2 => exact .calm ((hcash.setPoint .p3 (by rintro ⟨⟩)).enterPay hpc hc rfl (by rintro ⟨⟩))
  | p3 =>
    dsimp only
    split_ifs with hb
    · refine .calm ?_
      rw [← hss]
      refine abnormalHandle_calm ?_ ?_ (by rintro ⟨⟩) fun _ => .inr ?_
      · rw [hss, hpc]; exact (by rintro ⟨⟩)
      · rw [hss, hpc]; rfl
      · rw [hss]; exact ⟨hpc, hc⟩
    · by_cases h0 : io.bill.value = 0
      · have : (s'.onSession (readBills io.bill.value)).session =
            { s'.session with currentPoint := .p5 } := by
          simp [readBills, h0]
        rw [goto_session, this]
        exact .calm ((hr.setPoint .p5 (by rintro ⟨⟩)).enterPay hpc hc rfl (by rintro ⟨⟩))
      · rw [goto_session, onSession_session, hss]
        exact .bill hpc hc (hss ▸ h) rfl h0
  | p5 => exact .calm ((hr.setPoint .p6 (by rintro ⟨⟩)).enterPay hpc hc rfl (by rintro ⟨⟩))
  | p6 =>
    dsimp only
    by_cases he : s'.session.userAct.enough
    · rw [if_pos he, nextPoint, goto_session, onSession_session, hss]
      exact .enough hpc hc (hss ▸ h) (hss ▸ he)
    · rw [if_neg he]
      exact .calm ((hr.setPoint .p3 (by rintro ⟨⟩)).enterPay hpc hc rfl (by rintro ⟨⟩))
  | p7 | p8 =>
    have := payType_calm (s := s'.onTimers Timers.waitTimeInit)
    simp only [onTimers_session, hss] at this
    exact .calm ((this _).enterPay hpc hc rfl (by rintro ⟨⟩))
  | p9 =>
    have : s'.statusOk.session = s.session.statusOk.goto .deal := by
      rw [statusOk]
      dsimp only
      rw [goto_session]
      split_ifs <;> simp [hss]
    dsimp only
    rw [this]
    exact .statusOk hpc hc (hss ▸ h)

/-! ## Taking out the meals -/

/-- One round of an `Order…` function, given what comes after it. -/
lemma waitOrder_move {c : Command} {r : ℕ} {again : ℕ → Pc} {done fail : Machine → Machine}
    {p : Pc} (hpc : s.session.pc = p) (hagain : ∀ r, p.leadsTo (again r))
    (hdone : ∀ s' : Machine, s'.session = s.session → Move s (.go io) (done s').session)
    (hfail : ∀ s' : Machine, s.session.Calm s'.session → Move s (.go io) (fail s').session) :
    Move s (.go io) (s.waitOrder c r again done fail).session :=
  waitOrder_cases (P := fun s' => Move s (.go io) s'.session) rfl (hdone _ rfl)
    (hfail _ (.refl _)) (hfail _ ((Calm.refl _).emit rfl))
    (fun r => .calm (((Calm.refl _).emit rfl).leadsTo hpc (hagain r))) (.still rfl)

/-- `WaitMeal` gives up. -/
lemma takemealErro_move {s' : Machine} {e : ℕ} (hf : s.session.pc.flight)
    (hd : ¬ s.session.pc.doomed) (hs : s.session.Calm s'.session) :
    Move s (.go io) (s'.takemealErro e).session :=
  .takeError hf hd hs

/-- A command and the next piece of the program. -/
lemma order_calm {s' : Machine} {c : Command} {p q : Pc} (hs : s'.session = s.session)
    (hpc : s.session.pc = p) (hq : p.leadsTo q) :
    s.session.Calm ((s'.order c).goto q).session := by
  have : ((s'.order c).goto q).session = (s.session.emit (.command c)).goto q := by
    simp [order, hs]
  rw [this]
  exact ((Calm.refl _).emit rfl).leadsTo hpc hq

/-- The next piece of the program, with nothing else. -/
lemma goto_calm {s' : Machine} {p q : Pc} (hs : s'.session = s.session)
    (hpc : s.session.pc = p) (hq : p.leadsTo q) : s.session.Calm (s'.goto q).session := by
  rw [goto_session, hs]
  exact (Calm.refl _).leadsTo hpc hq

lemma find_move (hpc : s.session.pc = .find) : Move s (.go io) s.find.session := by
  rw [find]
  cases hk : s.session.userAct.firstKind with
  | none => exact .takeAfter hpc hk
  | some k =>
    dsimp only
    cases hp : s.stock.findMeal k with
    | none =>
      exact .calm <| .edit ⟨rfl, rfl, rfl, rfl, rfl, rfl, rfl, rfl⟩
        (fun h => by rw [hpc] at h; cases h) (.inl rfl)
    | some p => exact .found hpc hk hp

lemma take_move (hpc : s.session.pc = .take) : Move s (.go io) (s.take io).session := by
  rw [take]
  split
  · exact .calm (order_calm rfl hpc rfl)
  · exact .still rfl

lemma coord_move {r : ℕ} (hpc : s.session.pc = .coord r) :
    Move s (.go io) (s.coord r).session := by
  rw [coord]
  split
  · refine waitOrder_move hpc (fun _ => rfl) (fun s' hs => ?_) fun s' hs => ?_
    · exact .calm (goto_calm hs hpc rfl)
    · exact takemealErro_move (by rw [hpc]; rfl) (by rw [hpc]; exact nofun) hs
  · exact .still rfl

lemma goalCheck_move {s' : Machine} {p : Pc} (hpc : s.session.pc = p)
    (hs : s'.session = s.session) (hgoal : p.leadsTo .goal) (hget : p.leadsTo (.getMeal 0)) :
    Move s (.go io) s'.goalCheck.session := by
  rw [goalCheck]
  split_ifs
  · exact .calm (order_calm hs hpc hget)
  · exact .calm (goto_calm hs hpc hgoal)

lemma goal_move (hpc : s.session.pc = .goal) : Move s (.go io) s.goal.session := by
  rw [goal]
  split_ifs
  · exact takemealErro_move (by rw [hpc]; rfl) (by rw [hpc]; exact nofun) (.refl _)
  · exact manageusart6data_move (by rw [hpc]; exact nofun) (by rw [hpc]; rfl) nofun
      fun s' hs => goalCheck_move hpc hs rfl rfl

lemma getMeal_move {r : ℕ} (hpc : s.session.pc = .getMeal r) :
    Move s (.go io) (s.getMeal r).session := by
  rw [getMeal]
  refine waitOrder_move hpc (fun _ => rfl) (fun s' hs => ?_) fun s' hs => ?_
  · exact .calm (goto_calm hs hpc rfl)
  · exact takemealErro_move (by rw [hpc]; rfl) (by rw [hpc]; exact nofun) hs

lemma doorCheck_move {s' : Machine} {p : Pc} (hpc : s.session.pc = p)
    (hs : s'.session = s.session) (hp : p.flight ∧ ¬ p.doomed) (hdoor : p.leadsTo .door)
    (haway : p.leadsTo .away) : Move s (.go io) s'.doorCheck.session := by
  rw [doorCheck]
  split_ifs
  · exact .calm (goto_calm hs hpc haway)
  · exact takemealErro_move (hpc ▸ hp.1) (hpc ▸ hp.2) (hs ▸ .refl _)
  · exact .calm (goto_calm hs hpc hdoor)

lemma door_move (hpc : s.session.pc = .door) : Move s (.go io) s.door.session := by
  rw [door]
  split_ifs
  · exact takemealErro_move (by rw [hpc]; rfl) (by rw [hpc]; exact nofun) (.refl _)
  · exact manageusart6data_move (by rw [hpc]; exact nofun) (by rw [hpc]; rfl) nofun
      fun s' hs => doorCheck_move hpc hs ⟨rfl, nofun⟩ rfl rfl

lemma awayCheck_move {s' : Machine} {p : Pc} (hpc : s.session.pc = p)
    (hs : s'.session = s.session) (haway : p.leadsTo .away) (hcount : p.leadsTo .count) :
    Move s (.go io) s'.awayCheck.session := by
  rw [awayCheck]
  split_ifs
  · exact .calm (goto_calm hs hpc hcount)
  · exact .calm (goto_calm hs hpc hcount)
  · exact .calm (goto_calm hs hpc haway)

lemma away_move (hpc : s.session.pc = .away) : Move s (.go io) s.away.session := by
  rw [away]
  split_ifs
  · exact takemealErro_move (by rw [hpc]; rfl) (by rw [hpc]; exact nofun) (.refl _)
  · exact manageusart6data_move (by rw [hpc]; exact nofun) (by rw [hpc]; rfl) nofun
      fun s' hs => awayCheck_move hpc hs rfl rfl

/-! ## The main program -/

lemma hpperOut_move (hpc : s.session.pc = .switch) (hc : s.session.current = .hpperOut) :
    Move s (.go io) (s.hpperOut io).session := by
  rw [hpperOut]
  dsimp only
  split_ifs with hm hsent h0 he
  · exact .payOut hpc hc hm rfl
  · exact .payOut hpc hc hm rfl
  · exact .serve hpc hc hm h0
  · exact .toErro hpc hc hm h0
  · exact .idle hpc hc hm h0

lemma idleTail_move {s' : Machine} {p : Pc} (hpc : s.session.pc = p)
    (hs : s.session.Calm s'.session) (hp : p.leadsTo .deal) :
    Move s (.go io) s'.idleTail.session := by
  rw [idleTail]
  rw [goto_session]
  split_ifs <;> exact .calm (hs.leadsTo hpc hp)

lemma switch_move (hpc : s.session.pc = .switch) : Move s (.go io) (s.switch io).session := by
  rw [switch]
  cases hc : s.session.current with
  | currentTemperature =>
    dsimp only
    split_ifs
    · exact .calm (order_calm rfl hpc rfl)
    · exact idleTail_move hpc (.refl _) rfl
  | waitforMoney => exact waitPayMoney_move hpc hc rfl
  | hpperOut => exact hpperOut_move hpc hc
  | mealOut =>
    rw [goto_session, saveUserData_session]
    exact .calm ((Calm.refl _).enterMeal hpc hc)
  | dataUpload => exact .uploaded hpc hc
  | erroHanle => exact pollAbnormalHandle_move (.inl ⟨hpc, hc⟩)

lemma check_move {n : ℕ} (hpc : s.session.pc = .check n) :
    Move s (.go io) (s.check n io).session := by
  have hs : (if n = 4 then s.resetCoinsCount else s).session = s.session := by split_ifs <;> rfl
  unfold check
  dsimp only
  split
  · refine .calm ?_
    rw [← hs]
    refine abnormalHandle_calm ?_ ?_ nofun nofun <;> rw [hs, hpc]
    · exact nofun
    · rfl
  · refine .calm (goto_calm hs hpc ?_)
    rw [nextCheck]
    split_ifs <;> rfl

lemma initCheck_move {s' : Machine} {p : Pc} (hpc : s.session.pc = p)
    (hs : s'.session = s.session) (hcheck : p.leadsTo (.check 0)) (hwait : p.leadsTo .initWait) :
    Move s (.go io) s'.initCheck.session := by
  rw [initCheck]
  split_ifs
  · exact .calm (goto_calm hs hpc hcheck)
  · exact .calm (goto_calm hs hpc hwait)

/-- The beginning of `OrderSendLink` in `OnlymachieInit`. -/
lemma initLink_move {s' : Machine} {p : Pc} (hpc : s.session.pc = p)
    (hs : s.session.Calm s'.session) (hp : p.leadsTo (.initLink 0)) :
    Move s (.go io) s'.initLink.session := by
  have : s'.initLink.session = (s'.session.emit (.command .sendLink)).goto (.initLink 0) := by
    simp [initLink, order]
  rw [this]
  exact .calm ((hs.emit rfl).leadsTo hpc hp)

lemma resume_move {ret : Ret} (hpc : s.session.pc = .resume ret) :
    Move s (.go io) (s.resume ret).session := by
  cases ret with
  | start => exact initLink_move hpc (.refl _) rfl
  | init => exact initCheck_move hpc rfl rfl rfl
  | check n =>
    refine .calm (goto_calm rfl hpc ?_)
    rw [nextCheck]
    split_ifs <;> rfl
  | main => exact .calm (goto_calm rfl hpc rfl)
  | bill => exact .calm (((Calm.refl _).setPoint .p5 nofun).leadsTo hpc rfl)
  | goal => exact goalCheck_move hpc rfl rfl rfl
  | door => exact doorCheck_move hpc rfl ⟨rfl, nofun⟩ rfl rfl
  | away => exact awayCheck_move hpc rfl rfl rfl
  | poll i => exact pollAbnormalHandle_move (.inr ⟨i, hpc⟩)

lemma abnormalEnd_move {e : ℕ} {ret : Ret} (hpc : s.session.pc = .abnormal e ret)
    (h0 : s.erroFlag = 0) : Move s (.go io) (s.abnormalEnd e ret).session := by
  have : (s.abnormalEnd e ret).session =
      (if xTimeout ≤ e then s.session.clearUserBuffer else s.session).goto (.resume ret) := by
    rw [abnormalEnd]
    dsimp only
    split_ifs <;> simp
  rw [this]
  exact .abnormalEnd hpc h0

/-- The next piece of the main program. -/
lemma go_move : Move s (.go io) (s.go io).session := by
  rw [go]
  cases hpc : s.session.pc with
  | initLink r =>
    exact waitOrder_move hpc (fun _ => rfl) (fun s' hs => .calm (order_calm hs hpc rfl))
      fun s' hs => initLink_move hpc hs rfl
  | initOrder r =>
    exact waitOrder_move hpc (fun _ => rfl) (fun s' hs => .calm (goto_calm hs hpc rfl))
      fun s' hs => initLink_move hpc hs rfl
  | initWait =>
    exact manageusart6data_move (by rw [hpc]; exact nofun) (by rw [hpc]; rfl) nofun
      fun s' hs => initCheck_move hpc hs rfl rfl
  | check n => exact check_move hpc
  | deal =>
    exact manageusart6data_move (by rw [hpc]; exact nofun) (by rw [hpc]; rfl) nofun
      fun s' hs => .calm (goto_calm hs hpc rfl)
  | switch => exact switch_move hpc
  | link r =>
    exact waitOrder_move hpc (fun _ => rfl) (fun s' hs => idleTail_move hpc (hs ▸ .refl _) rfl)
      fun s' hs => idleTail_move hpc hs rfl
  | cardRead szt money cnt => exact cardRead_move hpc
  | cardDeal szt money cnt => exact cardDeal_move hpc
  | cardDeduct szt money => exact cardDeduct_move hpc
  | payTail => exact payTail_move hpc
  | find => exact find_move hpc
  | take => exact take_move hpc
  | coord r => exact coord_move hpc
  | goal => exact goal_move hpc
  | getMeal r => exact getMeal_move hpc
  | door => exact door_move hpc
  | away => exact away_move hpc
  | count => exact .takeOut hpc
  | abnormal e ret =>
    dsimp only
    split_ifs with h0
    · exact abnormalEnd_move hpc h0
    · exact .still rfl
  | resume ret => exact resume_move hpc

end Machine

/-- Every step of the machine is one of the moves. -/
theorem step_move {e : Event} {s' : Machine} (h : step s e = some s') : Move s e s'.session := by
  cases e with
  | coinIn => cases h; exact Machine.coinIn_move
  | coinOut => cases h; exact .still rfl
  | tim3 =>
    obtain ⟨ht, rfl⟩ := step_tim3 h
    exact Machine.tim3_move ht
  | tim4 =>
    obtain rfl := step_tim4 h
    exact .still rfl
  | tim5 => cases h; exact .still rfl
  | tim7 =>
    obtain rfl := step_tim7 h
    exact .still rfl
  | pvd =>
    cases h
    exact .still (Machine.saveUserData_session _)
  | usart6 b => cases h; exact Machine.usart6_move b
  | screen f io =>
    obtain ⟨hpc, rfl⟩ := step_screen h
    exact Machine.changeVariableValues_move hpc
  | go io => cases h; exact Machine.go_move

end MealVendor
