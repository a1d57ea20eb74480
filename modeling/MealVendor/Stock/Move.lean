import MealVendor.Model.Main

/-!
# What a step can do to the stock

The stock changes in case 0 and case 1 of `WaitMeal` and with the messages of the
administrator; everything else keeps it.  `step_stock` says that `StockMove` lists all
there is.
-/

namespace MealVendor

variable {s : Machine} {f : Frame} {io : Io}

/-- The stock is kept, and the program does not go on at case 1 of `WaitMeal` unless it was
there before; `MealID` can only be cleared there. -/
structure Machine.KeepsStock (s t : Machine) : Prop where
  stock : t.stock = s.stock
  take : t.session.pc = .take → s.session.pc = .take ∧
    (t.session.userAct.mealID = s.session.userAct.mealID ∨ t.session.userAct.mealID = 0)

/-- The steps of the machine, as far as the stock is concerned. -/
inductive StockMove (s : Machine) : Event → Machine → Prop
  | keep {e : Event} {t : Machine} (h : s.KeepsStock t) : StockMove s e t
  | edit {f : Frame} {io : Io} {t : Machine} (hpc : s.session.pc.deals) (cur : FloorAttribute)
      (hs : t.stock = { s.stock with curFloor := cur }) (ht : t.session = s.session) :
      StockMove s (.screen f io) t
  | clearAll {f : Frame} {io : Io} {t : Machine} (hpc : s.session.pc.deals)
      (hf : f.variable = some .adminSet) (hd : f.data1 = 2)
      (hs : t.stock = s.stock.clearAll io.flash) (ht : t.session = s.session) :
      StockMove s (.screen f io) t
  | confirm {f : Frame} {io : Io} {t : Machine} (hpc : s.session.pc.deals)
      (hf : f.variable = some .mealinputChoose) (hd : f.data1 = 3)
      (hs : t.stock = s.stock.confirm io.flash) (ht : t.session = s.session) :
      StockMove s (.screen f io) t
  | found {io : Io} {t : Machine} {k : Kind} {l : Floor} {c : Column}
      (hpc : s.session.pc = .find) (hk : s.session.userAct.firstKind = some k)
      (hp : s.stock.findMeal k = some (l, c))
      (hs : t.stock = { s.stock with place := some (l, c) })
      (ht : t.session = (s.session.found k l c).goto .take) : StockMove s (.go io) t
  | notFound {io : Io} {t : Machine} {k : Kind} (hpc : s.session.pc = .find)
      (hk : s.session.userAct.firstKind = some k) (hp : s.stock.findMeal k = none)
      (hs : t.stock = { s.stock with place := none }) (ht : t.session = s.session.notFound k) :
      StockMove s (.go io) t
  | take {io : Io} {t : Machine} {l : Floor} {c : Column} (hpc : s.session.pc = .take)
      (hp : s.stock.place = some (l, c))
      (hs : t.stock = ((s.stock.takeMeal (Kind.ofID s.session.userAct.mealID) l c).writeMeal
        io.flash).statisticsTotal)
      (ht : t.session.pc = .coord 0) : StockMove s (.go io) t

/-- The main program has run on, not to case 1 of `WaitMeal`, with the same stock. -/
structure Machine.Passes (s t : Machine) : Prop where
  stock : t.stock = s.stock
  pc : t.session.pc ≠ .take

namespace Machine

/-- Something that is not about the stock was done before. -/
lemma Passes.of {s' t : Machine} (h : s'.Passes t) (hs : s'.stock = s.stock) : s.Passes t :=
  ⟨h.stock.trans hs, h.pc⟩

lemma Passes.keeps {t : Machine} (h : s.Passes t) : s.KeepsStock t :=
  ⟨h.stock, fun ht => absurd ht h.pc⟩

/-- The session is the same as well. -/
lemma KeepsStock.of_eq {t : Machine} (hs : t.stock = s.stock) (ht : t.session = s.session) :
    s.KeepsStock t :=
  ⟨hs, fun h => by rw [ht] at h ⊢; exact ⟨h, .inl rfl⟩⟩

/-! ## The main program -/

section Program

variable (s)

/-! ### What many pieces share -/

lemma abnormalHandle_passes (e : ℕ) (ret : Ret) : s.Passes (s.abnormalHandle e ret) := by
  rw [abnormalHandle]
  dsimp only
  split_ifs <;> exact ⟨rfl, by rintro ⟨⟩⟩

lemma manageusart6data_passes (ret : Ret) {k : Machine → Machine}
    (hk : ∀ s' : Machine, s'.Passes (k s')) : s.Passes (s.manageusart6data ret k) := by
  refine manageusart6data_cases rfl (fun _ e _ => ?_) (fun _ => (hk _).of rfl) fun _ => hk s
  exact (abnormalHandle_passes _ e ret).of rfl

lemma waitOrder_passes (hpc : s.session.pc ≠ .take) (c : Command) (r : ℕ) {again : ℕ → Pc}
    {done fail : Machine → Machine} (hagain : ∀ r, again r ≠ .take)
    (hdone : ∀ s' : Machine, s'.Passes (done s'))
    (hfail : ∀ s' : Machine, s'.Passes (fail s')) :
    s.Passes (s.waitOrder c r again done fail) :=
  waitOrder_cases rfl ((hdone _).of rfl) ((hfail _).of rfl) ((hfail _).of rfl)
    (fun r => ⟨rfl, hagain r⟩) ⟨rfl, hpc⟩

lemma pollAbnormalHandle_passes (i : ℕ) : s.Passes (s.pollAbnormalHandle i) := by
  rw [pollAbnormalHandle]
  split
  · exact abnormalHandle_passes s _ _
  · exact ⟨rfl, nofun⟩

/-! ### Taking the money -/

lemma payTail_passes : s.Passes s.payTail := by
  rw [payTail]
  split_ifs <;> exact ⟨rfl, nofun⟩

lemma cardEnd_passes (paid : Option ℤ) : s.Passes (s.cardEnd paid) := by
  unfold cardEnd
  cases paid <;> exact ⟨rfl, nofun⟩

lemma cardRead_passes (szt : Bool) (money : ℤ) (cnt : ℕ) :
    s.Passes (s.cardRead szt money cnt io) := by
  rw [cardRead]
  split_ifs
  · exact ⟨rfl, nofun⟩
  · exact cardEnd_passes s none
  · exact (cardEnd_passes _ none).of rfl
  · exact ⟨rfl, nofun⟩

lemma cardDeal_passes (szt : Bool) (money : ℤ) (cnt : ℕ) :
    s.Passes (s.cardDeal szt money cnt) := by
  rw [cardDeal]
  split_ifs
  · exact (cardEnd_passes _ none).of rfl
  · exact ⟨rfl, nofun⟩
  · exact cardEnd_passes s none

lemma waitPayMoney_passes : s.Passes (s.waitPayMoney io) := by
  rw [waitPayMoney]
  cases s.session.currentPoint with
  | p1 =>
    dsimp only
    split_ifs <;> exact ⟨rfl, nofun⟩
  | p3 =>
    dsimp only
    split_ifs
    · exact abnormalHandle_passes s _ _
    · exact ⟨rfl, nofun⟩
  | p9 =>
    refine ⟨?_, nofun⟩
    dsimp only [statusOk]
    rw [goto_stock]
    split_ifs <;> rfl
  | p0 | p2 | p5 | p6 | p7 | p8 => exact ⟨rfl, nofun⟩

/-! ### The loop of the main program -/

lemma hpperOut_passes : s.Passes (s.hpperOut io) := by
  rw [hpperOut]
  dsimp only
  split_ifs <;> exact ⟨rfl, nofun⟩

lemma idleTail_passes : s.Passes s.idleTail := by
  rw [idleTail]
  split_ifs <;> exact ⟨rfl, nofun⟩

lemma switch_passes : s.Passes (s.switch io) := by
  rw [switch]
  cases s.session.current with
  | currentTemperature =>
    dsimp only
    split_ifs
    · exact ⟨rfl, nofun⟩
    · exact idleTail_passes s
  | waitforMoney => exact (waitPayMoney_passes _).of s.saveUserData_stock
  | hpperOut => exact hpperOut_passes s
  | mealOut => exact ⟨s.saveUserData_stock, nofun⟩
  | dataUpload => exact ⟨rfl, nofun⟩
  | erroHanle => exact pollAbnormalHandle_passes s _

lemma nextCheck_ne (n : ℕ) : nextCheck n ≠ .take := by
  rw [nextCheck]
  split_ifs <;> exact nofun

lemma check_passes (n : ℕ) : s.Passes (s.check n io) := by
  unfold check
  dsimp only
  split
  · refine (abnormalHandle_passes _ _ _).of ?_
    split_ifs <;> rfl
  · refine ⟨?_, nextCheck_ne n⟩
    rw [goto_stock]
    split_ifs <;> rfl

lemma initCheck_passes : s.Passes s.initCheck := by
  rw [initCheck]
  split_ifs <;> exact ⟨rfl, nofun⟩

lemma initLink_passes : s.Passes s.initLink := ⟨rfl, nofun⟩

/-! ### Taking out the meals -/

lemma takemealErro_passes (e : ℕ) : s.Passes (s.takemealErro e) := ⟨rfl, nofun⟩

lemma coord_passes (hpc : s.session.pc ≠ .take) (r : ℕ) : s.Passes (s.coord r) := by
  rw [coord]
  split
  · refine waitOrder_passes s hpc _ r (fun _ => nofun) (fun s' => ⟨rfl, nofun⟩) fun s' => ?_
    exact takemealErro_passes s' _
  · exact ⟨rfl, hpc⟩

lemma goalCheck_passes : s.Passes s.goalCheck := by
  rw [goalCheck]
  split_ifs <;> exact ⟨rfl, nofun⟩

lemma goal_passes : s.Passes s.goal := by
  rw [goal]
  split_ifs
  · exact (takemealErro_passes _ _).of rfl
  · exact manageusart6data_passes s _ goalCheck_passes

lemma getMeal_passes (hpc : s.session.pc ≠ .take) (r : ℕ) : s.Passes (s.getMeal r) := by
  rw [getMeal]
  refine waitOrder_passes s hpc _ r (fun _ => nofun) (fun s' => ⟨rfl, nofun⟩) fun s' => ?_
  exact (takemealErro_passes _ _).of rfl

lemma doorCheck_passes : s.Passes s.doorCheck := by
  rw [doorCheck]
  split_ifs <;> exact ⟨rfl, nofun⟩

lemma door_passes : s.Passes s.door := by
  rw [door]
  split_ifs
  · exact takemealErro_passes s _
  · exact manageusart6data_passes s _ doorCheck_passes

lemma awayCheck_passes : s.Passes s.awayCheck := by
  rw [awayCheck]
  split_ifs <;> exact ⟨rfl, nofun⟩

lemma away_passes : s.Passes s.away := by
  rw [away]
  split_ifs
  · exact takemealErro_passes s _
  · exact manageusart6data_passes s _ awayCheck_passes

lemma resume_passes (ret : Ret) : s.Passes (s.resume ret) := by
  unfold resume
  cases ret with
  | check n => exact ⟨rfl, nextCheck_ne n⟩
  | init => exact (initCheck_passes _).of rfl
  | goal => exact (goalCheck_passes _).of rfl
  | door => exact (doorCheck_passes _).of rfl
  | away => exact (awayCheck_passes _).of rfl
  | poll i => exact pollAbnormalHandle_passes s i
  | start | main | bill => exact ⟨rfl, nofun⟩

lemma abnormalEnd_passes (e : ℕ) (ret : Ret) : s.Passes (s.abnormalEnd e ret) := by
  refine ⟨?_, nofun⟩
  rw [abnormalEnd]
  dsimp only
  rw [goto_stock, writeBackup_stock]
  split_ifs
  · simp
  · rfl

end Program

/-! ### Case 0 and case 1 -/

lemma find_stock (hpc : s.session.pc = .find) : StockMove s (.go io) s.find := by
  rw [find]
  cases hk : s.session.userAct.firstKind with
  | none => exact .keep (Passes.keeps ⟨rfl, nofun⟩)
  | some k =>
    dsimp only
    cases hp : s.stock.findMeal k with
    | none => exact .notFound hpc hk hp rfl rfl
    | some p => exact .found hpc hk hp rfl rfl

lemma take_stock (hpc : s.session.pc = .take) : StockMove s (.go io) (s.take io) := by
  rw [take]
  split
  · next l c hp => exact .take hpc hp rfl rfl
  · exact .keep (.of_eq rfl rfl)

/-- The next piece of the main program. -/
lemma go_stock : StockMove s (.go io) (s.go io) := by
  rw [go]
  cases hpc : s.session.pc with
  | find => exact find_stock hpc
  | take => exact take_stock hpc
  | abnormal e ret =>
    dsimp only
    split_ifs
    · exact .keep (abnormalEnd_passes s e ret).keeps
    · exact .keep (.of_eq rfl rfl)
  | initLink r | initOrder r =>
    refine .keep (waitOrder_passes s ?_ _ r ?_ ?_ initLink_passes).keeps
    · rw [hpc]; exact nofun
    · exact fun _ => nofun
    · exact fun _ => ⟨rfl, nofun⟩
  | link r =>
    refine .keep (waitOrder_passes s ?_ _ r ?_ idleTail_passes idleTail_passes).keeps
    · rw [hpc]; exact nofun
    · exact fun _ => nofun
  | coord r => exact .keep (coord_passes s (by rw [hpc]; exact nofun) r).keeps
  | getMeal r => exact .keep (getMeal_passes s (by rw [hpc]; exact nofun) r).keeps
  | initWait => exact .keep (manageusart6data_passes s _ initCheck_passes).keeps
  | deal =>
    refine .keep (manageusart6data_passes s _ ?_).keeps
    exact fun _ => ⟨rfl, nofun⟩
  | check n => exact .keep (check_passes s n).keeps
  | switch => exact .keep (switch_passes s).keeps
  | cardRead szt money cnt => exact .keep (cardRead_passes s szt money cnt).keeps
  | cardDeal szt money cnt => exact .keep (cardDeal_passes s szt money cnt).keeps
  | cardDeduct szt money => exact .keep (cardEnd_passes s _).keeps
  | payTail => exact .keep (payTail_passes s).keeps
  | goal => exact .keep (goal_passes s).keeps
  | door => exact .keep (door_passes s).keeps
  | away => exact .keep (away_passes s).keeps
  | count => exact .keep (Passes.keeps ⟨rfl, nofun⟩)
  | resume ret => exact .keep (resume_passes s ret).keeps

/-! ## Messages of the screen -/

/-- Only the edited floor changes. -/
lemma initSetting_eq (st : Stock) : ∃ cur, st.initSetting = { st with curFloor := cur } := by
  rw [Stock.initSetting]
  split
  · split_ifs
    · exact ⟨_, rfl⟩
    · exact ⟨_, rfl⟩
  · exact ⟨_, rfl⟩

lemma mealNum_eq (st : Stock) (d : UInt8) : ∃ cur, st.mealNum d = { st with curFloor := cur } := by
  obtain ⟨cur, hcur⟩ :=
    initSetting_eq { st with curFloor := { st.curFloor with mealID := d } }
  rw [Stock.mealNum]
  dsimp only
  rw [hcur]
  split
  · exact ⟨_, rfl⟩
  · exact ⟨_, rfl⟩

lemma floorNum_eq (st : Stock) (d : UInt8) :
    ∃ cur, st.floorNum d = { st with curFloor := cur } :=
  initSetting_eq { st with curFloor := { st.curFloor with floorNum := d } }

/-- A message of the customer keeps the stock and the place in the program. -/
lemma screen_keeps {t : Machine} (hpc : s.session.pc.deals) (hs : t.stock = s.stock)
    (ht : t.session.pc = s.session.pc) : StockMove s (.screen f io) t := by
  refine .keep ⟨hs, fun h => ?_⟩
  rw [ht] at h
  rw [h] at hpc
  cases hpc

lemma password_stock (hpc : s.session.pc.deals) (d : UInt8) :
    StockMove s (.screen f io) (s.password d) := by
  rw [password]
  by_cases hd : d = 0x11
  · subst hd
    change StockMove s (.screen f io) s.confirmPassWord
    rw [confirmPassWord]
    dsimp only
    split_ifs
    · exact screen_keeps hpc rfl rfl
    · obtain ⟨cur, hcur⟩ := initSetting_eq s.stock
      exact .edit hpc cur hcur rfl
    · exact screen_keeps hpc rfl rfl
    · exact screen_keeps hpc rfl rfl
  · simp only [hd, if_false]
    split_ifs <;> exact screen_keeps hpc rfl rfl

lemma mealcntChoose_keeps (hpc : s.session.pc.deals) (d : UInt8) :
    StockMove s (.screen f io) (s.mealcntChoose d) := by
  have hput : s.session.putIntoShopCart.pc = s.session.pc := s.session.putIntoShopCart_pc
  unfold mealcntChoose enterCart
  dsimp only
  split_ifs
  · exact screen_keeps hpc rfl hput
  · exact screen_keeps hpc rfl hput
  · exact screen_keeps hpc rfl hput
  · exact screen_keeps hpc rfl rfl
  · exact screen_keeps hpc rfl rfl

lemma mealinputChoose_stock (hpc : s.session.pc.deals) (hf : f.variable = some .mealinputChoose) :
    StockMove s (.screen f io) (s.mealinputChoose f.data1 io) := by
  rw [mealinputChoose]
  split_ifs with h1 h2 h3 h5
  · exact .edit hpc _ rfl rfl
  · exact .edit hpc _ rfl rfl
  · exact .confirm hpc hf h3 rfl rfl
  · exact .edit hpc _ rfl rfl
  · exact screen_keeps hpc rfl rfl

/-- A message of the screen. -/
lemma changeVariableValues_stock (hpc : s.session.pc.deals) :
    StockMove s (.screen f io) (s.changeVariableValues f io) := by
  rw [changeVariableValues]
  cases hf : f.variable with
  | none => exact screen_keeps hpc rfl rfl
  | some v =>
    cases v with
    | adminSet =>
      dsimp only [adminSet]
      split_ifs with hd
      · exact .clearAll hpc hf hd rfl rfl
      · exact screen_keeps hpc rfl rfl
    | mealNum =>
      obtain ⟨cur, hcur⟩ := mealNum_eq s.stock f.data1
      exact .edit hpc cur hcur rfl
    | floorNum =>
      obtain ⟨cur, hcur⟩ := floorNum_eq s.stock f.data1
      exact .edit hpc cur hcur rfl
    | row c => exact .edit hpc _ rfl rfl
    | mealinputChoose => exact mealinputChoose_stock hpc hf
    | password => exact password_stock hpc _
    | mealcntChoose => exact mealcntChoose_keeps hpc _
    | mealChoose =>
      dsimp only [mealChoose]
      split
      · split_ifs <;> exact screen_keeps hpc rfl rfl
      · exact screen_keeps hpc rfl rfl
    | count k =>
      dsimp only [count]
      split_ifs <;> exact screen_keeps hpc rfl rfl
    | column i =>
      dsimp only [column]
      split
      · split_ifs <;> exact screen_keeps hpc rfl rfl
      · exact screen_keeps hpc rfl rfl
    | paymentMethod =>
      dsimp only [paymentMethod]
      split_ifs <;> exact screen_keeps hpc rfl rfl
    | billPrint =>
      dsimp only [billPrint]
      split_ifs <;> exact screen_keeps hpc rfl rfl
    | recordClear =>
      dsimp only [recordClear]
      split_ifs <;> exact screen_keeps hpc rfl rfl
    | tempratureSet | coinsIn | coinsKey | caedbalenceCancel => exact screen_keeps hpc rfl rfl

/-! ## Interrupts -/

lemma coinIn_keeps : s.KeepsStock s.coinIn := by
  rw [coinIn]
  dsimp only
  split_ifs
  · exact ⟨rfl, fun h => ⟨h, .inl rfl⟩⟩
  · exact .of_eq rfl rfl

lemma tim3_keeps : s.KeepsStock s.tim3 := by
  rw [tim3]
  split_ifs
  · exact .of_eq rfl rfl
  · exact ⟨rfl, fun h => ⟨h, .inr rfl⟩⟩

lemma usart6_keeps (b : UInt8) : s.KeepsStock (s.usart6 b) := by
  unfold usart6
  dsimp only
  split_ifs
  · exact ⟨rfl, fun h => ⟨h, .inl rfl⟩⟩
  · exact .of_eq rfl rfl

end Machine

/-- Every step of the machine is one of these. -/
theorem step_stock {e : Event} {t : Machine} (h : step s e = some t) : StockMove s e t := by
  cases e with
  | coinIn => cases h; exact .keep Machine.coinIn_keeps
  | coinOut => cases h; exact .keep (.of_eq rfl rfl)
  | tim3 =>
    obtain ⟨-, rfl⟩ := step_tim3 h
    exact .keep Machine.tim3_keeps
  | tim4 =>
    obtain rfl := step_tim4 h
    exact .keep (.of_eq rfl rfl)
  | tim7 =>
    obtain rfl := step_tim7 h
    exact .keep (.of_eq rfl rfl)
  | tim5 => cases h; exact .keep (.of_eq rfl rfl)
  | pvd =>
    cases h
    exact .keep (.of_eq (Machine.saveUserData_stock _) (Machine.saveUserData_session _))
  | usart6 b => cases h; exact .keep (Machine.usart6_keeps b)
  | screen f io =>
    obtain ⟨hpc, rfl⟩ := step_screen h
    exact Machine.changeVariableValues_stock hpc
  | go io => cases h; exact Machine.go_stock

end MealVendor
