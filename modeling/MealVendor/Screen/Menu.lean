import MealVendor.Screen.Kept
import MealVendor.Stock.Move

/-!
# The menu and the error page in every run

Every change of the stock is followed by `DispLeftMeal`, and every error that is handled by its
code.  So, from the end of the checks on, the menu shows what is left of each kind, and while an
error with a code is handled, its code is shown.
-/

namespace MealVendor

/-! ## The program and the screen -/

/-- Where `AbnormalHandle` returns to before the loop of `main`. -/
def Ret.booting : Ret → Bool
  | .start => true
  | .init => true
  | .check _ => true
  | _ => false

/-- The places before the loop of `main`. -/
def Pc.booting : Pc → Bool
  | .initLink _ => true
  | .initOrder _ => true
  | .initWait => true
  | .check _ => true
  | .abnormal _ ret => ret.booting
  | .resume ret => ret.booting
  | _ => false

/-- The loop of `AbnormalHandle`. -/
def Pc.atError : Pc → Bool
  | .abnormal _ _ => true
  | _ => false

/-- How many meals of each kind are left. -/
def Machine.counts (s : Machine) : Kind → UInt16 :=
  fun k => (s.stock.defineMeal k).mealCount.toUInt16

/-- The program, the screen, and whether the meals are to be compared with the server. -/
structure Shop where
  machine : Machine
  terminal : Terminal
  mealneedSync : Bool

namespace Shop

/-- What can happen next: a value is entered on the screen, or the program does a step. -/
inductive Event
  | touch (a : UInt16) (d0 d1 : UInt8)
  | program (e : MealVendor.Event) (v : Show.Values)

/-- The stores into `mealneed_sync`: the third and the fourth key of `mealinput_choose`. -/
def needsSync (v : Show.Values) (mealneedSync : Bool) : MealVendor.Event → Bool
  | .screen f _ =>
    if f.variable = some .mealinputChoose then
      if f.data1 = 3 then true
      else if f.data1 = 4 then decide (v.part ≠ fun _ => 0xff)
      else mealneedSync
    else mealneedSync
  | _ => mealneedSync

/-- One step, and what the screen is sent. -/
def step (low : UInt8 → UInt8) (s : Shop) : Event → Option Shop
  | .touch a d0 d1 => some { s with terminal := s.terminal.touch a d0 d1 }
  | .program e v => (MealVendor.step s.machine e).map fun m =>
      ⟨m, s.terminal.receive low (Show.step s.mealneedSync v s.machine e),
        needsSync v s.mealneedSync e⟩

/-- Nothing is entered into the numbers of the menu or into the code. -/
def Aside (_ : Shop) : Event → Prop
  | .touch a _ _ => Elsewhere a.toNat 2
  | .program _ _ => True

instance (s : Shop) (e : Event) : Decidable (s.Aside e) := by
  cases e with
  | touch a d0 d1 => exact inferInstanceAs (Decidable (Elsewhere a.toNat 2))
  | program e v => exact .isTrue trivial

end Shop

/-! ## What a step does to the screen -/

/-- The password has at most six digits, and the chosen meal is one of the four or none. -/
structure Machine.Known (s : Machine) : Prop where
  len : s.passWordLen ≤ 6
  meal : s.session.userAct.mealID = 0 ∨ ∃ k, s.session.userAct.mealID = Kind.id k

/-- What a step of the program from `s` to `t` that sends `bs` makes of the menu and the code. -/
structure Told (low : UInt8 → UInt8) (bs : List UInt8) (s t : Machine) : Prop where
  known : t.Known
  menu : Keeps low Display.menu bs ∧ t.counts = s.counts ∨ Sets low Display.menu t.counts bs
  code : ∀ e ret c, t.session.pc = .abnormal e ret → Show.abnormalCode e = some c →
    Sets low Display.code c bs ∧ Sets low Display.page Show.errInterface bs ∨
      s.session.pc = t.session.pc ∧ Keeps low Display.code bs
  back : t.session.pc.booting = true → s.session.pc.booting = true
  loop : s.session.pc.booting = true → t.session.pc.booting = false →
    Sets low Display.menu t.counts bs

section Told

variable {low : UInt8 → UInt8} {as bs : List UInt8} {s t : Machine}

lemma Keeps.menu (h : Keeps low Display.fixed bs) : Keeps low Display.menu bs := h.map Prod.fst

lemma Keeps.code (h : Keeps low Display.fixed bs) : Keeps low Display.code bs := h.map Prod.snd

/-- The program stays where it is, and neither the menu nor the code changes. -/
lemma Told.still (hbs : Keeps low Display.fixed bs) (ht : t.Known) (hcounts : t.counts = s.counts)
    (hpc : t.session.pc = s.session.pc) : Told low bs s t where
  known := ht
  menu := .inl ⟨hbs.menu, hcounts⟩
  code _ _ _ _ _ := .inr ⟨hpc.symm, hbs.code⟩
  back h := hpc ▸ h
  loop h h' := by rw [hpc, h] at h'; cases h'

/-- The program stays where it is, and the menu is set. -/
lemma Told.renewed (hbs : Sets low Display.menu t.counts bs) (hcode : Keeps low Display.code bs)
    (ht : t.Known) (hpc : t.session.pc = s.session.pc) : Told low bs s t where
  known := ht
  menu := .inr hbs
  code _ _ _ _ _ := .inr ⟨hpc.symm, hcode⟩
  back h := hpc ▸ h
  loop _ _ := hbs

/-- The program goes on, not to an error, and neither the menu nor the code changes. -/
lemma Told.on (hbs : Keeps low Display.fixed bs) (ht : t.Known) (hcounts : t.counts = s.counts)
    (hpc : t.session.pc.atError = false)
    (hboot : t.session.pc.booting = s.session.pc.booting) : Told low bs s t where
  known := ht
  menu := .inl ⟨hbs.menu, hcounts⟩
  code e ret _ he _ := by rw [he] at hpc; cases hpc
  back h := hboot ▸ h
  loop h h' := by rw [hboot, h] at h'; cases h'

/-- The program goes on, not to an error, and the menu is set. -/
lemma Told.set (hbs : Sets low Display.menu t.counts bs) (ht : t.Known)
    (hpc : t.session.pc.atError = false)
    (hboot : t.session.pc.booting = true → s.session.pc.booting = true) : Told low bs s t where
  known := ht
  menu := .inr hbs
  code e ret _ he _ := by rw [he] at hpc; cases hpc
  back := hboot
  loop _ _ := hbs

/-- Other frames come first. -/
lemma Told.after (h : Told low bs s t) (has : Keeps low Display.fixed as) :
    Told low (as ++ bs) s t where
  known := h.known
  menu := h.menu.imp (And.imp_left has.menu.append) has.sets
  code e ret c he hc := (h.code e ret c he hc).imp (And.imp has.sets has.sets)
    (And.imp_right has.code.append)
  back := h.back
  loop hs ht := has.sets (h.loop hs ht)

/-- Two states that differ in nothing that is looked at here. -/
structure Machine.Alike (s s' : Machine) : Prop where
  userAct : s'.session.userAct = s.session.userAct
  pc : s'.session.pc = s.session.pc
  stock : s'.stock = s.stock
  timers : s'.timers = s.timers
  len : s'.passWordLen = s.passWordLen

lemma Machine.Alike.refl (s : Machine) : s.Alike s := ⟨rfl, rfl, rfl, rfl, rfl⟩

lemma Machine.Alike.counts {s' : Machine} (h : s.Alike s') : s'.counts = s.counts := by
  funext k
  rw [Machine.counts, Machine.counts, h.stock]

lemma Machine.Known.alike {s' : Machine} (h : s.Known) (hs : s.Alike s') : s'.Known :=
  ⟨hs.len.trans_le h.len, by rw [hs.userAct]; exact h.meal⟩

/-- It does not matter from which of them the step is taken. -/
lemma Told.of_alike {s' : Machine} (h : Told low bs s' t) (hs : s.Alike s') : Told low bs s t where
  known := h.known
  menu := h.menu.imp_left (And.imp_right fun hc => hc.trans hs.counts)
  code e ret c he hc := (h.code e ret c he hc).imp_right (And.imp_left hs.pc.symm.trans)
  back ht := hs.pc ▸ h.back ht
  loop hs' ht := h.loop (by rw [hs.pc]; exact hs') ht

/-- The program goes on, behind a part of the step in which nothing that is looked at changes. -/
lemma Told.onAlike {s' : Machine} (hs : s.Known) (hs' : s.Alike s')
    (hbs : Keeps low Display.fixed bs) (hlen : t.passWordLen = s'.passWordLen)
    (hmeal : t.session.userAct.mealID = s'.session.userAct.mealID) (hcounts : t.counts = s'.counts)
    (hpc : t.session.pc.atError = false)
    (hboot : t.session.pc.booting = s.session.pc.booting) : Told low bs s' t := by
  have hknown := hs.alike hs'
  refine .on hbs ⟨hlen.trans_le hknown.len, ?_⟩ hcounts hpc (hboot.trans ?_)
  · rw [hmeal]
    exact hknown.meal
  · rw [hs'.pc]

end Told

/-! ## Errors -/

section Error

variable {low : UInt8 → UInt8} {s : Machine}

/-- Every code has four characters. -/
lemma length_abnormalCode {e : ℕ} {c : List UInt8} (h : Show.abnormalCode e = some c) :
    c.length = 4 := by
  obtain ⟨cs, hcs, rfl⟩ := Option.map_eq_some_iff.mp h
  have hall : ∀ p ∈ Show.abnormalCodes, p.2.length = 4 := by decide
  obtain ⟨l₁, l₂, hl, -⟩ := List.lookup_eq_some_iff.mp hcs
  rw [List.length_map]
  exact hall _ (hl ▸ List.mem_append_right _ List.mem_cons_self)

/-- `AbnormalHandle` leaves the menu alone. -/
lemma keeps_abnormalHandle (e : ℕ) : Keeps low Display.menu (Show.abnormalHandle e s) := by
  rw [Show.abnormalHandle]
  cases hc : Show.abnormalCode e with
  | none => exact Keeps.nil
  | some c =>
    have hlen := length_abnormalCode hc
    dsimp only
    split_ifs
    · exact Keeps.nil
    · exact (keeps_menu_displayAbnormal hlen).append (keeps_pageChange _).menu
    · exact (keeps_pageChange _).menu.append (keeps_menu_displayAbnormal hlen)

/-- An error with a code opens its page and shows the code, unless there is nothing to be done. -/
lemma sets_abnormalHandle {e : ℕ} {c : List UInt8} (hc : Show.abnormalCode e = some c)
    (he : ¬ (e = outageErro ∧ ¬ 0 < s.session.userAct.moneyBack)) :
    Sets low Display.code c (Show.abnormalHandle e s) ∧
      Sets low Display.page Show.errInterface (Show.abnormalHandle e s) := by
  have hlen := length_abnormalCode hc
  rw [Show.abnormalHandle, hc]
  dsimp only
  rw [if_neg he]
  split_ifs
  · exact ⟨(sets_displayAbnormal hlen).keeps (keeps_pageChange _).code,
      (keeps_page_displayAbnormal hlen).sets (sets_pageChange _)⟩
  · exact ⟨(keeps_pageChange _).sets (sets_displayAbnormal hlen),
      (sets_pageChange _).keeps (keeps_page_displayAbnormal hlen)⟩

lemma told_abnormalHandle (hs : s.Known) (e : ℕ) {ret : Ret}
    (hret : ret.booting = s.session.pc.booting) :
    Told low (Show.abnormalHandle e s) s (s.abnormalHandle e ret) := by
  have hknown : (s.abnormalHandle e ret).Known := by
    rw [Machine.abnormalHandle]
    dsimp only
    split_ifs <;> exact ⟨hs.len, hs.meal⟩
  have hcounts : (s.abnormalHandle e ret).counts = s.counts := by
    rw [Machine.abnormalHandle]
    dsimp only
    split_ifs <;> rfl
  have hboot : (s.abnormalHandle e ret).session.pc.booting = s.session.pc.booting := by
    rw [Machine.abnormalHandle]
    dsimp only
    split_ifs <;> exact hret
  refine ⟨hknown, .inl ⟨keeps_abnormalHandle e, hcounts⟩, fun e' ret' c he' hc => .inl ?_,
    fun h => hboot ▸ h, fun h h' => absurd h (by rw [← hboot, h']; decide)⟩
  -- its loop is entered only if there is something to be done
  rw [Machine.abnormalHandle] at he'
  dsimp only at he'
  split_ifs at he' with hout
  · cases he'
  all_goals
    cases he'
    exact sets_abnormalHandle hc hout

lemma told_pollAbnormalHandle (hs : s.Known) (i : ℕ) (hpc : s.session.pc.booting = false) :
    Told low (Show.pollAbnormalHandle i s) s (s.pollAbnormalHandle i) := by
  rw [Show.pollAbnormalHandle, Machine.pollAbnormalHandle]
  cases Machine.pollNext s.erroRecord i with
  | some e => exact told_abnormalHandle hs e hpc.symm
  | none => exact .on Keeps.nil ⟨hs.len, hs.meal⟩ rfl rfl hpc.symm

/-- `manageusart6data`, with what comes after it. -/
lemma told_manageusart6data (hs : s.Known) {ret : Ret} {k : Machine → Machine}
    {k' : Machine → List UInt8} (hret : ret.booting = s.session.pc.booting)
    (hk : ∀ s', s.Alike s' → Told low (k' s') s' (k s')) :
    Told low (Show.manageusart6data k' s) s (s.manageusart6data ret k) := by
  rw [Show.manageusart6data, Machine.manageusart6data]
  split_ifs
  · have halike : s.Alike { s with arm.usart6DataFlag := false } := ⟨rfl, rfl, rfl, rfl, rfl⟩
    dsimp only
    cases armError s.arm.usart6Buff with
    | some e => exact (told_abnormalHandle (hs.alike halike) e hret).of_alike halike
    | none =>
      have halike' : s.Alike { s with
          arm := { s.arm with usart6DataFlag := false }.readLine.clearBuff } :=
        ⟨rfl, rfl, rfl, rfl, rfl⟩
      exact (hk _ halike').of_alike halike'
  · exact hk s (.refl s)

/-- One round of an `Order…` function. -/
lemma told_waitOrder (hs : s.Known) {c : Command} {r : ℕ} {again : ℕ → Pc}
    {done fail : Machine → Machine} {bdone bfail : List UInt8}
    (hagain : ∀ r, (again r).atError = false ∧ (again r).booting = s.session.pc.booting)
    (hdone : ∀ s', s.Alike s' → Told low bdone s' (done s'))
    (hfail : ∀ s', s.Alike s' → Told low bfail s' (fail s')) :
    Told low (Show.waitOrder r bdone bfail s) s (s.waitOrder c r again done fail) := by
  have halike : s.Alike (s.onArm fun _ => (s.arm.order r).2) := ⟨rfl, rfl, rfl, rfl, rfl⟩
  rw [Show.waitOrder, Machine.waitOrder]
  cases (s.arm.order r).1 with
  | done => exact (hdone _ halike).of_alike halike
  | failed sent =>
    cases sent with
    | true =>
      have halike' : s.Alike ((s.onArm fun _ => (s.arm.order r).2).emit (.command c)) :=
        ⟨rfl, rfl, rfl, rfl, rfl⟩
      exact (hfail _ halike').of_alike halike'
    | false => exact (hfail _ halike).of_alike halike
  | again r => exact .on Keeps.nil ⟨hs.len, hs.meal⟩ rfl (hagain r).1 (hagain r).2
  | wait => exact .still Keeps.nil (hs.alike halike) rfl rfl

end Error

/-! ## The main program -/

section Program

variable {low : UInt8 → UInt8} {s : Machine} {io : Io}

/-- `WaitMeal` has failed. -/
lemma told_takemealErro (hs : s.Known) (e : ℕ) (hpc : s.session.pc.booting = false) :
    Told low (Show.pageChange Show.errInterface) s (s.takemealErro e) :=
  .on (keeps_pageChange _) ⟨hs.len, hs.meal⟩ rfl rfl hpc.symm

lemma told_idleTail (hs : s.Known) (hpc : s.session.pc.booting = false) :
    Told low (Show.idleTail s) s s.idleTail := by
  have hbs : Keeps low Display.fixed (Show.idleTail s) := by
    rw [Show.idleTail]
    split_ifs
    · exact keeps_pageChange _
    · exact keeps_variableChage _ (by decide)
    · exact Keeps.nil
    · exact Keeps.nil
  rw [Machine.idleTail]
  split_ifs <;> exact .on hbs ⟨hs.len, hs.meal⟩ rfl rfl hpc.symm

lemma told_cardEnd (hs : s.Known) (hpc : s.session.pc.booting = false) {paid : Option ℤ}
    {bs : List UInt8} (hbs : Keeps low Display.fixed bs) : Told low bs s (s.cardEnd paid) := by
  unfold Machine.cardEnd
  cases paid <;> exact .on hbs ⟨hs.len, hs.meal⟩ rfl rfl hpc.symm

/-- The card is not used, and `CardbalenceCancelFlag` is cleared. -/
lemma told_cardCancel (hs : s.Known) (hpc : s.session.pc.booting = false) {paid : Option ℤ}
    {bs : List UInt8} (hbs : Keeps low Display.fixed bs) :
    Told low bs s ({ s with cardbalenceCancelFlag := false }.cardEnd paid) := by
  have halike : s.Alike { s with cardbalenceCancelFlag := false } :=
    ⟨rfl, rfl, rfl, rfl, rfl⟩
  exact (told_cardEnd (hs.alike halike) hpc hbs).of_alike halike

lemma keeps_waitPayMoney : Keeps low Display.fixed (Show.waitPayMoney io s) := by
  rw [Show.waitPayMoney]
  refine (keeps_variableChage _ (by decide)).append ?_
  cases s.session.currentPoint with
  | p0 | p1 | p2 | p6 => exact Keeps.nil
  | p3 =>
    dsimp only
    split_ifs
    · exact Keeps.nil
    · exact keeps_variableChage _ (by decide)
  | p5 => exact (keeps_variableChage _ (by decide)).append (keeps_variableChage _ (by decide))
  | p7 | p8 => exact keeps_pageChange _
  | p9 =>
    exact ((keeps_variableChage _ (by decide)).append (keeps_pageChange _)).append
      (keeps_variableChage _ (by decide))

/-- The `switch` of `WaitPayMoney`. -/
lemma told_waitPayMoney (hs : s.Known) (hpc : s.session.pc.booting = false) :
    Told low (if s.session.currentPoint = .p3 ∧ io.bill = .rejected then
      Show.abnormalHandle billsetErro s else []) s (s.waitPayMoney io) := by
  by_cases hrejected : s.session.currentPoint = .p3 ∧ io.bill = .rejected
  · rw [if_pos hrejected, Machine.waitPayMoney, hrejected.1]
    dsimp only
    rw [if_pos hrejected.2]
    exact told_abnormalHandle hs _ hpc.symm
  · rw [if_neg hrejected]
    have hnext : ∀ {t : Machine}, t.Known → t.counts = s.counts →
        t.session.pc.atError = false → t.session.pc.booting = false → Told low [] s t :=
      fun ht hc hne hb => .on Keeps.nil ht hc hne (hb.trans hpc.symm)
    have hs' := hs.meal
    rw [Machine.waitPayMoney]
    cases hpoint : s.session.currentPoint with
    | p0 | p2 | p5 | p6 | p7 | p8 => exact hnext ⟨hs.len, hs.meal⟩ rfl rfl rfl
    | p1 =>
      dsimp only
      split_ifs <;> exact hnext ⟨hs.len, hs.meal⟩ rfl rfl rfl
    | p3 =>
      dsimp only
      rw [if_neg fun h => hrejected ⟨hpoint, h⟩]
      have hmeal : (s.session.readBills io.bill.value).userAct.mealID =
          s.session.userAct.mealID := by
        unfold Session.readBills
        dsimp only
        split_ifs <;> rfl
      refine hnext ⟨hs.len, ?_⟩ rfl rfl rfl
      rw [← hmeal] at hs'
      exact hs'
    | p9 =>
      dsimp only
      rw [Machine.statusOk]
      dsimp only
      split_ifs <;> exact hnext ⟨hs.len, hs.meal⟩ rfl rfl rfl

lemma alike_saveUserData (s : Machine) : s.Alike s.saveUserData := by
  rw [Machine.saveUserData, Machine.foldl_writeBackup]
  exact ⟨rfl, rfl, rfl, rfl, rfl⟩

lemma told_hpperOut (hs : s.Known) (hpc : s.session.pc.booting = false) :
    Told low [] s (s.hpperOut io) := by
  rw [Machine.hpperOut]
  dsimp only
  split_ifs <;> exact .on Keeps.nil ⟨hs.len, hs.meal⟩ rfl rfl hpc.symm

lemma told_switch (hs : s.Known) (hpc : s.session.pc.booting = false) :
    Told low (Show.switch io s) s (s.switch io) := by
  rw [Show.switch, Machine.switch]
  cases s.session.current with
  | currentTemperature =>
    dsimp only
    split_ifs
    · exact .on Keeps.nil ⟨hs.len, hs.meal⟩ rfl rfl hpc.symm
    · exact told_idleTail hs hpc
  | waitforMoney =>
    have halike := alike_saveUserData s
    refine Told.after (Told.of_alike ?_ halike) keeps_waitPayMoney
    have hpc' := hpc
    rw [← halike.pc] at hpc'
    have htold := @told_waitPayMoney low _ io (hs.alike halike) hpc'
    rw [Show.abnormalHandle, Machine.saveUserData_session] at htold
    exact htold
  | hpperOut => exact told_hpperOut hs hpc
  | mealOut =>
    have halike := alike_saveUserData s
    have hknown := hs.alike halike
    exact .on Keeps.nil ⟨hknown.len, hknown.meal⟩ halike.counts rfl hpc.symm
  | dataUpload => exact .on Keeps.nil ⟨hs.len, hs.meal⟩ rfl rfl hpc.symm
  | erroHanle => exact told_pollAbnormalHandle hs 33 hpc

/-- After a check: behind the last one the menu is shown for the first time. -/
lemma told_checked (hs : s.Known) (n : ℕ) (hpc : s.session.pc.booting = true) :
    Told low (Show.checked n s) s (s.goto (Machine.nextCheck n)) := by
  rw [Show.checked, Machine.nextCheck]
  split_ifs
  · exact .on Keeps.nil ⟨hs.len, hs.meal⟩ rfl rfl hpc.symm
  · exact .set ((sets_dispLeftMeal s.stock).keeps (keeps_pageChange _).menu) ⟨hs.len, hs.meal⟩
      rfl fun _ => hpc

lemma told_check (hs : s.Known) (n : ℕ) (hpc : s.session.pc.booting = true) :
    Told low (Show.check n io s) s (s.check n io) := by
  have hpage : Keeps low Display.fixed (Show.checkPage n) := by
    rw [Show.checkPage.eq_def]
    split
    · exact keeps_pageChange _
    · exact Keeps.nil
    · exact keeps_pageChange _
    · exact Keeps.nil
    · exact keeps_pageChange _
  have halike : s.Alike (if n = 4 then s.resetCoinsCount else s) := by
    split_ifs
    · exact ⟨rfl, rfl, rfl, rfl, rfl⟩
    · exact .refl s
  have hfailed :
      (if n = 4 then s.resetCoinsCount else s).checkFailed n io = s.checkFailed n io := by
    split_ifs <;> rfl
  refine Told.after (Told.of_alike ?_ halike) hpage
  rw [Machine.check, hfailed]
  have hpc' := hpc
  rw [← halike.pc] at hpc'
  cases s.checkFailed n io with
  | some e =>
    have htold := @told_abnormalHandle low _ (hs.alike halike) e (.check n) hpc'.symm
    rw [Show.abnormalHandle, halike.userAct] at htold
    exact htold
  | none =>
    have htold := @told_checked low _ (hs.alike halike) n hpc'
    rw [Show.checked, halike.stock] at htold
    exact htold

/-- A card. -/
lemma told_cardRead (hs : s.Known) (hpc : s.session.pc.booting = false) (v : Show.Values)
    (szt : Bool) (money : ℤ) (cnt : ℕ) :
    Told low (Show.cardRead v szt money cnt io s) s (s.cardRead szt money cnt io) := by
  have hzero : Keeps low Display.fixed (if cnt = 0 then
      Show.variableChagelong Show.amountofConsumption 0 ++
        Show.variableChagelong Show.cardbalenceBefore 0 ++
        Show.variableChagelong Show.cardbalenceAfter 0 else []) := by
    split_ifs
    · exact ((keeps_variableChagelong _ (by decide)).append
        (keeps_variableChagelong _ (by decide))).append (keeps_variableChagelong _ (by decide))
    · exact Keeps.nil
  rw [Show.cardRead, Machine.cardRead]
  refine Told.after ?_ hzero
  split_ifs with hok hmoney hcancel
  · exact .on ((keeps_variableChagelong _ (by decide)).append Keeps.nil) ⟨hs.len, hs.meal⟩ rfl rfl
      hpc.symm
  · exact told_cardEnd hs hpc ((keeps_variableChagelong _ (by decide)).append (keeps_pageChange _))
  · exact told_cardCancel hs hpc (keeps_pageChange _)
  · exact .on Keeps.nil ⟨hs.len, hs.meal⟩ rfl rfl hpc.symm

lemma told_cardDeal (hs : s.Known) (hpc : s.session.pc.booting = false) (szt : Bool) (money : ℤ)
    (cnt : ℕ) : Told low (Show.cardDeal szt cnt s) s (s.cardDeal szt money cnt) := by
  rw [Show.cardDeal, Machine.cardDeal]
  split_ifs
  · exact told_cardCancel hs hpc (keeps_pageChange _)
  · exact .on Keeps.nil ⟨hs.len, hs.meal⟩ rfl rfl hpc.symm
  · exact told_cardEnd hs hpc (keeps_pageChange _)

lemma told_cardDeduct (hs : s.Known) (hpc : s.session.pc.booting = false) (v : Show.Values)
    (money : ℤ) : Told low (Show.cardDeduct v io) s (s.cardDeduct money io) := by
  refine told_cardEnd hs hpc ?_
  rw [Show.cardDeduct]
  split_ifs
  · cases v.deducted with
    | none => exact Keeps.nil
    | some p =>
      exact (keeps_variableChagelong _ (by decide)).append (keeps_variableChagelong _ (by decide))
  · exact keeps_pageChange _

lemma told_payTail (hs : s.Known) (hpc : s.session.pc.booting = false) :
    Told low (if s.timers.waitTime = 0 then Show.pageChange Show.menuInterface else []) s
      s.payTail := by
  rw [Machine.payTail]
  split_ifs
  · refine .on (keeps_pageChange _) ⟨hs.len, .inl ?_⟩ rfl rfl hpc.symm
    change (Session.timeout _).userAct.mealID = 0
    rw [Session.timeout_userAct]
    rfl
  · exact .on Keeps.nil ⟨hs.len, hs.meal⟩ rfl rfl hpc.symm

/-- Case 0 of `WaitMeal`. -/
lemma told_find (hs : s.Known) (hpc : s.session.pc = .find) :
    Told low (if s.session.userAct.firstKind = none then Show.pageChange Show.menuInterface else [])
      s s.find := by
  have hboot : s.session.pc.booting = false := by rw [hpc]; rfl
  rw [Machine.find]
  cases s.session.userAct.firstKind with
  | none =>
    rw [if_pos rfl]
    exact .on (keeps_pageChange _) ⟨hs.len, .inl rfl⟩ rfl rfl hboot.symm
  | some k =>
    rw [if_neg (Option.some_ne_none k)]
    dsimp only
    cases s.stock.findMeal k with
    | some p => exact .on Keeps.nil ⟨hs.len, .inr ⟨k, rfl⟩⟩ rfl rfl hboot.symm
    | none => exact .still Keeps.nil ⟨hs.len, .inr ⟨k, rfl⟩⟩ rfl rfl

/-- Case 1: a meal is taken from the stock, and the menu shows it. -/
lemma told_take (hs : s.Known) (hpc : s.session.pc = .take) :
    Told low (Show.dispLeftMeal (s.take io).stock) s (s.take io) := by
  have hset : Sets low Display.menu (s.take io).counts (Show.dispLeftMeal (s.take io).stock) :=
    sets_dispLeftMeal _
  have hne : (s.take io).session.pc.atError = false := by
    rw [Machine.take]
    split
    · rfl
    · rw [hpc]
      rfl
  have hknown : (s.take io).Known := by
    rw [Machine.take]
    split <;> exact ⟨hs.len, hs.meal⟩
  refine .set hset hknown hne fun h => ?_
  rw [Machine.take] at h
  split at h
  · cases h
  · exact h

lemma told_coord (hs : s.Known) {r : ℕ} (hpc : s.session.pc = .coord r) :
    Told low (Show.waitOrder r [] (Show.pageChange Show.errInterface) s) s (s.coord r) := by
  have hboot : s.session.pc.booting = false := by rw [hpc]; rfl
  rw [Machine.coord]
  split
  · refine told_waitOrder hs (fun _ => ⟨rfl, hboot.symm⟩) (fun s' hs' => ?_) fun s' hs' => ?_
    · exact .onAlike hs hs' Keeps.nil rfl rfl rfl rfl hboot.symm
    · exact told_takemealErro (hs.alike hs') _ (hs'.pc ▸ hboot)
  · have hbs : Keeps low Display.fixed
        (Show.waitOrder r [] (Show.pageChange Show.errInterface) s) := by
      rw [Show.waitOrder]
      cases (s.arm.order r).1 with
      | done | again r | wait => exact Keeps.nil
      | failed sent => exact keeps_pageChange _
    exact .still hbs hs rfl rfl

lemma told_goalCheck (hs : s.Known) (hpc : s.session.pc.booting = false) :
    Told low [] s s.goalCheck := by
  rw [Machine.goalCheck]
  split_ifs <;> exact .on Keeps.nil ⟨hs.len, hs.meal⟩ rfl rfl hpc.symm

lemma told_doorCheck (hs : s.Known) (hpc : s.session.pc.booting = false) :
    Told low (Show.doorCheck s) s s.doorCheck := by
  rw [Show.doorCheck, Machine.doorCheck]
  split_ifs
  · exact .on Keeps.nil ⟨hs.len, hs.meal⟩ rfl rfl hpc.symm
  · exact .on (keeps_pageChange _) ⟨hs.len, hs.meal⟩ rfl rfl hpc.symm
  · exact .on Keeps.nil ⟨hs.len, hs.meal⟩ rfl rfl hpc.symm

lemma told_awayCheck (hs : s.Known) (hpc : s.session.pc.booting = false) :
    Told low [] s s.awayCheck := by
  rw [Machine.awayCheck]
  split_ifs <;> exact .on Keeps.nil ⟨hs.len, hs.meal⟩ rfl rfl hpc.symm

lemma told_initCheck (hs : s.Known) (hpc : s.session.pc.booting = true) :
    Told low [] s s.initCheck := by
  rw [Machine.initCheck]
  split_ifs <;> exact .on Keeps.nil ⟨hs.len, hs.meal⟩ rfl rfl hpc.symm

lemma told_countMeal (hs : s.Known) (hpc : s.session.pc.booting = false) :
    Told low (Show.variableChage Show.mealoutAlready
      s.countMeal.session.userAct.mealTakeout.toUInt16 ++ Show.pageChange Show.mealoutInterface)
      s s.countMeal := by
  refine .on ((keeps_variableChage _ (by decide)).append (keeps_pageChange _)) ⟨hs.len, ?_⟩ rfl
    rfl hpc.symm
  change s.session.userAct.takeOut.mealID = 0 ∨ ∃ k, s.session.userAct.takeOut.mealID = Kind.id k
  rw [UserSelection.takeOut_mealID]
  exact hs.meal

/-- The loop of `AbnormalHandle` ends. -/
lemma told_abnormalEnd (hs : s.Known) {e : ℕ} {ret : Ret}
    (hpc : s.session.pc = .abnormal e ret) : Told low [] s (s.abnormalEnd e ret) := by
  have hboot : ret.booting = s.session.pc.booting := by rw [hpc]; rfl
  rw [Machine.abnormalEnd]
  split_ifs
  · have halike := alike_saveUserData s.clearUserBuffer
    have hknown : s.clearUserBuffer.Known := ⟨hs.len, .inl rfl⟩
    have hknown' := hknown.alike halike
    exact .on Keeps.nil ⟨hknown'.len, hknown'.meal⟩ halike.counts rfl hboot
  · exact .on Keeps.nil ⟨hs.len, hs.meal⟩ rfl rfl hboot

/-- The main program goes on after `AbnormalHandle`. -/
lemma told_resume (hs : s.Known) {ret : Ret} (hpc : s.session.pc = .resume ret) :
    Told low (Show.resume s ret) s (s.resume ret) := by
  have hboot : s.session.pc.booting = ret.booting := by rw [hpc]; rfl
  have halike : s.Alike (s.onArm Arm.clearBuff) := ⟨rfl, rfl, rfl, rfl, rfl⟩
  cases ret with
  | start => exact .on (keeps_pageChange _) ⟨hs.len, hs.meal⟩ rfl rfl hboot.symm
  | init => exact (told_initCheck (hs.alike halike) hboot).of_alike halike
  | check n => exact told_checked hs n hboot
  | main => exact .on Keeps.nil ⟨hs.len, hs.meal⟩ rfl rfl hboot.symm
  | bill => exact .on Keeps.nil ⟨hs.len, hs.meal⟩ rfl rfl hboot.symm
  | goal => exact (told_goalCheck (hs.alike halike) hboot).of_alike halike
  | door => exact (told_doorCheck (hs.alike halike) hboot).of_alike halike
  | away => exact (told_awayCheck (hs.alike halike) hboot).of_alike halike
  | poll i => exact told_pollAbnormalHandle hs i hboot

/-- `OrderSendLink` and `OrderMachineInit` send nothing to the screen. -/
lemma waitOrder_nil (r : ℕ) (s : Machine) : Show.waitOrder r [] [] s = [] := by
  rw [Show.waitOrder]
  cases (s.arm.order r).1 <;> rfl

/-- The orders of `OnlymachieInit`. -/
lemma told_init (hs : s.Known) (hpc : s.session.pc.booting = true) {c : Command} {r : ℕ}
    {again : ℕ → Pc} {done : Machine → Machine}
    (hagain : ∀ r, (again r).atError = false ∧ (again r).booting = true)
    (hdone : ∀ s', s.Alike s' → Told low [] s' (done s')) :
    Told low [] s (s.waitOrder c r again done Machine.initLink) := by
  have htold : Told low (Show.waitOrder r [] [] s) s
      (s.waitOrder c r again done Machine.initLink) := by
    refine told_waitOrder hs (fun r => ⟨(hagain r).1, (hagain r).2.trans hpc.symm⟩) hdone
      fun s' hs' => ?_
    exact .onAlike hs hs' Keeps.nil rfl rfl rfl rfl hpc.symm
  rwa [waitOrder_nil] at htold

/-- The next piece of the main program. -/
lemma told_go (hs : s.Known) (v : Show.Values) : Told low (Show.go v io s) s (s.go io) := by
  rw [Show.go, Machine.go]
  cases hpc : s.session.pc with
  | initLink r =>
    have hboot : s.session.pc.booting = true := by rw [hpc]; rfl
    exact told_init hs hboot (fun _ => ⟨rfl, rfl⟩) fun s' hs' =>
      .onAlike hs hs' Keeps.nil rfl rfl rfl rfl hboot.symm
  | initOrder r =>
    have hboot : s.session.pc.booting = true := by rw [hpc]; rfl
    exact told_init hs hboot (fun _ => ⟨rfl, rfl⟩) fun s' hs' =>
      .onAlike hs hs' Keeps.nil rfl rfl rfl rfl hboot.symm
  | initWait =>
    have hboot : s.session.pc.booting = true := by rw [hpc]; rfl
    exact told_manageusart6data hs hboot.symm fun s' hs' =>
      told_initCheck (hs.alike hs') (hs'.pc ▸ hboot)
  | check n => exact told_check hs n (by rw [hpc]; rfl)
  | deal =>
    have hboot : s.session.pc.booting = false := by rw [hpc]; rfl
    exact told_manageusart6data hs hboot.symm fun s' hs' =>
      .onAlike hs hs' Keeps.nil rfl rfl rfl rfl hboot.symm
  | switch => exact told_switch hs (by rw [hpc]; rfl)
  | link r =>
    have hboot : s.session.pc.booting = false := by rw [hpc]; rfl
    have htail : ∀ s', s.Alike s' → Told low (Show.variableChage Show.currentTemprature
        v.temperature.toUInt16 ++ Show.idleTail s) s' s'.idleTail := by
      intro s' hs'
      have htold := @told_idleTail low _ (hs.alike hs') (hs'.pc ▸ hboot)
      rw [Show.idleTail, hs'.userAct, hs'.timers] at htold
      exact htold.after (keeps_variableChage _ (by decide))
    exact told_waitOrder hs (fun _ => ⟨rfl, hboot.symm⟩) htail htail
  | cardRead szt money cnt => exact told_cardRead hs (by rw [hpc]; rfl) v szt money cnt
  | cardDeal szt money cnt => exact told_cardDeal hs (by rw [hpc]; rfl) szt money cnt
  | cardDeduct szt money => exact told_cardDeduct hs (by rw [hpc]; rfl) v money
  | payTail => exact told_payTail hs (by rw [hpc]; rfl)
  | find => exact told_find hs hpc
  | take => exact told_take hs hpc
  | coord r => exact told_coord hs hpc
  | goal =>
    have hboot : s.session.pc.booting = false := by rw [hpc]; rfl
    dsimp only
    rw [Machine.goal]
    split_ifs
    · exact .on (keeps_pageChange _) ⟨hs.len, hs.meal⟩ rfl rfl hboot.symm
    · exact told_manageusart6data hs hboot.symm fun s' hs' =>
        told_goalCheck (hs.alike hs') (hs'.pc ▸ hboot)
  | getMeal r =>
    have hboot : s.session.pc.booting = false := by rw [hpc]; rfl
    refine told_waitOrder hs (fun _ => ⟨rfl, hboot.symm⟩) (fun s' hs' => ?_) fun s' hs' => ?_
    · exact .onAlike hs hs' Keeps.nil rfl rfl rfl rfl hboot.symm
    · exact .onAlike hs hs' (keeps_pageChange _) rfl rfl rfl rfl hboot.symm
  | door =>
    have hboot : s.session.pc.booting = false := by rw [hpc]; rfl
    dsimp only
    rw [Machine.door]
    split_ifs
    · exact told_takemealErro hs _ hboot
    · exact told_manageusart6data hs hboot.symm fun s' hs' =>
        told_doorCheck (hs.alike hs') (hs'.pc ▸ hboot)
  | away =>
    have hboot : s.session.pc.booting = false := by rw [hpc]; rfl
    dsimp only
    rw [Machine.away]
    split_ifs
    · exact told_takemealErro hs _ hboot
    · exact told_manageusart6data hs hboot.symm fun s' hs' =>
        told_awayCheck (hs.alike hs') (hs'.pc ▸ hboot)
  | count => exact told_countMeal hs (by rw [hpc]; rfl)
  | abnormal e ret =>
    dsimp only
    split_ifs
    · exact told_abnormalEnd hs hpc
    · exact .still Keeps.nil hs rfl rfl
  | resume ret => exact told_resume hs hpc

end Program

/-! ## Messages of the screen -/

section Message

variable {low : UInt8 → UInt8} {s : Machine} {io : Io}

lemma told_mealChoose (hs : s.Known) (d : UInt8) :
    Told low (Show.mealChoose d s) s (s.mealChoose d) := by
  rw [Show.mealChoose, Machine.mealChoose]
  cases hk : Kind.ofID d with
  | some k =>
    have hd : d = Kind.id k := Kind.ofID_eq_some hk
    by_cases hstock : 0 < (s.stock.defineMeal k).mealCount
    · have hcnt : Elsewhere (Show.mealCnt k).toNat 2 := by
        have hcnt := Selection.toNat_mealCnt k
        rw [Elsewhere]
        omega
      simp only [Machine.onTimers_stock, hstock, if_true]
      refine .still ?_ ⟨hs.len, .inr ⟨k, rfl⟩⟩ rfl rfl
      exact (((keeps_variableChage _ (by decide)).append (keeps_pageChange _)).append
        (keeps_variableChage _ hcnt)).append (keeps_mealCostDisp _ (.inr ⟨k, hd⟩))
    · simp only [Machine.onTimers_stock, hstock, if_false]
      exact .still Keeps.nil ⟨hs.len, hs.meal⟩ rfl rfl
  | none =>
    dsimp only
    split_ifs
    · exact .still (keeps_pageChange _) ⟨hs.len, hs.meal⟩ rfl rfl
    · exact .still Keeps.nil ⟨hs.len, hs.meal⟩ rfl rfl

lemma told_count (hs : s.Known) (k : Kind) (d : UInt8) :
    Told low (Show.count k d s) s (s.count k d) := by
  have hmeal : (s.count k d).session.userAct.mealID = s.session.userAct.mealID := by
    rw [Machine.count]
    split_ifs <;> rfl
  have hbs : Keeps low Display.fixed (Show.count k d s) := by
    have hcorrected : Elsewhere (Show.corrected k).toNat 2 := by fin_cases k <;> decide
    rw [Show.count]
    refine (keeps_mealCostDisp _ (by rw [hmeal]; exact hs.meal)).append ?_
    split_ifs
    · exact Keeps.nil
    · exact keeps_variableChage _ hcorrected
  have hknown : (s.count k d).Known := by
    refine ⟨?_, by rw [hmeal]; exact hs.meal⟩
    rw [Machine.count]
    split_ifs <;> exact hs.len
  refine .still hbs hknown ?_ ?_ <;> rw [Machine.count] <;> split_ifs <;> rfl

lemma told_mealcntChoose (hs : s.Known) (d : UInt8) :
    Told low (Show.mealcntChoose d s) s (s.mealcntChoose d) := by
  have hput : s.session.putIntoShopCart.userAct.mealID = s.session.userAct.mealID := by
    rw [Session.putIntoShopCart_userAct, UserSelection.putIntoShopCart]
    dsimp only
    split <;> rfl
  have hpc : s.session.putIntoShopCart.pc = s.session.pc := s.session.putIntoShopCart_pc
  have hmeal := hs.meal
  rw [← hput] at hmeal
  have hknown : ∀ {t : Machine}, t.passWordLen = s.passWordLen →
      t.session.userAct.mealID = s.session.putIntoShopCart.userAct.mealID → t.Known :=
    fun hlen hid => ⟨hlen.trans_le hs.len, by rw [hid]; exact hmeal⟩
  rw [Show.mealcntChoose, Machine.mealcntChoose]
  split_ifs with h2 h3 h4
  · exact .still (keeps_pageChange _) (hknown rfl rfl) rfl hpc
  · rw [Machine.enterCart]
    dsimp only
    rw [Machine.onSession_session, Session.putIntoShopCart_userAct]
    split_ifs
    · exact .still (keeps_settleAccounts _) (hknown rfl rfl) rfl hpc
    · exact .still Keeps.nil (hknown rfl rfl) rfl hpc
  · exact .still (keeps_pageChange _) ⟨hs.len, .inl rfl⟩ rfl rfl
  · exact .still Keeps.nil hs rfl rfl

lemma told_column (hs : s.Known) (i : Fin 4) (d : UInt8) :
    Told low (Show.column i d s) s (s.column i d) := by
  have hcount : Elsewhere (Show.columnCount i).toNat 2 ∧
      Elsewhere (Show.columnCount i + 1).toNat 2 := by
    revert i
    decide
  have hbs : Keeps low Display.fixed (Show.column i d s) := by
    rw [Show.column]
    refine Keeps.append ?_ (keeps_variableChage _ (by decide))
    split
    · split_ifs
      · exact (keeps_variableChage _ hcount.1).append (keeps_variableChage _ hcount.2)
      · exact keeps_variableChage _ hcount.1
    · split_ifs
      · exact keeps_variableChage _ hcount.1
      · exact Keeps.nil
  rw [Machine.column]
  split
  · split_ifs <;> exact .still hbs ⟨hs.len, hs.meal⟩ rfl rfl
  · exact .still hbs ⟨hs.len, hs.meal⟩ rfl rfl

lemma told_paymentMethod (hs : s.Known) (d : UInt8) :
    Told low (Show.paymentMethod d s) s (s.paymentMethod d) := by
  have hbs : Keeps low Display.fixed (Show.paymentMethod d s) := by
    rw [Show.paymentMethod]
    split_ifs
    · exact keeps_pageChange _
    · exact (keeps_pageChange _).append (keeps_pageChange _)
    · exact (keeps_pageChange _).append Keeps.nil
  rw [Machine.paymentMethod]
  split_ifs
  · exact .still hbs ⟨hs.len, .inl rfl⟩ rfl rfl
  · exact .still hbs ⟨hs.len, hs.meal⟩ rfl rfl
  · exact .still hbs ⟨hs.len, hs.meal⟩ rfl rfl
  · exact .still hbs ⟨hs.len, hs.meal⟩ rfl rfl
  · exact .still hbs ⟨hs.len, .inl rfl⟩ rfl rfl
  · exact .still hbs ⟨hs.len, hs.meal⟩ rfl rfl

lemma told_billPrint (hs : s.Known) (d : UInt8) :
    Told low (Show.billPrint d s) s (s.billPrint d) := by
  have hbs : Keeps low Display.fixed (Show.billPrint d s) := by
    rw [Show.billPrint]
    split_ifs
    · exact keeps_pageChange _
    · exact Keeps.nil
    · exact Keeps.nil
  rw [Machine.billPrint]
  split_ifs
  · exact .still hbs ⟨hs.len, hs.meal⟩ rfl rfl
  · exact .still hbs hs rfl rfl

/-! ### The password page -/

lemma keeps_initSetting (st : Stock) : Keeps low Display.fixed (Show.initSetting st) :=
  ((keeps_variableChage _ (by decide)).append (keeps_variableChage _ (by decide))).append
    (keeps_variableChage _ (by decide))

lemma keeps_confirmPassWord : Keeps low Display.fixed (Show.confirmPassWord s) := by
  have hnone : Keeps low Display.fixed (Show.displayPassWord 0) :=
    keeps_displayPassWord (Nat.zero_le 6)
  rw [Show.confirmPassWord]
  split_ifs
  · exact hnone.append Keeps.nil
  · exact hnone.append ((keeps_pageChange _).append (keeps_initSetting _))
  · exact ((keeps_pageChange _).append (keeps_displayUserRecord _)).append hnone
  · exact ((keeps_pageChange _).append (keeps_variableChage _ (by decide))).append hnone
  · exact (keeps_pageChange _).append hnone

lemma keeps_password (hs : s.Known) (d : UInt8) :
    Keeps low Display.fixed (Show.password d s) := by
  have hlen := hs.len
  rw [Show.password]
  split_ifs
  · exact keeps_displayPassWord (by omega)
  · exact Keeps.nil
  · exact keeps_displayPassWord (by omega)
  · exact Keeps.nil
  · exact keeps_confirmPassWord
  · exact Keeps.nil
  · exact (keeps_pageChange _).append (keeps_displayPassWord (Nat.zero_le 6))
  · exact Keeps.nil

/-- The confirm key changes neither the stock nor the chosen meal. -/
lemma still_confirmPassWord : s.confirmPassWord.session.userAct.mealID = s.session.userAct.mealID ∧
    s.confirmPassWord.counts = s.counts ∧ s.confirmPassWord.session.pc = s.session.pc := by
  rw [Machine.confirmPassWord]
  dsimp only
  split_ifs
  · exact ⟨rfl, rfl, rfl⟩
  · obtain ⟨cur, hcur⟩ := Machine.initSetting_eq s.stock
    rw [hcur]
    exact ⟨rfl, rfl, rfl⟩
  · refine ⟨?_, rfl, rfl⟩
    change s.session.userAct.displayUserRecord.mealID = _
    rw [UserSelection.displayUserRecord]
    split_ifs <;> rfl
  · exact ⟨rfl, rfl, rfl⟩

/-- Nor does any other key. -/
lemma still_password (d : UInt8) :
    (s.password d).session.userAct.mealID = s.session.userAct.mealID ∧
      (s.password d).counts = s.counts ∧ (s.password d).session.pc = s.session.pc := by
  rw [Machine.password]
  split_ifs
  all_goals first
    | exact ⟨rfl, rfl, rfl⟩
    | exact still_confirmPassWord

lemma told_password (hs : s.Known) (d : UInt8) :
    Told low (Show.password d s) s (s.password d) := by
  obtain ⟨hmeal, hcounts, hpc⟩ := still_password (s := s) d
  exact .still (keeps_password hs d)
    ⟨(does_password low d hs.len).1, by rw [hmeal]; exact hs.meal⟩ hcounts hpc

/-! ### The administrator -/

lemma told_adminSet (hs : s.Known) (mealneedSync : Bool) (d : UInt8) :
    Told low (Show.adminSet mealneedSync d io s) s (s.adminSet d io) := by
  rw [Show.adminSet]
  split_ifs with h1 h2 h3 hneed
  · rw [Machine.adminSet, if_neg (by rw [h1]; decide)]
    exact .still (keeps_pageChange _) hs rfl rfl
  · have hset : Sets low Display.menu (s.adminSet d io).counts
        (Show.dispLeftMeal (s.adminSet d io).stock) := sets_dispLeftMeal _
    have hadmin : s.adminSet d io = { s with stock := s.stock.clearAll io.flash } := if_pos h2
    refine .renewed hset (keeps_code_dispLeftMeal _) ?_ ?_
    · rw [hadmin]
      exact ⟨hs.len, hs.meal⟩
    · rw [hadmin]
  · rw [Machine.adminSet, if_neg h2]
    exact .still Keeps.nil hs rfl rfl
  · rw [Machine.adminSet, if_neg h2]
    exact .still (keeps_pageChange _) hs rfl rfl
  · rw [Machine.adminSet, if_neg h2]
    exact .still Keeps.nil hs rfl rfl

lemma keeps_rows (n : UInt8) : Keeps low Display.fixed (Show.rows n) :=
  ((keeps_variableChage _ (by decide)).append (keeps_variableChage _ (by decide))).append
    (keeps_variableChage _ (by decide))

lemma keeps_syncRow (mealId mealCnt : UInt8) {floor : UInt8} (h : floor.toNat < 4) :
    Keeps low Display.fixed (Show.syncRow mealId mealCnt floor) := by
  have hname := toNat_block (a := Show.syncColumn1stName) (by decide) h
  have hnumber := toNat_block (a := Show.syncColumn1stNumber) (by decide) h
  have hname₀ : Show.syncColumn1stName.toNat = 0x4500 := rfl
  have hnumber₀ : Show.syncColumn1stNumber.toNat = 0x4900 := rfl
  have hlen := length_nameRow mealId
  have hlenC := length_countText_le mealCnt
  refine Keeps.append ⟨_, does_nameDisp _ _ _, fun d => fixed_write ?_⟩
    ⟨_, does_textDisp _ _ _, fun d => fixed_writeText ?_⟩
  · rw [Elsewhere]
    omega
  · rw [Elsewhere]
    omega

lemma keeps_syncRows (mealCnt : Kind → UInt8) {ks : List Kind} {floor : ℕ}
    (h : floor + ks.length ≤ 4) :
    Keeps low Display.fixed (Show.syncRows mealCnt ks floor) := by
  induction ks generalizing floor with
  | nil => exact Keeps.nil
  | cons k ks ih =>
    rw [List.length_cons] at h
    have hfloor := toNat_floor (by omega : floor < 4)
    exact (keeps_syncRow _ _ (by omega)).append (ih (by omega))

lemma length_syncKinds (part : Kind → UInt8) : (Show.syncKinds part).length ≤ 4 :=
  (List.length_filter_le _ _).trans (by rw [List.length_finRange])

/-- The comparison ends with the menu. -/
lemma told_synchronize (hs : s.Known) (part : Kind → UInt8) :
    Told low (Show.synchronize part s.stock) s s := by
  have hclear : Keeps low Display.fixed
      ((List.range 4).flatMap fun i => Show.syncRow 0 0xff (UInt8.ofNat i)) :=
    .flatMap fun i hi => by
      rw [List.mem_range] at hi
      have hfloor := toNat_floor hi
      exact keeps_syncRow _ _ (by omega)
  have hpage : Keeps low Display.fixed (if part = fun _ => 0xff then
      Show.pageChange Show.dataSynchronization ++
        Show.syncRows (fun k => (s.stock.defineMeal k).mealCount) (List.finRange 4) 0
      else Show.pageChange (Show.dataSynchronization + 2) ++
        Show.syncRows part (Show.syncKinds part) 0) := by
    have hlen := length_syncKinds part
    split_ifs
    · exact (keeps_pageChange _).append (keeps_syncRows _ (by rw [List.length_finRange]))
    · exact (keeps_pageChange _).append (keeps_syncRows _ (by omega))
  have hfront := ((hclear.append (keeps_screenControl 0)).append hpage).append
    (keeps_screenControl 1)
  exact .renewed (hfront.sets (sets_dispLeftMeal s.stock))
    (hfront.code.append (keeps_code_dispLeftMeal _)) hs rfl

lemma told_mealinputChoose (hs : s.Known) (v : Show.Values) (d : UInt8) :
    Told low (Show.mealinputChoose v d io s) s (s.mealinputChoose d io) := by
  have hset : Sets low Display.menu (s.mealinputChoose d io).counts
      (Show.dispLeftMeal (s.mealinputChoose d io).stock) := sets_dispLeftMeal _
  have hcode : Keeps low Display.code (Show.dispLeftMeal (s.mealinputChoose d io).stock) :=
    keeps_code_dispLeftMeal _
  rw [Show.mealinputChoose]
  rw [Machine.mealinputChoose] at hset hcode ⊢
  by_cases h1 : d = 1
  · rw [if_pos h1, if_pos h1]
    exact .still (keeps_rows 3) ⟨hs.len, hs.meal⟩ rfl rfl
  rw [if_neg h1, if_neg h1]
  by_cases h2 : d = 2
  · rw [if_pos h2, if_pos h2]
    exact .still (keeps_rows 0) ⟨hs.len, hs.meal⟩ rfl rfl
  rw [if_neg h2, if_neg h2]
  by_cases h3 : d = 3
  · rw [if_neg h1, if_neg h2, if_pos h3] at hset hcode
    rw [if_pos h3, if_pos h3]
    exact .renewed hset hcode ⟨hs.len, hs.meal⟩ rfl
  rw [if_neg h3, if_neg h3]
  by_cases h4 : d = 4
  · rw [if_pos h4, if_neg (by rw [h4]; decide)]
    exact told_synchronize hs v.part
  rw [if_neg h4]
  by_cases h5 : d = 5
  · rw [if_pos h5, if_pos h5]
    exact .still (keeps_pageChange _) ⟨hs.len, hs.meal⟩ rfl rfl
  · rw [if_neg h5, if_neg h5]
    exact .still Keeps.nil hs rfl rfl

lemma keeps_coinsKey (v : Show.Values) (d : UInt8) :
    Keeps low Display.fixed (Show.coinsKey v d) := by
  rw [Show.coinsKey]
  split_ifs
  · exact ((keeps_variableChage _ (by decide)).append (keeps_variableChage _ (by decide))).append
      (keeps_variableChage _ (by decide))
  · exact keeps_pageChange _
  · exact Keeps.nil

/-- A message of the screen. -/
lemma told_changeVariableValues (hs : s.Known) (mealneedSync : Bool) (v : Show.Values) (f : Frame) :
    Told low (Show.changeVariableValues mealneedSync v f io s) s (s.changeVariableValues f io) := by
  rw [Show.changeVariableValues, Machine.changeVariableValues]
  cases f.variable with
  | none => exact .still Keeps.nil hs rfl rfl
  | some x =>
    cases x with
    | mealChoose => exact told_mealChoose hs _
    | count k => exact told_count hs k _
    | mealcntChoose => exact told_mealcntChoose hs _
    | column i => exact told_column hs i _
    | paymentMethod => exact told_paymentMethod hs _
    | caedbalenceCancel => exact .still (keeps_pageChange _) ⟨hs.len, hs.meal⟩ rfl rfl
    | billPrint => exact told_billPrint hs _
    | password => exact told_password hs _
    | recordClear =>
      have hbs : Keeps low Display.fixed (Show.recordClear f.data1) := by
        rw [Show.recordClear]
        split_ifs
        · exact keeps_pageChange _
        · exact Keeps.nil
      dsimp only [Machine.recordClear]
      split_ifs
      · exact .still hbs ⟨hs.len, hs.meal⟩ rfl rfl
      · exact .still hbs hs rfl rfl
    | adminSet => exact told_adminSet hs mealneedSync _
    | mealNum =>
      obtain ⟨cur, hcur⟩ := Machine.mealNum_eq s.stock f.data1
      refine .still ((keeps_initSetting _).append (keeps_variableChage _ (by decide)))
        ⟨hs.len, hs.meal⟩ ?_ rfl
      dsimp only
      rw [hcur]
      rfl
    | floorNum =>
      obtain ⟨cur, hcur⟩ := Machine.floorNum_eq s.stock f.data1
      refine .still (keeps_initSetting _) ⟨hs.len, hs.meal⟩ ?_ rfl
      dsimp only
      rw [hcur]
      rfl
    | row c => exact .still Keeps.nil ⟨hs.len, hs.meal⟩ rfl rfl
    | mealinputChoose => exact told_mealinputChoose hs v _
    | tempratureSet => exact .still Keeps.nil ⟨hs.len, hs.meal⟩ rfl rfl
    | coinsKey => exact .still (keeps_coinsKey v _) hs rfl rfl
    | coinsIn =>
      exact .still (keeps_variableChage _ (by decide)) ⟨hs.len, hs.meal⟩ rfl rfl

end Message

/-! ## Every step -/

section Step

variable {low : UInt8 → UInt8} {s t : Machine} {e : MealVendor.Event}

/-- One step of the program. -/
lemma told_step (hs : s.Known) (mealneedSync : Bool) (v : Show.Values) (h : step s e = some t) :
    Told low (Show.step mealneedSync v s e) s t := by
  cases e with
  | coinIn =>
    cases h
    rw [Machine.coinIn]
    dsimp only
    split_ifs <;> exact .still Keeps.nil ⟨hs.len, hs.meal⟩ rfl rfl
  | coinOut => cases h; exact .still Keeps.nil ⟨hs.len, hs.meal⟩ rfl rfl
  | tim3 =>
    obtain ⟨-, rfl⟩ := step_tim3 h
    rw [Machine.tim3]
    split_ifs
    · exact .still Keeps.nil ⟨hs.len, hs.meal⟩ rfl rfl
    · exact .still Keeps.nil ⟨hs.len, .inl rfl⟩ rfl rfl
  | tim4 =>
    obtain rfl := step_tim4 h
    have hbs : Keeps low Display.fixed (Show.step mealneedSync v s .tim4) := by
      rw [Show.step]
      split_ifs
      · exact Keeps.nil
      · exact keeps_pageChange _
      · exact Keeps.nil
    exact .still hbs ⟨hs.len, hs.meal⟩ rfl rfl
  | tim5 => cases h; exact .still Keeps.nil ⟨hs.len, hs.meal⟩ rfl rfl
  | tim7 =>
    obtain rfl := step_tim7 h
    exact .still Keeps.nil ⟨hs.len, hs.meal⟩ rfl rfl
  | pvd =>
    cases h
    have halike := alike_saveUserData { s with erroRecord := s.erroRecord ||| bit outageErro }
    have hknown : Machine.Known { s with erroRecord := s.erroRecord ||| bit outageErro } :=
      ⟨hs.len, hs.meal⟩
    exact .still Keeps.nil (hknown.alike halike) halike.counts halike.pc
  | usart6 b =>
    cases h
    unfold Machine.usart6
    dsimp only
    split_ifs <;> exact .still Keeps.nil ⟨hs.len, hs.meal⟩ rfl rfl
  | screen f io =>
    obtain ⟨-, rfl⟩ := step_screen h
    exact told_changeVariableValues hs mealneedSync v f
  | go io => cases h; exact told_go hs v

end Step

namespace Shop

/-- From the end of the checks on the menu shows the stock, and an error with a code has its code on
the error page. -/
structure Right (s : Shop) : Prop where
  known : s.machine.Known
  rx : s.terminal.rx = .idle
  menu : s.machine.session.pc.booting = false → s.terminal.display.menu = s.machine.counts
  code : ∀ e ret c, s.machine.session.pc = .abnormal e ret → Show.abnormalCode e = some c →
    s.terminal.display.code = c

variable {low : UInt8 → UInt8} {s q : Shop} {e : Event}

/-- What a step sends arrives at the screen. -/
lemma Right.told (h : s.Right) {t : Machine} {bs : List UInt8} {need : Bool}
    (hbs : Told low bs s.machine t) : Right ⟨t, s.terminal.receive low bs, need⟩ := by
  refine ⟨hbs.known, ?_, fun hloop => ?_, fun e ret c he hc => ?_⟩
  · rcases hbs.menu with ⟨hkeep, -⟩ | hset
    · exact (hkeep.receive h.rx).1
    · exact (hset.receive h.rx).1
  · cases hboot : s.machine.session.pc.booting with
    | true => exact ((hbs.loop hboot hloop).receive h.rx).2
    | false =>
      rcases hbs.menu with ⟨hkeep, hcounts⟩ | hset
      · exact (hkeep.receive h.rx).2.trans ((h.menu hboot).trans hcounts.symm)
      · exact (hset.receive h.rx).2
  · rcases hbs.code e ret c he hc with ⟨hset, -⟩ | ⟨hpc, hkeep⟩
    · exact (hset.receive h.rx).2
    · exact (hkeep.receive h.rx).2.trans (h.code e ret c (hpc.trans he) hc)

lemma Right.step (h : s.Right) (he : s.Aside e) (hs : s.step low e = some q) : q.Right := by
  cases e with
  | touch a d0 d1 =>
    cases hs
    have hfixed : (s.terminal.touch a d0 d1).display.fixed = s.terminal.display.fixed :=
      fixed_write he
    exact ⟨h.known, h.rx, fun hloop => (congrArg Prod.fst hfixed).trans (h.menu hloop),
      fun e ret c he hc => (congrArg Prod.snd hfixed).trans (h.code e ret c he hc)⟩
  | program e v =>
    obtain ⟨t, ht, rfl⟩ := Option.map_eq_some_iff.mp hs
    exact h.told (told_step h.known s.mealneedSync v ht)

/-- After power-up the password is empty, no meal is chosen, and an error that is handled has no
code. -/
lemma right_powerUp {m : Machine} (hm : IsPowerUp m) {t : Terminal} (ht : t.rx = .idle)
    (b : Bool) : Right ⟨m, t, b⟩ := by
  obtain ⟨bkp, flash, io, rfl⟩ := hm
  have hpc : (powerUp bkp flash io).session.pc.booting = true ∧
      ∀ e ret, (powerUp bkp flash io).session.pc = .abnormal e ret → e = 0 := by
    rw [powerUp, Machine.hardfawreInit]
    dsimp only
    rw [Machine.abnormalHandle]
    split_ifs <;> exact ⟨rfl, fun e ret he => by cases he <;> rfl⟩
  have hknown : (powerUp bkp flash io).Known := by
    rw [powerUp, Machine.hardfawreInit]
    dsimp only
    rw [Machine.abnormalHandle]
    split_ifs <;> exact ⟨Nat.zero_le 6, .inl rfl⟩
  refine ⟨hknown, ht, fun h => ?_, fun e ret c he hc => ?_⟩
  · rw [hpc.1] at h
    cases h
  · obtain rfl := hpc.2 e ret he
    have hnone : Show.abnormalCode 0 = none := rfl
    rw [hnone] at hc
    cases hc

lemma right_run {p : Shop} {es : List Event} (h : s.Right)
    (hrun : Lib.Runs (step low) Aside s es p) : p.Right :=
  hrun.invariant (fun _ _ _ h he hs => h.step he hs) h

end Shop

/-- Only the temperature is shown of what comes from outside. -/
def Show.Values.quiet : Show.Values := ⟨65, 0, 0, 0, none, fun _ => 0⟩

/-- The program, after power-up, with a screen that was switched on with it. -/
def Shop.start (n : UInt8) : Shop := ⟨stocked n, Terminal.start, false⟩

/-- In every run from power-up, whatever is sold, filled in, cleared, compared or reported: from the
end of the checks on the menu shows of each kind how many meals are left. -/
theorem menuPage_run (low : UInt8 → UInt8) {m : Machine} {t : Terminal} {b : Bool}
    {es : List Shop.Event} {p : Shop} (hm : IsPowerUp m) (ht : t.rx = .idle)
    (hrun : Lib.Runs (Shop.step low) Shop.Aside ⟨m, t, b⟩ es p)
    (hloop : p.machine.session.pc.booting = false) (k : Kind) :
    p.terminal.display.word (Show.meat.toNat + k.val) =
      (p.machine.stock.defineMeal k).mealCount.toUInt16 :=
  congrFun ((Shop.right_run (Shop.right_powerUp hm ht b) hrun).menu hloop) k

/-- One of nine meals is sold, and the menu is shown again. -/
theorem menuPage_run_sale :
    ∃ p, Lib.checkedRun (Shop.step id) Shop.Aside (Shop.start 3)
        ((List.flatten [payOne, payOutAndServe, fetchMeal, uploadAndEnd]).map
          (.program · .quiet)) = some p ∧
      p.terminal.display.page = Show.menuInterface ∧
      p.terminal.display.word Show.meat.toNat = 8 := by
  have hrun : (Lib.checkedRun (Shop.step id) Shop.Aside (Shop.start 3)
      ((List.flatten [payOne, payOutAndServe, fetchMeal, uploadAndEnd]).map
        (.program · .quiet))).any
          (fun p => p.machine.session.pc.booting = false ∧
            p.terminal.display.page = Show.menuInterface ∧
            (p.machine.stock.defineMeal 0).mealCount = 8) = true := by
    decide +kernel
  obtain ⟨p, hp, hloop, hpage, hcount⟩ := Lib.exists_of_any hrun
  have hmenu := menuPage_run id (stocked_isPowerUp 3) rfl (.of_checkedRun hp) hloop 0
  rw [hcount] at hmenu
  exact ⟨p, hp, hpage, hmenu⟩

/-- After every step of every run from power-up that ends at an error with a code, this code is
shown; and if the step was the one that came upon the error, its page is opened. -/
theorem errorPage_run (low : UInt8 → UInt8) {m : Machine} {t : Terminal} {b : Bool}
    {es : List Shop.Event} {p q : Shop} {x : Shop.Event} {e : ℕ} {ret : Ret} {c : List UInt8}
    (hm : IsPowerUp m) (ht : t.rx = .idle)
    (hrun : Lib.Runs (Shop.step low) Shop.Aside ⟨m, t, b⟩ es p) (hx : p.Aside x)
    (hstep : p.step low x = some q) (he : q.machine.session.pc = .abnormal e ret)
    (hc : Show.abnormalCode e = some c) :
    q.terminal.display.code = c ∧
      (p.machine.session.pc ≠ q.machine.session.pc →
        q.terminal.display.page = Show.errInterface) := by
  have hright := Shop.right_run (Shop.right_powerUp hm ht b) hrun
  refine ⟨(hright.step hx hstep).code e ret c he hc, fun hpc => ?_⟩
  cases x with
  | touch a d0 d1 =>
    cases hstep
    exact absurd rfl hpc
  | program x v =>
    obtain ⟨m', hm', rfl⟩ := Option.map_eq_some_iff.mp hstep
    rcases (told_step hright.known p.mealneedSync v hm').code e ret c he hc with
      ⟨-, hpage⟩ | ⟨hpc', -⟩
    · exact (hpage.receive hright.rx).2
    · exact absurd hpc' hpc

/-- Before the loop of `main`: the check of the hopper fails. -/
theorem errorPage_run_hopper :
    ∃ p q, Lib.checkedRun (Shop.step id) Shop.Aside (Shop.start 3)
        ((startUp.take 15).map (.program · .quiet)) = some p ∧
      p.step id (.program .next .quiet) = some q ∧
      q.terminal.display.code = ['E', '0', '3', '0'].map Char.toUInt8 ∧
      q.terminal.display.page = Show.errInterface := by
  have hrun : (Lib.checkedRun (Shop.step id) Shop.Aside (Shop.start 3)
      ((startUp.take 15).map (.program · .quiet))).any
        (fun p => p.machine.session.pc = .check 3 ∧
          (p.step id (.program .next .quiet)).any
            (fun q => q.machine.session.pc = .abnormal 5 (.check 3)) = true) = true := by
    decide +kernel
  obtain ⟨p, hp, hcheck, hany⟩ := Lib.exists_of_any hrun
  obtain ⟨q, hq, herr⟩ := Lib.exists_of_any hany
  have haside : p.Aside (.program .next .quiet) := trivial
  obtain ⟨hcode, hpage⟩ :=
    errorPage_run id (stocked_isPowerUp 3) rfl (.of_checkedRun hp) haside hq herr rfl
  refine ⟨p, q, hp, hq, hcode, hpage ?_⟩
  rw [hcheck, herr]
  exact nofun

end MealVendor
