import MealVendor.Sale.Bill

/-!
# What changes the costs

Only the messages about the cart write to the costs and to `PayShould`.  Everything else that the
machine does leaves them as they are, or clears them.
-/

namespace MealVendor

/-- The costs and the amount due are the same, or cleared. -/
inductive BillStep (u v : UserSelection) : Prop
  | same (hcost : v.mealCost = u.mealCost) (hdue : v.payShould = u.payShould)
  | clear (hcost : v.mealCost = fun _ => 0) (hdue : v.payShould = 0)

/-- No cost needs more than twelve bits, and the amount due is no more than four such costs, or it
is still `d`. -/
structure BillFits (d : UInt16) (u : UserSelection) : Prop where
  mealCost : ∀ k, (u.mealCost k).toNat ≤ 3825
  payShould : u.payShould.toNat ≤ 15300 ∨ u.payShould = d

lemma BillStep.clearUserBuffer (u v : UserSelection) : BillStep u v.clearUserBuffer :=
  .clear rfl rfl

lemma BillFits.step {d : UInt16} {u v : UserSelection} (h : BillFits d u) (hstep : BillStep u v) :
    BillFits d v := by
  cases hstep with
  | same hcost hdue =>
    refine ⟨?_, ?_⟩
    · rw [hcost]
      exact h.mealCost
    · rw [hdue]
      exact h.payShould
  | clear hcost hdue =>
    refine ⟨fun k => ?_, .inl ?_⟩
    · rw [hcost]
      exact Nat.zero_le _
    · rw [hdue]
      exact Nat.zero_le _

namespace Machine

variable {s : Machine} {io : Io}

/-- The step from `s` to `t` leaves the bill alone, or clears it. -/
def KeepsBill (s t : Machine) : Prop := BillStep s.session.userAct t.session.userAct

/-- Something that is not about the bill was done before. -/
lemma KeepsBill.of {s' t : Machine} (h : s'.KeepsBill t)
    (hs : s'.session.userAct = s.session.userAct) : s.KeepsBill t := by
  rw [KeepsBill, ← hs]
  exact h

/-! ## The main program -/

section Program

variable (s)

lemma abnormalHandle_keepsBill (e : ℕ) (ret : Ret) : s.KeepsBill (s.abnormalHandle e ret) := by
  rw [abnormalHandle]
  dsimp only
  split_ifs <;> exact .same rfl rfl

lemma manageusart6data_keepsBill (ret : Ret) {k : Machine → Machine}
    (hk : ∀ s' : Machine, s'.KeepsBill (k s')) : s.KeepsBill (s.manageusart6data ret k) := by
  refine manageusart6data_cases rfl (fun _ e _ => ?_) (fun _ => (hk _).of rfl) fun _ => hk s
  exact (abnormalHandle_keepsBill _ e ret).of rfl

lemma waitOrder_keepsBill (c : Command) (r : ℕ) (again : ℕ → Pc) {done fail : Machine → Machine}
    (hdone : ∀ s' : Machine, s'.KeepsBill (done s'))
    (hfail : ∀ s' : Machine, s'.KeepsBill (fail s')) :
    s.KeepsBill (s.waitOrder c r again done fail) :=
  waitOrder_cases rfl ((hdone _).of rfl) ((hfail _).of rfl) ((hfail _).of rfl)
    (fun _ => .same rfl rfl) (.same rfl rfl)

lemma pollAbnormalHandle_keepsBill (i : ℕ) : s.KeepsBill (s.pollAbnormalHandle i) := by
  rw [pollAbnormalHandle]
  split
  · exact abnormalHandle_keepsBill s _ _
  · exact .same rfl rfl

lemma payTail_keepsBill : s.KeepsBill s.payTail := by
  rw [payTail]
  split_ifs
  · have hclear : BillStep s.session.userAct s.session.timeout.userAct := by
      rw [Session.timeout_userAct]
      exact .clearUserBuffer _ _
    exact hclear
  · exact .same rfl rfl

lemma cardEnd_keepsBill (paid : Option ℤ) : s.KeepsBill (s.cardEnd paid) := by
  unfold cardEnd
  cases paid <;> exact .same rfl rfl

lemma cardRead_keepsBill (szt : Bool) (money : ℤ) (cnt : ℕ) :
    s.KeepsBill (s.cardRead szt money cnt io) := by
  rw [cardRead]
  split_ifs
  · exact .same rfl rfl
  · exact cardEnd_keepsBill s none
  · exact (cardEnd_keepsBill _ none).of rfl
  · exact .same rfl rfl

lemma cardDeal_keepsBill (szt : Bool) (money : ℤ) (cnt : ℕ) :
    s.KeepsBill (s.cardDeal szt money cnt) := by
  rw [cardDeal]
  split_ifs
  · exact (cardEnd_keepsBill _ none).of rfl
  · exact .same rfl rfl
  · exact cardEnd_keepsBill s none

lemma readBills_keepsBill (value : ℕ) (t : Session) :
    BillStep t.userAct (t.readBills value).userAct := by
  rw [Session.readBills]
  dsimp only
  split_ifs <;> exact .same rfl rfl

lemma waitPayMoney_keepsBill : s.KeepsBill (s.waitPayMoney io) := by
  rw [waitPayMoney]
  cases s.session.currentPoint with
  | p1 =>
    dsimp only
    split_ifs <;> exact .same rfl rfl
  | p3 =>
    dsimp only
    split_ifs
    · exact abnormalHandle_keepsBill s _ _
    · exact readBills_keepsBill _ _
  | p9 =>
    dsimp only [statusOk]
    split_ifs <;> exact .same rfl rfl
  | p0 | p2 | p5 | p6 | p7 | p8 => exact .same rfl rfl

lemma hpperOut_keepsBill : s.KeepsBill (s.hpperOut io) := by
  rw [hpperOut]
  dsimp only
  split_ifs <;> exact .same rfl rfl

lemma idleTail_keepsBill : s.KeepsBill s.idleTail := by
  rw [idleTail]
  split_ifs <;> exact .same rfl rfl

lemma switch_keepsBill : s.KeepsBill (s.switch io) := by
  rw [switch]
  have hsave : s.saveUserData.session.userAct = s.session.userAct := by rw [saveUserData_session]
  cases s.session.current with
  | currentTemperature =>
    dsimp only
    split_ifs
    · exact .same rfl rfl
    · exact idleTail_keepsBill s
  | waitforMoney => exact (waitPayMoney_keepsBill _).of hsave
  | hpperOut => exact hpperOut_keepsBill s
  | mealOut => exact (KeepsBill.of (.same rfl rfl) hsave)
  | dataUpload => exact .same rfl rfl
  | erroHanle => exact pollAbnormalHandle_keepsBill s _

lemma check_keepsBill (n : ℕ) : s.KeepsBill (s.check n io) := by
  unfold check
  dsimp only
  split
  · refine (abnormalHandle_keepsBill _ _ _).of ?_
    split_ifs <;> rfl
  · split_ifs <;> exact .same rfl rfl

lemma initCheck_keepsBill : s.KeepsBill s.initCheck := by
  rw [initCheck]
  split_ifs <;> exact .same rfl rfl

lemma goalCheck_keepsBill : s.KeepsBill s.goalCheck := by
  rw [goalCheck]
  split_ifs <;> exact .same rfl rfl

lemma doorCheck_keepsBill : s.KeepsBill s.doorCheck := by
  rw [doorCheck]
  split_ifs <;> exact .same rfl rfl

lemma awayCheck_keepsBill : s.KeepsBill s.awayCheck := by
  rw [awayCheck]
  split_ifs <;> exact .same rfl rfl

lemma find_keepsBill : s.KeepsBill s.find := by
  rw [find]
  cases s.session.userAct.firstKind with
  | none => exact .clear rfl rfl
  | some k =>
    dsimp only
    split <;> exact .same rfl rfl

lemma take_keepsBill : s.KeepsBill (s.take io) := by
  rw [take]
  split <;> exact .same rfl rfl

lemma coord_keepsBill (r : ℕ) : s.KeepsBill (s.coord r) := by
  rw [coord]
  split
  · exact waitOrder_keepsBill s _ r _ (fun _ => .same rfl rfl) fun _ => .same rfl rfl
  · exact .same rfl rfl

lemma countMeal_keepsBill : s.KeepsBill s.countMeal := by
  have hout : ∀ u : UserSelection, BillStep u u.takeOut := by
    intro u
    rw [UserSelection.takeOut]
    dsimp only
    split <;> exact .same rfl rfl
  exact hout _

lemma resume_keepsBill (ret : Ret) : s.KeepsBill (s.resume ret) := by
  unfold resume
  cases ret with
  | init => exact (initCheck_keepsBill _).of rfl
  | goal => exact (goalCheck_keepsBill _).of rfl
  | door => exact (doorCheck_keepsBill _).of rfl
  | away => exact (awayCheck_keepsBill _).of rfl
  | poll i => exact pollAbnormalHandle_keepsBill s i
  | start | check | main | bill => exact .same rfl rfl

lemma abnormalEnd_keepsBill (e : ℕ) (ret : Ret) : s.KeepsBill (s.abnormalEnd e ret) := by
  rw [abnormalEnd]
  split_ifs
  · have hsave : s.clearUserBuffer.saveUserData.session = s.session.clearUserBuffer :=
      saveUserData_session _
    have hclear : s.KeepsBill s.clearUserBuffer.saveUserData := by
      rw [KeepsBill, hsave]
      exact .clearUserBuffer _ _
    exact hclear
  · exact .same rfl rfl

end Program

lemma go_keepsBill : s.KeepsBill (s.go io) := by
  rw [go]
  cases s.session.pc with
  | initLink r | initOrder r =>
    exact waitOrder_keepsBill s _ r _ (fun _ => .same rfl rfl) fun _ => .same rfl rfl
  | link r => exact waitOrder_keepsBill s _ r _ idleTail_keepsBill idleTail_keepsBill
  | initWait => exact manageusart6data_keepsBill s _ initCheck_keepsBill
  | check n => exact check_keepsBill s n
  | deal => exact manageusart6data_keepsBill s _ fun _ => .same rfl rfl
  | switch => exact switch_keepsBill s
  | cardRead szt money cnt => exact cardRead_keepsBill s szt money cnt
  | cardDeal szt money cnt => exact cardDeal_keepsBill s szt money cnt
  | cardDeduct szt money => exact cardEnd_keepsBill s _
  | payTail => exact payTail_keepsBill s
  | find => exact find_keepsBill s
  | take => exact take_keepsBill s
  | coord r => exact coord_keepsBill s r
  | goal =>
    dsimp only [goal]
    split_ifs
    · exact .same rfl rfl
    · exact manageusart6data_keepsBill s _ goalCheck_keepsBill
  | getMeal r => exact waitOrder_keepsBill s _ r _ (fun _ => .same rfl rfl) fun _ => .same rfl rfl
  | door =>
    dsimp only [door]
    split_ifs
    · exact .same rfl rfl
    · exact manageusart6data_keepsBill s _ doorCheck_keepsBill
  | away =>
    dsimp only [away]
    split_ifs
    · exact .same rfl rfl
    · exact manageusart6data_keepsBill s _ awayCheck_keepsBill
  | count => exact countMeal_keepsBill s
  | abnormal e ret =>
    dsimp only
    split_ifs
    · exact abnormalEnd_keepsBill s e ret
    · exact .same rfl rfl
  | resume ret => exact resume_keepsBill s ret

/-! ## The other messages of the screen -/

/-- A message that is not about the cart. -/
lemma changeVariableValues_keepsBill {f : Frame} (hf : f.editsCart = false) :
    s.KeepsBill (s.changeVariableValues f io) := by
  rw [Frame.editsCart] at hf
  rw [changeVariableValues]
  cases hv : f.variable with
  | none => exact .same rfl rfl
  | some v =>
    rw [hv] at hf
    cases v with
    | mealChoose | count | mealcntChoose | column => cases hf
    | paymentMethod =>
      dsimp only [paymentMethod]
      split_ifs
      · exact .clear rfl rfl
      · exact .same rfl rfl
      · exact .same rfl rfl
      · exact .same rfl rfl
      · exact .clear rfl rfl
      · exact .same rfl rfl
    | password =>
      have hrecord : ∀ u : UserSelection, BillStep u u.displayUserRecord := by
        intro u
        rw [UserSelection.displayUserRecord_eq]
        exact .same rfl rfl
      dsimp only [password, confirmPassWord]
      split_ifs <;> first | exact .same rfl rfl | exact hrecord _
    | billPrint =>
      dsimp only [billPrint]
      split_ifs <;> exact .same rfl rfl
    | adminSet =>
      dsimp only [adminSet]
      split_ifs <;> exact .same rfl rfl
    | mealinputChoose =>
      dsimp only [mealinputChoose]
      split_ifs <;> exact .same rfl rfl
    | recordClear =>
      dsimp only [recordClear]
      split_ifs <;> exact .same rfl rfl
    | row | floorNum | mealNum | tempratureSet | coinsIn | coinsKey | caedbalenceCancel =>
      exact .same rfl rfl

/-- A step that is no message about the cart. -/
lemma step_keepsBill {e : Event} {t : Machine} (h : step s e = some t)
    (hcart : ∀ f, e.frame = some f → f.editsCart = false) : s.KeepsBill t := by
  cases e with
  | coinIn =>
    cases h
    dsimp only [coinIn]
    split_ifs <;> exact .same rfl rfl
  | tim3 =>
    obtain ⟨-, rfl⟩ := step_tim3 h
    rw [tim3]
    split_ifs
    · exact .same rfl rfl
    · exact .clear rfl rfl
  | tim4 =>
    obtain rfl := step_tim4 h
    exact .same rfl rfl
  | tim7 =>
    obtain rfl := step_tim7 h
    exact .same rfl rfl
  | pvd =>
    cases h
    refine .same ?_ ?_ <;> rw [pvd, saveUserData_session]
  | usart6 b =>
    cases h
    dsimp only [usart6]
    split_ifs <;> exact .same rfl rfl
  | screen f io =>
    obtain ⟨-, rfl⟩ := step_screen h
    exact changeVariableValues_keepsBill (hcart f rfl)
  | go io =>
    cases h
    exact go_keepsBill
  | coinOut | tim5 =>
    cases h
    exact .same rfl rfl

end Machine

/-! ## The messages about the cart -/

namespace BillFits

variable {d : UInt16} {u v : UserSelection}

/-- One cost is written. -/
lemma update (h : BillFits d u) {k : Kind} {c : UInt16} (hc : c.toNat ≤ 3825)
    (hcost : v.mealCost = Function.update u.mealCost k c) (hdue : v.payShould = u.payShould) :
    BillFits d v := by
  refine ⟨fun j => ?_, ?_⟩
  · rw [hcost]
    rcases eq_or_ne j k with rfl | hne
    · rw [Function.update_self]
      exact hc
    · rw [Function.update_of_ne hne]
      exact h.mealCost j
  · rw [hdue]
    exact h.payShould

/-- The cost of a count that is put into the cart is computed in a byte. -/
lemma getMealPrice_le (mealID n : UInt8) : (getMealPrice mealID n).toUInt16.toNat ≤ 3825 := by
  have := (getMealPrice mealID n).toNat_lt
  rw [UInt8.toNat_toUInt16]
  omega

lemma putIntoShopCart (h : BillFits d u) : BillFits d u.putIntoShopCart := by
  rw [UserSelection.putIntoShopCart]
  cases Kind.ofID u.mealID with
  | none => exact h.step (.same rfl rfl)
  | some k => exact h.update (getMealPrice_le u.mealID (u.mealCntT k)) rfl rfl

lemma setColumn (h : BillFits d u) (k : Kind) (n : UInt8) : BillFits d (u.setColumn k n) := by
  have hcost : (UInt16.ofNat (n.toNat * price k)).toNat ≤ 3825 := by
    have hlt := n.toNat_lt
    have hfit : n.toNat * 15 < 65536 := by omega
    rw [price_eq, UInt16.toNat_ofNat_of_lt' hfit]
    omega
  exact h.update hcost rfl rfl

/-- The sum of four costs. -/
lemma settle (h : BillFits d u) : BillFits d u.settle := by
  refine ⟨h.mealCost, .inl ?_⟩
  have hsum : ∑ k, (u.mealCost k).toNat ≤ 15300 :=
    calc ∑ k, (u.mealCost k).toNat ≤ ∑ _k : Kind, 3825 :=
          Finset.sum_le_sum fun k _ => h.mealCost k
      _ = 15300 := by simp
  calc u.settle.payShould.toNat = (∑ k, (u.mealCost k).toNat) % 65536 := UInt16.toNat_ofNat'
    _ ≤ ∑ k, (u.mealCost k).toNat := Nat.mod_le _ _
    _ ≤ 15300 := hsum

end BillFits

variable {s : Machine} {io : Io} {d : UInt16}

lemma changeVariableValues_billFits {f : Frame} (hf : f.editsCart = true)
    (h : BillFits d s.session.userAct) :
    BillFits d (s.changeVariableValues f io).session.userAct := by
  rw [Frame.editsCart] at hf
  rw [Machine.changeVariableValues]
  split at hf
  · next hv =>
    rw [hv]
    dsimp only [Machine.mealChoose]
    split
    · split_ifs <;> exact h.step (.same rfl rfl)
    · exact h
  · next k hv =>
    rw [hv]
    dsimp only [Machine.count]
    split_ifs
    · exact h.update (BillFits.getMealPrice_le _ f.data1) rfl rfl
    · exact h.step (.same rfl rfl)
  · next hv =>
    rw [hv]
    dsimp only [Machine.mealcntChoose]
    have hput : BillFits d s.session.putIntoShopCart.userAct := by
      rw [Session.putIntoShopCart_userAct]
      exact h.putIntoShopCart
    split_ifs
    · exact hput
    · dsimp only [Machine.enterCart]
      split_ifs
      · exact hput.settle
      · exact hput
    · exact h.step (.clearUserBuffer _ _)
    · exact h
  · next i hv =>
    rw [hv]
    dsimp only [Machine.column]
    split
    · next k hk =>
      split_ifs
      · exact (h.setColumn k f.data1).settle
      · exact h.settle
    · exact h.settle
  · cases hf

/-- Every step of the machine keeps the bounds. -/
lemma step_billFits {e : Event} {t : Machine} (h : BillFits d s.session.userAct)
    (hstep : step s e = some t) : BillFits d t.session.userAct := by
  by_cases hcart : ∀ f, e.frame = some f → f.editsCart = false
  · exact h.step (Machine.step_keepsBill hstep hcart)
  · push Not at hcart
    obtain ⟨f, hframe, hf⟩ := hcart
    cases e with
    | screen f' io =>
      cases hframe
      obtain ⟨-, rfl⟩ := step_screen hstep
      exact changeVariableValues_billFits (Bool.not_eq_false _ ▸ hf) h
    | coinIn | coinOut | tim3 | tim4 | tim5 | tim7 | pvd | usart6 | go => cases hframe

end MealVendor
