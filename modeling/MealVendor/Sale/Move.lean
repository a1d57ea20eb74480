import MealVendor.Sale.Ledger

/-!
# What a step can do to a sale

Most steps of the machine do nothing to the cart, the money or the payment: they wait, run
a timer, talk to the arm or change a page.  `Session.Calm` is what they have in common.
`Move` lists the other steps, one constructor each, with what is known where it happens.
`step_move` says that the list is complete: it is the only place where the definition of the
machine is unfolded for the statements about sales.
-/

namespace MealVendor

/-! ## Parts of the program -/

/-- Whether `AbnormalHandle` was called while the arm had a meal. -/
def Ret.flight : Ret → Bool
  | .goal | .door | .away => true
  | _ => false

/-- Whether `AbnormalHandle` was called from `WaitPayMoney`. -/
def Ret.pays : Ret → Bool
  | .bill => true
  | _ => false

/-- The pieces of `WaitMeal` between `FindMeal` and `Meal_takeout++`. -/
def Pc.flight : Pc → Bool
  | .take | .coord _ | .goal | .getMeal _ | .door | .away | .count => true
  | .abnormal _ ret | .resume ret => ret.flight
  | _ => false

/-- The loop of `AbnormalHandle` for an error of the arm, which clears the selection at its
end. -/
def Pc.doomed : Pc → Bool
  | .abnormal erro _ => decide (xTimeout ≤ erro)
  | _ => false

/-- The pieces of `WaitPayMoney` after its first one. -/
def Pc.pays : Pc → Bool
  | .cardRead .. | .cardDeal .. | .cardDeduct .. | .payTail => true
  | .abnormal _ ret | .resume ret => ret.pays
  | _ => false

/-- Whether the program can go on at `q` after `p` without entering or leaving one of these
parts. -/
def Pc.leadsTo (p q : Pc) : Bool :=
  q.flight == p.flight && (!p.doomed || q.doomed) &&
    (!q.deals || !q.flight || p.deals || q.doomed) && (!q.pays || p.pays) && q != .find

/-! ## Calm steps -/

namespace UserSelection

/-- The cart, the bill and the money are the same. -/
structure SameSale (u v : UserSelection) : Prop where
  mealCnt : v.mealCnt = u.mealCnt
  payShould : v.payShould = u.payShould
  payForCoins : v.payForCoins = u.payForCoins
  payForBills : v.payForBills = u.payForBills
  payForCards : v.payForCards = u.payForCards
  payAlready : v.payAlready = u.payAlready
  moneyBack : v.moneyBack = u.moneyBack
  cancle : v.cancle = u.cancle

lemma SameSale.refl (u : UserSelection) : u.SameSale u := ⟨rfl, rfl, rfl, rfl, rfl, rfl, rfl, rfl⟩

end UserSelection

/-- A step that does nothing to the cart, the bill and the money, and does not reach point 9
of `WaitPayMoney`.  It may go on in the same part of the program, or enter `WaitPayMoney` and
`WaitMeal` in their states. -/
structure Session.Calm (s t : Session) : Prop where
  userAct : s.userAct.SameSale t.userAct
  current : t.current = s.current
  trace : ∃ os : List Obs, (∀ o ∈ os, o.quiet) ∧ t.trace = os ++ s.trace
  point : t.currentPoint = .p9 → s.currentPoint = .p9
  mealID : s.pc.flight → ¬ s.pc.deals → t.userAct.mealID = s.userAct.mealID
  counts : t.userAct.mealCntT = s.userAct.mealCntT ∨ s.pc.deals
  flight : t.pc.flight = s.pc.flight
  doomed : s.pc.doomed → t.pc.doomed
  stuck : t.pc.deals → t.pc.flight → s.pc.deals ∨ t.pc.doomed
  pays : t.pc.pays → s.pc.pays ∨ s.pc = .switch ∧ s.current = .waitforMoney
  find : t.pc = .find → s.pc = .find ∨ s.current = .mealOut

namespace Session.Calm

variable {s t : Session}

lemma refl (s : Session) : s.Calm s where
  userAct := .refl _
  current := rfl
  trace := ⟨[], by simp, rfl⟩
  point := id
  mealID := fun _ _ => rfl
  counts := .inl rfl
  flight := rfl
  doomed := id
  stuck := fun h _ => .inl h
  pays := .inl
  find := .inl

/-- A change of the selection that keeps the sale. -/
lemma edit {u : UserSelection} (h : s.userAct.SameSale u)
    (hid : s.pc.flight → ¬ s.pc.deals → u.mealID = s.userAct.mealID)
    (hcounts : u.mealCntT = s.userAct.mealCntT ∨ s.pc.deals) : s.Calm { s with userAct := u } :=
  { refl s with userAct := h, mealID := hid, counts := hcounts }

/-- Something quiet is recorded. -/
lemma emit (h : s.Calm t) {o : Obs} (ho : o.quiet) : s.Calm (t.emit o) := by
  obtain ⟨os, hos, ht⟩ := h.trace
  refine { h with trace := ⟨o :: os, ?_, by rw [Session.emit_trace, ht]; rfl⟩ }
  intro o' ho'
  rcases List.mem_cons.mp ho' with rfl | ho'
  · exact ho
  · exact hos o' ho'

/-- Another point of `WaitPayMoney`. -/
lemma setPoint (h : s.Calm t) (p : CurrentPoint) (hp : p ≠ .p9) :
    s.Calm { t with currentPoint := p } :=
  { h with point := fun h9 => absurd h9 hp }

/-- The program goes on in the same part. -/
lemma goto (h : s.Calm t) {p : Pc} (hf : p.flight = s.pc.flight) (hd : s.pc.doomed → p.doomed)
    (hs : p.deals → p.flight → s.pc.deals ∨ p.doomed)
    (hp : p.pays → s.pc.pays ∨ s.pc = .switch ∧ s.current = .waitforMoney)
    (hfind : p = .find → s.pc = .find ∨ s.current = .mealOut) : s.Calm (t.goto p) :=
  { h with flight := hf, doomed := hd, stuck := hs, pays := hp, find := hfind }

/-- The same between two places that are known. -/
lemma leadsTo (h : s.Calm t) {p q : Pc} (hpc : s.pc = p) (hq : p.leadsTo q) :
    s.Calm (t.goto q) := by
  subst hpc
  simp only [Pc.leadsTo, Bool.and_eq_true, Bool.or_eq_true, Bool.not_eq_true', beq_iff_eq,
    bne_iff_ne] at hq
  obtain ⟨⟨⟨⟨hf, hd⟩, hs⟩, hp⟩, hfind⟩ := hq
  refine h.goto hf (fun h => ?_) (fun h h' => ?_) (fun h => .inl ?_) (absurd · hfind) <;> simp_all

/-- The same from `switch(Current)` into `WaitPayMoney`. -/
lemma enterPay (h : s.Calm t) {q : Pc} (hpc : s.pc = .switch) (hc : s.current = .waitforMoney)
    (hq : q.flight = false) (hfind : q ≠ .find) : s.Calm (t.goto q) := by
  refine h.goto ?_ ?_ ?_ (fun _ => .inr ⟨hpc, hc⟩) (absurd · hfind)
  · rw [hq, hpc]; rfl
  · rw [hpc]; exact nofun
  · rw [hq]; exact nofun

/-- The same from `switch(Current)` into `WaitMeal`. -/
lemma enterMeal (h : s.Calm t) (hpc : s.pc = .switch) (hc : s.current = .mealOut) :
    s.Calm (t.goto .find) := by
  refine h.goto ?_ ?_ nofun nofun fun _ => .inr hc
  · rw [hpc]; rfl
  · rw [hpc]; exact nofun

/-- The book does not notice a calm step. -/
lemma book (h : s.Calm t) : t.book = s.book := by
  obtain ⟨os, hos, ht⟩ := h.trace
  rw [Session.book, ht]
  exact Lib.tally_append_silent fun o ho => Obs.note_of_quiet (hos o ho)

/-- Nor does a statement about the records that are not quiet. -/
lemma always (h : s.Calm t) {P : Obs → Book → Prop} (hP : ∀ o, o.quiet → ∀ b, P o b)
    (hs : s.Always P) : t.Always P := by
  obtain ⟨os, hos, ht⟩ := h.trace
  rw [Session.Always, ht]
  exact Lib.Always.append (fun o ho => hP o (hos o ho)) hs

end Session.Calm

/-! ## The other steps -/

namespace Session

/-- `mealcnt_choose` with the third key and something in the cart. -/
def enterCart (s : Session) : Session :=
  { s.putIntoShopCart with
    userAct := s.userAct.putIntoShopCart.settle, current := .waitforMoney }

/-- `mealcnt_choose` with the cancel key. -/
def drop (s : Session) : Session := { s.clearUserBuffer with current := .currentTemperature }

/-- The bill is computed again. -/
def recalc (s : Session) : Session := { s with userAct := s.userAct.settle }

/-- A column change. -/
def setColumn (k : Kind) (d : UInt8) (s : Session) : Session :=
  ({ s with userAct := s.userAct.setColumn k d }.emit (.column k)).recalc

/-- `DisplayUserRecord`. -/
def displayUserRecord (s : Session) : Session :=
  { s with userAct := s.userAct.displayUserRecord }

/-- Another main state. -/
def become (c : Current) (s : Session) : Session := { s with current := c }

end Session

namespace Session

/-! ### What putting a kind into the cart keeps -/

variable (s : Session)

@[simp] lemma putIntoShopCart_book : s.putIntoShopCart.book = s.book := by
  unfold putIntoShopCart
  dsimp only
  split <;> rfl

lemma putIntoShopCart_always {P : Obs → Book → Prop} (hP : ∀ o, o.quiet → ∀ b, P o b)
    (h : s.Always P) : s.putIntoShopCart.Always P := by
  unfold putIntoShopCart
  dsimp only
  split
  · exact ⟨hP _ rfl _, h⟩
  · exact h

end Session

/-- The password page shows the record of the user to the administrator. -/
def Frame.showsRecord (f : Frame) (s : Machine) : Prop :=
  f.variable = some .password ∧ f.data1 = 0x11 ∧ s.inputPassWord = Machine.adminPassWord ∧
    s.erroFlag ≠ 0

instance (f : Frame) (s : Machine) : Decidable (f.showsRecord s) :=
  inferInstanceAs (Decidable (_ ∧ _))

/-- The cancel key of `payment_method`, which is also reached when nothing is to be paid. -/
def Frame.cancels (f : Frame) (s : Machine) : Prop :=
  f.variable = some .paymentMethod ∧ (s.session.userAct.payShould = 0 ∨ f.data1 = 4)

instance (f : Frame) (s : Machine) : Decidable (f.cancels s) :=
  inferInstanceAs (Decidable (_ ∧ _))

variable (s : Machine)

/-- The steps of the machine, as far as a sale is concerned. -/
inductive Move : Event → Session → Prop
  | calm {e : Event} {t : Session} (h : s.session.Calm t) : Move e t
  | coin (hcnt : s.coinsCount + 1 = 2) : Move .coinIn s.session.addCoin
  | expire (hopen : s.timers.tim3) (hwait : s.timers.waitTime = 0) :
      Move .tim3 s.session.clearUserBuffer
  | put {f : Frame} {io : Io} (hpc : s.session.pc.deals) (hf : f.variable = some .mealcntChoose)
      (hd : f.data1 = 2 ∨ f.data1 = 3 ∧ ¬ 0 < s.session.userAct.putIntoShopCart.mealTotoal) :
      Move (.screen f io) s.session.putIntoShopCart
  | enter {f : Frame} {io : Io} (hpc : s.session.pc.deals)
      (hf : f.variable = some .mealcntChoose) (hd : f.data1 = 3)
      (htotal : 0 < s.session.userAct.putIntoShopCart.mealTotoal) :
      Move (.screen f io) s.session.enterCart
  | drop {f : Frame} {io : Io} (hpc : s.session.pc.deals)
      (hf : f.variable = some .mealcntChoose) (hd : f.data1 = 4) :
      Move (.screen f io) s.session.drop
  | column {f : Frame} {io : Io} {i : Fin 4} {k : Kind} (hpc : s.session.pc.deals)
      (hf : f.variable = some (.column i)) (hk : Kind.ofID (s.dispMeal i).mealId = some k)
      (hd : f.data1 ≤ (s.stock.defineMeal k).mealCount) :
      Move (.screen f io) (s.session.setColumn k f.data1)
  | recalc {f : Frame} {io : Io} {i : Fin 4} (hpc : s.session.pc.deals)
      (hf : f.variable = some (.column i))
      (hd : ∀ k, Kind.ofID (s.dispMeal i).mealId = some k →
        ¬ f.data1 ≤ (s.stock.defineMeal k).mealCount) :
      Move (.screen f io) s.session.recalc
  | cancel {f : Frame} {io : Io} (hpc : s.session.pc.deals)
      (hf : f.variable = some .paymentMethod)
      (hd : s.session.userAct.payShould = 0 ∨ f.data1 = 4) :
      Move (.screen f io) s.session.cancelPayment
  | record {f : Frame} {io : Io} (hpc : s.session.pc.deals)
      (hrec : f.showsRecord s) :
      Move (.screen f io) s.session.displayUserRecord
  | bill {io : Io} {v : ℕ} (hpc : s.session.pc = .switch)
      (hc : s.session.current = .waitforMoney) (h3 : s.session.currentPoint = .p3)
      (hv : v = io.bill.value) (h0 : v ≠ 0) :
      Move (.go io) ((s.session.readBills v).goto .payTail)
  | enough {io : Io} (hpc : s.session.pc = .switch) (hc : s.session.current = .waitforMoney)
      (h6 : s.session.currentPoint = .p6) (he : s.session.userAct.enough) :
      Move (.go io) ({ s.session with currentPoint := .p9 }.goto .payTail)
  | request {io : Io} {szt : Bool} {money : ℤ} {cnt : ℕ}
      (hpc : s.session.pc = .cardRead szt money cnt) (hok : io.ok)
      (hm : szt ∨ 0 ≤ money) :
      Move (.go io) ((s.session.emit (.request money s.session.userAct.outstanding)).goto
        (.cardDeduct szt money))
  | cardPaid {io : Io} {szt : Bool} {money : ℤ} (hpc : s.session.pc = .cardDeduct szt money)
      (hok : io.ok) :
      Move (.go io) ((s.session.cardPaid money).goto .payTail)
  | timeout {io : Io} (hpc : s.session.pc = .payTail) (hwait : s.timers.waitTime = 0) :
      Move (.go io) (s.session.timeout.goto .deal)
  | statusOk {io : Io} (hpc : s.session.pc = .switch) (hc : s.session.current = .waitforMoney)
      (h9 : s.session.currentPoint = .p9) :
      Move (.go io) (s.session.statusOk.goto .deal)
  | payOut {io : Io} {sent : ℕ} (hpc : s.session.pc = .switch)
      (hc : s.session.current = .hpperOut) (hm : 0 < s.session.userAct.moneyBack)
      (hsent : sent = sentCoins io.pe9 s.session.userAct.moneyBack.toInt.toNat) :
      Move (.go io)
        ((s.session.payOut s.session.userAct.moneyBack.toInt.toNat sent).goto .deal)
  | serve {io : Io} (hpc : s.session.pc = .switch) (hc : s.session.current = .hpperOut)
      (hm : ¬ 0 < s.session.userAct.moneyBack) (h0 : s.session.userAct.cancle = 0) :
      Move (.go io) (s.session.serve.goto .deal)
  | toErro {io : Io} (hpc : s.session.pc = .switch) (hc : s.session.current = .hpperOut)
      (hm : ¬ 0 < s.session.userAct.moneyBack) (h0 : s.session.userAct.cancle ≠ 0) :
      Move (.go io) ((s.session.become .erroHanle).goto .deal)
  | idle {io : Io} (hpc : s.session.pc = .switch) (hc : s.session.current = .hpperOut)
      (hm : ¬ 0 < s.session.userAct.moneyBack) (h0 : s.session.userAct.cancle ≠ 0) :
      Move (.go io) (s.session.idle.goto .deal)
  | found {io : Io} {k : Kind} {l : Floor} {c : Column} (hpc : s.session.pc = .find)
      (hk : s.session.userAct.firstKind = some k) (hp : s.stock.findMeal k = some (l, c)) :
      Move (.go io) ((s.session.found k l c).goto .take)
  | takeAfter {io : Io} (hpc : s.session.pc = .find) (hk : s.session.userAct.firstKind = none) :
      Move (.go io) (s.session.takeAfter.goto .deal)
  | takeError {io : Io} {t : Session} (hpc : s.session.pc.flight) (hpc' : ¬ s.session.pc.doomed)
      (ht : s.session.Calm t) :
      Move (.go io) (t.takeError.goto .deal)
  | takeOut {io : Io} (hpc : s.session.pc = .count) :
      Move (.go io) (s.session.takeOut.goto .deal)
  | uploaded {io : Io} {sel : CustomerSel} (hpc : s.session.pc = .switch)
      (hc : s.session.current = .dataUpload) :
      Move (.go io) (((s.session.emit (.upload true sel)).become .mealOut).goto .deal)
  | polled {io : Io} (hpc : s.session.pc = .switch ∧ s.session.current = .erroHanle ∨
      ∃ i, s.session.pc = .resume (.poll i)) :
      Move (.go io) ((s.session.become .currentTemperature).goto .deal)
  | abnormalEnd {io : Io} {erro : ℕ} {ret : Ret} (hpc : s.session.pc = .abnormal erro ret)
      (h0 : s.erroFlag = 0) :
      Move (.go io)
        ((if xTimeout ≤ erro then s.session.clearUserBuffer else s.session).goto (.resume ret))

end MealVendor
