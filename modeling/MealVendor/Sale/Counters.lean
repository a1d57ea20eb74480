import MealVendor.Sale.Flow

/-!
# The counters of the cart while meals are taken out

Between case 0 of `WaitMeal`, which tests a counter, and case 5, which lowers it, the
selection can be cleared by timer 3 and by an error of the arm.  It is cleared as a whole
then, `MealID` included, so that case 5 lowers nothing.  What nothing prevents is a message
of the screen that raises a count after the payment, between two meals.
-/

namespace MealVendor

namespace Session

variable (s : Session)

/-- Meals are being taken out, or will be when the change is paid. -/
def Serving : Prop :=
  s.pc.flight ∨ s.current = .mealOut ∨ s.current = .dataUpload ∨
    s.current = .hpperOut ∧ s.userAct.cancle = 0

instance : Decidable s.Serving := inferInstanceAs (Decidable (_ ∨ _))

/-- The meals of kind `k` still in the cart; none if the cart is going to be cleared. -/
def inCart (k : Kind) : ℕ := if s.pc.doomed then 0 else (s.userAct.mealCnt k).toNat

/-- The meal on its way, if the cart does not count it any more. -/
def held (k : Kind) : ℕ :=
  if s.pc.flight ∧ s.book.lastFind = some k ∧ (s.pc.doomed ∨ s.userAct.mealID = 0) then 1 else 0

/-- No more meals are taken out than were committed when the payment was completed. -/
structure Counted : Prop where
  serving : s.Serving → ∀ k, s.inCart k + s.held k + s.book.takenOut k ≤ s.book.committed k
  takenOut : ∀ k, s.book.takenOut k ≤ s.book.committed k

end Session

/-- The count that `mealcnt_choose` puts into the cart without going on to the payment. -/
def Frame.puts (f : Frame) (u : UserSelection) : Prop :=
  f.variable = some .mealcntChoose ∧
    (f.data1 = 2 ∨ f.data1 = 3 ∧ ¬ 0 < u.putIntoShopCart.mealTotoal)

instance (f : Frame) (u : UserSelection) : Decidable (f.puts u) :=
  inferInstanceAs (Decidable (_ ∧ _))

/-- While meals are taken out, no message puts more meals of a kind into the cart than were
paid for and have not been taken out yet. -/
def CartKept (s : Machine) (e : Event) : Prop :=
  ∀ f ∈ e.frame, s.session.Serving → s.session.pc.doomed = false →
    (f.puts s.session.userAct → ∀ k, Kind.ofID s.session.userAct.mealID = some k →
      (s.session.userAct.mealCntT k).toNat + s.session.book.takenOut k ≤
        s.session.book.committed k) ∧
    ∀ i, f.variable = some (.column i) → ∀ k, Kind.ofID (s.dispMeal i).mealId = some k →
      f.data1 ≤ (s.stock.defineMeal k).mealCount →
        f.data1.toNat + s.session.book.takenOut k ≤ s.session.book.committed k

instance (s : Machine) (e : Event) : Decidable (CartKept s e) :=
  inferInstanceAs (Decidable (∀ f ∈ e.frame, _))

namespace Session

variable {s t : Session}

/-- A meal on its way is counted, in the cart or beside it. -/
lemma Flow.one_le (h : s.Flow) {k : Kind} (hf : s.pc.flight) (hk : s.book.lastFind = some k) :
    1 ≤ s.inCart k + s.held k := by
  obtain ⟨j, hj, hid⟩ := h.held hf
  obtain rfl : j = k := Option.some.inj (hj.symm.trans hk)
  by_cases hd : s.pc.doomed
  · simp [Session.held, hf, hk, hd]
  · rcases hid with hd' | h0 | ⟨-, hpos⟩
    · exact absurd hd' hd
    · simp [Session.held, hf, hk, h0]
    · have : 0 < (s.userAct.mealCnt j).toNat := hpos
      simp only [inCart, hd, Bool.false_eq_true, if_false]
      omega

/-- Putting a kind into the cart leaves what is being taken out. -/
@[simp] lemma putIntoShopCart_serving : s.putIntoShopCart.Serving ↔ s.Serving := by
  rw [Serving, Serving, putIntoShopCart_pc, putIntoShopCart_current, putIntoShopCart_userAct,
    s.userAct.putIntoShopCart_money.2.2.2.2.2.2]

/-- While no meal is on its way, the state and the cancel flag tell whether meals are taken
out. -/
lemma Serving.of_plain (ht : t.Serving) (hf : t.pc.flight = false)
    (hc : t.current = s.current) (hcancle : t.userAct.cancle = s.userAct.cancle) :
    s.Serving := by
  rcases ht with hf' | ht
  · rw [hf] at hf'
    cases hf'
  · rw [hc, hcancle] at ht
    exact .inr ht

lemma held_le (k : Kind) : s.held k ≤ 1 := by
  rw [held]
  split_ifs <;> omega

/-- Where the selection has been cleared or is going to be, only the meal on its way
counts. -/
lemma Flow.held_le (h : s.Flow) (ht : t.pc.flight = s.pc.flight)
    (hl : t.book.lastFind = s.book.lastFind) (k : Kind) :
    t.held k ≤ s.inCart k + s.held k := by
  by_cases hf : s.pc.flight ∧ s.book.lastFind = some k
  · exact (Session.held_le k).trans (h.one_le hf.1 hf.2)
  · have : t.held k = 0 := by
      rw [Session.held]
      rw [if_neg]
      rintro ⟨h1, h2, -⟩
      exact hf ⟨ht ▸ h1, hl ▸ h2⟩
    omega

/-- A step that takes nothing out and counts no more than before. -/
lemma Counted.mono (h : s.Counted) (htaken : t.book.takenOut = s.book.takenOut)
    (hcomm : t.book.committed = s.book.committed) (hs : t.Serving → s.Serving)
    (hle : t.Serving → ∀ k, t.inCart k + t.held k ≤ s.inCart k + s.held k) : t.Counted where
  serving ht k := by
    rw [htaken, hcomm]
    have := h.serving (hs ht) k
    have := hle ht k
    omega
  takenOut := by rw [htaken, hcomm]; exact h.takenOut

/-- The state is left in which meals are taken out. -/
lemma Counted.stop (h : s.Counted) (htaken : t.book.takenOut = s.book.takenOut)
    (hcomm : t.book.committed = s.book.committed) (hs : ¬ t.Serving) : t.Counted :=
  h.mono htaken hcomm (absurd · hs) (absurd · hs)

lemma Counted.calm (h : s.Counted) (hflow : s.Flow) (ht : s.Calm t) : t.Counted := by
  have hserving : t.Serving → s.Serving := by
    rw [Serving]
    rw [ht.flight, ht.current, ht.userAct.cancle]
    exact id
  refine h.mono (by rw [ht.book]) (by rw [ht.book]) hserving fun _ k => ?_
  by_cases hd : t.pc.doomed
  · simp only [inCart, hd, if_true, zero_add]
    exact hflow.held_le ht.flight (by rw [ht.book]) k
  · have hd' : ¬ s.pc.doomed := fun h' => hd (ht.doomed h')
    have hheld : t.held k = s.held k := by
      rw [held, held]
      rw [ht.flight, ht.book]
      simp only [hd, hd', Bool.false_eq_true, false_or]
      by_cases hf : s.pc.flight
      · rw [ht.mealID hf fun hdeals => hd' (hflow.stuck hdeals hf)]
      · simp [hf]
    rw [hheld]
    simp only [inCart, hd, hd', ht.userAct.mealCnt, Bool.false_eq_true, if_false, le_refl]

/-- A message of the screen: only outside of the handling of errors of the arm does the
cart count. -/
lemma Counted.screen (h : s.Counted) (hflow : s.Flow) (hdeals : s.pc.deals) (hpc : t.pc = s.pc)
    (htaken : t.book.takenOut = s.book.takenOut) (hcomm : t.book.committed = s.book.committed)
    (hlast : t.book.lastFind = s.book.lastFind) (hs : t.Serving → s.Serving)
    (hcart : t.Serving → s.pc.doomed = false → s.pc.flight = false →
      ∀ k, (t.userAct.mealCnt k).toNat + s.book.takenOut k ≤ s.book.committed k) :
    t.Counted := by
  by_cases hd : s.pc.doomed
  · refine h.mono htaken hcomm hs fun _ k => ?_
    have hheld := hflow.held_le (t := t) (by rw [hpc]) hlast k
    have hin : t.inCart k = 0 := by simp [inCart, hpc, hd]
    omega
  · have hf := hflow.not_flight hdeals hd
    refine ⟨fun ht k => ?_, by rw [htaken, hcomm]; exact h.takenOut⟩
    have hheld : t.held k = 0 := by simp [held, hpc, hf]
    have hin : t.inCart k = (t.userAct.mealCnt k).toNat := by simp [inCart, hpc, hd]
    rw [hheld, hin, htaken, hcomm]
    exact hcart ht (by simpa using hd) hf k

/-- The selection is cleared. -/
lemma Counted.clear (h : s.Counted) (hflow : s.Flow) (htaken : t.book.takenOut = s.book.takenOut)
    (hcomm : t.book.committed = s.book.committed) (hlast : t.book.lastFind = s.book.lastFind)
    (hf : t.pc.flight = s.pc.flight) (hs : t.Serving → s.Serving)
    (hcnt : ∀ k, t.userAct.mealCnt k = 0) : t.Counted := by
  refine h.mono htaken hcomm hs fun _ k => ?_
  have hheld := hflow.held_le hf hlast k
  have hin : t.inCart k = 0 := by simp [inCart, hcnt]
  omega

/-- Without an error and without a meal on its way, the cart is what counts. -/
lemma Counted.le (h : s.Counted) (hs : s.Serving) (hd : s.pc.doomed = false) (k : Kind) :
    (s.userAct.mealCnt k).toNat + s.book.takenOut k ≤ s.book.committed k := by
  have := h.serving hs k
  simp only [inCart, hd, Bool.false_eq_true, if_false] at this
  omega

/-- A step between two places without an error and without a meal on its way. -/
lemma Counted.plain (h : s.Counted) {p : Pc} (hpc : s.pc = p) (hd : p.doomed = false)
    (htaken : t.book.takenOut = s.book.takenOut) (hcomm : t.book.committed = s.book.committed)
    (hf : t.pc.flight = false) (hs : t.Serving → s.Serving)
    (hcnt : t.userAct.mealCnt = s.userAct.mealCnt) : t.Counted := by
  refine h.mono htaken hcomm hs fun _ k => ?_
  have hheld : t.held k = 0 := by simp [held, hf]
  have hin : t.inCart k ≤ s.inCart k := by
    simp only [inCart, hpc, hd, hcnt, Bool.false_eq_true, if_false]
    split_ifs <;> omega
  omega

/-- A meal is taken out: the cart or the meal beside it counts one less. -/
lemma Counted.takeOut (h : s.Counted) (hflow : s.Flow) (hpc : s.pc = .count) :
    (s.takeOut.goto .deal).Counted := by
  have hf : s.pc.flight := by rw [hpc]; rfl
  have hd : ¬ s.pc.doomed := by rw [hpc]; exact nofun
  obtain ⟨k, hk, hid⟩ := hflow.held hf
  have hbook : (s.takeOut.goto .deal).book = s.book.takeOut := rfl
  have htaken : s.book.takeOut.takenOut =
      Function.update s.book.takenOut k (s.book.takenOut k + 1) := by
    simp [Book.takeOut, hk]
  have hcomm : s.book.takeOut.committed = s.book.committed := by
    simp [Book.takeOut, hk]
  have hle : ∀ j, (s.takeOut.userAct.mealCnt j).toNat + s.book.takeOut.takenOut j ≤
      s.book.committed j := by
    intro j
    have hj := h.serving (.inl hf) j
    have hone := hflow.one_le hf hk
    rw [htaken]
    rcases hid with hd' | h0 | ⟨hid, hpos⟩
    · exact absurd hd' hd
    · -- `MealID` was cleared: no counter is lowered, and `held` counts the meal
      have hcnt : s.takeOut.userAct.mealCnt = s.userAct.mealCnt :=
        UserSelection.takeOut_mealCnt_of_none (by rw [h0, Kind.ofID_zero])
      rw [hcnt]
      simp only [inCart, hd, Bool.false_eq_true, if_false] at hj
      rcases eq_or_ne j k with rfl | hne
      · rw [Function.update_self]
        have : s.held j = 1 := by simp [held, hf, hk, h0]
        omega
      · rw [Function.update_of_ne hne]
        omega
    · have hcnt : s.takeOut.userAct.mealCnt =
          Function.update s.userAct.mealCnt k (s.userAct.mealCnt k - 1) := by
        simp [Session.takeOut, UserSelection.takeOut, hid]
      rw [hcnt]
      simp only [inCart, hd, Bool.false_eq_true, if_false] at hj
      rcases eq_or_ne j k with rfl | hne
      · rw [Function.update_self, Function.update_self]
        have hpos' : 0 < (s.userAct.mealCnt j).toNat := hpos
        have hsub := UInt8.toNat_pred hpos
        omega
      · rw [Function.update_of_ne hne, Function.update_of_ne hne]
        omega
  refine ⟨fun _ j => ?_, fun j => ?_⟩
  · rw [hbook, hcomm]
    have hheld : (s.takeOut.goto .deal).held j = 0 := by simp [held, Pc.flight]
    have hin : (s.takeOut.goto .deal).inCart j = (s.takeOut.userAct.mealCnt j).toNat := by
      simp [inCart, Pc.doomed]
    rw [hheld, hin]
    exact hle j
  · rw [hbook, hcomm]
    have := hle j
    omega

/-- Every move under the condition keeps the count. -/
lemma Counted.move {s : Machine} {e : Event} {t : Session} (h : s.session.Counted)
    (hflow : s.session.Flow) (hG : CartKept s e) (hm : Move s e t) : t.Counted := by
  cases hm with
  | calm ht => exact h.calm hflow ht
  | coin => exact h.mono rfl rfl id fun _ _ => le_rfl
  | expire => exact h.clear hflow rfl rfl rfl rfl id fun _ => rfl
  | put hpc hf hd =>
    have hs : s.session.putIntoShopCart.Serving → s.session.Serving :=
      putIntoShopCart_serving.mp
    refine h.screen hflow hpc (by simp) (by simp) (by simp) (by simp) hs fun ht hd' _ k => ?_
    have hk := h.le (hs ht) hd' k
    rw [putIntoShopCart_userAct, UserSelection.putIntoShopCart_mealCnt]
    cases hid : Kind.ofID s.session.userAct.mealID with
    | none => exact hk
    | some j =>
      have := (hG _ rfl (hs ht) hd').1 ⟨hf, hd⟩ j hid
      rcases eq_or_ne k j with rfl | hne
      · simpa using this
      · simpa [hne] using hk
  | enter hpc =>
    refine h.screen hflow hpc (putIntoShopCart_pc _)
      (congrArg Book.takenOut (putIntoShopCart_book _))
      (congrArg Book.committed (putIntoShopCart_book _))
      (congrArg Book.lastFind (putIntoShopCart_book _)) (fun ht => ?_) fun ht _ hf => ?_
    · rcases ht with hf | hc | hc | ⟨hc, -⟩
      · exact .inl (putIntoShopCart_pc _ ▸ hf)
      all_goals cases hc
    · rcases ht with hf' | hc | hc | ⟨hc, -⟩
      · rw [show s.session.enterCart.pc = s.session.pc from putIntoShopCart_pc _, hf] at hf'
        cases hf'
      all_goals cases hc
  | drop =>
    refine h.clear hflow rfl rfl rfl rfl (fun ht => ?_) fun _ => rfl
    rcases ht with hf | hc | hc | ⟨hc, -⟩
    · exact .inl hf
    all_goals cases hc
  | @column f io i k hpc hf hk hd =>
    refine h.screen hflow hpc rfl rfl rfl rfl id fun ht hd' _ j => ?_
    have hj := h.le ht hd' j
    have := (hG _ rfl ht hd').2 i hf k hk hd
    change (Function.update s.session.userAct.mealCnt k f.data1 j).toNat + _ ≤ _
    rcases eq_or_ne j k with rfl | hne
    · simpa using this
    · simpa [hne] using hj
  | recalc hpc => exact h.mono rfl rfl id fun _ _ => le_rfl
  | cancel =>
    refine h.clear hflow rfl rfl rfl rfl (fun ht => ?_) fun _ => rfl
    rcases ht with hf | hc | hc | ⟨-, h0⟩
    · exact .inl hf
    · cases hc
    · cases hc
    · exact absurd h0 (by simp [cancelPayment])
  | record =>
    rw [displayUserRecord, s.session.userAct.displayUserRecord_eq]
    exact h.mono rfl rfl id fun _ _ => le_rfl
  | @bill io v hpc hc h3 hv h0 =>
    rw [readBills_of_ne h0]
    refine h.stop rfl rfl ?_
    rintro (hf | hc' | hc' | ⟨hc', -⟩)
    · cases hf
    all_goals cases hc.symm.trans hc'
  | enough hpc =>
    exact h.plain hpc rfl rfl rfl rfl (fun ht => ht.of_plain rfl rfl rfl) rfl
  | request hpc =>
    exact h.plain hpc rfl rfl rfl rfl (fun ht => ht.of_plain rfl rfl rfl) rfl
  | cardPaid hpc =>
    exact h.plain hpc rfl rfl rfl rfl (fun ht => ht.of_plain rfl rfl rfl) rfl
  | timeout =>
    -- the cart is cleared, and nothing is committed any more
    have hcnt : ∀ k, (s.session.timeout.goto .deal).userAct.mealCnt k = 0 := by
      intro k
      rw [goto_userAct, timeout_userAct]
      rfl
    have hbook : (s.session.timeout.goto .deal).book = (s.session.book.note .clear).note .timeout :=
      timeout_book _
    refine ⟨fun _ k => ?_, fun k => ?_⟩
    · have hheld : (s.session.timeout.goto .deal).held k = 0 := if_neg (by rintro ⟨⟨⟩, -⟩)
      rw [hbook, hheld, inCart, hcnt]
      exact le_rfl
    · rw [hbook]
      exact le_rfl
  | statusOk =>
    refine ⟨fun _ k => ?_, fun k => Nat.zero_le _⟩
    have : (s.session.statusOk.goto .deal).held k = 0 := by simp [held, Pc.flight]
    rw [this]
    exact le_rfl
  | payOut hpc =>
    exact h.plain hpc rfl rfl rfl rfl (fun ht => ht.of_plain rfl rfl rfl) rfl
  | serve hpc hc hm h0 =>
    exact h.plain hpc rfl rfl rfl rfl (fun _ => .inr (.inr (.inr ⟨hc, h0⟩))) rfl
  | toErro | idle | polled =>
    refine h.stop rfl rfl ?_
    rintro (hf | hc | hc | ⟨hc, -⟩) <;> cases ‹_›
  | takeAfter =>
    refine h.stop rfl rfl ?_
    rintro (hf | hc | hc | ⟨hc, -⟩) <;> cases ‹_›
  | @found io k l c hpc hk =>
    refine h.mono rfl rfl (fun _ => .inr (.inl (hflow.find hpc))) fun _ j => ?_
    have : ((s.session.found k l c).goto .take).held j = 0 := by
      simp [held, Session.found, Pc.doomed]
    rw [this]
    simp [inCart, hpc, Pc.doomed, Session.found]
  | takeError hpc hpc' ht =>
    refine (h.calm hflow ht).stop rfl rfl ?_
    rintro (hf | hc | hc | ⟨-, h0⟩)
    · cases hf
    · cases hc
    · cases hc
    · exact absurd h0 (by simp [takeError, UserSelection.takeError])
  | takeOut hpc => exact h.takeOut hflow hpc
  | uploaded hpc hc =>
    exact h.plain hpc rfl rfl rfl rfl (fun _ => .inr (.inr (.inl hc))) rfl
  | @abnormalEnd io e ret hpc =>
    have hf : (Pc.resume ret).flight = s.session.pc.flight := by rw [hpc]; rfl
    split_ifs with he
    · refine h.clear hflow rfl rfl rfl hf (fun ht => ?_) fun _ => rfl
      exact ht.imp_left fun h' => hf ▸ h'
    · have hd : s.session.pc.doomed = false := by simp [hpc, Pc.doomed, he]
      have hf' := hflow.not_flight (by rw [hpc]; rfl) (by simp [hd])
      exact h.plain rfl hd rfl rfl (hf.trans hf') (fun ht => ht.imp_left fun h' => hf ▸ h') rfl

lemma not_serving_powerUp (bkp : Fin 20 → UInt32) (flash : Floor → FloorAttribute) (io : Io) :
    ¬ (powerUp bkp flash io).session.Serving := by
  have hstart := powerUp_start bkp flash io
  rw [Serving, hstart.1, hstart.2.2.2.1]
  simp

lemma Counted.powerUp (bkp : Fin 20 → UInt32) (flash : Floor → FloorAttribute) (io : Io) :
    (powerUp bkp flash io).session.Counted where
  serving ht := absurd ht (not_serving_powerUp bkp flash io)
  takenOut k := by
    rw [(powerUp_start bkp flash io).2.2.1]
    exact le_rfl

end Session

end MealVendor
