import MealVendor.Lib.Transition
import MealVendor.Sale.Flow

/-!
# The bill of the cart

`PayShould` is the sum of the four costs, and a cost is written in three places: on the
selection page while the count is chosen, when the meals are put into the cart, and on the
cart page.  The first two compute it in a byte, and the first does not touch the count in
the cart.  The trace says which of them has written a cost last.
-/

namespace MealVendor

/-! ## Where a cost comes from -/

/-- What has written the cost of a kind last. -/
inductive CostSource
  | none
  | draft (mealID d : UInt8)
  | put
  | column

namespace CostSource

/-- One observation may write the cost of one kind, or clear all. -/
def note (c : Kind → CostSource) : Obs → Kind → CostSource
  | .clear => fun _ => .none
  | .draft k mealID d => Function.update c k (.draft mealID d)
  | .put k => Function.update c k .put
  | .column k => Function.update c k .column
  | _ => c

/-- The cost that was written, where `n` meals are in the cart now. -/
def cost (n : UInt8) : CostSource → ℕ
  | none => 0
  | draft mealID d => (getMealPrice mealID d).toNat
  | put => 15 * n.toNat % 256
  | column => 15 * n.toNat

/-- The cost that was written is the price of the `n` meals in the cart: it was written on
the cart page, or from the same count of at most 17. -/
def Fits (n : UInt8) : CostSource → Prop
  | none => n = 0
  | draft mealID d => if (Kind.ofID mealID).isSome then d = n ∧ n ≤ 17 else n = 0
  | put => n ≤ 17
  | column => True

instance (n : UInt8) (c : CostSource) : Decidable (c.Fits n) := by
  cases c <;> unfold Fits <;> infer_instance

lemma toNat_getMealPrice (mealID d : UInt8) :
    (getMealPrice mealID d).toNat =
      if (Kind.ofID mealID).isSome then 15 * d.toNat % 256 else 0 := by
  rw [getMealPrice]
  cases Kind.ofID mealID with
  | none => rfl
  | some k => simp

/-- The condition is exact. -/
lemma cost_eq_iff (n : UInt8) (c : CostSource) : c.cost n = 15 * n.toNat ↔ c.Fits n := by
  have hn : n ≤ 17 ↔ n.toNat ≤ 17 := UInt8.le_iff_toNat_le
  have h0 : n = 0 ↔ n.toNat = 0 := UInt8.toNat_inj.symm
  cases c with
  | none => simp only [cost, Fits, h0]; omega
  | draft mealID d =>
    have hd : d = n ↔ d.toNat = n.toNat := UInt8.toNat_inj.symm
    have := d.toNat_lt
    have := n.toNat_lt
    simp only [cost, Fits, toNat_getMealPrice]
    -- 15 has an inverse modulo 256
    split_ifs
    · rw [hn, hd]; omega
    · rw [h0]; omega
  | put => simp only [cost, Fits, hn]; omega
  | column => simp only [cost, Fits]

/-- No cost needs more than 12 bits. -/
lemma cost_le (n : UInt8) (c : CostSource) : c.cost n ≤ 3825 := by
  have := n.toNat_lt
  cases c with
  | none => exact Nat.zero_le _
  | draft mealID d =>
    have := (getMealPrice mealID d).toNat_lt
    simp only [cost]
    omega
  | put => simp only [cost]; omega
  | column => simp only [cost]; omega

end CostSource

/-- What has written the costs last. -/
def Session.source (s : Session) : Kind → CostSource :=
  Lib.tally CostSource.note (fun _ => .none) s.trace

@[simp] lemma Session.emit_source (s : Session) (o : Obs) :
    (s.emit o).source = CostSource.note s.source o := rfl

/-- Every cost is the one that was written last. -/
def Session.Priced (s : Session) : Prop :=
  ∀ k, (s.userAct.mealCost k).toNat = (s.source k).cost (s.userAct.mealCnt k)

/-! ## Messages about the cart -/

namespace Frame

variable (f : Frame) (s : Machine)

/-- The messages about the cart: the meal, its count, the keys below and the columns of the
cart page. -/
def editsCart : Bool :=
  match f.variable with
  | some .mealChoose | some (.count _) | some .mealcntChoose | some (.column _) => true
  | _ => false

/-- Whether `mealcnt_choose` goes on to `SettleAccounts`. -/
def settles : Prop :=
  f.variable = some .mealcntChoose ∧ f.data1 = 3 ∧
    0 < s.session.userAct.putIntoShopCart.mealTotoal

/-- Whether the message is a column change of the row of kind `k`, with a count the stock
allows. -/
def setsColumn (k : Kind) : Prop :=
  ∃ i, f.variable = some (.column i) ∧ Kind.ofID (s.dispMeal i).mealId = some k ∧
    f.data1 ≤ (s.stock.defineMeal k).mealCount

/-- Whether the message computes `PayShould`. -/
def computes : Prop := f.settles s ∨ ∃ i, f.variable = some (.column i)

instance : Decidable (f.settles s) := inferInstanceAs (Decidable (_ ∧ _))

instance (k : Kind) : Decidable (f.setsColumn s k) := inferInstanceAs (Decidable (∃ _, _))

end Frame

/-- A message about the cart. -/
def editCart (s : Machine) (m : Frame × Io) : Option Machine :=
  if m.1.editsCart then some (s.changeVariableValues m.1 m.2) else none

/-- Where `PayShould` is computed, the cost of every kind fits: of the kind that is put
into the cart now, of the kind whose column is changed now, and of the others. -/
def BillKept (s : Machine) (m : Frame × Io) : Prop :=
  (m.1.settles s → ∀ k,
    if Kind.ofID s.session.userAct.mealID = some k then s.session.userAct.mealCntT k ≤ 17
    else (s.session.source k).Fits (s.session.userAct.mealCnt k)) ∧
  ∀ i, m.1.variable = some (.column i) → ∀ k, ¬ m.1.setsColumn s k →
    (s.session.source k).Fits (s.session.userAct.mealCnt k)

/-! ## The messages keep the costs -/

namespace Session

variable {s t : Session}

/-- The costs, the counts in the cart and what has written the costs are the same. -/
lemma Priced.congr (h : s.Priced) (hcost : t.userAct.mealCost = s.userAct.mealCost)
    (hcnt : t.userAct.mealCnt = s.userAct.mealCnt) (hsrc : t.source = s.source) : t.Priced := by
  intro k
  rw [hcost, hcnt, hsrc]
  exact h k

/-- One cost is written, and the count of the same kind may change. -/
lemma Priced.update (h : s.Priced) {k : Kind} {c : UInt16} {x : CostSource}
    (hcost : t.userAct.mealCost = Function.update s.userAct.mealCost k c)
    (hcnt : ∀ j, j ≠ k → t.userAct.mealCnt j = s.userAct.mealCnt j)
    (hsrc : t.source = Function.update s.source k x)
    (hk : c.toNat = x.cost (t.userAct.mealCnt k)) : t.Priced := by
  intro j
  rw [hcost, hsrc]
  rcases eq_or_ne j k with rfl | hne
  · rw [Function.update_self, Function.update_self]
    exact hk
  · rw [Function.update_of_ne hne, Function.update_of_ne hne, hcnt j hne]
    exact h j

lemma Priced.clear (s : Session) : s.clearUserBuffer.Priced := fun _ => rfl

lemma Priced.draft (h : s.Priced) (k : Kind) (d : UInt8) :
    ({ s with userAct := s.userAct.draft k d }.emit (.draft k s.userAct.mealID d)).Priced :=
  h.update rfl (fun _ _ => rfl) rfl (UInt8.toNat_toUInt16 _)

/-- The kind that `PutIntoShopCart` is about is known by `MealID`. -/
lemma Priced.put (h : s.Priced) : s.putIntoShopCart.Priced := by
  cases hid : Kind.ofID s.userAct.mealID with
  | none =>
    have hs : s.putIntoShopCart = { s with userAct := s.userAct.putIntoShopCart } := by
      simp [putIntoShopCart, hid]
    rw [hs]
    refine h.congr ?_ ?_ rfl
    · simp [UserSelection.putIntoShopCart, hid]
    · simp [UserSelection.putIntoShopCart, hid]
  | some k =>
    have hs : s.putIntoShopCart =
        { s with userAct := s.userAct.putIntoShopCart }.emit (.put k) := by
      simp [putIntoShopCart, hid]
    have hcost : s.userAct.putIntoShopCart.mealCost = Function.update s.userAct.mealCost k
        (getMealPrice s.userAct.mealID (s.userAct.mealCntT k)).toUInt16 := by
      simp [UserSelection.putIntoShopCart, hid]
    have hcnt : s.userAct.putIntoShopCart.mealCnt =
        Function.update s.userAct.mealCnt k (s.userAct.mealCntT k) := by
      simp [UserSelection.putIntoShopCart, hid]
    rw [hs]
    refine h.update hcost (fun j hj => ?_) rfl ?_
    · change s.userAct.putIntoShopCart.mealCnt j = _
      rw [hcnt, Function.update_of_ne hj]
    · change _ = CostSource.cost (s.userAct.putIntoShopCart.mealCnt k) .put
      rw [hcnt, Function.update_self, UInt8.toNat_toUInt16, CostSource.toNat_getMealPrice, hid]
      rfl

lemma Priced.setColumn (h : s.Priced) (k : Kind) (d : UInt8) : (s.setColumn k d).Priced := by
  refine h.update (k := k) (x := .column) rfl (fun j hj => Function.update_of_ne hj _ _) rfl ?_
  change _ = CostSource.cost (Function.update s.userAct.mealCnt k d k) .column
  have hd : d.toNat * 15 < 65536 := by
    have := d.toNat_lt
    omega
  rw [Function.update_self, price_eq, UInt16.toNat_ofNat_of_lt' hd]
  simp only [CostSource.cost]
  omega

/-- Where every cost fits, the sum of the costs is the price of the cart. -/
lemma Priced.settle (h : s.Priced)
    (hfit : ∀ k, (s.source k).Fits (s.userAct.mealCnt k)) :
    s.userAct.settle.payShould.toNat = s.userAct.cartPrice := by
  have hk : ∀ k, (s.userAct.mealCost k).toNat = 15 * (s.userAct.mealCnt k).toNat := by
    intro k
    rw [h k, CostSource.cost_eq_iff]
    exact hfit k
  have hsum : ∑ k, (s.userAct.mealCost k).toNat = s.userAct.cartPrice := by
    rw [UserSelection.cartPrice]
    exact Finset.sum_congr rfl fun k _ => by rw [hk, price_eq]
  have hbound : ∑ k, (s.userAct.mealCost k).toNat < 65536 := by
    calc ∑ k, (s.userAct.mealCost k).toNat ≤ ∑ _k : Kind, 3825 := by
          refine Finset.sum_le_sum fun k _ => ?_
          rw [h k]
          exact CostSource.cost_le _ _
      _ < 65536 := by simp
  rw [← hsum]
  exact UInt16.toNat_ofNat_of_lt' hbound

end Session

section Messages

variable {s t : Machine} {m : Frame × Io}

/-- A message about the cart keeps the costs. -/
lemma editCart_priced (h : s.session.Priced) (ht : editCart s m = some t) : t.session.Priced := by
  obtain ⟨f, io⟩ := m
  unfold editCart at ht
  split_ifs at ht with hf
  obtain rfl := Option.some.inj ht
  unfold Frame.editsCart at hf
  dsimp only at hf
  rw [Machine.changeVariableValues]
  -- the messages that write to the costs, one after the other
  split at hf
  · next hv =>
    rw [hv]
    dsimp only [Machine.mealChoose]
    split
    · split_ifs
      · exact h.congr rfl rfl rfl
      · exact h
    · exact h
  · next k hv =>
    rw [hv]
    dsimp only [Machine.count]
    split_ifs
    · exact h.draft k f.data1
    · exact h.congr rfl rfl rfl
  · next hv =>
    rw [hv]
    dsimp only [Machine.mealcntChoose]
    split_ifs
    · exact h.put
    · by_cases htotal : 0 < s.session.userAct.putIntoShopCart.mealTotoal
      · rw [Machine.enterCart_session htotal]
        refine h.put.congr ?_ ?_ rfl <;> rw [Session.putIntoShopCart_userAct] <;> rfl
      · simp only [Machine.enterCart, Machine.onSession_session, Session.putIntoShopCart_userAct,
          htotal, if_false]
        exact h.put
    · exact .clear _
    · exact h
  · next i hv =>
    rw [hv]
    dsimp only [Machine.column]
    split
    · next k hk =>
      split_ifs
      · exact h.setColumn k f.data1
      · exact h.congr rfl rfl rfl
    · exact h.congr rfl rfl rfl
  · cases hf

/-- What a message that computes `PayShould` leaves, if it meets the condition. -/
lemma editCart_computes (h : s.session.Priced) (hG : BillKept s m) (hm : m.1.computes s)
    (ht : editCart s m = some t) :
    t.session.userAct.payShould.toNat = t.session.userAct.cartPrice := by
  obtain ⟨f, io⟩ := m
  unfold editCart at ht
  split_ifs at ht with hf
  obtain rfl := Option.some.inj ht
  rw [Machine.changeVariableValues]
  rcases hm with hsettle | ⟨i, hv⟩
  · have hkinds := hG.1 hsettle
    obtain ⟨hv, hd, htotal⟩ := hsettle
    dsimp only at hv hd
    rw [hv, hd]
    change (s.mealcntChoose 3).session.userAct.payShould.toNat =
      (s.mealcntChoose 3).session.userAct.cartPrice
    have hs : (s.mealcntChoose 3).session = s.session.enterCart := Machine.enterCart_session htotal
    rw [hs]
    change s.session.userAct.putIntoShopCart.settle.payShould.toNat =
      s.session.userAct.putIntoShopCart.cartPrice
    rw [← Session.putIntoShopCart_userAct]
    refine h.put.settle fun k => ?_
    have hk := hkinds k
    rw [Session.putIntoShopCart_userAct, UserSelection.putIntoShopCart_mealCnt]
    rw [Session.putIntoShopCart]
    cases hid : Kind.ofID s.session.userAct.mealID with
    | none =>
      rw [hid, if_neg (by rintro ⟨⟩)] at hk
      exact hk
    | some j =>
      rw [hid] at hk
      dsimp only
      change (Function.update s.session.source j .put k).Fits _
      -- the kind that is put into the cart now, and the others
      rcases eq_or_ne k j with rfl | hne
      · rw [if_pos rfl] at hk
        rw [Function.update_self, Function.update_self]
        exact hk
      · rw [if_neg fun heq => hne (Option.some.inj heq).symm] at hk
        rw [Function.update_of_ne hne, Function.update_of_ne hne]
        exact hk
  · have hkinds := hG.2 i hv
    dsimp only at hv
    rw [hv]
    dsimp only [Machine.column]
    split
    · next k hk =>
      split_ifs with hd
      · refine (h.setColumn k f.data1).settle fun j => ?_
        change (Function.update s.session.source k .column j).Fits
          (Function.update s.session.userAct.mealCnt k f.data1 j)
        rcases eq_or_ne j k with rfl | hne
        · rw [Function.update_self, Function.update_self]
          trivial
        · rw [Function.update_of_ne hne, Function.update_of_ne hne]
          refine hkinds j ?_
          rintro ⟨i', hv', hk', -⟩
          obtain rfl : i' = i := by simpa [hv] using hv'.symm
          exact hne (Option.some.inj (hk'.symm.trans hk))
      · refine h.settle fun j => hkinds j ?_
        rintro ⟨i', hv', hk', hd'⟩
        obtain rfl : i' = i := by simpa [hv] using hv'.symm
        obtain rfl : j = k := Option.some.inj (hk'.symm.trans hk)
        exact hd hd'
    · next hk =>
      refine h.settle fun j => hkinds j ?_
      rintro ⟨i', hv', hk', -⟩
      obtain rfl : i' = i := by simpa [hv] using hv'.symm
      rw [hk] at hk'
      cases hk'

end Messages

/-- The session right after the selection was cleared. -/
def EmptySession (s : Machine) : Prop := ∃ t : Session, s.session = t.clearUserBuffer

/-- In every sequence of messages from an empty session in which, wherever `PayShould` is
computed, the costs fit the counts in the cart: whenever `PayShould` was just computed, it
is the price of the cart. -/
theorem payShould_eq_cartPrice {s s' t : Machine} {ms : List (Frame × Io)} {m : Frame × Io}
    (hs : EmptySession s) (hr : Lib.Runs editCart BillKept s ms s') (hG : BillKept s' m)
    (hm : m.1.computes s') (ht : editCart s' m = some t) :
    t.session.userAct.payShould.toNat = t.session.userAct.cartPrice := by
  have hpriced : s'.session.Priced := by
    refine hr.invariant (I := fun s => s.session.Priced) ?_ ?_
    · intro s e s' h _ hstep
      exact editCart_priced h hstep
    · obtain ⟨t, ht⟩ := hs
      rw [ht]
      exact .clear t
  exact editCart_computes hpriced hG hm ht

/-! ### Two and eighteen meals -/

/-- `n` meals of the first kind are chosen. -/
def chooseFirst (n : UInt8) : List (Frame × Io) :=
  [(⟨0x00, 0, 1⟩, .quiet), (⟨0x30, 0, n⟩, .quiet)]

/-- The key to the cart. -/
def toCart : Frame × Io := (⟨0x01, 0, 3⟩, .quiet)

instance (s : Machine) (m : Frame × Io) : Decidable (BillKept s m) := by
  rw [BillKept]
  have : ∀ i, Decidable (m.1.variable = some (.column i) → ∀ k, ¬ m.1.setsColumn s k →
      (s.session.source k).Fits (s.session.userAct.mealCnt k)) := fun i => inferInstance
  infer_instance

lemma stocked_empty (n : UInt8) : EmptySession (stocked n) := ⟨_, powerUp_session ..⟩

/-- Two meals meet the condition: the bill is 30. -/
theorem payShould_eq_cartPrice_two :
    ∃ s' t, Lib.checkedRun editCart BillKept (stocked 6) (chooseFirst 2) = some s' ∧
      editCart s' toCart = some t ∧
      t.session.userAct.payShould.toNat = t.session.userAct.cartPrice := by
  have hrun : (Lib.checkedRun editCart BillKept (stocked 6) (chooseFirst 2)).any
      (fun s' => BillKept s' toCart ∧ toCart.1.settles s' ∧ (editCart s' toCart).isSome)
        = true := by
    decide +kernel
  obtain ⟨s', hs', hG, hm, ht⟩ := Lib.exists_of_any hrun
  obtain ⟨t, ht⟩ := Option.isSome_iff_exists.mp ht
  exact ⟨s', t, hs', ht,
    payShould_eq_cartPrice (stocked_empty 6) (.of_checkedRun hs') hG (.inl hm) ht⟩

/-- Eighteen meals cost 14. -/
theorem bill_of_eighteen_meals :
    ¬ ∀ (s s' t : Machine) (ms : List (Frame × Io)) (m : Frame × Io), EmptySession s →
      Lib.runFrom editCart s ms = some s' → m.1.computes s' → editCart s' m = some t →
      t.session.userAct.payShould.toNat = t.session.userAct.cartPrice := by
  intro hall
  have hrun : (Lib.runFrom editCart (stocked 6) (chooseFirst 18)).any
      (fun s' => toCart.1.settles s' ∧ (editCart s' toCart).any fun t =>
        t.session.userAct.payShould = 14 ∧ t.session.userAct.cartPrice = 270) = true := by
    decide +kernel
  obtain ⟨s', hs', hm, hbill⟩ := Lib.exists_of_any hrun
  obtain ⟨t, ht, hpay, hprice⟩ := Lib.exists_of_any hbill
  have := hall _ s' t _ toCart (stocked_empty 6) hs' (.inl hm) ht
  rw [hpay, hprice] at this
  exact absurd this (by decide)

end MealVendor
