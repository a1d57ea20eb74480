import MealVendor.Sale.Bill
import MealVendor.Sale.Counters
import MealVendor.Stock.Admin

/-!
# The stock covers the cart

From the payment to the last meal the counts in the cart are at most what is in stock.  A
meal that is on its way has left the stock, and is still counted in the cart.  So case 0 of
`WaitMeal` always finds a meal of the kind it looks for.
-/

namespace MealVendor

namespace Session

variable (s : Session)

/-- The cart is being paid for, or taken out. -/
def CartDue : Prop := s.current = .waitforMoney ∨ s.Serving

/-- The meal on its way, if the cart still counts it and the stock does not. -/
def onTheWay (k : Kind) : ℕ :=
  if s.pc.flight ∧ s.pc ≠ .take ∧ s.userAct.mealID = k.id then 1 else 0

/-- The floors hold what is due. -/
def Backed (floorMeal : Floor → FloorAttribute) : Prop :=
  s.CartDue → ∀ k, s.inCart k ≤ kindTotal floorMeal k + s.onTheWay k

/-- The floors hold the whole cart, if it is due. -/
def HeldBy (floorMeal : Floor → FloorAttribute) : Prop :=
  s.CartDue → ∀ k, s.inCart k ≤ kindTotal floorMeal k

instance : Decidable s.CartDue := inferInstanceAs (Decidable (_ ∨ _))

instance (floorMeal : Floor → FloorAttribute) : Decidable (s.HeldBy floorMeal) :=
  inferInstanceAs (Decidable (_ → ∀ _, _))

end Session

/-- The counts of the cart are at most the counts of the stock. -/
def UserSelection.InStock (u : UserSelection) (st : Stock) : Prop :=
  ∀ k, u.mealCnt k ≤ (st.defineMeal k).mealCount

instance (u : UserSelection) (st : Stock) : Decidable (u.InStock st) :=
  inferInstanceAs (Decidable (∀ _, _))

/-- What is put into the cart when the payment begins, or later, is in stock. -/
def CartInStock (s : Machine) (f : Frame) : Prop :=
  (f.settles s → s.session.userAct.putIntoShopCart.InStock s.stock) ∧
  (f.puts s.session.userAct → s.session.CartDue → ∀ k,
    Kind.ofID s.session.userAct.mealID = some k →
      s.session.userAct.mealCntT k ≤ (s.stock.defineMeal k).mealCount)

/-- A new floor table holds what is due, and the confirmed floor fits. -/
def TablesHold (s : Machine) (f : Frame) (io : Io) : Prop :=
  (f.variable = some .adminSet → f.data1 = 2 →
    (Written io.flash fun _ => FloorAttribute.empty) ∧
      s.session.HeldBy fun _ => FloorAttribute.empty) ∧
  (f.variable = some .mealinputChoose → f.data1 = 3 →
    s.stock.Confirmable io.flash ∧
      ∀ i, s.stock.curIndex = some i → s.session.HeldBy (s.stock.withEdited i))

/-- Neither the customer nor the administrator makes the cart exceed the stock. -/
def CoverKept (s : Machine) : Event → Prop
  | .screen f io => (s.session.pc.doomed = false → CartInStock s f) ∧ TablesHold s f io
  | .go io => s.TakesSafely io
  | _ => True

instance (s : Machine) (f : Frame) : Decidable (CartInStock s f) :=
  inferInstanceAs (Decidable (_ ∧ _))

instance (s : Machine) (f : Frame) (io : Io) : Decidable (TablesHold s f io) :=
  inferInstanceAs (Decidable (_ ∧ _))

instance (s : Machine) : ∀ e, Decidable (CoverKept s e)
  | .screen _ _ => inferInstanceAs (Decidable (_ ∧ _))
  | .go io => inferInstanceAs (Decidable (s.TakesSafely io))
  | .coinIn | .coinOut | .tim3 | .tim4 | .tim5 | .tim7 | .pvd | .usart6 _ => .isTrue trivial

namespace Session

variable {s t : Session} {F : Floor → FloorAttribute}

/-- A cart that is going to be cleared is covered. -/
lemma Backed.of_inCart (h : ∀ k, t.inCart k = 0) : t.Backed F := by
  intro _ k
  rw [h k]
  exact Nat.zero_le _

lemma Backed.of_doomed (h : t.pc.doomed) : t.Backed F := .of_inCart fun _ => if_pos h

lemma Backed.of_cleared (h : ∀ k, t.userAct.mealCnt k = 0) : t.Backed F := by
  refine .of_inCart fun k => ?_
  rw [inCart]
  rw [h k]
  exact ite_self 0

lemma HeldBy.backed (h : s.HeldBy F) : s.Backed F :=
  fun hdue k => (h hdue k).trans (Nat.le_add_right _ _)

lemma Backed.of_not_due (h : ¬ t.CartDue) : t.Backed F := fun ht => absurd ht h

/-- The cart is the same, and so is the meal on its way. -/
lemma Backed.same (h : s.Backed F) (hd : s.pc.doomed → t.pc.doomed)
    (hcnt : t.userAct.mealCnt = s.userAct.mealCnt) (hdue : t.CartDue → s.CartDue)
    (hway : t.pc.doomed = false → ∀ k, s.onTheWay k ≤ t.onTheWay k) : t.Backed F := by
  by_cases hdt : t.pc.doomed
  · exact .of_doomed hdt
  · intro ht k
    have hk := h (hdue ht) k
    have hk' := hway (by simpa using hdt) k
    simp only [inCart, hdt, mt hd hdt, hcnt, Bool.false_eq_true, if_false] at hk ⊢
    omega

/-- While no meal is on its way, the floors alone hold the cart. -/
lemma Backed.le (h : s.Backed F) (hdue : s.CartDue) (hf : s.pc.flight = false)
    (hd : s.pc.doomed = false) (k : Kind) : (s.userAct.mealCnt k).toNat ≤ kindTotal F k := by
  have hk := h hdue k
  have hway : s.onTheWay k = 0 := by
    refine if_neg fun hw => ?_
    rw [hf] at hw
    cases hw.1
  rw [hway, Nat.add_zero, inCart, if_neg (by simp [hd])] at hk
  exact hk

/-- Nothing is on its way, and the same is in the cart. -/
lemma Backed.plain (h : s.Backed F) (hs : s.pc.flight = false) (hd : s.pc.doomed = false)
    (hcnt : t.userAct.mealCnt = s.userAct.mealCnt) (hdue : t.CartDue → s.CartDue) :
    t.Backed F := by
  refine h.same ?_ hcnt hdue fun _ k => ?_
  · rw [hd]
    exact nofun
  · have hzero : s.onTheWay k = 0 := if_neg fun hw => by simp [hs] at hw
    rw [hzero]
    exact Nat.zero_le _

/-- A calm step that does not go back to case 1 of `WaitMeal`. -/
lemma Backed.calm (h : s.Backed F) (hflow : s.Flow) (ht : s.Calm t)
    (htake : t.pc = .take → s.pc = .take) : t.Backed F := by
  refine h.same ht.doomed ht.userAct.mealCnt ?_ fun hd k => ?_
  · rw [CartDue, Serving]
    rw [ht.current, ht.flight, ht.userAct.cancle]
    exact id
  · rw [onTheWay, onTheWay]
    by_cases hway : s.pc.flight ∧ s.pc ≠ .take ∧ s.userAct.mealID = k.id
    · obtain ⟨hf, hpc, hid⟩ := hway
      have hdeals : ¬ s.pc.deals := fun hdeals => by
        have := ht.doomed (hflow.stuck hdeals hf)
        rw [hd] at this
        cases this
      have hway' : t.pc.flight ∧ t.pc ≠ .take ∧ t.userAct.mealID = k.id :=
        ⟨ht.flight ▸ hf, mt htake hpc, (ht.mealID hf hdeals).trans hid⟩
      rw [if_pos hway']
      split_ifs <;> omega
    · rw [if_neg hway]
      exact Nat.zero_le _

/-- A message that changes the cart: no meal is on its way then, unless the cart is going to
be cleared. -/
lemma Backed.screen (hflow : s.Flow) (hdeals : s.pc.deals) (hpc : t.pc = s.pc)
    (hle : s.pc.flight = false → s.pc.doomed = false → t.CartDue →
      ∀ k, (t.userAct.mealCnt k).toNat ≤ kindTotal F k) : t.Backed F := by
  by_cases hd : s.pc.doomed
  · exact .of_doomed (hpc ▸ hd)
  · have hf := hflow.not_flight hdeals hd
    intro ht k
    have hk := hle hf (by simpa using hd) ht k
    simp only [inCart, hpc, hd, Bool.false_eq_true, if_false]
    omega

/-- The counter of the meal that is taken out is lowered. -/
lemma Backed.takeOut (h : s.Backed F) (hflow : s.Flow) (hpc : s.pc = .count) :
    (s.takeOut.goto .deal).Backed F := by
  intro _ k
  have hf : s.pc.flight := by rw [hpc]; rfl
  have hk := h (.inr (.inl hf)) k
  have hin : s.inCart k = (s.userAct.mealCnt k).toNat := by
    unfold inCart
    rw [hpc]
    rfl
  have hgoal : (s.takeOut.userAct.mealCnt k).toNat ≤ kindTotal F k := by
    unfold onTheWay at hk
    cases hid : Kind.ofID s.userAct.mealID with
    | none =>
      -- the selection was cleared meanwhile, and nothing is lowered
      have hne : s.userAct.mealID ≠ k.id := fun heq => by
        rw [heq, Kind.ofID_id] at hid
        cases hid
      have hcnt : s.takeOut.userAct.mealCnt = s.userAct.mealCnt :=
        UserSelection.takeOut_mealCnt_of_none hid
      rw [if_neg fun hw => hne hw.2.2, hin, Nat.add_zero] at hk
      rw [hcnt]
      exact hk
    | some j =>
      have hpos := hflow.counter_pos hpc hid
      have hcnt : s.takeOut.userAct.mealCnt =
          Function.update s.userAct.mealCnt j (s.userAct.mealCnt j - 1) :=
        UserSelection.takeOut_mealCnt hid
      rw [hcnt]
      rcases eq_or_ne k j with rfl | hne
      · have hsub := UInt8.toNat_pred (UInt8.lt_iff_toNat_lt.mpr hpos)
        rw [Function.update_self]
        split_ifs at hk <;> omega
      · have hne' : s.userAct.mealID ≠ k.id := fun heq => by
          rw [heq, Kind.ofID_id] at hid
          exact hne (Option.some.inj hid)
        rw [if_neg fun hw => hne' hw.2.2, hin, Nat.add_zero] at hk
        rw [Function.update_of_ne hne]
        exact hk
  exact hgoal.trans (Nat.le_add_right _ _)

/-- What a step does to the cart, while the floors stay as they are. -/
lemma Backed.move {s : Machine} {e : Event} {t : Session}
    (h : s.session.Backed s.stock.floorMeal)
    (hcnt : ∀ k, (s.stock.defineMeal k).mealCount.toNat = kindTotal s.stock.floorMeal k)
    (hflow : s.session.Flow) (hG : CoverKept s e) (hm : Move s e t)
    (htake : t.pc = .take → s.session.pc = .take) : t.Backed s.stock.floorMeal := by
  have hserving : ∀ u : Session, u.Serving → u.pc.flight = false → u.current = .hpperOut →
      u.userAct.cancle = 0 := by
    rintro u (hf | hc | hc | ⟨-, h0⟩) hf' hc'
    · rw [hf'] at hf; cases hf
    · rw [hc'] at hc; cases hc
    · rw [hc'] at hc; cases hc
    · exact h0
  cases hm with
  | calm ht => exact h.calm hflow ht htake
  | coin => exact h.same id rfl id fun _ _ => le_rfl
  | expire => exact .of_cleared fun _ => rfl
  | put hpc hf hd =>
    refine .screen hflow hpc (putIntoShopCart_pc _) fun hfl hdoom ht k => ?_
    have hdue : s.session.CartDue := by
      rwa [CartDue, putIntoShopCart_current, putIntoShopCart_serving] at ht
    have hk := h.le hdue hfl hdoom k
    rw [putIntoShopCart_userAct, UserSelection.putIntoShopCart_mealCnt]
    cases hid : Kind.ofID s.session.userAct.mealID with
    | none => exact hk
    | some j =>
      have hput := (hG.1 hdoom).2 ⟨hf, hd⟩ hdue j hid
      dsimp only
      rcases eq_or_ne k j with rfl | hne
      · rw [Function.update_self, ← hcnt]
        exact hput
      · rw [Function.update_of_ne hne]
        exact hk
  | enter hpc hf hd htotal =>
    refine .screen hflow hpc (putIntoShopCart_pc _) fun _ hdoom _ k => ?_
    rw [← hcnt]
    exact (hG.1 hdoom).1 ⟨hf, hd, htotal⟩ k
  | drop => exact .of_cleared fun _ => rfl
  | @column f io i k hpc hf hk hd =>
    refine .screen hflow hpc rfl fun hfl hdoom hdue j => ?_
    have hj := h.le hdue hfl hdoom j
    change (Function.update s.session.userAct.mealCnt k f.data1 j).toNat ≤ _
    rcases eq_or_ne j k with rfl | hne
    · rw [Function.update_self, ← hcnt]
      exact hd
    · rw [Function.update_of_ne hne]
      exact hj
  | recalc => exact h.same id rfl id fun _ _ => le_rfl
  | cancel => exact .of_cleared fun _ => rfl
  | record =>
    rw [displayUserRecord, s.session.userAct.displayUserRecord_eq]
    exact h.same id rfl id fun _ _ => le_rfl
  | @bill io v hpc hc h3 hv h0 =>
    rw [readBills_of_ne h0]
    exact h.plain (by rw [hpc]; rfl) (by rw [hpc]; rfl) rfl fun _ => .inl hc
  | enough hpc hc => exact h.plain (by rw [hpc]; rfl) (by rw [hpc]; rfl) rfl fun _ => .inl hc
  | request hpc | cardPaid hpc =>
    refine h.plain (by rw [hpc]; rfl) (by rw [hpc]; rfl) rfl fun ht => ?_
    exact ht.imp_right fun ht => ht.of_plain rfl rfl rfl
  | timeout =>
    refine .of_cleared fun _ => ?_
    rw [goto_userAct, timeout_userAct]
    rfl
  | statusOk hpc hc => exact h.plain (by rw [hpc]; rfl) (by rw [hpc]; rfl) rfl fun _ => .inl hc
  | payOut hpc hc =>
    refine h.plain (by rw [hpc]; rfl) (by rw [hpc]; rfl) rfl fun ht => ?_
    exact ht.imp_right fun ht => ht.of_plain rfl rfl rfl
  | serve hpc hc hm h0 =>
    refine h.plain (by rw [hpc]; rfl) (by rw [hpc]; rfl) rfl fun _ => ?_
    exact .inr (.inr (.inr (.inr ⟨hc, h0⟩)))
  | toErro | idle | polled =>
    refine .of_not_due ?_
    rintro (hc | hf | hc | hc | ⟨hc, -⟩) <;> cases ‹_›
  | takeAfter => exact .of_cleared fun _ => rfl
  | found hpc => cases hpc.symm.trans (htake rfl)
  | takeError =>
    refine .of_not_due ?_
    rintro (hc | hserv)
    · cases hc
    · exact absurd (hserving _ hserv rfl rfl) (by simp [takeError, UserSelection.takeError])
  | takeOut hpc => exact h.takeOut hflow hpc
  | uploaded hpc hc =>
    refine h.plain (by rw [hpc]; rfl) (by rw [hpc]; rfl) rfl fun _ => ?_
    exact .inr (.inr (.inr (.inl hc)))
  | @abnormalEnd io e ret hpc =>
    split_ifs with he
    · exact .of_cleared fun _ => rfl
    · have hd : s.session.pc.doomed = false := by simp [hpc, Pc.doomed, he]
      have hf := hflow.not_flight (by rw [hpc]; rfl) (by simp [hd])
      have hret : (Pc.resume ret).flight = s.session.pc.flight := by rw [hpc]; rfl
      refine h.plain hf hd rfl fun ht => ?_
      exact ht.imp_right fun ht => ht.of_plain (hret.trans hf) rfl rfl

end Session

/-- From case 1 of `WaitMeal` only a calm step goes on to case 2. -/
lemma Move.calm_of_take {s : Machine} {e : Event} {t : Session} (hm : Move s e t)
    (hpc : s.session.pc = .take) (ht : t.pc = .coord 0) : s.session.Calm t := by
  have hdeals : ¬ s.session.pc.deals := by
    rw [hpc]
    exact nofun
  cases hm with
  | calm h => exact h
  | coin | expire => exact absurd (hpc.symm.trans ht) nofun
  | put hd | enter hd | drop hd | column hd | recalc hd | cancel hd | record hd =>
    exact absurd hd hdeals
  | abnormalEnd hpc' => exact absurd (hpc.symm.trans hpc') nofun
  | _ => cases ht

/-! ## The tables -/

namespace Stock

variable {s : Stock}

/-- Everything was cleared: the floors are empty, though positions may be left. -/
def Cleared (s : Stock) : Prop :=
  (∀ i, s.floorMeal i = FloorAttribute.empty) ∧ ∀ j, (s.defineMeal j).mealCount = 0

lemma kindTotal_of_empty {F : Floor → FloorAttribute} (h : ∀ i, F i = FloorAttribute.empty)
    (k : Kind) : kindTotal F k = 0 := by
  rw [kindTotal]
  refine Finset.sum_eq_zero fun i _ => ?_
  rw [h i]
  exact ite_self 0

lemma clearAll_cleared {readBack : Option (Floor → FloorAttribute)}
    (h : Written readBack fun _ => FloorAttribute.empty) : (s.clearAll readBack).Cleared := by
  rw [clearAll]
  rw [writeMeal_eq_self h]
  refine ⟨fun _ => rfl, fun j => ?_⟩
  change mealSum (fun _ => FloorAttribute.empty) j = 0
  rw [← UInt8.toNat_inj, toNat_mealSum, kindTotal_of_empty fun _ => rfl]
  rfl

lemma confirm_floorMeal {readBack : Option (Floor → FloorAttribute)} {i : Floor}
    (h : s.Confirmable readBack) (hi : s.curIndex = some i) :
    (s.confirm readBack).floorMeal = s.withEdited i := by
  obtain ⟨cur, hconfirm⟩ := confirm_eq readBack hi
  rw [hconfirm, writeMeal_eq_self (h.2.2 i hi).2]
  rfl

/-- The search visits every place. -/
lemma positions_eq_zero {k : Kind} (h : s.findMeal k = none) : s.positions k = 0 := by
  unfold findMeal at h
  rw [List.find?_eq_none] at h
  rw [positions]
  refine Finset.sum_eq_zero fun l _ => Finset.sum_eq_zero fun c _ => ?_
  have hplace : (l, c) ∈ places := by
    rw [places]
    simp
  have hzero : (s.defineMeal k).position l c = 0 := by simpa using h (l, c) hplace
  rw [hzero]
  rfl

end Stock

/-! ## The invariant -/

namespace Machine

/-- The tables agree or everything was cleared, and the cart is covered. -/
structure Covers (s : Machine) : Prop where
  tables : s.StockInv ∨ s.stock.Cleared ∧ s.session.pc ≠ .take
  backed : s.session.Backed s.stock.floorMeal

/-- What `WaitMeal` relies on in case 0: the cart is in stock, a meal of the kind it looks for
is found, and it goes on. -/
structure Servable (s : Machine) : Prop where
  total : ∀ k, (s.session.userAct.mealCnt k).toNat ≤ kindTotal s.stock.floorMeal k
  positions : ∀ k, (s.session.userAct.mealCnt k).toNat ≤ s.stock.positions k
  found : (∃ k, 0 < s.session.userAct.mealCnt k) →
    ∃ k p, s.session.userAct.firstKind = some k ∧ s.stock.findMeal k = some p
  goesOn : ∀ io, (s.go io).session.pc ≠ .find

namespace Covers

variable {s t : Machine} {e : Event}

lemma mealCount (h : s.Covers) (k : Kind) :
    (s.stock.defineMeal k).mealCount.toNat = kindTotal s.stock.floorMeal k := by
  rcases h.tables with hI | ⟨⟨hempty, hzero⟩, -⟩
  · exact hI.consistent.mealCount k
  · rw [hzero, Stock.kindTotal_of_empty hempty]
    rfl

lemma floor (h : s.Covers) (i : Floor) :
    (s.stock.floorMeal i).mealCount.toNat = (s.stock.floorMeal i).columns := by
  rcases h.tables with hI | ⟨⟨hempty, -⟩, -⟩
  · exact hI.consistent.floor i
  · rw [hempty i]
    rfl

/-- In case 0 the floors hold the cart. -/
lemma held (h : s.Covers) (hflow : s.session.Flow) (hpc : s.session.pc = .find) (k : Kind) :
    (s.session.userAct.mealCnt k).toNat ≤ kindTotal s.stock.floorMeal k := by
  have hk := h.backed (.inr (.inr (.inl (hflow.find hpc)))) k
  have hin : s.session.inCart k = (s.session.userAct.mealCnt k).toNat := by
    rw [Session.inCart]
    rw [hpc]
    rfl
  have hway : s.session.onTheWay k = 0 := by
    rw [Session.onTheWay]
    rw [hpc]
    refine if_neg ?_
    rintro ⟨⟨⟩, -⟩
  rw [hin, hway, Nat.add_zero] at hk
  exact hk

/-- Case 0 looks for a meal only where the tables agree. -/
lemma consistent (h : s.Covers) (hflow : s.session.Flow) (hpc : s.session.pc = .find) {k : Kind}
    (hk : 0 < s.session.userAct.mealCnt k) : s.stock.Consistent := by
  rcases h.tables with hI | ⟨⟨hempty, -⟩, -⟩
  · exact hI.consistent
  · have hle := h.held hflow hpc k
    rw [Stock.kindTotal_of_empty hempty] at hle
    have hpos : 0 < (s.session.userAct.mealCnt k).toNat := hk
    omega

lemma servable (h : s.Covers) (hflow : s.session.Flow) (hpc : s.session.pc = .find) :
    s.Servable := by
  -- the tables agree only as far as the cart needs them
  have hpositions : ∀ k, (s.session.userAct.mealCnt k).toNat ≤ s.stock.positions k := by
    intro k
    by_cases hk : 0 < s.session.userAct.mealCnt k
    · rw [(h.consistent hflow hpc hk).positions_eq]
      exact h.held hflow hpc k
    · have hzero : ¬ 0 < (s.session.userAct.mealCnt k).toNat := hk
      omega
  have hfind : ∀ k, s.session.userAct.firstKind = some k → ∃ p, s.stock.findMeal k = some p := by
    intro k hk
    have hpos : 0 < (s.session.userAct.mealCnt k).toNat := UserSelection.firstKind_pos hk
    have hle := hpositions k
    cases hp : s.stock.findMeal k with
    | some p => exact ⟨p, rfl⟩
    | none =>
      have := Stock.positions_eq_zero hp
      omega
  refine ⟨h.held hflow hpc, hpositions, ?_, ?_⟩
  · rintro ⟨k, hk⟩
    cases hfirst : s.session.userAct.firstKind with
    | none =>
      have := UserSelection.firstKind_none hfirst k
      rw [this] at hk
      cases hk
    | some j =>
      obtain ⟨p, hp⟩ := hfind j hfirst
      exact ⟨j, p, rfl, hp⟩
  · intro io
    rw [Machine.go]
    rw [hpc]
    dsimp only
    rw [Machine.find]
    cases hfirst : s.session.userAct.firstKind with
    | none => rintro ⟨⟩
    | some k =>
      obtain ⟨⟨l, c⟩, hp⟩ := hfind k hfirst
      dsimp only
      rw [hp]
      rintro ⟨⟩

/-- At the beginning nothing is due. -/
lemma powerUp (hs : SoundPowerUp s) : s.Covers := by
  refine ⟨.inl (.powerUp hs), .of_not_due ?_⟩
  obtain ⟨⟨bkp, flash, io, rfl⟩, -⟩ := hs
  rintro (hc | hserving)
  · rw [(powerUp_start bkp flash io).1] at hc
    cases hc
  · exact Session.not_serving_powerUp bkp flash io hserving

/-- Case 1: the meal leaves the stock and is on its way. -/
lemma backed_take (h : s.Covers) (hcalm : s.session.Calm t.session) {k : Kind} {l : Floor}
    {c : Column} (hcons : s.stock.Consistent) (hpos : 0 < (s.stock.defineMeal k).position l c)
    (hid : s.session.userAct.mealID = k.id) (hpc : s.session.pc = .take)
    (hs : t.stock = s.stock.takeMeal (some k) l c) (ht : t.session.pc = .coord 0) :
    t.session.Backed t.stock.floorMeal := by
  have hf : s.session.pc.flight := by rw [hpc]; rfl
  intro _ j
  have hj := h.backed (.inr (.inl hf)) j
  have hin : t.session.inCart j = s.session.inCart j := by
    rw [Session.inCart, Session.inCart]
    rw [ht, hpc, hcalm.userAct.mealCnt]
    rfl
  have hway : s.session.onTheWay j = 0 := if_neg fun hw => hw.2.1 hpc
  have hid' : t.session.userAct.mealID = k.id := by
    rw [hcalm.mealID hf (by rw [hpc]; rintro ⟨⟩), hid]
  have hway' : t.session.onTheWay j = if j = k then 1 else 0 := by
    rw [Session.onTheWay]
    rw [ht, hid']
    refine if_congr ⟨fun hw => ?_, fun hjk => ?_⟩ rfl rfl
    · exact (Kind.id_injective hw.2.2).symm
    · exact ⟨rfl, by rintro ⟨⟩, hjk ▸ rfl⟩
  rw [hin, hway', hs, hcons.kindTotal_takeMeal hpos]
  rw [hway] at hj
  split_ifs <;> omega

/-- Every step under the condition keeps the cart covered. -/
lemma step (h : s.Covers) (hflow : s.session.Flow) (hG : CoverKept s e)
    (hm : Move s e t.session) (hs : StockMove s e t) : t.Covers := by
  have hfind : s.session.pc = .find → s.session.CartDue ∧ s.session.pc.flight = false ∧
      s.session.pc.doomed = false := by
    intro hpc
    refine ⟨.inr (.inr (.inl (hflow.find hpc))), ?_, ?_⟩ <;> rw [hpc] <;> rfl
  cases hs with
  | keep hk =>
    refine ⟨?_, ?_⟩
    · rcases h.tables with hI | ⟨hcl, hne⟩
      · exact .inl (hI.keep hk)
      · exact .inr ⟨hk.stock ▸ hcl, fun hpc => hne (hk.take hpc).1⟩
    · rw [hk.stock]
      exact h.backed.move h.mealCount hflow hG hm fun hpc => (hk.take hpc).1
  | edit hpc cur hs ht =>
    refine ⟨?_, ?_⟩
    · rcases h.tables with hI | ⟨hcl, hne⟩
      · refine .inl (.screen hpc ht ?_)
        rw [hs]
        exact hI.consistent.edit cur _
      · refine .inr ⟨?_, ht ▸ hne⟩
        rw [hs]
        exact hcl
    · rw [hs, ht]
      exact h.backed
  | @clearAll f io _ hpc hf hd hs ht =>
    -- the positions are left, so that the tables do not agree from here on
    obtain ⟨hw, hheld⟩ := hG.2.1 hf hd
    have hcl := Stock.clearAll_cleared (s := s.stock) hw
    refine ⟨.inr ⟨hs ▸ hcl, fun hpc' => ?_⟩, ?_⟩
    · rw [← ht, hpc'] at hpc
      cases hpc
    · have hfloor : t.stock.floorMeal = fun _ => FloorAttribute.empty := by
        rw [hs]
        exact funext hcl.1
      rw [hfloor, ht]
      exact hheld.backed
  | @confirm f io _ hpc hf hd hs ht =>
    -- all positions are computed again
    obtain ⟨hconf, hheld⟩ := hG.2.2 hf hd
    obtain ⟨i, hi⟩ := Option.isSome_iff_exists.mp hconf.1
    refine ⟨.inl (.screen hpc ht ?_), ?_⟩
    · rw [hs]
      exact Stock.confirm_consistent h.floor hconf
    · rw [hs, ht, Stock.confirm_floorMeal hconf hi]
      exact (hheld i hi).backed
  | found hpc hk hp hs ht =>
    have hcons := h.consistent hflow hpc (UserSelection.firstKind_pos hk)
    obtain ⟨hdue, hf, hd⟩ := hfind hpc
    refine ⟨.inl (.found hcons hp hs ht), ?_⟩
    rw [hs, ht]
    exact h.backed.plain hf hd rfl fun _ => hdue
  | notFound hpc hk hp hs ht =>
    obtain ⟨hdue, hf, hd⟩ := hfind hpc
    refine ⟨?_, ?_⟩
    · rcases h.tables with hI | ⟨hcl, hne⟩
      · exact .inl (hI.notFound hpc hs ht)
      · refine .inr ⟨?_, ?_⟩
        · rw [hs]
          exact hcl
        · rw [ht]
          exact hne
    · rw [hs, ht]
      exact h.backed.plain hf hd rfl fun _ => hdue
  | take hpc hp hs ht =>
    -- the meal is on its way now: the cart still counts it, the floors do not
    have hI : s.StockInv := h.tables.resolve_right fun hcl => hcl.2 hpc
    obtain ⟨k, hid, hpos, htake⟩ := hI.takes hG hpc hp hs
    have hcalm := hm.calm_of_take hpc ht
    exact ⟨.inl (hI.taken hpos htake ht),
      h.backed_take hcalm hI.consistent hpos hid hpc htake ht⟩

end Covers

end Machine

/-- In every run in which what is put into the cart is in stock and the stock is not lowered
under a cart that is due: whenever `WaitMeal` is at case 0, every count of the cart is at most
what the floors and the positions hold, a meal is found for every cart that is not empty, and
case 0 is not repeated. -/
theorem never_oversold {s : Machine} (h : Lib.Reach step SoundPowerUp CoverKept s)
    (hpc : s.session.pc = .find) : s.Servable := by
  have hI : s.session.Flow ∧ s.Covers := by
    refine h.invariant (I := fun s => s.session.Flow ∧ s.Covers) ?_ ?_
    · intro s hs
      obtain ⟨bkp, flash, io, rfl⟩ := hs.1
      exact ⟨.powerUp bkp flash io, .powerUp hs⟩
    · rintro s e t ⟨hflow, hcov⟩ hG hstep
      have hm := step_move hstep
      exact ⟨hflow.move hm, hcov.step hflow hG hm (step_stock hstep)⟩
  exact hI.2.servable hI.1 hpc

/-! ### A sale, and a floor that is emptied under it -/

/-- A run that meets the condition up to case 0, with the meal that was paid for in the
cart. -/
theorem never_oversold_sale :
    ∃ t, Lib.checkedRun step CoverKept (stocked 3) (payOne ++ List.replicate 6 .next) = some t ∧
      t.session.userAct.mealCnt 0 = 1 ∧ t.Servable := by
  have hrun : (Lib.checkedRun step CoverKept (stocked 3)
      (payOne ++ List.replicate 6 .next)).any
        (fun t => t.session.userAct.mealCnt 0 = 1 ∧ t.session.pc = .find) = true := by
    decide +kernel
  obtain ⟨t, ht, hcnt, hpc⟩ := Lib.exists_of_any hrun
  exact ⟨t, ht, hcnt, never_oversold ⟨_, _, stocked_sound, .of_checkedRun ht⟩ hpc⟩

/-- The first floor is cleared out and confirmed. -/
def emptyFirstFloor : List Event :=
  [.touch 0x15 1, .touch 0x14 1, .touch 0x1A 2, .touch 0x1A 3]

/-- One meal is paid for, then its floor is emptied: case 0 finds no meal and is repeated. -/
theorem case0_repeated_on_emptied_floor :
    ¬ ∀ s, Lib.Reach step SoundPowerUp Lib.anyEvent s → s.session.pc = .find → s.Servable := by
  intro hall
  have hrun : (Lib.runFrom step (stocked 3)
      (List.flatten [payOne, emptyFirstFloor, List.replicate 6 .next])).any
        (fun t => t.session.pc = .find ∧ (t.go .quiet).session.pc = .find) = true := by
    decide +kernel
  obtain ⟨t, ht, hpc, hagain⟩ := Lib.exists_of_any hrun
  exact (hall t (.of_runFrom stocked_sound ht) hpc).goesOn .quiet hagain

end MealVendor
