import MealVendor.Lib.ByteSum
import MealVendor.Sale.Counters
import MealVendor.Sale.Payment

/-!
# No unpaid meals

The price of the meals taken out is compared with the money that has stayed in the machine.
What carries the proof is what may still go out: the part of `PayAlready` that has bought
nothing, the change that is owed in `hpper_out`, and the meals that were committed and are
not taken out yet.  All of it together never exceeds the money taken in.
-/

namespace MealVendor

namespace Session

variable (s : Session)

/-- The part of `PayAlready` that has bought nothing yet. -/
def unused : ℕ := s.userAct.payAlready.toNat - s.book.spent

/-- The change that will be paid out in `hpper_out`.  A meal on its way ends in another
state, or with another change. -/
def owed : ℕ :=
  if s.current = .hpperOut ∧ ¬ s.pc.flight then s.userAct.moneyBack.toInt.toNat else 0

/-- The price of the meals that were committed and are not taken out yet. -/
def unserved : ℕ :=
  if s.Serving then ∑ k, price k * (s.book.committed k - s.book.takenOut k) else 0

/-- What may still go out. -/
def due : ℕ := s.unused + s.owed + s.unserved

/-- Whatever has gone out or may go out was taken in. -/
def Covered : Prop := ((s.book.delivered + s.book.returned + s.due : ℕ) : ℤ) ≤ s.book.taken

/-- What the refund of `PayAlready` pays out. -/
def refund : ℕ := s.userAct.payAlready.toInt16.toInt.toNat

/-- Point 9 gives away no more than was paid and not used up: the bill covers the cart, and
`PayAlready` covers the cart and the bill. -/
def Affordable : Prop :=
  s.book.spent = 0 ∧ s.userAct.cartPrice ≤ s.userAct.payShould.toNat ∧
    s.userAct.cartPrice ≤ s.userAct.payAlready.toNat ∧
    s.userAct.payShould.toNat ≤ s.userAct.payAlready.toNat + 32768

instance : Decidable s.Affordable := inferInstanceAs (Decidable (_ ∧ _))

end Session

/-- A completed payment covers the cart and the change; a refund, and a change that is computed
again, is covered by what may still go out; a card was debited with what is added to
`PayAlready`. -/
def MoneyCovers (s : Machine) : Event → Prop
  | .screen f _ =>
    (f.variable = some .paymentMethod → s.session.userAct.payShould = 0 ∨ f.data1 = 4 →
      ¬ s.session.pc.flight → s.session.refund ≤ s.session.due) ∧
    (f.showsRecord s → s.session.current = .hpperOut → ¬ s.session.pc.flight →
      0 < s.session.userAct.moneyBack →
        Int16.ofInt s.session.userAct.recordChange ≤ s.session.userAct.moneyBack)
  | .go io =>
    (s.session.paysAt .p9 → s.session.Affordable) ∧
    (io.ok → ∀ money ∈ s.session.pc.deducts,
      ((s.session.userAct.payShould - s.session.userAct.payAlready).toNat : ℤ) ≤ money) ∧
    (s.session.pc = .payTail → s.timers.waitTime = 0 → s.session.refund ≤ s.session.due)
  | _ => True

instance (s : Machine) : ∀ e, Decidable (MoneyCovers s e)
  | .screen _ _ | .go _ => inferInstanceAs (Decidable (_ ∧ _))
  | .coinIn | .coinOut | .tim3 | .tim4 | .tim5 | .tim7 | .pvd | .usart6 _ => .isTrue trivial

/-- In addition no meals are put into the cart that were not paid for. -/
def SaleKept (s : Machine) (e : Event) : Prop := CartKept s e ∧ MoneyCovers s e

instance (s : Machine) (e : Event) : Decidable (SaleKept s e) :=
  inferInstanceAs (Decidable (_ ∧ _))

namespace Session

variable {s t : Session}

/-- Nothing goes out, and no more may go out than before. -/
lemma Covered.mono (h : s.Covered) (hbook : t.book.delivered = s.book.delivered ∧
      t.book.returned = s.book.returned ∧ t.book.taken = s.book.taken)
    (hdue : t.due ≤ s.due) : t.Covered := by
  rw [Covered] at h ⊢
  rw [hbook.1, hbook.2.1, hbook.2.2]
  push_cast at h ⊢
  omega

/-- Fewer meals are waiting where the state is left in which they are taken out. -/
lemma unserved_le (hs : t.Serving → s.Serving) (hcomm : t.book.committed = s.book.committed)
    (htaken : t.book.takenOut = s.book.takenOut) : t.unserved ≤ s.unserved := by
  rw [unserved, unserved, hcomm, htaken]
  by_cases ht : t.Serving
  · rw [if_pos ht, if_pos (hs ht)]
  · rw [if_neg ht]
    exact Nat.zero_le _

lemma owed_le (hc : t.current = .hpperOut → t.pc.flight = false →
      s.current = .hpperOut ∧ s.pc.flight = false)
    (hM : t.userAct.moneyBack = s.userAct.moneyBack) : t.owed ≤ s.owed := by
  rw [owed, owed, hM]
  by_cases ht : t.current = .hpperOut ∧ ¬ t.pc.flight
  · obtain ⟨h1, h2⟩ := hc ht.1 (by simpa using ht.2)
    rw [if_pos ht, if_pos ⟨h1, by simpa using h2⟩]
  · rw [if_neg ht]
    exact Nat.zero_le _

lemma unused_eq (hA : t.userAct.payAlready = s.userAct.payAlready)
    (hspent : t.book.spent = s.book.spent) : t.unused = s.unused := by
  rw [unused, unused, hA, hspent]

lemma due_le (hunused : t.unused ≤ s.unused) (howed : t.owed ≤ s.owed)
    (hunserved : t.unserved ≤ s.unserved) : t.due ≤ s.due :=
  Nat.add_le_add (Nat.add_le_add hunused howed) hunserved

/-- The state is left in which change or meals are due. -/
lemma due_le_of_quiet (howed : t.owed = 0) (hunserved : t.unserved = 0)
    (hA : t.userAct.payAlready = s.userAct.payAlready) (hspent : t.book.spent = s.book.spent) :
    t.due ≤ s.due := by
  refine due_le (unused_eq hA hspent).le ?_ ?_
  · rw [howed]
    exact Nat.zero_le _
  · rw [hunserved]
    exact Nat.zero_le _

/-- The money, the change and the state are the same. -/
lemma Covered.same (h : s.Covered) (hA : t.userAct.payAlready = s.userAct.payAlready)
    (hM : t.userAct.moneyBack = s.userAct.moneyBack) (hb : t.book = s.book)
    (hc : t.current = .hpperOut → t.pc.flight = false →
      s.current = .hpperOut ∧ s.pc.flight = false) (hs : t.Serving → s.Serving) : t.Covered := by
  refine h.mono ?_ ?_
  · rw [hb]; exact ⟨rfl, rfl, rfl⟩
  · exact due_le (unused_eq hA (congrArg Book.spent hb)).le (owed_le hc hM)
      (unserved_le hs (congrArg Book.committed hb) (congrArg Book.takenOut hb))

/-- A move that takes money in or gives something out. -/
lemma Covered.pay (h : s.Covered) (out : ℕ) (inn : ℤ)
    (hout : t.book.delivered + t.book.returned = s.book.delivered + s.book.returned + out)
    (hin : t.book.taken = s.book.taken + inn) (hdue : (t.due + out : ℤ) ≤ s.due + inn) :
    t.Covered := by
  rw [Covered] at h ⊢
  rw [hout, hin]
  push_cast at h ⊢
  omega

/-- Money is added to `PayAlready`. -/
lemma Covered.add (h : s.Covered) (n : ℕ) (inn : ℤ) (hn : (n : ℤ) ≤ inn)
    (hA : t.userAct.payAlready.toNat = (s.userAct.payAlready.toNat + n) % 65536)
    (hM : t.userAct.moneyBack = s.userAct.moneyBack)
    (hb : t.book = { s.book with taken := s.book.taken + inn, debited := t.book.debited })
    (hc : t.current = s.current) (hf : t.pc.flight = s.pc.flight)
    (hcancle : t.userAct.cancle = s.userAct.cancle) : t.Covered := by
  have hunused : t.unused ≤ s.unused + n := by
    rw [unused, unused, hA, hb]
    have := Nat.mod_le (s.userAct.payAlready.toNat + n) 65536
    change _ - s.book.spent ≤ _
    omega
  have howed : t.owed ≤ s.owed := owed_le (by rw [hc, hf]; exact fun h1 h2 => ⟨h1, h2⟩) hM
  have hunserved : t.unserved ≤ s.unserved := by
    refine unserved_le ?_ (by rw [hb]) (by rw [hb])
    rw [Serving]
    rw [hc, hf, hcancle]
    exact id
  refine h.pay 0 inn ?_ (congrArg Book.taken hb) ?_
  · rw [hb]
    rfl
  · rw [due, due]
    push_cast
    omega

lemma Covered.calm (h : s.Covered) (ht : s.Calm t) : t.Covered := by
  refine h.same ht.userAct.payAlready ht.userAct.moneyBack ht.book ?_ ?_
  · rw [ht.current, ht.flight]
    exact fun h1 h2 => ⟨h1, h2⟩
  · rw [Serving]
    rw [ht.flight, ht.current, ht.userAct.cancle]
    exact id

/-- The selection is cleared: `PayAlready` is no longer due. -/
lemma Covered.clear (h : s.Covered) : s.clearUserBuffer.Covered := by
  have hunused : s.clearUserBuffer.unused = 0 := rfl
  refine h.mono ⟨rfl, rfl, rfl⟩ (due_le ?_ ?_ ?_)
  · rw [hunused]
    exact Nat.zero_le _
  · exact owed_le (fun h1 h2 => ⟨h1, h2⟩) rfl
  · exact unserved_le id rfl rfl

/-- `PayAlready` becomes the change, and nothing else is due any more. -/
lemma Covered.payBack (h : s.Covered) (hfit : s.refund ≤ s.due) (hA : t.userAct.payAlready = 0)
    (hM : t.userAct.moneyBack = s.userAct.payAlready.toInt16) (hunserved : t.unserved = 0)
    (hb : t.book.delivered = s.book.delivered ∧ t.book.returned = s.book.returned ∧
      t.book.taken = s.book.taken) : t.Covered := by
  refine h.mono hb ?_
  have hunused : t.unused = 0 := by
    rw [unused]
    rw [hA]
    exact Nat.zero_sub _
  have howed : t.owed ≤ s.refund := by
    rw [owed, refund]
    rw [hM]
    split_ifs
    · exact le_rfl
    · exact Nat.zero_le _
  rw [due] at hfit
  rw [due, due]
  omega

/-- The payment is cancelled: a meal on its way decides what happens next, otherwise the money
is paid back. -/
lemma Covered.cancelPayment (h : s.Covered) (hfit : ¬ s.pc.flight → s.refund ≤ s.due) :
    s.cancelPayment.Covered := by
  by_cases hf : s.pc.flight
  · refine h.clear.mono ⟨rfl, rfl, rfl⟩ (due_le le_rfl ?_ ?_)
    · rw [owed, if_neg fun hc => hc.2 hf]
      exact Nat.zero_le _
    · exact unserved_le (fun _ => .inl hf) rfl rfl
  · refine h.payBack (hfit hf) rfl rfl ?_ ⟨rfl, rfl, rfl⟩
    rw [unserved, if_neg]
    rintro (hf' | hc | hc | ⟨-, h0⟩)
    · exact hf hf'
    · cases hc
    · cases hc
    · exact absurd h0 (by simp [Session.cancelPayment])

/-- `WaitPayMoney` has run out of time: the money is paid back, and no meal is committed any
more. -/
lemma Covered.timeout (h : s.Covered) (hfit : s.refund ≤ s.due) :
    (s.timeout.goto .deal).Covered := by
  have hbook : (s.timeout.goto .deal).book = (s.book.note .clear).note .timeout := timeout_book s
  refine h.payBack hfit ?_ ?_ ?_ ?_
  · rw [goto_userAct, timeout_userAct]
    rfl
  · rw [goto_userAct, timeout_userAct]
    rfl
  · rw [unserved, hbook]
    split_ifs
    · exact Finset.sum_eq_zero fun k _ => Nat.mul_zero (price k)
    · rfl
  · rw [hbook]
    exact ⟨rfl, rfl, rfl⟩

/-- The record of the administrator computes the change again. -/
lemma Covered.displayUserRecord (h : s.Covered) (hfit : s.current = .hpperOut →
      ¬ s.pc.flight → 0 < s.userAct.moneyBack →
        Int16.ofInt s.userAct.recordChange ≤ s.userAct.moneyBack) :
    s.displayUserRecord.Covered := by
  have hu := s.userAct.displayUserRecord_eq
  refine h.mono ⟨rfl, rfl, rfl⟩ (due_le (le_of_eq ?_) ?_ ?_)
  · rw [unused, Session.displayUserRecord, hu]
    rfl
  · rw [owed, owed]
    by_cases hc : s.current = .hpperOut ∧ ¬ s.pc.flight
    · rw [if_pos hc]
      refine (if_pos hc).le.trans ?_
      rw [Session.displayUserRecord, UserSelection.displayUserRecord]
      dsimp only
      split_ifs with hpos
      · have hle := Int16.le_iff_toInt_le.mp (hfit hc.1 hc.2 hpos)
        exact Int.toNat_le_toNat hle
      · exact le_rfl
    · exact (if_neg hc).le.trans (Nat.zero_le _)
  · refine unserved_le ?_ rfl rfl
    rw [Serving, Session.displayUserRecord, hu]
    exact id

/-- `FindMeal` has found a meal: it is on its way. -/
lemma Covered.found (h : s.Covered) (hc : s.current = .mealOut) (k : Kind) (l : Floor)
    (c : Column) : ((s.found k l c).goto .take).Covered := by
  refine h.mono ⟨rfl, rfl, rfl⟩ (due_le le_rfl ?_ ?_)
  · rw [owed, if_neg fun hc => hc.2 rfl]
    exact Nat.zero_le _
  · exact unserved_le (fun _ => .inr (.inl hc)) rfl rfl

/-- Point 9: the cart and the change are due now, and `PayAlready` is used up. -/
lemma Covered.statusOk (h : s.Covered) (hfit : s.Affordable) :
    (s.statusOk.goto .deal).Covered := by
  obtain ⟨hspent, hbill, hcart, hrange⟩ := hfit
  refine h.mono ⟨rfl, rfl, rfl⟩ ?_
  set A := s.userAct.payAlready.toNat with hAdef
  set S := s.userAct.payShould.toNat with hSdef
  have hA : A < 65536 := s.userAct.payAlready.toNat_lt
  have hunused : (s.statusOk.goto .deal).unused = 0 := Nat.sub_self _
  have howed : (s.statusOk.goto .deal).owed ≤ A - S := by
    have : (s.statusOk.goto .deal).owed = (Int16.ofInt ((A : ℤ) - S)).toInt.toNat := rfl
    rw [this, Int16.toInt_ofInt, Int.bmod_def]
    change Int.toNat (if _ % 65536 < (65536 + 1) / 2 then _ % 65536 else _ % 65536 - 65536) ≤ _
    split_ifs <;> omega
  have hunserved : (s.statusOk.goto .deal).unserved = s.userAct.cartPrice := by
    have hserving : (s.statusOk.goto .deal).Serving := .inr (.inr (.inr ⟨rfl, rfl⟩))
    rw [unserved]
    rw [if_pos hserving]
    rfl
  have hdue : A ≤ s.due := by
    rw [due, unused]
    rw [hspent]
    omega
  rw [due] at hdue
  rw [due, due]
  omega

/-- The hopper pays out. -/
lemma Covered.payOut (h : s.Covered) {sent : ℕ} (hc : s.current = .hpperOut)
    (hpc : s.pc = .switch) (hsent : sent ≤ s.userAct.moneyBack.toInt.toNat) :
    ((s.payOut s.userAct.moneyBack.toInt.toNat sent).goto .deal).Covered := by
  set num := s.userAct.moneyBack.toInt.toNat with hnum
  have howed : s.owed = num := by
    rw [owed]
    rw [if_pos]
    rw [hpc]
    exact ⟨hc, nofun⟩
  have howed' : ((s.payOut num sent).goto .deal).owed ≤ num - sent := by
    have hleft : ((s.payOut num sent).goto .deal).owed =
        (Int16.ofNat (UInt8.ofNat (num - sent)).toNat).toInt.toNat := by
      rw [owed]
      rw [if_pos ⟨hc, nofun⟩]
      rfl
    have hbyte := (UInt8.ofNat (num - sent)).toNat_lt
    rw [hleft, Int16.toInt_ofNat_of_lt (by omega), UInt8.toNat_ofNat']
    have := Nat.mod_le (num - sent) (2 ^ 8)
    omega
  have hunserved : ((s.payOut num sent).goto .deal).unserved ≤ s.unserved := by
    refine unserved_le ?_ rfl rfl
    intro ht
    exact ht.of_plain rfl rfl rfl
  refine h.pay sent 0 (by rw [Nat.add_assoc]; rfl) (add_zero _).symm ?_
  have hunused : ((s.payOut num sent).goto .deal).unused = s.unused := rfl
  rw [due, due]
  omega

/-- A meal is taken out: it was committed, and was not taken out yet. -/
lemma Covered.takeOut (h : s.Covered) (hflow : s.Flow) (hcount : s.Counted)
    (hpc : s.pc = .count) : (s.takeOut.goto .deal).Covered := by
  have hf : s.pc.flight := by rw [hpc]; rfl
  obtain ⟨k, hk, -⟩ := hflow.held hf
  have hbook : s.book.takeOut = { s.book with
      delivered := s.book.delivered + price k
      takenOut := Function.update s.book.takenOut k (s.book.takenOut k + 1) } := by
    simp [Book.takeOut, hk]
  -- the meal on its way was committed and is not taken out yet
  have hlt : s.book.takenOut k < s.book.committed k := by
    have hone := hflow.one_le hf hk
    have hle := hcount.serving (.inl hf) k
    omega
  have hsum : ∑ j, price j * (s.book.committed j - s.book.takeOut.takenOut j) + price k =
      ∑ j, price j * (s.book.committed j - s.book.takenOut j) := by
    rw [hbook]
    refine Lib.sum_add_eq_sum (i := k) ?_ ?_
    · simp only [Function.update_self, price_eq]
      omega
    · intro j hj
      simp only [Function.update_of_ne hj]
  have hunserved : (s.takeOut.goto .deal).unserved + price k = s.unserved := by
    have hserving : (s.takeOut.goto .deal).Serving := .inr (.inr (.inl rfl))
    have hserving' : s.Serving := .inl hf
    rw [unserved, unserved, if_pos hserving, if_pos hserving', ← hsum]
    change ∑ j, price j * (s.book.takeOut.committed j - s.book.takeOut.takenOut j) + _ = _
    rw [hbook]
  have hunused : (s.takeOut.goto .deal).unused = s.unused := by
    change s.userAct.takeOut.payAlready.toNat - s.book.takeOut.spent = _
    rw [s.userAct.takeOut_money.1, s.book.takeOut_money.2.1]
    rfl
  have howed : (s.takeOut.goto .deal).owed = 0 := rfl
  refine h.pay (price k) 0 ?_ ?_ ?_
  · change s.book.takeOut.delivered + s.book.takeOut.returned = _
    rw [hbook]
    dsimp only
    omega
  · rw [add_zero]
    exact s.book.takeOut_money.1
  · rw [due, due]
    push_cast
    omega

/-- The rest of the cart is paid back instead. -/
lemma Covered.takeError (h : s.Covered) (hcount : s.Counted) (hf : s.pc.flight)
    (hd : ¬ s.pc.doomed) (ht : s.Calm t) : (t.takeError.goto .deal).Covered := by
  have hcart : s.userAct.cartPrice ≤ s.unserved := by
    rw [unserved, if_pos (.inl hf), UserSelection.cartPrice]
    refine Finset.sum_le_sum fun k _ => Nat.mul_le_mul_left _ ?_
    have hk := hcount.serving (.inl hf) k
    simp only [inCart, hd, Bool.false_eq_true, if_false] at hk
    omega
  have hprice : t.userAct.cartPrice = s.userAct.cartPrice := by
    rw [UserSelection.cartPrice, UserSelection.cartPrice, ht.userAct.mealCnt]
  have howed : (t.takeError.goto .deal).owed = s.userAct.cartPrice := by
    have hle := s.userAct.cartPrice_le
    have : (t.takeError.goto .deal).owed = (Int16.ofNat t.userAct.cartPrice).toInt.toNat := rfl
    rw [this, hprice, Int16.toInt_ofNat_of_lt (by omega)]
    rfl
  have hunserved : (t.takeError.goto .deal).unserved = 0 := rfl
  have hunused : (t.takeError.goto .deal).unused = s.unused := by
    change t.userAct.payAlready.toNat - t.book.spent = _
    rw [ht.userAct.payAlready, ht.book]
    rfl
  refine h.mono ?_ ?_
  · change t.book.delivered = _ ∧ t.book.returned = _ ∧ t.book.taken = _
    rw [ht.book]
    exact ⟨rfl, rfl, rfl⟩
  · rw [due, due]
    omega

/-- Every move under the condition keeps what may go out covered. -/
lemma Covered.move {s : Machine} {e : Event} {t : Session} (h : s.session.Covered)
    (hflow : s.session.Flow) (hcount : s.session.Counted) (hG : MoneyCovers s e)
    (hm : Move s e t) : t.Covered := by
  have hput := s.session.userAct.putIntoShopCart_money
  cases hm with
  | calm ht => exact h.calm ht
  | coin hcnt =>
    refine h.add 1 1 le_rfl ?_ rfl rfl rfl rfl rfl
    exact UInt16.toNat_add _ _
  | expire => exact h.clear
  | put hpc hf hd =>
    refine h.same ?_ ?_ (putIntoShopCart_book _) ?_ ?_
    · rw [putIntoShopCart_userAct]; exact hput.1
    · rw [putIntoShopCart_userAct]; exact hput.2.2.2.2.2.1
    · rw [putIntoShopCart_current, putIntoShopCart_pc]
      exact fun h1 h2 => ⟨h1, h2⟩
    · exact putIntoShopCart_serving.mp
  | enter hpc hf hd htotal =>
    refine h.same hput.1 hput.2.2.2.2.2.1 (putIntoShopCart_book _) (by rintro ⟨⟩) ?_
    rintro (hfl | hc | hc | ⟨hc, -⟩)
    · exact .inl (putIntoShopCart_pc s.session ▸ hfl)
    all_goals cases hc
  | drop =>
    refine h.clear.same rfl rfl rfl (by rintro ⟨⟩) ?_
    rintro (hfl | hc | hc | ⟨hc, -⟩)
    · exact .inl hfl
    all_goals cases hc
  | column => exact h.same rfl rfl rfl (fun h1 h2 => ⟨h1, h2⟩) id
  | recalc => exact h.same rfl rfl rfl (fun h1 h2 => ⟨h1, h2⟩) id
  | cancel hpc hf hd => exact h.cancelPayment (hG.1 hf hd)
  | record hpc hrec => exact h.displayUserRecord (hG.2 hrec)
  | @bill io v hpc hc h3 hv h0 =>
    rw [readBills_of_ne h0]
    refine h.add (v % 65536) v ?_ ?_ rfl rfl rfl ?_ rfl
    · exact_mod_cast Nat.mod_le v 65536
    · change (s.session.userAct.payAlready + UInt16.ofNat v).toNat = _
      rw [UInt16.toNat_add, UInt16.toNat_ofNat']
    · rw [hpc]; rfl
  | enough hpc hc =>
    refine h.same rfl rfl rfl ?_ fun ht => ht.of_plain rfl rfl rfl
    intro h1 _
    exact ⟨h1, by rw [hpc]; rfl⟩
  | request hpc =>
    refine h.same rfl rfl rfl ?_ fun ht => ht.of_plain rfl rfl rfl
    intro h1 _
    exact ⟨h1, by rw [hpc]; rfl⟩
  | @cardPaid io szt money hpc hok =>
    have hded : money ∈ s.session.pc.deducts := by
      rw [hpc]
      rfl
    refine h.add _ money (hG.2.1 hok money hded) ?_ rfl rfl rfl ?_ rfl
    · exact UInt16.toNat_add _ _
    · rw [hpc]; rfl
  | timeout hpc hwait => exact h.timeout (hG.2.2 hpc hwait)
  | statusOk hpc hc h9 => exact h.statusOk (hG.1 ⟨hpc, hc, h9⟩)
  | @payOut io sent hpc hc hm hsent => exact h.payOut hc hpc (hsent ▸ sentCoins_le _ _)
  | serve hpc hc hm h0 =>
    exact h.same rfl rfl rfl (by rintro ⟨⟩) fun _ => .inr (.inr (.inr ⟨hc, h0⟩))
  | toErro | idle | polled => exact h.mono ⟨rfl, rfl, rfl⟩ (due_le_of_quiet rfl rfl rfl rfl)
  | takeAfter => exact h.clear.mono ⟨rfl, rfl, rfl⟩ (due_le_of_quiet rfl rfl rfl rfl)
  | @found io k l c hpc => exact h.found (hflow.find hpc) k l c
  | takeError hf hd ht => exact h.takeError hcount hf hd ht
  | takeOut hpc => exact h.takeOut hflow hcount hpc
  | uploaded hpc hc =>
    exact h.same rfl rfl rfl (by rintro ⟨⟩) fun _ => .inr (.inr (.inl hc))
  | @abnormalEnd io e ret hpc h0 =>
    have hfl : (Pc.resume ret).flight = s.session.pc.flight := by rw [hpc]; rfl
    have hserving : ∀ u : Session, (u.goto (.resume ret)).Serving → u.pc = s.session.pc →
        u.Serving := fun u hu hpu => hu.imp_left fun h' => by rw [hpu, ← hfl]; exact h'
    split_ifs with he
    · refine h.clear.same rfl rfl rfl ?_ fun ht => hserving _ ht rfl
      exact fun h1 h2 => ⟨h1, hfl ▸ h2⟩
    · refine h.same rfl rfl rfl ?_ fun ht => hserving _ ht rfl
      exact fun h1 h2 => ⟨h1, hfl ▸ h2⟩

end Session

/-- In every run in which the carts and the money keep to `SaleKept`, the meals taken out and
the coins paid out together are worth no more than the money taken in. -/
theorem no_unpaid_meals {s : Machine} (h : Lib.Reach step FreshPowerUp SaleKept s) :
    (s.session.book.delivered : ℤ) ≤ s.session.book.taken - s.session.book.returned := by
  have hI : s.session.Flow ∧ s.session.Counted ∧ s.session.Covered := by
    refine h.invariant
      (I := fun s => s.session.Flow ∧ s.session.Counted ∧ s.session.Covered) ?_ ?_
    · rintro _ ⟨⟨bkp, flash, io, rfl⟩, h0⟩
      refine ⟨.powerUp bkp flash io, .powerUp bkp flash io, ?_⟩
      have hstart := powerUp_start bkp flash io
      have hdue : (powerUp bkp flash io).session.due = 0 := by
        rw [Session.due, Session.unused, Session.owed, Session.unserved]
        rw [if_neg (Session.not_serving_powerUp bkp flash io), h0, hstart.1]
        simp
      rw [Session.Covered]
      rw [hdue, hstart.2.2.1]
      exact le_rfl
    · rintro s e s' ⟨hflow, hcount, hcov⟩ hG hstep
      have hm := step_move hstep
      exact ⟨hflow.move hm, hcount.move hflow hG.1 hm, hcov.move hflow hcount hG.2 hm⟩
  have hcov := hI.2.2
  unfold Session.Covered at hcov
  push_cast at hcov
  omega

/-! ### A sale, and a bill that is too small -/

/-- A run that meets the condition: a meal is paid with a bill of twenty, the change is paid
out, and the meal is taken out. -/
theorem no_unpaid_meals_sale :
    ∃ t, Lib.checkedRun step SaleKept (stocked 3)
        (List.flatten [payOne, payOutAndServe, fetchMeal, uploadAndEnd]) = some t ∧
      t.session.book.delivered = 15 ∧ t.session.book.returned = 5 ∧
      (t.session.book.delivered : ℤ) ≤ t.session.book.taken - t.session.book.returned := by
  have hrun : (Lib.checkedRun step SaleKept (stocked 3)
      (List.flatten [payOne, payOutAndServe, fetchMeal, uploadAndEnd])).any
        (fun t => t.session.book.delivered = 15 ∧ t.session.book.returned = 5) = true := by
    decide +kernel
  obtain ⟨t, ht, hdelivered, hreturned⟩ := Lib.exists_of_any hrun
  have hfresh : FreshPowerUp (stocked 3) := ⟨stocked_isPowerUp 3, rfl⟩
  exact ⟨t, ht, hdelivered, hreturned, no_unpaid_meals ⟨_, _, hfresh, .of_checkedRun ht⟩⟩

/-- The bill of eighteen meals is 14: a bill of twenty pays for all of them, with a change of
6, and the first one that is taken out costs 15. -/
theorem first_meal_is_unpaid :
    ¬ ∀ s, Lib.Reach step FreshPowerUp Lib.anyEvent s →
      (s.session.book.delivered : ℤ) ≤ s.session.book.taken - s.session.book.returned := by
  have hfresh : FreshPowerUp (stocked 6) := ⟨stocked_isPowerUp 6, rfl⟩
  refine Lib.not_forall_reach hfresh
    (List.flatten [startUp, [.touch 0x00 1, .touch 0x30 18, .touch 0x01 3],
      payWithBill .twenty, [.next, .next], payOutAndServe, fetchMeal]) ?_
  decide +kernel

end MealVendor
