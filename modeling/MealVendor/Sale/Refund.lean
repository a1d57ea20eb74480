import MealVendor.Sale.Inversion

/-!
# Refunds

`SendOutN_Coin` pays out coins one after the other until the hopper reports that it is
empty, and returns what is left in a byte.  The state `hpper_out` stores this byte as the
new amount, so that whatever does not fit into it is never paid out.

The amount of a refund is computed in two places: forward from the meals that are left, by
the main program when a meal fails, and backward from the money and the meals that were handed
out, when the administrator opens his page later on.  The second one needs the counts that
`AcountCopy` has stored, in fields which the pages of the kinds use as well.
-/

namespace MealVendor

/-! ## `SendOutN_Coin` -/

/-- The pulses of one call of `SendOutN_Coin`, what it returns, and `ErrorType`. -/
structure SendOut where
  pulses : ℕ
  ret : UInt8
  errorType : UInt8

/-- The loop of `SendOutN_Coin` with `n` coins to go and `i` coins paid out. -/
def sendLoop (pe9 : ℕ → Bool) : ℕ → ℕ → SendOut
  | 0, i => ⟨i, 0, 0⟩
  | n + 1, i => if pe9 i then sendLoop pe9 n (i + 1) else ⟨i, UInt8.ofNat (n + 1), 1⟩

/-- `SendOutN_Coin`; pin 9 of port E is read before every coin. -/
def sendOutNCoin (pe9 : ℕ → Bool) (num : ℕ) : SendOut := sendLoop pe9 num 0

/-- The first coin is there or not, and then the others. -/
lemma sentCoins_succ (pe9 : ℕ → Bool) (n : ℕ) :
    sentCoins pe9 (n + 1) = if pe9 0 then sentCoins (fun i => pe9 (i + 1)) n + 1 else 0 := by
  rw [sentCoins, sentCoins, List.range_succ_eq_map, List.takeWhile_cons, List.takeWhile_map]
  split_ifs
  · rw [List.length_cons, List.length_map]
    rfl
  · rfl

/-- The coins that are paid out, from coin `i` on. -/
lemma sendLoop_eq (pe9 : ℕ → Bool) (n i : ℕ) :
    sendLoop pe9 n i =
      let sent := sentCoins (fun j => pe9 (j + i)) n
      ⟨i + sent, UInt8.ofNat (n - sent), if sent < n then 1 else 0⟩ := by
  induction n generalizing i with
  | zero => rfl
  | succ n ih =>
    have hshift : (fun j => pe9 (j + 1 + i)) = fun j => pe9 (j + (i + 1)) := by
      funext j
      congr 1
      omega
    rw [sendLoop]
    dsimp only
    rw [sentCoins_succ, hshift, Nat.zero_add]
    by_cases hp : pe9 i
    · rw [if_pos hp, if_pos hp, ih]
      simp only [Nat.add_sub_add_right, Nat.add_lt_add_iff_right]
      congr 1
      omega
    · rw [if_neg hp, if_neg hp]
      rfl

/-- `SendOutN_Coin`, with the coins that are paid out. -/
lemma sendOutNCoin_eq (pe9 : ℕ → Bool) (num : ℕ) :
    sendOutNCoin pe9 num =
      ⟨sentCoins pe9 num, UInt8.ofNat (num - sentCoins pe9 num),
        if sentCoins pe9 num < num then 1 else 0⟩ := by
  rw [sendOutNCoin, sendLoop_eq]
  simp only [Nat.zero_add, Nat.add_zero]

/-- At least `m` coins are paid out when pin 9 reports coins before each of them. -/
lemma le_sentCoins_iff {pe9 : ℕ → Bool} {num m : ℕ} (hm : m ≤ num) :
    m ≤ sentCoins pe9 num ↔ ∀ i < m, pe9 i = true := by
  induction num generalizing pe9 m with
  | zero =>
    obtain rfl : m = 0 := by omega
    simp
  | succ n ih =>
    cases m with
    | zero => simp
    | succ m =>
      rw [sentCoins_succ, Nat.forall_lt_succ_left]
      by_cases h0 : pe9 0
      · rw [if_pos h0, Nat.add_le_add_iff_right, ih (by omega)]
        exact ⟨fun h => ⟨h0, h⟩, fun h => h.2⟩
      · rw [if_neg h0]
        exact ⟨fun h => absurd h (Nat.not_succ_le_zero m), fun h => absurd h.1 h0⟩

/-- The hopper has a coin for each of `num` coins but the last 255. -/
def Supplied (pe9 : ℕ → Bool) (num : ℕ) : Prop := ∀ i, i + 256 ≤ num → pe9 i = true

/-- Then what is left fits into a byte. -/
lemma supplied_iff {pe9 : ℕ → Bool} {num : ℕ} :
    Supplied pe9 num ↔ num - sentCoins pe9 num < 256 := by
  have hle := sentCoins_le pe9 num
  have hcoins : num - 255 ≤ sentCoins pe9 num ↔ ∀ i < num - 255, pe9 i = true :=
    le_sentCoins_iff (Nat.sub_le _ _)
  constructor
  · intro h
    have := hcoins.mpr fun i hi => h i (by omega)
    omega
  · intro h i hi
    exact hcoins.mp (by omega) i (by omega)

/-- The returned byte is what is left, exactly when it fits. -/
lemma pulses_add_ret_iff (pe9 : ℕ → Bool) (num : ℕ) :
    (sendOutNCoin pe9 num).pulses + (sendOutNCoin pe9 num).ret.toNat = num ↔ Supplied pe9 num := by
  have hle := sentCoins_le pe9 num
  rw [sendOutNCoin_eq, supplied_iff]
  simp only [UInt8.toNat_ofNat']
  omega

/-- One call is right: no coin is lost, and `ErrorType` reports that something is left. -/
def SendOut.Exact (r : SendOut) (num : ℕ) : Prop :=
  r.pulses + r.ret.toNat = num ∧ (r.errorType = 1 ↔ 0 < r.ret)

lemma sendOutNCoin_exact_iff (pe9 : ℕ → Bool) (num : ℕ) :
    (sendOutNCoin pe9 num).Exact num ↔ Supplied pe9 num := by
  rw [SendOut.Exact, pulses_add_ret_iff]
  refine and_iff_left_of_imp fun h => ?_
  have hleft := supplied_iff.mp h
  rw [sendOutNCoin_eq, UInt8.lt_iff_toNat_lt]
  simp only [UInt8.toNat_ofNat', UInt8.toNat_zero]
  split_ifs with hsent
  · exact ⟨fun _ => by omega, fun _ => rfl⟩
  · exact ⟨fun h => absurd h (by decide), fun h => absurd h (by omega)⟩

/-! ## The state `hpper_out` again and again -/

/-- The coins that a trace has paid out in the state `hpper_out`. -/
def paidOut (os : List Obs) : ℕ := (os.map fun o => match o with | .payOut n => n | _ => 0).sum

namespace Machine

/-- The change that is still to be paid out. -/
def owed (s : Machine) : ℕ := s.session.userAct.moneyBack.toInt.toNat

/-- The state `hpper_out`, once for each answer of the hopper. -/
def hpperOuts (ios : List Io) (s : Machine) : Machine := ios.foldl (fun s io => s.hpperOut io) s

/-- In each of these rounds the hopper has the coins. -/
def AllSupplied : List Io → Machine → Prop
  | [], _ => True
  | io :: ios, s => Supplied io.pe9 s.owed ∧ AllSupplied ios (s.hpperOut io)

/-- What was paid out, and what is still to be paid. -/
def balance (s : Machine) : ℤ := paidOut s.session.trace + s.session.userAct.moneyBack.toInt

variable (s : Machine) (io : Io)

/-- With change to give, `hpper_out` is one call of `SendOutN_Coin`. -/
lemma hpperOut_of_pos (h : 0 < s.session.userAct.moneyBack) :
    (s.hpperOut io).session.trace =
        .payOut (sendOutNCoin io.pe9 s.owed).pulses :: s.session.trace ∧
      (s.hpperOut io).session.userAct.moneyBack =
        Int16.ofNat (sendOutNCoin io.pe9 s.owed).ret.toNat := by
  rw [hpperOut, if_pos h, sendOutNCoin_eq]
  dsimp only
  split_ifs <;> exact ⟨rfl, rfl⟩

/-- Without change to give it pays nothing out. -/
lemma hpperOut_of_not_pos (h : ¬ 0 < s.session.userAct.moneyBack) :
    (s.hpperOut io).balance = s.balance := by
  rw [hpperOut, if_neg h]
  split_ifs
  · show ((0 + paidOut s.session.trace : ℕ) : ℤ) + s.session.userAct.moneyBack.toInt = s.balance
    rw [Nat.zero_add, balance]
  · rfl
  · rfl

/-- One round keeps the balance exactly when the hopper has the coins, and never raises it. -/
lemma hpperOut_balance :
    (s.hpperOut io).balance ≤ s.balance ∧
      ((s.hpperOut io).balance = s.balance ↔ Supplied io.pe9 s.owed) := by
  by_cases h : 0 < s.session.userAct.moneyBack
  · -- the byte that is returned becomes the new amount
    have hpos : 0 < s.session.userAct.moneyBack.toInt := Int16.lt_iff_toInt_lt.mp h
    obtain ⟨htrace, hback⟩ := s.hpperOut_of_pos io h
    have hret : (Int16.ofNat (sendOutNCoin io.pe9 s.owed).ret.toNat).toInt =
        (sendOutNCoin io.pe9 s.owed).ret.toNat := by
      have := (sendOutNCoin io.pe9 s.owed).ret.toNat_lt
      rw [Int16.toInt_ofNat_of_lt (by omega)]
    have hle : (sendOutNCoin io.pe9 s.owed).pulses + (sendOutNCoin io.pe9 s.owed).ret.toNat ≤
        s.owed := by
      have := sentCoins_le io.pe9 s.owed
      rw [sendOutNCoin_eq]
      simp only [UInt8.toNat_ofNat']
      omega
    have hnew : (s.hpperOut io).balance = paidOut s.session.trace +
        ((sendOutNCoin io.pe9 s.owed).pulses + (sendOutNCoin io.pe9 s.owed).ret.toNat : ℤ) := by
      rw [balance, htrace, hback, hret, paidOut, List.map_cons, List.sum_cons, ← paidOut]
      push_cast
      ring
    have howed : (s.owed : ℤ) = s.session.userAct.moneyBack.toInt := by
      rw [owed, Int.toNat_of_nonneg hpos.le]
    rw [← pulses_add_ret_iff, hnew, balance, ← howed]
    constructor
    · omega
    · omega
  · have howed : s.owed = 0 := by
      have hneg : s.session.userAct.moneyBack.toInt ≤ 0 := by
        rw [Int16.lt_iff_toInt_lt] at h
        exact not_lt.mp h
      rw [owed, Int.toNat_of_nonpos hneg]
    rw [s.hpperOut_of_not_pos io h]
    refine ⟨le_rfl, iff_of_true rfl ?_⟩
    rw [howed]
    intro i hi
    omega

/-- Over any number of rounds the balance is kept exactly when the hopper has the coins in
each of them. -/
lemma hpperOuts_balance (ios : List Io) :
    (s.hpperOuts ios).balance ≤ s.balance ∧
      ((s.hpperOuts ios).balance = s.balance ↔ AllSupplied ios s) := by
  induction ios generalizing s with
  | nil => exact ⟨le_rfl, iff_of_true rfl trivial⟩
  | cons io ios ih =>
    obtain ⟨hle, hiff⟩ := s.hpperOut_balance io
    obtain ⟨hle', hiff'⟩ := ih (s.hpperOut io)
    rw [hpperOuts, List.foldl_cons, ← hpperOuts, AllSupplied, ← hiff, ← hiff']
    refine ⟨hle'.trans hle, ?_⟩
    constructor
    · intro h
      -- what one round loses no later one brings back
      have hone : (s.hpperOut io).balance = s.balance := le_antisymm hle (h ▸ hle')
      exact ⟨hone, h.trans hone.symm⟩
    · rintro ⟨hone, hrest⟩
      exact hrest.trans hone

/-- A call of `SendOutN_Coin` is exact if and only if the hopper has the coins but the last
255; and over any rounds of `hpper_out` the coins paid out and `MoneyBack` stay the amount
that was owed if and only if this is so in each round. -/
theorem refund_exact (pe9 : ℕ → Bool) (num : ℕ) (s : Machine) (ios : List Io) :
    ((sendOutNCoin pe9 num).Exact num ↔ Supplied pe9 num) ∧
      ((s.hpperOuts ios).balance = s.balance ↔ AllSupplied ios s) :=
  ⟨sendOutNCoin_exact_iff pe9 num, (s.hpperOuts_balance ios).2⟩

/-- With 300 coins to pay and an empty hopper, only 44 are left to be paid. -/
theorem refund_lost :
    ¬ ∀ num, num ≤ 32767 → ∀ pe9, (sendOutNCoin pe9 num).Exact num := by
  intro h
  have := (sendOutNCoin_exact_iff _ _).mp (h 300 (by decide) fun _ => false) 0 (by decide)
  cases this

end Machine

/-! ## The amount of a refund -/

namespace UserSelection

/-- The price of the counts in `MealCnt_1st_t` to `MealCnt_4th_t`. -/
def copiedPrice (u : UserSelection) : ℕ := ∑ k, price k * (u.mealCntT k).toNat

/-- Just after `AcountCopy` it is the price of the cart. -/
lemma copiedPrice_of_copy {u : UserSelection} (h : u.mealCntT = u.mealCnt) :
    u.copiedPrice = u.cartPrice := by
  rw [copiedPrice, h]
  rfl

/-- A meal has failed with the selection `w`, and the page of the administrator is opened with
the selection `u`: if there is something to pay back, `DisplayUserRecord` computes the amount of
the main program. -/
def RefundsAgree (u w : UserSelection) : Prop :=
  0 < u.moneyBack → u.displayUserRecord.moneyBack = w.takeError.moneyBack

/-- If there is something to pay back, what was paid beyond the price of the copied counts is the
price of what has left the cart since, in 16 bits. -/
def Settled (u w : UserSelection) : Prop :=
  0 < u.moneyBack →
    ((u.payAlready.toNat - u.copiedPrice : ℤ) - (w.cartPrice - u.cartPrice)) % 65536 = 0

instance (u w : UserSelection) : Decidable (u.RefundsAgree w) :=
  inferInstanceAs (Decidable (_ → _))

/-- Amounts are stored the same when they differ by a multiple of 2 ^ 16. -/
lemma ofInt_eq_ofInt_iff (a b : ℤ) :
    Int16.ofInt a = Int16.ofInt b ↔ (a - b) % 65536 = 0 := by
  have hsize : (Int16.size : ℤ) = 65536 := rfl
  rw [← Int16.toInt_inj, Int16.toInt_ofInt, Int16.toInt_ofInt, Int.bmod_def, Int.bmod_def, hsize]
  split_ifs <;> omega

/-- The backward amount is the price of the cart, corrected by what was paid beyond the price of the
copied counts. -/
lemma recordChange_eq (u : UserSelection) :
    u.recordChange = u.cartPrice + (u.payAlready.toNat - u.copiedPrice) := by
  have hsum : ∑ k, (((u.mealCntT k).toNat : ℤ) - (u.mealCnt k).toNat) * price k =
      (u.copiedPrice : ℤ) - (u.cartPrice : ℤ) := by
    rw [cartPrice, copiedPrice]
    push_cast
    rw [← Finset.sum_sub_distrib]
    exact Finset.sum_congr rfl fun k _ => by ring
  rw [recordChange, hsum]
  ring

/-- Counts are bytes. -/
lemma copiedPrice_le (w : UserSelection) : w.copiedPrice ≤ 15300 :=
  { w with mealCnt := w.mealCntT }.cartPrice_le

/-- When the two amounts are the same. -/
lemma refundsAgree_iff (u w : UserSelection) : u.RefundsAgree w ↔ u.Settled w := by
  refine imp_congr_right fun hback => ?_
  rw [displayUserRecord, if_pos hback]
  show Int16.ofInt u.recordChange = Int16.ofInt w.cartPrice ↔ _
  rw [ofInt_eq_ofInt_iff, recordChange_eq]
  have heq : (u.cartPrice + (u.payAlready.toNat - u.copiedPrice) - w.cartPrice : ℤ) =
      (u.payAlready.toNat - u.copiedPrice) - (w.cartPrice - u.cartPrice) := by ring
  rw [heq]

/-- With the same cart it depends on what was paid. -/
lemma settled_iff {u w : UserSelection} (hcart : u.mealCnt = w.mealCnt) :
    u.Settled w ↔ (0 < u.moneyBack → u.payAlready.toNat = u.copiedPrice) := by
  have hprice : u.cartPrice = w.cartPrice := by rw [cartPrice, cartPrice, hcart]
  have hcopied := u.copiedPrice_le
  have hpaid := u.payAlready.toNat_lt
  refine imp_congr_right fun _ => ?_
  rw [hprice]
  omega

end UserSelection

/-! ## The copied counts along a run -/

/-- The messages that write `MealCnt_1st_t` to `MealCnt_4th_t`: those of the pages of the kinds,
another `payment_method`, and the cancel key that clears the selection. -/
def Variable.writesCopy (d : UInt8) : Variable → Bool
  | .mealChoose | .count _ | .paymentMethod => true
  | .mealcntChoose => d == 4
  | _ => false

/-- The next piece of the program clears the selection: the time of a payment is over, all meals
are taken out, or an error of the arm has been dealt with. -/
def Machine.clearsNext (s : Machine) : Bool :=
  match s.session.pc with
  | .payTail => s.timers.waitTime == 0
  | .find => s.session.userAct.firstKind.isNone
  | .abnormal erro _ => decide (xTimeout ≤ erro) && s.erroFlag == 0
  | _ => false

/-- The event leaves alone what `AcountCopy` has stored. -/
def KeepsCopy (s : Machine) : Event → Prop
  | .tim3 => s.timers.waitTime ≠ 0
  | .screen f _ => ∀ v ∈ f.variable, v.writesCopy f.data1 = false
  | .go _ => s.clearsNext = false
  | _ => True

instance (s : Machine) : ∀ e, Decidable (KeepsCopy s e)
  | .tim3 => inferInstanceAs (Decidable (_ ≠ _))
  | .screen f _ => inferInstanceAs (Decidable (∀ v ∈ f.variable, _))
  | .go _ => inferInstanceAs (Decidable (_ = _))
  | .coinIn | .coinOut | .tim4 | .tim5 | .tim7 | .pvd | .usart6 _ => .isTrue trivial

lemma UserSelection.putIntoShopCart_mealCntT (u : UserSelection) :
    u.putIntoShopCart.mealCntT = u.mealCntT := by
  rw [putIntoShopCart]
  cases Kind.ofID u.mealID <;> rfl

namespace Machine

variable {s : Machine} {f : Frame} {io : Io}

/-- A message that is not about the copied counts leaves them. -/
lemma changeVariableValues_counts (h : ∀ v ∈ f.variable, v.writesCopy f.data1 = false) :
    (s.changeVariableValues f io).session.userAct.mealCntT = s.session.userAct.mealCntT := by
  have hput := s.session.userAct.putIntoShopCart_mealCntT
  rw [changeVariableValues]
  cases hf : f.variable with
  | none => rfl
  | some v =>
    have hv := h v hf
    cases v with
    | mealChoose | count | paymentMethod => cases hv
    | mealcntChoose =>
      have h4 : f.data1 ≠ 4 := by simpa [Variable.writesCopy] using hv
      show (s.mealcntChoose f.data1).session.userAct.mealCntT = _
      rw [mealcntChoose, if_neg h4, enterCart]
      split_ifs <;> simp [settleAccounts, UserSelection.settle, hput]
    | column i =>
      show (s.column i f.data1).session.userAct.mealCntT = _
      unfold column
      dsimp only
      split
      · split_ifs <;> rfl
      · rfl
    | billPrint =>
      dsimp only [billPrint]
      split_ifs <;> rfl
    | password =>
      have hrecord : s.session.userAct.displayUserRecord.mealCntT = s.session.userAct.mealCntT := by
        rw [s.session.userAct.displayUserRecord_eq]
      dsimp only [password, confirmPassWord]
      split_ifs <;> first | rfl | exact hrecord
    | adminSet =>
      dsimp only [adminSet]
      split_ifs <;> rfl
    | mealinputChoose =>
      dsimp only [mealinputChoose]
      split_ifs <;> rfl
    | recordClear =>
      dsimp only [recordClear]
      split_ifs <;> rfl
    | _ => rfl

/-- Where messages are dealt with, the program writes no count. -/
lemma go_counts_of_deals (hpc : s.session.pc.deals) (hclear : s.clearsNext = false) :
    (s.go io).session.userAct.mealCntT = s.session.userAct.mealCntT := by
  rw [go]
  cases h : s.session.pc with
  | deal =>
    refine manageusart6data_cases (P := fun s' => s'.session.userAct.mealCntT = _) rfl
      (fun _ e _ => ?_) (fun _ => rfl) fun _ => rfl
    dsimp only [abnormalHandle]
    split_ifs <;> rfl
  | cardDeal szt money cnt =>
    dsimp only [cardDeal]
    split_ifs <;> rfl
  | abnormal erro ret =>
    dsimp only [abnormalEnd]
    split_ifs with h0 hx
    · simp [clearsNext, h, hx, h0] at hclear
    · rfl
    · rfl
  | _ =>
    rw [h] at hpc
    cases hpc

/-- The program keeps the copied counts until it clears the selection. -/
lemma go_counts (hclear : s.clearsNext = false) :
    (s.go io).session.userAct.mealCntT = s.session.userAct.mealCntT := by
  by_cases hpc : s.session.pc.deals
  · exact go_counts_of_deals hpc hclear
  have hm : Move s (.go io) (s.go io).session := s.go_move
  generalize (s.go io).session = t at hm
  cases hm with
  | calm ht => exact ht.counts.resolve_right hpc
  | bill h _ _ _ h0 =>
    rw [Session.readBills_of_ne h0]
    rfl
  | timeout h hwait => simp [clearsNext, h, hwait] at hclear
  | takeAfter h hk => simp [clearsNext, h, hk] at hclear
  | takeError h h' ht => exact ht.counts.resolve_right hpc
  | takeOut =>
    show s.session.userAct.takeOut.mealCntT = _
    rw [UserSelection.takeOut]
    cases Kind.ofID s.session.userAct.mealID <;> rfl
  | abnormalEnd h =>
    rw [h] at hpc
    exact absurd rfl hpc
  | _ => rfl

end Machine

/-- A step that keeps the copy. -/
lemma step_counts {s t : Machine} {e : Event} (hG : KeepsCopy s e) (h : step s e = some t) :
    t.session.userAct.mealCntT = s.session.userAct.mealCntT := by
  cases e with
  | screen f io =>
    obtain ⟨-, rfl⟩ := step_screen h
    exact Machine.changeVariableValues_counts hG
  | go io =>
    cases h
    exact Machine.go_counts hG
  | tim3 =>
    obtain ⟨-, rfl⟩ := step_tim3 h
    rw [Machine.tim3, if_pos (UInt8.pos_iff_ne_zero.mpr hG)]
    rfl
  | coinIn =>
    cases h
    rw [Machine.coinIn]
    split_ifs <;> rfl
  | tim4 =>
    obtain rfl := step_tim4 h
    rfl
  | tim7 =>
    obtain rfl := step_tim7 h
    rfl
  | usart6 b =>
    cases h
    unfold Machine.usart6
    dsimp only
    split_ifs <;> rfl
  | pvd =>
    cases h
    rw [Machine.pvd, Machine.saveUserData_session]
  | coinOut | tim5 =>
    cases h
    rfl

/-- The counts that `AcountCopy` has stored, until something writes them. -/
lemma runs_counts {s t : Machine} {es : List Event} (h : Lib.Runs step KeepsCopy s es t) :
    t.session.userAct.mealCntT = s.session.userAct.mealCntT := by
  induction h with
  | nil => rfl
  | cons hG hs _ ih => exact ih.trans (step_counts hG hs)

/-- A meal fails in any state `t`, and the page of the administrator is opened in any state `q`: the
two refunds are the same exactly when nothing is to be paid back any more, or what was paid beyond
the price of the counts that are taken for the copy is what has left the cart since; which is
nothing if the cart is the same.  As long as nothing writes the copy, these counts are those of the
cart that `AcountCopy` has copied. -/
theorem refunds_agree_iff (t q : Machine) :
    (q.session.userAct.RefundsAgree t.session.userAct ↔
      q.session.userAct.Settled t.session.userAct) ∧
    (q.session.userAct.mealCnt = t.session.userAct.mealCnt →
      (q.session.userAct.Settled t.session.userAct ↔ (0 < q.session.userAct.moneyBack →
        q.session.userAct.payAlready.toNat = q.session.userAct.copiedPrice))) ∧
    ∀ s es, s.session.userAct.mealCntT = s.session.userAct.mealCnt →
      Lib.Runs step KeepsCopy s es q →
      q.session.userAct.copiedPrice = s.session.userAct.cartPrice := by
  refine ⟨UserSelection.refundsAgree_iff _ _, UserSelection.settled_iff, fun s es hcopy hkept => ?_⟩
  rw [← UserSelection.copiedPrice_of_copy hcopy, UserSelection.copiedPrice,
    UserSelection.copiedPrice, runs_counts hkept]

/-- Two meals are chosen, put into the cart and copied. -/
def copyTwo : List Event :=
  startUp ++ [.touch 0x00 1, .touch 0x30 2, .touch 0x01 3, .touch 0x02 1]

/-- They are paid with a bill of twenty and one of ten, the first one is handed out, and the arm
does not answer when it is sent to the second one. -/
def payThirty : List Event :=
  List.flatten
    [payRound .quiet, payRound { Io.quiet with bill := .twenty }, payRound .quiet, payRound .quiet,
     payRound { Io.quiet with bill := .ten }, payRound .quiet, payRound .quiet, payRound .quiet,
     List.replicate 3 .next, sendArm, fetchMeal, List.replicate 7 .next, [.tim5, .tim5]]

/-- No change was due: both refunds are 15. -/
theorem refunds_agree_exact :
    ∃ s t q, s.session.userAct.cartPrice = 30 ∧
      Lib.checkedRun step KeepsCopy s payThirty = some t ∧
      Lib.checkedRun step KeepsCopy t [.next] = some q ∧ t.session.current = .mealOut ∧
      q.session.current = .hpperOut ∧ q.session.userAct.moneyBack = 15 ∧
      q.session.userAct.RefundsAgree t.session.userAct := by
  have hrun : ((Lib.runFrom step (stocked 3) copyTwo).any fun s =>
      s.session.userAct.mealCntT = s.session.userAct.mealCnt ∧
      s.session.userAct.cartPrice = 30 ∧
      (Lib.checkedRun step KeepsCopy s payThirty).any fun t =>
        t.session.current = .mealOut ∧
        (Lib.checkedRun step KeepsCopy t [.next]).any fun q =>
          q.session.current = .hpperOut ∧ q.session.userAct.moneyBack = 15 ∧
          q.session.userAct.mealCnt = t.session.userAct.mealCnt ∧
          q.session.userAct.payAlready.toNat = 30) = true := by
    decide +kernel
  obtain ⟨s, -, hcopy, hprice, hpaid⟩ := Lib.exists_of_any hrun
  obtain ⟨t, ht, hout, hfails⟩ := Lib.exists_of_any hpaid
  obtain ⟨q, hq, hback, hmoney, hcart, hpaid⟩ := Lib.exists_of_any hfails
  obtain ⟨hiff, hsettled, hkept⟩ := refunds_agree_iff t q
  refine ⟨s, t, q, hprice, ht, hq, hout, hback, hmoney,
    hiff.mpr ((hsettled hcart).mpr fun _ => ?_)⟩
  have hruns : Lib.Runs step KeepsCopy s (payThirty ++ [.next]) q :=
    (Lib.Runs.of_checkedRun ht).append (.of_checkedRun hq)
  rw [hkept s _ hcopy hruns, hpaid, hprice]

/-- One meal is chosen, put into the cart and copied. -/
def copyOne : List Event := startUp ++ [.touch 0x00 1, .touch 0x01 3, .touch 0x02 1]

/-- It is paid with a bill of twenty, the change is paid out, and the arm does not answer. -/
def payTwenty : List Event :=
  List.flatten
    [payRound .quiet, payRound { Io.quiet with bill := .twenty }, payRound .quiet, payRound .quiet,
     [.next, .next], payOutAndServe, sendArm, [.tim5, .tim5]]

/-- One meal of 15 is paid with a bill of 20, whose change is paid out, and is not handed out:
the administrator is shown 20. -/
theorem refunds_disagree :
    ¬ ∀ s es t io q, Lib.Reach step IsPowerUp Lib.anyEvent s →
      s.session.userAct.mealCntT = s.session.userAct.mealCnt → Lib.Runs step KeepsCopy s es t →
      t.session.current = .mealOut → step t (.go io) = some q → q.session.current = .hpperOut →
      q.session.userAct.RefundsAgree t.session.userAct := by
  intro h
  have hrun : ((Lib.runFrom step (stocked 3) copyOne).any fun s =>
      s.session.userAct.mealCntT = s.session.userAct.mealCnt ∧
      (Lib.checkedRun step KeepsCopy s payTwenty).any fun t =>
        t.session.current = .mealOut ∧ (step t (.go .quiet)).any fun q =>
          q.session.current = .hpperOut ∧
          ¬ q.session.userAct.RefundsAgree t.session.userAct) = true := by
    decide +kernel
  obtain ⟨s, hs, hcopy, hfail⟩ := Lib.exists_of_any hrun
  obtain ⟨t, ht, hout, hfails⟩ := Lib.exists_of_any hfail
  obtain ⟨q, hq, hback, hnot⟩ := Lib.exists_of_any hfails
  exact hnot (h s _ t .quiet q (.of_runFrom (stocked_isPowerUp 3) hs) hcopy (.of_checkedRun ht) hout
    hq hback)

end MealVendor
