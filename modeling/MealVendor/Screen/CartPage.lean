import MealVendor.Lib.Rows
import MealVendor.Model.Main
import MealVendor.Screen.Shown

/-!
# The cart page

`SettleAccounts` empties the four rows of the page and fills one for each kind in the cart.
The frame of a count or a cost is longer than its word, so that every row spoils the next one; the
rows come from the first to the last.
-/

namespace MealVendor

/-! ## What the page is to show -/

/-- A row of the page. -/
@[ext] structure CartRow where
  name : List UInt8
  count : UInt16
  cost : UInt16
deriving DecidableEq

/-- A row without a meal. -/
def CartRow.blank : CartRow := ⟨nameRow 0, 0, 0⟩

/-- The page: its rows and the total. -/
structure CartView where
  row : Fin 4 → CartRow
  total : UInt16
deriving DecidableEq

/-- Row `i` as it is in the program. -/
def Machine.cartRow (s : Machine) (i : Fin 4) : CartRow :=
  match Kind.ofID (s.dispMeal i).mealId with
  | some k =>
    ⟨nameRow k.id, (s.session.userAct.mealCnt k).toUInt16, s.session.userAct.mealCost k⟩
  | none => .blank

/-- The cart as it is in the program. -/
def Machine.cartView (s : Machine) : CartView := ⟨s.cartRow, s.session.userAct.payShould⟩

namespace Display

/-- Row `i` as it is on the screen. -/
def cartRow (d : Display) (i : ℕ) : CartRow where
  name := d.row (Show.column1stName.toNat + 256 * i) 12
  count := d.word (Show.column1stCount.toNat + 3 * i)
  cost := d.word (Show.column1stCost.toNat + 3 * i)

/-- The page as it is on the screen. -/
def cartView (d : Display) : CartView :=
  ⟨fun i => d.cartRow i.val, d.word Show.mealtotoalCost.toNat⟩

end Display

/-! ## One row -/

section Row

variable {low : UInt8 → UInt8} {d : Display} {floor : UInt8}

/-- What the three frames of a row make of the screen. -/
def setRow (mealId mealCnt mealCost floor : UInt8) (d : Display) : Display :=
  ((d.write (Show.column1stName + floor.toUInt16 * 0x0100) (nameRow mealId)).write
    (Show.column1stCount + floor.toUInt16 * 3) (byteRow mealCnt)).write
    (Show.column1stCost + floor.toUInt16 * 3) (byteRow mealCost)

lemma does_cartRow (mealId mealCnt mealCost floor : UInt8) :
    Does low (Show.cartRow mealId mealCnt mealCost floor)
      (setRow mealId mealCnt mealCost floor) :=
  ((does_nameDisp _ _ _).append (does_byteDisp _ _ _)).append (does_byteDisp _ _ _)

variable {mealId mealCnt mealCost : UInt8} {j : ℕ}

/-- The row is set, the next one loses its numbers, and the others stay. -/
lemma cartRow_setRow (h : floor.toNat < 4) (hj : j < 4) :
    (setRow mealId mealCnt mealCost floor d).cartRow j =
      if j = floor.toNat then ⟨nameRow mealId, mealCnt.toUInt16, mealCost.toUInt16⟩
      else if j = floor.toNat + 1 then { d.cartRow j with count := 0, cost := 0 }
      else d.cartRow j := by
  have hname := toNat_block (a := Show.column1stName) (by decide) h
  have hcount := toNat_cell (a := Show.column1stCount) (by decide) h
  have hcost := toNat_cell (a := Show.column1stCost) (by decide) h
  have hlen := length_nameRow mealId
  have hbyte : ∀ c, (byteRow c).length = 10 := fun _ => rfl
  have hname₀ : Show.column1stName.toNat = 0x4100 := rfl
  have hcount₀ : Show.column1stCount.toNat = 0x42 := rfl
  have hcost₀ : Show.column1stCost.toNat = 0x43 := rfl
  have hrow : (setRow mealId mealCnt mealCost floor d).row (Show.column1stName.toNat + 256 * j) 12 =
      if j = floor.toNat then nameRow mealId
      else d.row (Show.column1stName.toNat + 256 * j) 12 := by
    rw [setRow, row_write_of_disjoint (by rw [hcost, hbyte]; omega),
      row_write_of_disjoint (by rw [hcount, hbyte]; omega)]
    split_ifs with hjf
    · rw [hjf, ← hname, row_write hlen]
    · exact row_write_of_disjoint (by rw [hname, hlen]; omega)
  have hword : ∀ b, b < 0x100 → (setRow mealId mealCnt mealCost floor d).word b =
      if b = 0x43 + 3 * floor.toNat then mealCost.toUInt16
      else if 0x43 + 3 * floor.toNat < b ∧ b < 0x43 + 3 * floor.toNat + 5 then 0
      else if b = 0x42 + 3 * floor.toNat then mealCnt.toUInt16
      else if 0x42 + 3 * floor.toNat < b ∧ b < 0x42 + 3 * floor.toNat + 5 then 0
      else d.word b := by
    intro b hb
    rw [setRow, word_write_byteRow, word_write_byteRow, hcost, hcount, hcost₀, hcount₀,
      word_write_of_disjoint (by rw [hname]; omega)]
  rw [Display.cartRow, hrow, hword _ (by omega), hword _ (by omega), Display.cartRow, hcount₀,
    hcost₀]
  by_cases hjf : j = floor.toNat
  · subst hjf
    rw [if_pos rfl, if_pos rfl, if_neg (by omega), if_neg (by omega), if_pos rfl, if_pos rfl]
  · by_cases hnext : j = floor.toNat + 1
    · rw [if_neg hjf, if_neg hjf, if_pos hnext, if_neg (by omega), if_pos (by omega),
        if_neg (by omega), if_pos (by omega)]
    · rw [if_neg hjf, if_neg hjf, if_neg hnext, if_neg (by omega), if_neg (by omega),
        if_neg (by omega), if_neg (by omega), if_neg (by omega), if_neg (by omega),
        if_neg (by omega), if_neg (by omega)]

end Row

/-! ## A word of another variable -/

section Word

variable {d : Display} {a v : UInt16} {j : ℕ}

/-- A word outside of the rows. -/
lemma cartRow_write_of_disjoint (h : a.toNat < 0x42 ∨ 0x4D ≤ a.toNat ∧ a.toNat < 0x100)
    (hj : j < 4) : (d.write a (wordBytes v)).cartRow j = d.cartRow j := by
  have hname₀ : Show.column1stName.toNat = 0x4100 := rfl
  have hcount₀ : Show.column1stCount.toNat = 0x42 := rfl
  have hcost₀ : Show.column1stCost.toNat = 0x43 := rfl
  have hlen : (wordBytes v).length = 2 := rfl
  rw [Display.cartRow, row_write_of_disjoint (by omega), word_write_wordBytes,
    if_neg (by omega), word_write_wordBytes, if_neg (by omega), Display.cartRow]

@[simp] lemma cartRow_setPage (page : UInt8) : (d.setPage page).cartRow j = d.cartRow j := rfl

end Word

/-! ## All rows -/

section Rows

variable {low : UInt8 → UInt8} {d : Display} {u : UserSelection} {j : ℕ}

/-- The rows are emptied. -/
def clearRows (d : Display) : Display :=
  setRow 0 0 0 3 (setRow 0 0 0 2 (setRow 0 0 0 1 (setRow 0 0 0 0 d)))

lemma does_clearRows :
    Does low ((List.range 4).flatMap fun i => Show.cartRow 0 0 0 (UInt8.ofNat i)) clearRows :=
  Does.flatMap (fun _ => does_cartRow _ _ _ _) (List.range 4)

/-- What the screen showed before is gone. -/
lemma cartRow_clearRows (hj : j < 4) : (clearRows d).cartRow j = .blank := by
  rw [clearRows]
  interval_cases j <;> simp [cartRow_setRow, CartRow.blank]

/-- The row of a kind. -/
def setKind (u : UserSelection) (k : Kind) (floor : ℕ) : Display → Display :=
  setRow k.id (u.mealCnt k) (u.mealCost k).toUInt8 (UInt8.ofNat floor)

lemma does_cartRows (u : UserSelection) (ks : List Kind) (floor : ℕ) :
    Does low (Show.cartRows u ks floor) (Lib.fill (setKind u) ks floor) := by
  induction ks generalizing floor with
  | nil => exact Does.nil
  | cons k ks ih => exact (does_cartRow _ _ _ _).append (ih (floor + 1))

/-- The row of a kind, as it is sent. -/
def sentRow (u : UserSelection) (k : Kind) : CartRow :=
  ⟨nameRow k.id, (u.mealCnt k).toUInt16, (u.mealCost k).toUInt8.toUInt16⟩

/-- A row that is spoiled by the one before it was empty. -/
lemma setKind_writes (u : UserSelection) :
    Lib.Writes Display.cartRow .blank (sentRow u) 4 (setKind u) where
  self k j d hj := by
    have hfloor := toNat_floor hj
    rw [setKind, cartRow_setRow (by omega) hj, hfloor, if_pos rfl]
    rfl
  before k j d i hj hi := by
    have hfloor := toNat_floor hj
    rw [setKind, cartRow_setRow (by omega) (by omega), hfloor, if_neg (by omega),
      if_neg (by omega)]
  behind k j d i hj hi hblank := by
    have hfloor := toNat_floor (by omega : j < 4)
    rw [setKind, cartRow_setRow (by omega) hi, hfloor, if_neg (by omega), hblank]
    split_ifs <;> rfl

end Rows

/-! ## The page after `SettleAccounts` -/

section Settle

variable {low : UInt8 → UInt8} {t : Terminal} {d : Display} {u : UserSelection} {s : Machine}

/-- The page is opened, its rows are empty, and the payments are shown. -/
def opened (u : UserSelection) (d : Display) : Display :=
  (((((clearRows d).setPage Show.acountInterface).write Show.paymentCoin
    (wordBytes u.payForCoins)).write Show.paymentBill (wordBytes u.payForBills)).write
    Show.paymentCard (wordBytes u.payForCards)).write Show.waitPayfor (wordBytes 60)

/-- What `SettleAccounts` makes of the screen. -/
def settled (u : UserSelection) (d : Display) : Display :=
  (Lib.fill (setKind u) (Show.cartKinds u) 0 (opened u d)).write Show.mealtotoalCost
    (wordBytes u.settle.payShould)

lemma does_settleAccounts (u : UserSelection) :
    Does low (Show.settleAccounts u) (settled u) :=
  (((((((does_clearRows).append (does_pageChange _)).append (does_variableChage _ _)).append
    (does_variableChage _ _)).append (does_variableChage _ _)).append
    (does_variableChage _ _)).append (does_cartRows _ _ _)).append (does_variableChage _ _)

lemma length_cartKinds : (Show.cartKinds u).length ≤ 4 :=
  (List.length_filter_le _ _).trans (by rw [List.length_finRange])

lemma mem_cartKinds {k : Kind} : k ∈ Show.cartKinds u ↔ 0 < u.mealCnt k := by
  rw [Show.cartKinds, List.mem_filter, decide_eq_true_eq]
  exact and_iff_right (List.mem_finRange k)

/-- Every kind in the cart has a row. -/
lemma forall_cartKinds_iff {P : Kind → Prop} :
    (∀ i : Fin 4, ∀ k ∈ (Show.cartKinds u)[i.val]?, P k) ↔ ∀ k, 0 < u.mealCnt k → P k := by
  constructor
  · intro h k hk
    obtain ⟨i, hi, hget⟩ := List.getElem_of_mem (mem_cartKinds.mpr hk)
    have hlen := length_cartKinds (u := u)
    refine h ⟨i, by omega⟩ k ?_
    rw [List.getElem?_eq_getElem hi, hget]
    rfl
  · exact fun h i k hk => h k (mem_cartKinds.mp (List.mem_of_getElem? hk))

lemma cartRow_opened {j : ℕ} (hj : j < 4) : (opened u d).cartRow j = .blank := by
  rw [opened, cartRow_write_of_disjoint (.inl (by decide)) hj,
    cartRow_write_of_disjoint (.inl (by decide)) hj,
    cartRow_write_of_disjoint (.inl (by decide)) hj,
    cartRow_write_of_disjoint (.inl (by decide)) hj, cartRow_setPage, cartRow_clearRows hj]

lemma cartRow_settled (i : Fin 4) :
    (settled u d).cartRow i.val =
      ((Show.cartKinds u)[i.val]?.map (sentRow u)).getD .blank := by
  have hlen := length_cartKinds (u := u)
  rw [settled, cartRow_write_of_disjoint (.inr (by decide)) i.isLt,
    (setKind_writes u).fill (by omega) (fun j _ hj => cartRow_opened hj) i.isLt,
    if_neg (Nat.not_lt_zero _), Nat.sub_zero]

/-- The variables before the rows are not spoiled. -/
lemma word_setKind {k : Kind} {i b : ℕ} (hi : i < 4) (hb : b < 0x42) :
    (setKind u k i d).word b = d.word b := by
  have hfloor := toNat_floor hi
  have hi' : (UInt8.ofNat i).toNat < 4 := by omega
  have hname := toNat_block (a := Show.column1stName) (by decide) hi'
  have hcount := toNat_cell (a := Show.column1stCount) (by decide) hi'
  have hcost := toNat_cell (a := Show.column1stCost) (by decide) hi'
  have hname₀ : Show.column1stName.toNat = 0x4100 := rfl
  have hcount₀ : Show.column1stCount.toNat = 0x42 := rfl
  have hcost₀ : Show.column1stCost.toNat = 0x43 := rfl
  rw [setKind, setRow, word_write_of_disjoint (.inl (by omega)),
    word_write_of_disjoint (.inl (by omega)), word_write_of_disjoint (.inl (by omega))]

/-- Row `i` in the program after `SettleAccounts`. -/
lemma cartRow_settleAccounts (i : Fin 4) :
    s.settleAccounts.cartRow i = ((Show.cartKinds s.session.userAct)[i.val]?.map fun k =>
      ⟨nameRow k.id, (s.session.userAct.mealCnt k).toUInt16,
        s.session.userAct.mealCost k⟩).getD .blank := by
  have hdisp : s.settleAccounts.dispMeal = Machine.cartRows s.session.userAct := rfl
  rw [Machine.cartRow, hdisp, Machine.cartRows]
  change (match Kind.ofID (match (Show.cartKinds s.session.userAct)[i.val]? with
    | some k => (⟨k.id⟩ : DispMealStuct)
    | none => ⟨0⟩).mealId with
    | some k => _
    | none => _) = _
  cases (Show.cartKinds s.session.userAct)[i.val]? with
  | none => rfl
  | some k =>
    simp only [Kind.ofID_id]
    rfl

lemma toUInt8_eq_iff (c : UInt16) : c.toUInt8.toUInt16 = c ↔ c < 256 := by
  rw [← UInt16.toNat_inj, UInt8.toNat_toUInt16, UInt16.toNat_toUInt8, UInt16.lt_iff_toNat_lt]
  change c.toNat % 256 = c.toNat ↔ c.toNat < 256
  omega

/-- A row that is sent is the row in the program if the cost fits in its byte. -/
lemma cartRow_settled_iff (i : Fin 4) :
    (settled s.session.userAct d).cartRow i.val = s.settleAccounts.cartRow i ↔
      ∀ k ∈ (Show.cartKinds s.session.userAct)[i.val]?, s.session.userAct.mealCost k < 256 := by
  rw [cartRow_settled, cartRow_settleAccounts]
  cases (Show.cartKinds s.session.userAct)[i.val]? with
  | none => exact iff_of_true rfl fun k hk => absurd hk (by simp)
  | some k =>
    simp only [Option.map_some, Option.getD_some, Option.mem_some_iff, forall_eq', sentRow,
      CartRow.mk.injEq, true_and]
    exact toUInt8_eq_iff _

lemma cartView_settled_iff :
    (settled s.session.userAct d).cartView = s.settleAccounts.cartView ↔
      ∀ k, 0 < s.session.userAct.mealCnt k → s.session.userAct.mealCost k < 256 := by
  have htotal : (settled s.session.userAct d).word Show.mealtotoalCost.toNat =
      s.settleAccounts.session.userAct.payShould := by
    rw [settled, word_write_wordBytes, if_pos rfl]
    rfl
  rw [Display.cartView, Machine.cartView, CartView.mk.injEq, htotal, and_iff_left rfl, funext_iff,
    ← forall_cartKinds_iff]
  exact forall_congr' fun i => cartRow_settled_iff i

/-- What is shown beside the rows. -/
lemma word_settled {b : ℕ} (hb : b < 0x42) :
    (settled u d).word b = (opened u d).word b := by
  have htotal : Show.mealtotoalCost.toNat = 0x4F := rfl
  have hlen := length_cartKinds (u := u)
  rw [settled, word_write_wordBytes, if_neg (by omega)]
  exact Lib.fill_fixed (f := fun e : Display => e.word b) fun k i d hi =>
    word_setKind (by omega) hb

end Settle

/-- After `SettleAccounts` the page is open, and it shows the cart, whatever the screen showed
before, exactly if the cost of each kind in the cart fits in a byte. -/
theorem settleAccounts_shows_iff (low : UInt8 → UInt8) (t : Terminal) (s : Machine)
    (h : t.rx = .idle) :
    let d := (t.receive low (Show.settleAccounts s.session.userAct)).display
    (d.cartView = s.settleAccounts.cartView ↔
      ∀ k, 0 < s.session.userAct.mealCnt k → s.session.userAct.mealCost k < 256) ∧
    d.page = Show.acountInterface ∧
    d.word Show.paymentCoin.toNat = s.session.userAct.payForCoins ∧
    d.word Show.paymentBill.toNat = s.session.userAct.payForBills ∧
    d.word Show.paymentCard.toNat = s.session.userAct.payForCards ∧
    d.word Show.waitPayfor.toNat = 60 := by
  intro d
  have hd : d = settled s.session.userAct t.display :=
    congrArg Terminal.display ((does_settleAccounts _).receive h)
  rw [hd, word_settled (by decide), word_settled (by decide), word_settled (by decide),
    word_settled (by decide)]
  refine ⟨cartView_settled_iff, ?_, ?_, ?_, ?_, ?_⟩
  · change (Lib.fill (setKind s.session.userAct) _ 0 (opened _ t.display)).page = _
    exact Lib.fill_fixed (f := Display.page) fun _ _ _ _ => rfl
  · simp only [opened, word_write_wordBytes]
    rfl
  · simp only [opened, word_write_wordBytes]
    rfl
  · simp only [opened, word_write_wordBytes]
    rfl
  · simp only [opened, word_write_wordBytes]
    rfl

/-- Two meals of the first kind are chosen. -/
def twoChosen : Machine := (((stocked 3).goto .deal).mealChoose 1).count 0 2

/-- They are put into the cart, and shown. -/
theorem settleAccounts_shows_two :
    ((Terminal.start.receive id (Show.settleAccounts
      (twoChosen.onSession Session.putIntoShopCart).session.userAct)).display).cartView =
      (twoChosen.onSession Session.putIntoShopCart).settleAccounts.cartView :=
  (settleAccounts_shows_iff id Terminal.start (twoChosen.onSession Session.putIntoShopCart)
    rfl).1.mpr (by decide)

end MealVendor
