import MealVendor.Screen.CartPage

/-!
# A customer at the cart page

The screen stores a count that is entered at once, and sends a message; the program deals with the
message later, and its answer takes some time on the line.  Meanwhile more counts are entered, coins
and bills come, and the time that is left is counted down.

A row for which a message is still to be dealt with may show anything.  All the others show what is
in the cart as soon as the bytes on the line have arrived.
-/

namespace MealVendor

/-! ## The program and the screen -/

/-- The program, the screen, and what is on its way between them. -/
structure Link where
  machine : Machine
  terminal : Terminal
  /-- The messages of the screen that have not been dealt with. -/
  inbox : List Frame
  /-- The bytes that have not arrived at the screen. -/
  wire : List UInt8

/-- The events that leave the customer at the page: interrupts, the round of the main program, and
`WaitPayMoney` until its time is over.  No error is reported meanwhile. -/
def Machine.stays (s : Machine) : Event → Bool
  | .coinIn => true
  | .coinOut => true
  | .tim5 => true
  | .tim7 => true
  | .pvd => true
  | .usart6 _ => true
  | .tim3 => decide (0 < s.timers.waitTime)
  | .go io =>
    match s.session.pc with
    | .deal => !s.arm.usart6DataFlag || (armError s.arm.usart6Buff).isNone
    | .switch => decide (s.session.current = .waitforMoney) && decide (io.bill ≠ .rejected)
    | .payTail => decide (s.timers.waitTime ≠ 0)
    | _ => false
  | _ => false

/-- What the screen is sent at such an event. -/
def Show.sent (s : Machine) : Event → List UInt8
  | .go io =>
    match s.session.pc with
    | .switch => Show.waitPayMoney io s
    | _ => []
  | _ => []

namespace Link

/-- What can happen next. -/
inductive Event
  /-- The customer enters a count in row `i`. -/
  | touch (i : Fin 4) (d0 d1 : UInt8)
  /-- A byte arrives at the screen. -/
  | line
  /-- The program deals with the next message. -/
  | message (io : Io)
  | other (e : MealVendor.Event)

/-- One step. -/
def step (low : UInt8 → UInt8) (p : Link) : Event → Option Link
  | .touch i d0 d1 => some { p with
      terminal := p.terminal.touch (Show.columnCount i) d0 d1
      inbox := p.inbox ++ [⟨Show.columnCount i, d0, d1⟩] }
  | .line =>
    match p.wire with
    | [] => none
    | b :: bs => some { p with terminal := p.terminal.receive low [b], wire := bs }
  | .message io =>
    match p.inbox with
    | [] => none
    | f :: fs =>
      match f.variable with
      | some (.column i) => (MealVendor.step p.machine (.screen f io)).map fun m =>
          ⟨m, p.terminal, fs, p.wire ++ Show.column i f.data1 p.machine⟩
      | _ => none
  | .other e =>
    if p.machine.stays e then
      (MealVendor.step p.machine e).map fun m =>
        { p with machine := m, wire := p.wire ++ Show.sent p.machine e }
    else none

/-- The third key of the selection page has opened the cart page. -/
def start (t : Terminal) (s : Machine) : Link :=
  ⟨s.enterCart, t, [], Show.settleAccounts s.session.userAct.putIntoShopCart⟩

end Link

/-! ## The screen cell by cell -/

section Cell

variable {low : UInt8 → UInt8} {d d' : Display} {t t' : Terminal} {c : ℕ}

lemma write_whole_ram (a : UInt16) (data : List UInt8) :
    (d.write a (d.whole low a data)).ram c =
      if c < 2 * a.toNat then d.ram c
      else (data[c - 2 * a.toNat]?).getD
        (if data.length % 2 = 1 ∧ c = 2 * a.toNat + data.length then low (d.ram c)
          else d.ram c) := by
  rw [Display.write, Display.whole]
  dsimp only
  by_cases hlt : c < 2 * a.toNat
  · rw [if_pos hlt, Lib.stored_of_lt hlt]
  · rw [if_neg hlt, Lib.stored, if_pos (by omega)]
    by_cases heven : data.length % 2 = 0
    · rw [if_pos heven, if_neg (by omega)]
    · -- the byte behind the data is made from the one that was there
      rw [if_neg heven]
      rcases Nat.lt_trichotomy (c - 2 * a.toNat) data.length with hc | hc | hc
      · rw [List.getElem?_append_left hc, List.getElem?_eq_getElem hc]
        rfl
      · have hcell : 2 * a.toNat + data.length = c := by omega
        have hnone : data[data.length]? = none := List.getElem?_eq_none (le_refl _)
        rw [hc, List.getElem?_concat_length, hcell, hnone, if_pos ⟨by omega, rfl⟩]
        rfl
      · rw [List.getElem?_eq_none (by rw [List.length_append, List.length_singleton]; omega),
          List.getElem?_eq_none (by omega), if_neg (by omega)]

/-- What a frame makes of a cell depends on the cell alone. -/
lemma exec_ram_congr (body : List UInt8) (h : d.ram c = d'.ram c) :
    (d.exec low body).ram c = (d'.exec low body).ram c := by
  match body with
  | [] => exact h
  | [_] => exact h
  | [_, _] => exact h
  | x :: a :: b :: data =>
    rw [Display.exec, Display.exec]
    split_ifs
    · rw [write_whole_ram, write_whole_ram, h]
    · exact h
    · exact h

lemma receive_ram_congr (bs : List UInt8) (hrx : t.rx = t'.rx)
    (h : t.display.ram c = t'.display.ram c) :
    (t.receive low bs).display.ram c = (t'.receive low bs).display.ram c := by
  rw [Terminal.receive, Terminal.receive, hrx]
  dsimp only
  generalize lcd.bodies t'.rx bs = bodies
  generalize t.display = d at h ⊢
  generalize t'.display = d' at h ⊢
  induction bodies generalizing d d' with
  | nil => exact h
  | cons body bodies ih => exact ih _ _ (exec_ram_congr body h)

end Cell

/-! ## What the program changes -/

/-- The cart and the rows of the page are the same. -/
structure Machine.KeepsCart (s t : Machine) : Prop where
  dispMeal : t.dispMeal = s.dispMeal
  mealCnt : t.session.userAct.mealCnt = s.session.userAct.mealCnt
  mealCost : t.session.userAct.mealCost = s.session.userAct.mealCost
  payShould : t.session.userAct.payShould = s.session.userAct.payShould

namespace Machine

variable {s t : Machine} {io : Io}

/-- Something that is not about the cart was done before. -/
lemma KeepsCart.of {s' : Machine} (h : s'.KeepsCart t) (hd : s'.dispMeal = s.dispMeal)
    (hs : s'.session = s.session) : s.KeepsCart t :=
  ⟨h.dispMeal.trans hd, h.mealCnt.trans (by rw [hs]), h.mealCost.trans (by rw [hs]),
    h.payShould.trans (by rw [hs])⟩

lemma KeepsCart.cartView (h : s.KeepsCart t) : t.cartView = s.cartView := by
  rw [Machine.cartView, Machine.cartView, h.payShould]
  refine congrArg (CartView.mk · _) (funext fun i => ?_)
  rw [cartRow, cartRow, h.dispMeal, h.mealCnt, h.mealCost]

@[simp] lemma saveUserData_dispMeal : s.saveUserData.dispMeal = s.dispMeal := by
  rw [saveUserData, foldl_writeBackup]

lemma abnormalHandle_keepsCart (e : ℕ) (ret : Ret) : s.KeepsCart (s.abnormalHandle e ret) := by
  rw [abnormalHandle]
  dsimp only
  split_ifs <;> exact ⟨rfl, rfl, rfl, rfl⟩

lemma waitPayMoney_keepsCart : s.KeepsCart (s.waitPayMoney io) := by
  rw [waitPayMoney]
  cases s.session.currentPoint with
  | p1 =>
    dsimp only
    split_ifs <;> exact ⟨rfl, rfl, rfl, rfl⟩
  | p3 =>
    dsimp only [onSession, Session.readBills]
    split_ifs
    · exact abnormalHandle_keepsCart _ _
    · exact ⟨rfl, rfl, rfl, rfl⟩
    · exact ⟨rfl, rfl, rfl, rfl⟩
  | p9 =>
    dsimp only [statusOk]
    split_ifs <;> exact ⟨rfl, rfl, rfl, rfl⟩
  | p0 | p2 | p5 | p6 | p7 | p8 => exact ⟨rfl, rfl, rfl, rfl⟩

lemma go_keepsCart (h : s.stays (.go io) = true) : s.KeepsCart (s.go io) := by
  rw [stays] at h
  rw [go]
  cases hpc : s.session.pc with
  | deal =>
    dsimp only
    exact manageusart6data_cases rfl (fun _ e _ => (abnormalHandle_keepsCart e _).of rfl rfl)
      (fun _ => ⟨rfl, rfl, rfl, rfl⟩) fun _ => ⟨rfl, rfl, rfl, rfl⟩
  | switch =>
    rw [hpc] at h
    have hcur : s.session.current = .waitforMoney := by
      simp only [Bool.and_eq_true, decide_eq_true_eq] at h
      exact h.1
    dsimp only
    rw [switch, hcur]
    exact waitPayMoney_keepsCart.of saveUserData_dispMeal (saveUserData_session s)
  | payTail =>
    rw [hpc] at h
    have htime : s.timers.waitTime ≠ 0 := of_decide_eq_true h
    dsimp only
    rw [payTail, if_neg htime]
    exact ⟨rfl, rfl, rfl, rfl⟩
  | _ =>
    rw [hpc] at h
    exact absurd h Bool.false_ne_true

/-- Everything that leaves the customer at the page keeps the cart. -/
lemma step_keepsCart {e : Event} (h : s.stays e = true) (hs : step s e = some t) :
    s.KeepsCart t := by
  cases e with
  | coinIn =>
    cases hs
    rw [coinIn]
    dsimp only
    split_ifs <;> exact ⟨rfl, rfl, rfl, rfl⟩
  | tim3 =>
    obtain ⟨-, rfl⟩ := step_tim3 hs
    have htime : 0 < s.timers.waitTime := of_decide_eq_true h
    rw [tim3, if_pos htime]
    exact ⟨rfl, rfl, rfl, rfl⟩
  | tim7 =>
    cases step_tim7 hs
    exact ⟨rfl, rfl, rfl, rfl⟩
  | pvd =>
    cases hs
    exact ⟨saveUserData_dispMeal, by rw [pvd, saveUserData_session],
      by rw [pvd, saveUserData_session], by rw [pvd, saveUserData_session]⟩
  | usart6 b =>
    cases hs
    rw [usart6]
    split_ifs <;> exact ⟨rfl, rfl, rfl, rfl⟩
  | coinOut | tim5 =>
    cases hs
    exact ⟨rfl, rfl, rfl, rfl⟩
  | go io =>
    cases hs
    exact go_keepsCart h
  | tim4 => exact absurd h Bool.false_ne_true
  | screen f io => exact absurd h Bool.false_ne_true

end Machine

/-! ## What it sends meanwhile -/

section Sent

variable {low : UInt8 → UInt8} {d : Display} {v : UInt16}

/-- Frames that leave the rows and the total as they are. -/
def Apart (low : UInt8 → UInt8) (bs : List UInt8) : Prop :=
  ∃ f, Does low bs f ∧ ∀ d, (f d).cartView = d.cartView

lemma Apart.nil : Apart low [] := ⟨id, Does.nil, fun _ => rfl⟩

lemma Apart.append {as bs : List UInt8} (h : Apart low as) (h' : Apart low bs) :
    Apart low (as ++ bs) := by
  obtain ⟨f, hf, hview⟩ := h
  obtain ⟨g, hg, hview'⟩ := h'
  exact ⟨_, hf.append hg, fun d => (hview' _).trans (hview d)⟩

lemma apart_variableChage {a : UInt16} (h : a.toNat < 0x42) (v : UInt16) :
    Apart low (Show.variableChage a v) := by
  have htotal : Show.mealtotoalCost.toNat = 0x4F := rfl
  refine ⟨_, does_variableChage a v, fun d => ?_⟩
  rw [Display.cartView, word_write_wordBytes, if_neg (by omega), Display.cartView]
  refine congrArg (CartView.mk · _) (funext fun i => ?_)
  exact cartRow_write_of_disjoint (.inl h) i.isLt

lemma apart_pageChange (page : UInt8) : Apart low (Show.pageChange page) :=
  ⟨_, does_pageChange page, fun _ => rfl⟩

lemma apart_waitPayMoney (io : Io) (s : Machine) : Apart low (Show.waitPayMoney io s) := by
  rw [Show.waitPayMoney]
  refine (apart_variableChage (by decide) _).append ?_
  cases s.session.currentPoint with
  | p3 =>
    dsimp only
    split_ifs
    · exact .nil
    · exact apart_variableChage (by decide) _
  | p5 => exact (apart_variableChage (by decide) _).append (apart_variableChage (by decide) _)
  | p7 | p8 => exact apart_pageChange _
  | p9 =>
    exact ((apart_variableChage (by decide) _).append (apart_pageChange _)).append
      (apart_variableChage (by decide) _)
  | p0 | p1 | p2 | p6 => exact .nil

lemma apart_sent (s : Machine) (e : Event) : Apart low (Show.sent s e) := by
  cases e with
  | go io =>
    rw [Show.sent]
    cases s.session.pc with
    | switch => exact apart_waitPayMoney io s
    | _ => exact .nil
  | _ => exact .nil

end Sent

/-! ## A message for a row -/

section Column

variable {low : UInt8 → UInt8} {d : Display} {s : Machine} {v : UInt16} {c : UInt8} {i j : Fin 4}

lemma toNat_columnCount (i : Fin 4) : (Show.columnCount i).toNat = 0x42 + 3 * i.val := by
  fin_cases i <;> rfl

lemma toNat_columnCost (i : Fin 4) : (Show.columnCount i + 1).toNat = 0x43 + 3 * i.val := by
  fin_cases i <;> rfl

/-- A word of a row changes nothing else in the page. -/
lemma cartRow_write_column {a : UInt16} (hlow : 0x42 ≤ a.toNat) (hhigh : a.toNat < 0x4100) :
    (d.write a (wordBytes v)).cartRow j.val =
      ⟨(d.cartRow j.val).name, if 0x42 + 3 * j.val = a.toNat then v else (d.cartRow j.val).count,
        if 0x43 + 3 * j.val = a.toNat then v else (d.cartRow j.val).cost⟩ := by
  have hname₀ : Show.column1stName.toNat = 0x4100 := rfl
  have hlen : (wordBytes v).length = 2 := rfl
  rw [Display.cartRow, row_write_of_disjoint (by omega), word_write_wordBytes,
    word_write_wordBytes]
  rfl

/-- The count of a row. -/
lemma cartRow_write_count :
    (d.write (Show.columnCount i) (wordBytes v)).cartRow j.val =
      if j = i then { d.cartRow j.val with count := v } else d.cartRow j.val := by
  have haddr := toNat_columnCount i
  rw [cartRow_write_column (by omega) (by omega), if_neg (c := 0x43 + _ = _) (by omega)]
  by_cases h : j = i
  · rw [if_pos h, h, if_pos haddr.symm]
  · have hne : j.val ≠ i.val := fun heq => h (Fin.ext heq)
    rw [if_neg h, if_neg (by omega)]

/-- The cost of a row. -/
lemma cartRow_write_cost :
    (d.write (Show.columnCount i + 1) (wordBytes v)).cartRow j.val =
      if j = i then { d.cartRow j.val with cost := v } else d.cartRow j.val := by
  have haddr := toNat_columnCost i
  rw [cartRow_write_column (by omega) (by omega), if_neg (c := 0x42 + _ = _) (by omega)]
  by_cases h : j = i
  · rw [if_pos h, h, if_pos haddr.symm]
  · have hne : j.val ≠ i.val := fun heq => h (Fin.ext heq)
    rw [if_neg h, if_neg (by omega)]

/-- The row of a screen whose count may be out of date. -/
structure Follows (x y : CartRow) : Prop where
  name : x.name = y.name
  cost : x.cost = y.cost

/-- Each row has its own kind, or none. -/
structure Machine.RowsApart (s : Machine) : Prop where
  id : ∀ i, (s.dispMeal i).mealId = 0 ∨ ∃ k : Kind, (s.dispMeal i).mealId = k.id
  inj : ∀ i j k, Kind.ofID (s.dispMeal i).mealId = some k →
    Kind.ofID (s.dispMeal j).mealId = some k → i = j

lemma Machine.RowsApart.zero (h : s.RowsApart) (hk : Kind.ofID (s.dispMeal i).mealId = none) :
    (s.dispMeal i).mealId = 0 := by
  rcases h.id i with hzero | ⟨k, hid⟩
  · exact hzero
  · rw [hid, Kind.ofID_id] at hk
    cases hk

/-! What a message makes of the program: its row has no meal, the stock allows the count, or it
does not. -/

lemma column_of_none (hk : Kind.ofID (s.dispMeal i).mealId = none) :
    s.column i c = s.onSession fun t => { t with userAct := t.userAct.settle } := by
  rw [Machine.column, hk]

lemma column_of_le {k : Kind} (hk : Kind.ofID (s.dispMeal i).mealId = some k)
    (hc : c ≤ (s.stock.defineMeal k).mealCount) :
    s.column i c = ((s.onSession fun t =>
      { t with userAct := t.userAct.setColumn k c }).emit (.column k)).onSession fun t =>
        { t with userAct := t.userAct.settle } := by
  rw [Machine.column, hk]
  dsimp only
  rw [if_pos hc]

lemma column_of_lt {k : Kind} (hk : Kind.ofID (s.dispMeal i).mealId = some k)
    (hc : ¬ c ≤ (s.stock.defineMeal k).mealCount) :
    s.column i c = s.onSession fun t => { t with userAct := t.userAct.settle } := by
  rw [Machine.column, hk]
  dsimp only
  rw [if_neg hc]

lemma cartRow_settle :
    (s.onSession fun t => { t with userAct := t.userAct.settle }).cartRow j = s.cartRow j := rfl

lemma column_dispMeal : (s.column i c).dispMeal = s.dispMeal := by
  rw [Machine.column]
  split
  · split_ifs <;> rfl
  · rfl

lemma column_rowsApart (h : s.RowsApart) : (s.column i c).RowsApart := by
  refine ⟨?_, ?_⟩
  · rw [column_dispMeal]
    exact h.id
  · rw [column_dispMeal]
    exact h.inj

/-- The rows for which there was no message are as they were. -/
lemma cartRow_column_of_ne (h : s.RowsApart) (hj : j ≠ i) :
    (s.column i c).cartRow j = s.cartRow j := by
  cases hk : Kind.ofID (s.dispMeal i).mealId with
  | none => rw [column_of_none hk, cartRow_settle]
  | some k =>
    by_cases hc : c ≤ (s.stock.defineMeal k).mealCount
    · rw [column_of_le hk hc, cartRow_settle, Machine.cartRow, Machine.cartRow]
      cases hk' : Kind.ofID (s.dispMeal j).mealId with
      | none =>
        simp only [Machine.emit, Machine.onSession, hk']
      | some k' =>
        have hne : k' ≠ k := fun heq => hj (h.inj j i k (heq ▸ hk') hk)
        simp only [Machine.emit, Machine.onSession, hk', Session.emit_userAct,
          UserSelection.setColumn, Function.update_of_ne hne]
    · rw [column_of_lt hk hc, cartRow_settle]

lemma cartRow_write_total :
    (d.write Show.mealtotoalCost (wordBytes v)).cartRow j.val = d.cartRow j.val :=
  cartRow_write_of_disjoint (.inr (by decide)) j.isLt

lemma word_write_total :
    (d.write Show.mealtotoalCost (wordBytes v)).word Show.mealtotoalCost.toNat = v := by
  rw [word_write_wordBytes, if_pos rfl]

/-- The answer to a message brings its row and the total up to date. -/
lemma does_column (low : UInt8 → UInt8) (h : s.RowsApart) (i : Fin 4) (c : UInt8) :
    ∃ f, Does low (Show.column i c s) f ∧ ∀ d : Display,
      (Follows (d.cartRow i.val) (s.cartRow i) →
        (f d).cartRow i.val = (s.column i c).cartRow i) ∧
      (∀ j : Fin 4, j ≠ i → (f d).cartRow j.val = d.cartRow j.val) ∧
      (f d).word Show.mealtotoalCost.toNat = (s.column i c).session.userAct.payShould := by
  cases hk : Kind.ofID (s.dispMeal i).mealId with
  | none =>
    have hrow : s.cartRow i = .blank := by rw [Machine.cartRow, hk]
    have hsent : Show.column i c s = Show.variableChage (Show.columnCount i) 0 ++
        Show.variableChage Show.mealtotoalCost (s.column i c).session.userAct.payShould := by
      rw [Show.column, hk]
      dsimp only
      rw [if_pos (h.zero hk)]
    refine ⟨_, hsent ▸ (does_variableChage _ _).append (does_variableChage _ _), fun d => ?_⟩
    refine ⟨fun hd => ?_, fun j hj => ?_, word_write_total⟩
    · rw [cartRow_write_total, cartRow_write_count, if_pos rfl, column_of_none hk, cartRow_settle,
        hrow]
      rw [hrow] at hd
      exact CartRow.ext hd.name rfl hd.cost
    · rw [cartRow_write_total, cartRow_write_count, if_neg hj]
  | some k =>
    have hname : (s.column i c).cartRow i = ⟨nameRow k.id,
        ((s.column i c).session.userAct.mealCnt k).toUInt16,
        (s.column i c).session.userAct.mealCost k⟩ := by
      rw [Machine.cartRow, column_dispMeal, hk]
    have hold : s.cartRow i = ⟨nameRow k.id, (s.session.userAct.mealCnt k).toUInt16,
        s.session.userAct.mealCost k⟩ := by
      rw [Machine.cartRow, hk]
    by_cases hc : c ≤ (s.stock.defineMeal k).mealCount
    · have hsent : Show.column i c s = Show.variableChage (Show.columnCount i)
          ((s.column i c).session.userAct.mealCnt k).toUInt16 ++
          Show.variableChage (Show.columnCount i + 1) ((s.column i c).session.userAct.mealCost k) ++
          Show.variableChage Show.mealtotoalCost (s.column i c).session.userAct.payShould := by
        rw [Show.column, hk]
        dsimp only
        rw [if_pos hc]
      refine ⟨_, hsent ▸ ((does_variableChage _ _).append (does_variableChage _ _)).append
        (does_variableChage _ _), fun d => ?_⟩
      refine ⟨fun hd => ?_, fun j hj => ?_, word_write_total⟩
      · rw [cartRow_write_total, cartRow_write_cost, if_pos rfl, cartRow_write_count, if_pos rfl,
          hname]
        rw [hold] at hd
        exact CartRow.ext hd.name rfl rfl
      · rw [cartRow_write_total, cartRow_write_cost, if_neg hj, cartRow_write_count, if_neg hj]
    · -- the count is refused: the old one is shown again, and the cost is still there
      have hsent : Show.column i c s = Show.variableChage (Show.columnCount i)
          ((s.column i c).session.userAct.mealCnt k).toUInt16 ++
          Show.variableChage Show.mealtotoalCost (s.column i c).session.userAct.payShould := by
        rw [Show.column, hk]
        dsimp only
        rw [if_neg hc]
      refine ⟨_, hsent ▸ (does_variableChage _ _).append (does_variableChage _ _), fun d => ?_⟩
      refine ⟨fun hd => ?_, fun j hj => ?_, word_write_total⟩
      · rw [cartRow_write_total, cartRow_write_count, if_pos rfl, hname]
        rw [hold] at hd
        refine CartRow.ext hd.name rfl (hd.cost.trans ?_)
        rw [column_of_lt hk hc]
        rfl
      · rw [cartRow_write_total, cartRow_write_count, if_neg hj]

end Column

/-! ## A count is entered -/

section Touch

variable {low : UInt8 → UInt8} {t : Terminal} {i j : Fin 4} {d0 d1 : UInt8} {bs : List UInt8}

/-- The cells of the other variables. -/
lemma receive_touch_ram {c : ℕ} (h : c ≠ 2 * (0x42 + 3 * i.val))
    (h' : c ≠ 2 * (0x42 + 3 * i.val) + 1) :
    ((t.touch (Show.columnCount i) d0 d1).receive low bs).display.ram c =
      (t.receive low bs).display.ram c := by
  refine receive_ram_congr bs rfl ?_
  have haddr := toNat_columnCount i
  change Lib.stored t.display.ram (2 * (Show.columnCount i).toNat) [d0, d1] c = t.display.ram c
  rcases Nat.lt_or_ge c (2 * (Show.columnCount i).toNat) with hlt | hge
  · exact Lib.stored_of_lt hlt
  · refine Lib.stored_of_le ?_
    rw [List.length_cons, List.length_singleton]
    omega

lemma receive_touch_word {b : ℕ} (h : b ≠ 0x42 + 3 * i.val) :
    ((t.touch (Show.columnCount i) d0 d1).receive low bs).display.word b =
      (t.receive low bs).display.word b := by
  rw [Display.word, Display.word, receive_touch_ram (by omega) (by omega),
    receive_touch_ram (by omega) (by omega)]

/-- Only the count of the row may be another one. -/
lemma receive_touch_follows :
    Follows (((t.touch (Show.columnCount i) d0 d1).receive low bs).display.cartRow j.val)
      ((t.receive low bs).display.cartRow j.val) := by
  have hname₀ : Show.column1stName.toNat = 0x4100 := rfl
  have hcost₀ : Show.column1stCost.toNat = 0x43 := rfl
  refine ⟨Lib.cells_congr fun n _ => receive_touch_ram (by omega) (by omega), ?_⟩
  exact receive_touch_word (by omega)

lemma receive_touch_of_ne (h : j ≠ i) :
    ((t.touch (Show.columnCount i) d0 d1).receive low bs).display.cartRow j.val =
      (t.receive low bs).display.cartRow j.val := by
  have hcount₀ : Show.column1stCount.toNat = 0x42 := rfl
  have hne : j.val ≠ i.val := fun heq => h (Fin.ext heq)
  exact CartRow.ext receive_touch_follows.name (receive_touch_word (by omega))
    receive_touch_follows.cost

end Touch

/-! ## The invariant -/

namespace Link

/-- The screen when the bytes on the line have arrived. -/
def settles (low : UInt8 → UInt8) (p : Link) : Terminal := p.terminal.receive low p.wire

/-- No message for row `i` is still to be dealt with. -/
def Idle (p : Link) (i : Fin 4) : Prop := ∀ f ∈ p.inbox, f.adress ≠ Show.columnCount i

/-- The page shows the cart, as far as the messages have been dealt with. -/
structure Shows (low : UInt8 → UInt8) (p : Link) : Prop where
  rx : (p.settles low).rx = .idle
  apart : p.machine.RowsApart
  adress : ∀ f ∈ p.inbox, ∃ i, f.adress = Show.columnCount i
  follows : ∀ i : Fin 4, Follows ((p.settles low).display.cartRow i.val) (p.machine.cartRow i)
  row : ∀ i : Fin 4, p.Idle i → (p.settles low).display.cartRow i.val = p.machine.cartRow i
  total : (p.settles low).display.word Show.mealtotoalCost.toNat =
    p.machine.session.userAct.payShould

variable {low : UInt8 → UInt8} {p q : Link}

lemma settles_append {p : Link} {m : Machine} {fs : List Frame} {bs : List UInt8}
    {f : Display → Display} (hrx : (p.settles low).rx = .idle) (hf : Does low bs f) :
    settles low ⟨m, p.terminal, fs, p.wire ++ bs⟩ = ⟨.idle, f (p.settles low).display⟩ := by
  rw [settles, Terminal.receive_append]
  exact hf.receive hrx

lemma variable_columnCount (i : Fin 4) (d0 d1 : UInt8) :
    (Frame.mk (Show.columnCount i) d0 d1).variable = some (.column i) := by
  fin_cases i <;> rfl

/-- What is not about the cart. -/
lemma Shows.keeps (h : p.Shows low) {m : Machine} {bs : List UInt8}
    (hm : p.machine.KeepsCart m) (hbs : Apart low bs) :
    Shows low { p with machine := m, wire := p.wire ++ bs } := by
  obtain ⟨f, hf, hview⟩ := hbs
  have hsettles : settles low { p with machine := m, wire := p.wire ++ bs } =
      ⟨.idle, f (p.settles low).display⟩ := settles_append h.rx hf
  have hrow : ∀ i : Fin 4, (f (p.settles low).display).cartRow i.val =
      (p.settles low).display.cartRow i.val := fun i =>
    congrFun (congrArg CartView.row (hview (p.settles low).display)) i
  have hmrow : ∀ i, m.cartRow i = p.machine.cartRow i := fun i =>
    congrFun (congrArg CartView.row hm.cartView) i
  refine ⟨by rw [hsettles], ⟨?_, ?_⟩, h.adress, fun i => ?_, fun i hi => ?_, ?_⟩
  · rw [hm.dispMeal]
    exact h.apart.id
  · rw [hm.dispMeal]
    exact h.apart.inj
  · rw [hsettles]
    dsimp only
    rw [hrow, hmrow]
    exact h.follows i
  · rw [hsettles]
    dsimp only
    rw [hrow, hmrow]
    exact h.row i hi
  · rw [hsettles]
    dsimp only
    rw [hm.payShould, ← h.total]
    exact congrArg CartView.total (hview _)

/-- A count is entered. -/
lemma Shows.touch (h : p.Shows low) (i : Fin 4) (d0 d1 : UInt8) :
    Shows low { p with
      terminal := p.terminal.touch (Show.columnCount i) d0 d1
      inbox := p.inbox ++ [⟨Show.columnCount i, d0, d1⟩] } := by
  refine ⟨h.rx, h.apart, fun f hf => ?_, fun j => ?_, fun j hj => ?_, ?_⟩
  · rcases List.mem_append.mp hf with hf | hf
    · exact h.adress f hf
    · rw [List.mem_singleton] at hf
      exact ⟨i, by rw [hf]⟩
  · have hsame : Follows (((p.terminal.touch (Show.columnCount i) d0 d1).receive low
        p.wire).display.cartRow j.val) ((p.settles low).display.cartRow j.val) :=
      receive_touch_follows
    exact ⟨hsame.name.trans (h.follows j).name, hsame.cost.trans (h.follows j).cost⟩
  · -- the message for row `i` is not dealt with
    have hne : j ≠ i := by
      rintro rfl
      exact hj _ (List.mem_append_right _ (List.mem_singleton_self _)) rfl
    have hidle : p.Idle j := fun f hf => hj f (List.mem_append_left _ hf)
    exact (receive_touch_of_ne hne).trans (h.row j hidle)
  · exact (receive_touch_word (by
      have htotal : Show.mealtotoalCost.toNat = 0x4F := rfl
      omega)).trans h.total

/-- The program deals with a message. -/
lemma Shows.message (h : p.Shows low) {f : Frame} {fs : List Frame} (hin : p.inbox = f :: fs)
    {i : Fin 4} (hi : f.adress = Show.columnCount i) :
    Shows low ⟨p.machine.column i f.data1, p.terminal, fs,
      p.wire ++ Show.column i f.data1 p.machine⟩ := by
  obtain ⟨g, hg, hshown⟩ := does_column low h.apart i f.data1
  obtain ⟨hself, hother, htotal⟩ := hshown (p.settles low).display
  have hsettles : settles low ⟨p.machine.column i f.data1, p.terminal, fs,
      p.wire ++ Show.column i f.data1 p.machine⟩ = ⟨.idle, g (p.settles low).display⟩ :=
    settles_append h.rx hg
  have hrow : ∀ j : Fin 4, (∀ e ∈ fs, e.adress ≠ Show.columnCount j) ∨ j = i →
      (g (p.settles low).display).cartRow j.val = (p.machine.column i f.data1).cartRow j := by
    intro j hj
    by_cases hji : j = i
    · subst hji
      exact hself (h.follows j)
    · rw [hother j hji, cartRow_column_of_ne h.apart hji]
      refine h.row j fun e he => ?_
      rw [hin, List.mem_cons] at he
      rcases he with rfl | he
      · rw [hi]
        exact fun heq => hji (Fin.ext (by
          have := congrArg UInt16.toNat heq
          rw [toNat_columnCount, toNat_columnCount] at this
          omega))
      · exact (hj.resolve_right hji) e he
  refine ⟨by rw [hsettles], column_rowsApart h.apart, fun e he => ?_, fun j => ?_, fun j hj => ?_,
    ?_⟩
  · exact h.adress e (by rw [hin]; exact List.mem_cons_of_mem _ he)
  · rw [hsettles]
    dsimp only
    by_cases hji : j = i
    · rw [hrow j (.inr hji)]
      exact ⟨rfl, rfl⟩
    · rw [hother j hji, cartRow_column_of_ne h.apart hji]
      exact h.follows j
  · rw [hsettles]
    exact hrow j (.inl hj)
  · rw [hsettles]
    exact htotal

/-- One step. -/
lemma Shows.step (h : p.Shows low) {e : Event} (hs : p.step low e = some q) : q.Shows low := by
  cases e with
  | touch i d0 d1 =>
    cases hs
    exact h.touch i d0 d1
  | line =>
    rw [Link.step] at hs
    cases hw : p.wire with
    | nil =>
      rw [hw] at hs
      cases hs
    | cons b bs =>
      rw [hw] at hs
      cases hs
      have hsettles : settles low { p with terminal := p.terminal.receive low [b], wire := bs } =
          p.settles low := by
        rw [settles, settles, hw, ← Terminal.receive_append, List.singleton_append]
      exact ⟨by rw [hsettles]; exact h.rx, h.apart, h.adress,
        fun i => by rw [hsettles]; exact h.follows i,
        fun i hi => by rw [hsettles]; exact h.row i hi, by rw [hsettles]; exact h.total⟩
  | message io =>
    rw [Link.step] at hs
    cases hin : p.inbox with
    | nil =>
      rw [hin] at hs
      cases hs
    | cons f fs =>
      obtain ⟨i, hi⟩ := h.adress f (by rw [hin]; exact List.mem_cons_self)
      have hvar : f.variable = some (.column i) := by
        rw [← variable_columnCount i f.data0 f.data1, ← hi]
      rw [hin] at hs
      dsimp only at hs
      rw [hvar] at hs
      obtain ⟨m, hm, rfl⟩ := Option.map_eq_some_iff.mp hs
      have hcolumn : m = p.machine.column i f.data1 := by
        rw [(step_screen hm).2, Machine.changeVariableValues, hvar]
      rw [hcolumn]
      exact h.message hin hi
  | other e =>
    rw [Link.step] at hs
    rw [Option.ite_none_right_eq_some] at hs
    obtain ⟨hstays, hs⟩ := hs
    obtain ⟨m, hm, rfl⟩ := Option.map_eq_some_iff.mp hs
    exact h.keeps (Machine.step_keepsCart hstays hm) (apart_sent p.machine e)

/-! ## The beginning -/

lemma rowsApart_settleAccounts (s : Machine) : s.settleAccounts.RowsApart := by
  have hid : ∀ i, (s.settleAccounts.dispMeal i).mealId =
      ((Show.cartKinds s.session.userAct)[i.val]?.map Kind.id).getD 0 := by
    intro i
    have hrow : s.settleAccounts.dispMeal i = Machine.cartRows s.session.userAct i := rfl
    have hkinds : (List.finRange 4).filter (fun k => decide (0 < s.session.userAct.mealCnt k)) =
        Show.cartKinds s.session.userAct := rfl
    rw [hrow, Machine.cartRows, hkinds]
    cases (Show.cartKinds s.session.userAct)[i.val]? <;> rfl
  have hget : ∀ i k, Kind.ofID (s.settleAccounts.dispMeal i).mealId = some k →
      (Show.cartKinds s.session.userAct)[i.val]? = some k := by
    intro i k hk
    rw [hid] at hk
    cases hi : (Show.cartKinds s.session.userAct)[i.val]? with
    | none =>
      rw [hi] at hk
      cases hk
    | some k' =>
      rw [hi, Option.map_some, Option.getD_some, Kind.ofID_id] at hk
      exact hk
  refine ⟨fun i => ?_, fun i j k hi hj => ?_⟩
  · rw [hid]
    cases (Show.cartKinds s.session.userAct)[i.val]? with
    | none => exact .inl rfl
    | some k => exact .inr ⟨k, rfl⟩
  · have hnodup : (Show.cartKinds s.session.userAct).Nodup := (List.nodup_finRange 4).filter _
    obtain ⟨hi', hik⟩ := List.getElem?_eq_some_iff.mp (hget i k hi)
    obtain ⟨hj', hjk⟩ := List.getElem?_eq_some_iff.mp (hget j k hj)
    exact Fin.ext ((hnodup.getElem_inj_iff).mp (hik.trans hjk.symm))

/-- The page shows the cart as soon as it has arrived. -/
lemma start_shows {t : Terminal} {s : Machine} (ht : t.rx = .idle)
    (hput : 0 < s.session.userAct.putIntoShopCart.mealTotoal)
    (hcost : ∀ k, 0 < s.session.userAct.putIntoShopCart.mealCnt k →
      s.session.userAct.putIntoShopCart.mealCost k < 256) : (start t s).Shows low := by
  obtain ⟨m, hm⟩ : ∃ m, m = s.onSession Session.putIntoShopCart := ⟨_, rfl⟩
  have hu : m.session.userAct = s.session.userAct.putIntoShopCart := by
    rw [hm, Machine.onSession_session, Session.putIntoShopCart_userAct]
  have henter : s.enterCart = (m.settleAccounts.onTimers fun t => t.closeTIM3.openTIM7).onSession
      fun t => { t with current := .waitforMoney } := by
    rw [Machine.enterCart, ← hm, hu, if_pos hput]
  have hview : s.enterCart.cartView = m.settleAccounts.cartView := by
    rw [henter]
    rfl
  have hsettles : settles low (start t s) = ⟨.idle, settled m.session.userAct t.display⟩ := by
    rw [hu]
    exact (does_settleAccounts _).receive ht
  have hshown : (settled m.session.userAct t.display).cartView = s.enterCart.cartView := by
    rw [hview]
    refine cartView_settled_iff.mpr ?_
    rw [hu]
    exact hcost
  have hrow : ∀ i : Fin 4, (settled m.session.userAct t.display).cartRow i.val =
      s.enterCart.cartRow i := fun i => congrFun (congrArg CartView.row hshown) i
  refine ⟨by rw [hsettles], ?_, fun f hf => (List.not_mem_nil hf).elim, fun i => ?_, fun i _ => ?_,
    ?_⟩
  · have hrows := rowsApart_settleAccounts m
    change s.enterCart.RowsApart
    rw [henter]
    exact ⟨hrows.id, hrows.inj⟩
  · rw [hsettles]
    exact ⟨congrArg CartRow.name (hrow i), congrArg CartRow.cost (hrow i)⟩
  · rw [hsettles]
    exact hrow i
  · rw [hsettles]
    exact congrArg CartView.total hshown

end Link

end MealVendor
