import MealVendor.Lib.Repeated
import MealVendor.Lib.Simulation
import MealVendor.Stock.Consistent
import MealVendor.Model.Arm

/-!
# The order of a paid cart

What a paid cart stands for: a list of meals, one kind after the other.  They are taken from
the shelves one by one; each is handed out and then reported, the first with the change of the
sale.  None of the states of the main program, of the arm and of the tables is seen here.
-/

namespace MealVendor

/-! ## The cart as a list -/

/-- The meals of a cart in the order in which they are to be handed out. -/
def UserSelection.meals (u : UserSelection) : List Kind :=
  Lib.repeated (fun k => (u.mealCnt k).toNat) (List.finRange 4)

/-! ## The shelves -/

/-- What is counted of the store. -/
structure Shelves where
  /-- The number of the kind on each floor. -/
  label : Floor → UInt8
  /-- The meals in each column. -/
  column : Floor → Column → ℕ
  /-- The meals on each floor. -/
  floor : Floor → ℕ
  /-- The meals of a kind in each column, and all of them. -/
  position : Kind → Floor → Column → ℕ
  kind : Kind → ℕ

/-- One meal of kind `k` is taken from column `c` of floor `l`. -/
def Shelves.take (s : Shelves) (k : Kind) (l : Floor) (c : Column) : Shelves where
  label := s.label
  column i d := if i = l ∧ d = c then s.column i d - 1 else s.column i d
  floor i := if i = l then s.floor i - 1 else s.floor i
  position j i d := if j = k ∧ i = l ∧ d = c then s.position j i d - 1 else s.position j i d
  kind j := if j = k then s.kind j - 1 else s.kind j

/-! ## The order -/

/-- How far the meal at hand is. -/
inductive Stage
  | look
  /-- A meal of this kind was found. -/
  | found (k : Kind)
  /-- It was handed out, and is to be reported. -/
  | out (k : Kind)
  | ended

/-- What is left to be done. -/
structure Order where
  /-- The meals that were not handed out yet. -/
  meals : List Kind
  stage : Stage
  shelves : Shelves
  /-- The change that was not reported yet, in hundredths. -/
  change : ℤ

/-- An amount as it is reported: two decimal digits in a byte. -/
def digits (n : ℤ) : Fin 6 → UInt8 :=
  ![bcd n 10000000000, bcd n 100000000, bcd n 1000000, bcd n 10000, bcd n 100, bcd n 1]

/-- A report of one meal of kind `k`, with its number, its price and this change. -/
structure CustomerSel.Reports (sel : CustomerSel) (k : Kind) (change : ℤ) : Prop where
  mealName : sel.mealName = k.id
  mealID : sel.mealID = ![0x10, 0x00, 0x00, ![0x20, 0x23, 0x26, 0x24] k]
  mealNo : sel.mealNo = 1
  mealPrice : sel.mealPrice = digits (price k * 100)
  change : sel.change = digits change

namespace Order

/-- The steps of an order. -/
inductive Step : Order → Obs → Order → Prop
  /-- The next meal is found in a column that has one, and taken from there. -/
  | find {o : Order} {k : Kind} {ks : List Kind} {l : Floor} {c : Column} (hs : o.stage = .look)
      (hm : o.meals = k :: ks) (hp : 0 < o.shelves.position k l c) :
      Step o (.find k l c) { o with stage := .found k, shelves := o.shelves.take k l c }
  /-- It is handed out. -/
  | takeout {o : Order} {k : Kind} {ks : List Kind} (hs : o.stage = .found k)
      (hm : o.meals = k :: ks) : Step o .takeout { o with stage := .out k, meals := ks }
  /-- It is reported. -/
  | upload {o : Order} {k : Kind} {sel : CustomerSel} (hs : o.stage = .out k)
      (hsel : sel.Reports k o.change) :
      Step o (.upload true sel) { o with stage := .look, change := 0 }
  /-- Nothing is left. -/
  | takeafter {o : Order} (hs : o.stage = .look) (hm : o.meals = []) :
      Step o .takeafter { o with stage := .ended }

/-- One meal and how it was served. -/
structure Cycle where
  kind : Kind
  line : Floor
  column : Column
  report : CustomerSel

/-- What is recorded of a meal. -/
def Cycle.log (x : Cycle) : List Obs :=
  [.find x.kind x.line x.column, .takeout, .upload true x.report]

/-- Meals are taken from columns that have one, one after the other. -/
inductive TakenFrom : Shelves → List Cycle → Shelves → Prop
  | nil (s : Shelves) : TakenFrom s [] s
  | cons {s t : Shelves} {x : Cycle} {xs : List Cycle}
      (hp : 0 < s.position x.kind x.line x.column)
      (h : TakenFrom (s.take x.kind x.line x.column) xs t) : TakenFrom s (x :: xs) t

/-- An order that was served from the beginning to the end: one cycle for each meal in its
order, and the change with the first. -/
def Served (o : Order) (log : List Obs) (shelves : Shelves) : Prop :=
  ∃ xs : List Cycle, log = xs.flatMap Cycle.log ++ [.takeafter] ∧
    xs.map Cycle.kind = o.meals ∧ TakenFrom o.shelves xs shelves ∧
    ∀ (i : ℕ) (x : Cycle), xs[i]? = some x →
      x.report.Reports x.kind (if i = 0 then o.change else 0)

namespace Step

variable {o t : Order} {e : Obs} {k : Kind}

/-! What can happen in each stage. -/

lemma of_look (h : Step o e t) (hs : o.stage = .look) :
    (∃ k ks l c, o.meals = k :: ks ∧ 0 < o.shelves.position k l c ∧ e = .find k l c ∧
      t = { o with stage := .found k, shelves := o.shelves.take k l c }) ∨
    (o.meals = [] ∧ e = .takeafter ∧ t = { o with stage := .ended }) := by
  cases h with
  | @find k ks l c hs' hm hp => exact .inl ⟨k, ks, l, c, hm, hp, rfl, rfl⟩
  | takeafter hs' hm => exact .inr ⟨hm, rfl, rfl⟩
  | takeout hs' | upload hs' =>
    rw [hs] at hs'
    cases hs'

lemma of_found (h : Step o e t) (hs : o.stage = .found k) :
    ∃ ks, o.meals = k :: ks ∧ e = .takeout ∧ t = { o with stage := .out k, meals := ks } := by
  cases h with
  | @takeout k' ks hs' hm =>
    obtain rfl : k = k' := by simpa [hs] using hs'
    exact ⟨ks, hm, rfl, rfl⟩
  | find hs' | upload hs' | takeafter hs' =>
    rw [hs] at hs'
    cases hs'

lemma of_out (h : Step o e t) (hs : o.stage = .out k) :
    ∃ sel : CustomerSel, sel.Reports k o.change ∧ e = .upload true sel ∧
      t = { o with stage := .look, change := 0 } := by
  cases h with
  | @upload k' sel hs' hsel =>
    obtain rfl : k = k' := by simpa [hs] using hs'
    exact ⟨sel, hsel, rfl, rfl⟩
  | find hs' | takeout hs' | takeafter hs' =>
    rw [hs] at hs'
    cases hs'

lemma not_ended (h : Step o e t) : o.stage ≠ .ended := by
  intro hs
  cases h <;> simp_all

end Step

/-- The meals that were not taken from the shelves yet. -/
def toTake (o : Order) : List Kind :=
  match o.stage with
  | .found _ => o.meals.tail
  | _ => o.meals

/-- The shelves hold what is to be taken. -/
def Enough (o : Order) : Prop := ∀ k, o.toTake.count k ≤ o.shelves.kind k

/-- Every step takes what it needs and no more. -/
lemma Enough.step {o t : Order} {e : Obs} (h : o.Enough) (hs : Step o e t) : t.Enough := by
  intro j
  have hj := h j
  rw [toTake] at hj ⊢
  cases hs with
  | @find k ks l c hs hm =>
    rw [hs, hm] at hj
    dsimp only [Shelves.take, List.tail]
    rw [hm]
    rcases eq_or_ne j k with rfl | hne
    · rw [if_pos rfl]
      simp only [List.count_cons_self] at hj
      dsimp only [List.tail_cons]
      omega
    · rw [if_neg hne]
      rwa [List.count_cons_of_ne hne.symm] at hj
  | takeout hs hm =>
    rw [hs, hm] at hj
    exact hj
  | upload hs | takeafter hs =>
    rw [hs] at hj
    exact hj

/-- An order that is served from the beginning to the end is served in cycles. -/
theorem served {o t : Order} {log : List Obs} (h : Lib.Path Step o log t)
    (hs : o.stage = .look) (ht : t.stage = .ended) : o.Served log t.shelves := by
  generalize hm : o.meals = ms
  induction ms generalizing o log with
  | nil =>
    cases h with
    | nil => rw [hs] at ht; cases ht
    | cons h1 h =>
      rcases h1.of_look hs with ⟨k, ks, l, c, hm', -⟩ | ⟨-, rfl, rfl⟩
      · rw [hm] at hm'
        cases hm'
      · cases h with
        | nil => exact ⟨[], rfl, hm.symm, .nil _, nofun⟩
        | cons h2 => exact absurd rfl h2.not_ended
  | cons k ks ih =>
    cases h with
    | nil => rw [hs] at ht; cases ht
    | cons h1 h =>
      rcases h1.of_look hs with ⟨k', ks', l, c, hm', hp, rfl, rfl⟩ | ⟨hm', -⟩
      · obtain ⟨rfl, rfl⟩ : k = k' ∧ ks = ks' := by simpa [hm] using hm'
        -- the meal is handed out and reported before the next one is looked for
        cases h with
        | nil => cases ht
        | cons h2 h =>
          obtain ⟨ks', hm2, rfl, rfl⟩ := h2.of_found rfl
          obtain rfl : ks = ks' := by simpa [hm] using hm2
          cases h with
          | nil => cases ht
          | cons h3 h =>
            obtain ⟨sel, hsel, rfl, rfl⟩ := h3.of_out rfl
            obtain ⟨xs, rfl, hkind, htaken, hrep⟩ := ih h rfl rfl
            refine ⟨⟨k, l, c, sel⟩ :: xs, rfl, ?_, .cons hp htaken, ?_⟩
            · rw [List.map_cons, hkind, hm]
            · intro i x hx
              cases i with
              | zero =>
                obtain rfl : _ = x := by simpa using hx
                exact hsel
              | succ i =>
                have := hrep i x (by simpa using hx)
                rw [ite_self] at this
                exact this
      · rw [hm] at hm'
        cases hm'

end Order

end MealVendor
