import MealVendor.Model.Sent
import MealVendor.Screen.Selection
import MealVendor.Screen.Texts

/-!
# What stays on the screen

The menu has the number of meals that are left of each kind, and the error page the code of an
error.
Of everything the program sends, only `DispLeftMeal` sets the one and only `DisplayAbnormal` the
other; all other frames leave both alone.
-/

namespace MealVendor

/-! ## Frames that keep or set what is shown -/

section View

variable {low : UInt8 → UInt8} {ρ σ : Type*} {v : Display → ρ} {x : ρ} {as bs : List UInt8}
  {t : Terminal}

/-- Whole frames that leave alone what `v` shows. -/
def Keeps (low : UInt8 → UInt8) (v : Display → ρ) (bs : List UInt8) : Prop :=
  ∃ f, Does low bs f ∧ ∀ d, v (f d) = v d

/-- Whole frames after which `v` shows `x`, whatever it showed before. -/
def Sets (low : UInt8 → UInt8) (v : Display → ρ) (x : ρ) (bs : List UInt8) : Prop :=
  ∃ f, Does low bs f ∧ ∀ d, v (f d) = x

lemma Keeps.nil : Keeps low v [] := ⟨id, Does.nil, fun _ => rfl⟩

lemma Keeps.append (h : Keeps low v as) (h' : Keeps low v bs) : Keeps low v (as ++ bs) := by
  obtain ⟨f, hf, hkeep⟩ := h
  obtain ⟨g, hg, hkeep'⟩ := h'
  exact ⟨_, hf.append hg, fun d => (hkeep' (f d)).trans (hkeep d)⟩

/-- Frames of one kind, one after the other. -/
lemma Keeps.flatMap {ι : Type*} {bs : ι → List UInt8} {l : List ι}
    (h : ∀ i ∈ l, Keeps low v (bs i)) : Keeps low v (l.flatMap bs) := by
  induction l with
  | nil => exact Keeps.nil
  | cons i l ih =>
    rw [List.forall_mem_cons] at h
    exact h.1.append (ih h.2)

/-- A part of what is shown. -/
lemma Keeps.map (h : Keeps low v bs) (g : ρ → σ) : Keeps low (fun d => g (v d)) bs := by
  obtain ⟨f, hf, hkeep⟩ := h
  exact ⟨f, hf, fun d => congrArg g (hkeep d)⟩

/-- What comes first does not matter. -/
lemma Keeps.sets {w : Display → σ} (h : Keeps low w as) (h' : Sets low v x bs) :
    Sets low v x (as ++ bs) := by
  obtain ⟨f, hf, -⟩ := h
  obtain ⟨g, hg, hset⟩ := h'
  exact ⟨_, hf.append hg, fun d => hset (f d)⟩

lemma Sets.keeps (h : Sets low v x as) (h' : Keeps low v bs) : Sets low v x (as ++ bs) := by
  obtain ⟨f, hf, hset⟩ := h
  obtain ⟨g, hg, hkeep⟩ := h'
  exact ⟨_, hf.append hg, fun d => (hkeep (f d)).trans (hset d)⟩

/-- They arrive at a screen that waits for a head. -/
lemma Keeps.receive (h : Keeps low v bs) (ht : t.rx = .idle) :
    (t.receive low bs).rx = .idle ∧ v (t.receive low bs).display = v t.display := by
  obtain ⟨f, hf, hkeep⟩ := h
  rw [hf.receive ht]
  exact ⟨rfl, hkeep _⟩

lemma Sets.receive (h : Sets low v x bs) (ht : t.rx = .idle) :
    (t.receive low bs).rx = .idle ∧ v (t.receive low bs).display = x := by
  obtain ⟨f, hf, hset⟩ := h
  rw [hf.receive ht]
  exact ⟨rfl, hset _⟩

end View

/-! ## The menu and the error page -/

namespace Display

/-- How many meals of each kind are left, as the menu shows it. -/
def menu (d : Display) : Kind → UInt16 := fun k => d.word (Show.meat.toNat + k.val)

/-- The code on the error page. -/
def code (d : Display) : List UInt8 := d.row Show.erroNum.toNat 4

/-- Both of them. -/
def fixed (d : Display) : (Kind → UInt16) × List UInt8 := (d.menu, d.code)

end Display

/-- `n` bytes from the variable `a` on are neither on the menu nor in the code. -/
def Elsewhere (a n : ℕ) : Prop :=
  (0x25 ≤ a ∨ 2 * a + n ≤ 0x42) ∧ (0x4D02 ≤ a ∨ 2 * a + n ≤ 0x9A00)

instance (a n : ℕ) : Decidable (Elsewhere a n) := inferInstanceAs (Decidable (_ ∧ _))

section Frame

variable {low : UInt8 → UInt8} {d : Display} {a : UInt16} {data : List UInt8} {ρ : Type*}
  {v : Display → ρ}

lemma menu_write (h : 0x25 ≤ a.toNat ∨ 2 * a.toNat + data.length ≤ 0x42) :
    (d.write a data).menu = d.menu := by
  funext k
  have hmeat : Show.meat.toNat = 0x21 := rfl
  have hk := k.isLt
  exact word_write_of_disjoint (by omega)

lemma code_write (h : 0x4D02 ≤ a.toNat ∨ 2 * a.toNat + data.length ≤ 0x9A00) :
    (d.write a data).code = d.code := by
  have herro : Show.erroNum.toNat = 0x4D00 := rfl
  exact row_write_of_disjoint (by omega)

lemma fixed_write (h : Elsewhere a.toNat data.length) : (d.write a data).fixed = d.fixed :=
  Prod.ext (menu_write h.1) (code_write h.2)

/-- A text, with a byte behind its 0. -/
lemma fixed_writeText {t : List UInt8} (h : Elsewhere a.toNat (t.length + 2)) :
    (d.writeText low a t).fixed = d.fixed := by
  have hlen := length_whole_le low a d (t ++ [0])
  rw [List.length_append, List.length_singleton] at hlen
  obtain ⟨hmenu, hcode⟩ := h
  exact fixed_write ⟨by omega, by omega⟩

lemma fixed_writeWord {w : UInt16} (h : Elsewhere a.toNat 2) :
    (d.write a (wordBytes w)).fixed = d.fixed := fixed_write h

lemma fixed_setPage (page : UInt8) : (d.setPage page).fixed = d.fixed := rfl

lemma keeps_variableChage {a : UInt16} (value : UInt16) (h : Elsewhere a.toNat 2) :
    Keeps low Display.fixed (Show.variableChage a value) :=
  ⟨_, does_variableChage a value, fun _ => fixed_write h⟩

lemma keeps_pageChange (page : UInt8) : Keeps low Display.fixed (Show.pageChange page) :=
  ⟨_, does_pageChange page, fun _ => rfl⟩

/-- The page that is opened stays open. -/
lemma sets_pageChange (page : UInt8) : Sets low Display.page page (Show.pageChange page) :=
  ⟨_, does_pageChange page, fun _ => rfl⟩

/-- The bytes of a long value. -/
def longBytes (v : UInt32) : List UInt8 :=
  wordBytes (v >>> 16).toUInt16 ++ wordBytes v.toUInt16

lemma keeps_variableChagelong {a : UInt16} (value : UInt32) (h : Elsewhere a.toNat 4) :
    Keeps low Display.fixed (Show.variableChagelong a value) := by
  have heq : Show.variableChagelong a value =
      lcd.message 7 (writeBody a (longBytes value)) ++ List.replicate 0 0 := rfl
  rw [heq]
  exact ⟨_, Does.write a (m := 2) rfl rfl 0, fun _ => fixed_write h⟩

/-- No frame with this command is known to the screen. -/
lemma keeps_screenControl (cmd : UInt8) : Keeps low v (Show.screenControl cmd) := by
  have heq : Show.screenControl cmd =
      lcd.message 4 [Show.tpcEnable, 0, cmd, 0] ++ List.replicate 1 0 := rfl
  rw [heq]
  exact ⟨_, Does.message rfl 1, fun _ => rfl⟩

lemma keeps_displayPassWord {n : ℕ} (h : n ≤ 6) :
    Keeps low Display.fixed (Show.displayPassWord n) := by
  refine ⟨_, does_displayPassWord h, fun _ => fixed_writeText ?_⟩
  have hlen : (stars n).length = n := List.length_replicate
  have hshow : Show.passwordShow.toNat = 5 := rfl
  rw [Elsewhere]
  omega

lemma keeps_mealCostDisp {mealId : UInt8} (c : UInt8) (h : mealId = 0 ∨ ∃ k, mealId = Kind.id k) :
    Keeps low Display.fixed (Show.mealCostDisp mealId c) := by
  rcases h with rfl | ⟨k, rfl⟩
  · have heq : Show.mealCostDisp 0 c =
        lcd.message 5 (writeBody 0x2F [0, getMealPrice 0 c]) ++ List.replicate 0 0 := rfl
    rw [heq]
    exact ⟨_, Does.write 0x2F (m := 1) rfl rfl 0,
      fun _ => fixed_write (by decide : Elsewhere 0x2F 2)⟩
  · refine ⟨_, Selection.does_mealCostDisp k c, fun _ => fixed_write ?_⟩
    have hcost := Selection.toNat_mealCost k
    have hlen : [0, getMealPrice k.id c].length = 2 := rfl
    rw [Elsewhere]
    omega

end Frame

/-! ## Pages -/

section Page

variable {low : UInt8 → UInt8} {d : Display} {u : UserSelection}

lemma fixed_setRow {mealId mealCnt mealCost floor : UInt8} (h : floor.toNat < 4) :
    (setRow mealId mealCnt mealCost floor d).fixed = d.fixed := by
  have hname := toNat_block (a := Show.column1stName) (by decide) h
  have hcount := toNat_cell (a := Show.column1stCount) (by decide) h
  have hcost := toNat_cell (a := Show.column1stCost) (by decide) h
  have hname₀ : Show.column1stName.toNat = 0x4100 := rfl
  have hcount₀ : Show.column1stCount.toNat = 0x42 := rfl
  have hcost₀ : Show.column1stCost.toNat = 0x43 := rfl
  have hlen := length_nameRow mealId
  have hlenN : (byteRow mealCnt).length = 10 := rfl
  have hlenC : (byteRow mealCost).length = 10 := rfl
  rw [setRow, fixed_write (by rw [Elsewhere]; omega), fixed_write (by rw [Elsewhere]; omega),
    fixed_write (by rw [Elsewhere]; omega)]

lemma keeps_settleAccounts (u : UserSelection) :
    Keeps low Display.fixed (Show.settleAccounts u) := by
  refine ⟨_, does_settleAccounts u, fun d => ?_⟩
  have hlen := length_cartKinds (u := u)
  have hfill : (Lib.fill (setKind u) (Show.cartKinds u) 0 (opened u d)).fixed =
      (opened u d).fixed := Lib.fill_fixed fun k i d hi => by
    have hfloor := toNat_floor (by omega : i < 4)
    rw [setKind, fixed_setRow (by omega)]
  rw [settled, fixed_writeWord (by decide), hfill, opened, fixed_writeWord (by decide),
    fixed_writeWord (by decide), fixed_writeWord (by decide), fixed_writeWord (by decide),
    fixed_setPage, clearRows, fixed_setRow (by decide), fixed_setRow (by decide),
    fixed_setRow (by decide), fixed_setRow (by decide)]

lemma fixed_setRecord {mealId mealCntT mealCnt floor : UInt8} (h : floor.toNat < 4) :
    (setRecord low mealId mealCntT mealCnt floor d).fixed = d.fixed := by
  have hname := toNat_block (a := Show.recordColumn1stName) (by decide) h
  have hcntT := toNat_block (a := Show.recordColumn1stCntT) (by decide) h
  have hcnt := toNat_block (a := Show.recordColumn1stCnt) (by decide) h
  have hname₀ : Show.recordColumn1stName.toNat = 0x5000 := rfl
  have hcntT₀ : Show.recordColumn1stCntT.toNat = 0x5400 := rfl
  have hcnt₀ : Show.recordColumn1stCnt.toNat = 0x5800 := rfl
  rw [setRecord, fixed_writeText (by rw [Elsewhere]; omega),
    fixed_writeText (by rw [Elsewhere]; omega), fixed_write (by rw [Elsewhere]; omega)]

lemma keeps_displayUserRecord (u : UserSelection) :
    Keeps low Display.fixed (Show.displayUserRecord u) := by
  refine ⟨_, does_displayUserRecord u, fun d => ?_⟩
  have hlen := length_cartKinds (u := u)
  have hpaid : ∀ d : Display, (setPaid u d).fixed = d.fixed := by
    intro d
    rw [setPaid]
    split_ifs <;>
      rw [fixed_writeWord (by decide), fixed_writeWord (by decide)]
  have hfill : (Lib.fill (setRecordKind low u) (Show.cartKinds u) 0 (clearRecord low d)).fixed =
      (clearRecord low d).fixed := Lib.fill_fixed fun k i d hi => by
    have hfloor := toNat_floor (by omega : i < 4)
    rw [setRecordKind, fixed_setRecord (by omega)]
  rw [recorded, hpaid, hfill, clearRecord, fixed_setRecord (by decide),
    fixed_setRecord (by decide), fixed_setRecord (by decide), fixed_setRecord (by decide)]

/-- One count of the menu. -/
lemma does_leftMeal (k : Kind) (c : UInt8) :
    Does low ((Show.setWord 4 (Show.meat + UInt16.ofNat k.val)
      ((Show.temp 8 Show.variableWrite).set 2 5)).set 7 c)
      (Display.write (Show.meat + UInt16.ofNat k.val) [0, c]) := by
  have heq : (Show.setWord 4 (Show.meat + UInt16.ofNat k.val)
      ((Show.temp 8 Show.variableWrite).set 2 5)).set 7 c =
      lcd.message 5 (writeBody (Show.meat + UInt16.ofNat k.val) [0, c]) ++ List.replicate 0 0 := rfl
  rw [heq]
  exact Does.write _ (m := 1) rfl rfl 0

/-- What `DispLeftMeal` makes of the screen. -/
def leftShown (s : Stock) (d : Display) : Display :=
  (((d.write 0x21 [0, (s.defineMeal 0).mealCount]).write 0x22 [0, (s.defineMeal 1).mealCount]).write
    0x23 [0, (s.defineMeal 2).mealCount]).write 0x24 [0, (s.defineMeal 3).mealCount]

lemma does_dispLeftMeal (s : Stock) : Does low (Show.dispLeftMeal s) (leftShown s) :=
  Does.flatMap (fun k => does_leftMeal k (s.defineMeal k).mealCount) (List.finRange 4)

/-- The menu shows how many meals are left. -/
lemma sets_dispLeftMeal (s : Stock) :
    Sets low Display.menu (fun k => (s.defineMeal k).mealCount.toUInt16) (Show.dispLeftMeal s) := by
  refine ⟨_, does_dispLeftMeal s, fun d => funext fun k => ?_⟩
  rw [Display.menu, leftShown, word_write_two, word_write_two, word_write_two, word_write_two]
  fin_cases k
  · exact Selection.ofNat_byte _
  · exact Selection.ofNat_byte _
  · exact Selection.ofNat_byte _
  · exact Selection.ofNat_byte _

lemma keeps_code_dispLeftMeal (s : Stock) : Keeps low Display.code (Show.dispLeftMeal s) := by
  refine ⟨_, does_dispLeftMeal s, fun d => ?_⟩
  have hcode : ∀ {a : UInt16} {d : Display} (c : UInt8), a.toNat < 0x25 →
      (d.write a [0, c]).code = d.code := by
    intro a d c ha
    have hlen : [0, c].length = 2 := rfl
    exact code_write (.inr (by omega))
  rw [leftShown, hcode _ (by decide), hcode _ (by decide), hcode _ (by decide),
    hcode _ (by decide)]

/-- The four characters of a code. -/
lemma does_displayAbnormal {c : List UInt8} (h : c.length = 4) :
    Does low (Show.displayAbnormal c) (Display.write Show.erroNum c) := by
  match c, h with
  | [c₀, c₁, c₂, c₃], _ =>
    have heq : Show.displayAbnormal [c₀, c₁, c₂, c₃] =
        lcd.message 7 (writeBody Show.erroNum [c₀, c₁, c₂, c₃]) ++ List.replicate 10 0 := rfl
    rw [heq]
    exact Does.write _ (m := 2) rfl rfl 10

/-- The code is shown. -/
lemma sets_displayAbnormal {c : List UInt8} (h : c.length = 4) :
    Sets low Display.code c (Show.displayAbnormal c) :=
  ⟨_, does_displayAbnormal h, fun _ => row_write h⟩

lemma keeps_menu_displayAbnormal {c : List UInt8} (h : c.length = 4) :
    Keeps low Display.menu (Show.displayAbnormal c) :=
  ⟨_, does_displayAbnormal h, fun _ => menu_write (.inl (by decide))⟩

lemma keeps_page_displayAbnormal {c : List UInt8} (h : c.length = 4) :
    Keeps low Display.page (Show.displayAbnormal c) :=
  ⟨_, does_displayAbnormal h, fun _ => rfl⟩

end Page

end MealVendor
