import MealVendor.Screen.CartPage
import MealVendor.Screen.Password

/-!
# Pages with texts

The record page shows a sale that failed: for each kind that is still in the cart, how many were
ordered and how many are left, as texts.  The password page shows a star for each digit.
-/

namespace MealVendor

/-! ## The record page -/

/-- A row of the record page. -/
@[ext] structure RecordRow where
  name : List UInt8
  ordered : List UInt8
  left : List UInt8

/-- A row without a meal. -/
def RecordRow.blank : RecordRow := ⟨nameRow 0, [], []⟩

/-- The kinds that are left, one after the other. -/
def recordRow (u : UserSelection) (i : ℕ) : RecordRow :=
  ((Show.cartKinds u)[i]?.map fun k =>
    ⟨nameRow k.id, Show.decimal (u.mealCntT k), Show.decimal (u.mealCnt k)⟩).getD .blank

/-- Row `i` as it is on the screen. -/
def Display.recordRow (d : Display) (i : ℕ) : RecordRow where
  name := d.row (Show.recordColumn1stName.toNat + 256 * i) 12
  ordered := d.text (Show.recordColumn1stCntT.toNat + 256 * i) 4
  left := d.text (Show.recordColumn1stCnt.toNat + 256 * i) 4

section Record

variable {low : UInt8 → UInt8} {d : Display} {u : UserSelection} {c : UInt8}

/-- The digits of a number are no zeros. -/
lemma zero_notMem_decimal (c : UInt8) : 0 ∉ Show.decimal c := by
  rw [Show.decimal, List.mem_map]
  rintro ⟨x, hx, hzero⟩
  have hdigit := Nat.isDigit_of_mem_toDigits (by decide) (by decide) hx
  rw [Char.isDigit, Bool.and_eq_true, decide_eq_true_eq, decide_eq_true_eq] at hdigit
  have hlow : 48 ≤ x.toNat := hdigit.1
  have hhigh : x.toNat ≤ 57 := hdigit.2
  have hval := congrArg UInt8.toNat hzero
  rw [UInt8.toNat_ofNat'] at hval
  change x.toNat % 256 = 0 at hval
  omega

lemma zero_notMem_countText (c : UInt8) : 0 ∉ countText c := by
  rw [countText]
  split_ifs
  · exact List.not_mem_nil
  · exact zero_notMem_decimal c

/-- Only the count 255 is not shown. -/
lemma countText_eq_iff : countText c = Show.decimal c ↔ c ≠ 0xff := by
  rw [countText]
  split_ifs with h
  · subst h
    exact iff_of_false (by decide) (not_not_intro rfl)
  · exact iff_of_true rfl h

/-- What the three frames of a row make of the screen. -/
def setRecord (low : UInt8 → UInt8) (mealId mealCntT mealCnt floor : UInt8) (d : Display) :
    Display :=
  ((d.write (Show.recordColumn1stName + floor.toUInt16 * 0x0100) (nameRow mealId)).writeText low
    (Show.recordColumn1stCntT + floor.toUInt16 * 0x0100) (countText mealCntT)).writeText low
    (Show.recordColumn1stCnt + floor.toUInt16 * 0x0100) (countText mealCnt)

lemma does_recordRow (mealId mealCntT mealCnt floor : UInt8) :
    Does low (Show.recordRow mealId mealCntT mealCnt floor)
      (setRecord low mealId mealCntT mealCnt floor) :=
  ((does_nameDisp _ _ _).append (does_textDisp _ _ _)).append (does_textDisp _ _ _)

/-- The row is set, and the others stay. -/
lemma recordRow_setRecord {mealId mealCntT mealCnt floor : UInt8} {j : ℕ} (h : floor.toNat < 4)
    (hj : j < 4) : (setRecord low mealId mealCntT mealCnt floor d).recordRow j =
      if j = floor.toNat then ⟨nameRow mealId, countText mealCntT, countText mealCnt⟩
      else d.recordRow j := by
  have hname := toNat_block (a := Show.recordColumn1stName) (by decide) h
  have hcntT := toNat_block (a := Show.recordColumn1stCntT) (by decide) h
  have hcnt := toNat_block (a := Show.recordColumn1stCnt) (by decide) h
  have hname₀ : Show.recordColumn1stName.toNat = 0x5000 := rfl
  have hcntT₀ : Show.recordColumn1stCntT.toNat = 0x5400 := rfl
  have hcnt₀ : Show.recordColumn1stCnt.toNat = 0x5800 := rfl
  have hlen := length_nameRow mealId
  have hlenT := length_countText_le mealCntT
  have hlenC := length_countText_le mealCnt
  have hrow : (setRecord low mealId mealCntT mealCnt floor d).row
      (Show.recordColumn1stName.toNat + 256 * j) 12 = if j = floor.toNat then nameRow mealId
        else d.row (Show.recordColumn1stName.toNat + 256 * j) 12 := by
    rw [setRecord, row_writeText_of_disjoint (by omega), row_writeText_of_disjoint (by omega)]
    split_ifs with hjf
    · rw [hjf, ← hname, row_write hlen]
    · exact row_write_of_disjoint (by omega)
  have hordered : (setRecord low mealId mealCntT mealCnt floor d).text
      (Show.recordColumn1stCntT.toNat + 256 * j) 4 = if j = floor.toNat then countText mealCntT
        else d.text (Show.recordColumn1stCntT.toNat + 256 * j) 4 := by
    rw [setRecord, text_writeText_of_disjoint (by omega)]
    split_ifs with hjf
    · rw [hjf, ← hcntT, text_writeText (zero_notMem_countText _) (by omega)]
    · rw [text_writeText_of_disjoint (by omega), text_write_of_disjoint (by omega)]
  have hleft : (setRecord low mealId mealCntT mealCnt floor d).text
      (Show.recordColumn1stCnt.toNat + 256 * j) 4 = if j = floor.toNat then countText mealCnt
        else d.text (Show.recordColumn1stCnt.toNat + 256 * j) 4 := by
    rw [setRecord]
    split_ifs with hjf
    · rw [hjf, ← hcnt, text_writeText (zero_notMem_countText _) (by omega)]
    · rw [text_writeText_of_disjoint (by omega), text_writeText_of_disjoint (by omega),
        text_write_of_disjoint (by omega)]
  rw [Display.recordRow, hrow, hordered, hleft, Display.recordRow]
  split_ifs <;> rfl

/-- The rows are emptied. -/
def clearRecord (low : UInt8 → UInt8) (d : Display) : Display :=
  setRecord low 0 0xff 0xff 3 (setRecord low 0 0xff 0xff 2 (setRecord low 0 0xff 0xff 1
    (setRecord low 0 0xff 0xff 0 d)))

lemma does_clearRecord :
    Does low ((List.range 4).flatMap fun i => Show.recordRow 0 0xff 0xff (UInt8.ofNat i))
      (clearRecord low) :=
  Does.flatMap (fun _ => does_recordRow _ _ _ _) (List.range 4)

lemma recordRow_clearRecord {j : ℕ} (hj : j < 4) : (clearRecord low d).recordRow j = .blank := by
  rw [clearRecord]
  interval_cases j <;> simp [recordRow_setRecord, RecordRow.blank, countText]

/-- The row of a kind. -/
def setRecordKind (low : UInt8 → UInt8) (u : UserSelection) (k : Kind) (floor : ℕ) :
    Display → Display :=
  setRecord low k.id (u.mealCntT k) (u.mealCnt k) (UInt8.ofNat floor)

lemma does_recordRows (u : UserSelection) (ks : List Kind) (floor : ℕ) :
    Does low (Show.recordRows u ks floor) (Lib.fill (setRecordKind low u) ks floor) := by
  induction ks generalizing floor with
  | nil => exact Does.nil
  | cons k ks ih => exact (does_recordRow _ _ _ _).append (ih (floor + 1))

/-- The row of a kind, as it is sent. -/
def sentRecord (u : UserSelection) (k : Kind) : RecordRow :=
  ⟨nameRow k.id, countText (u.mealCntT k), countText (u.mealCnt k)⟩

lemma setRecordKind_writes (u : UserSelection) :
    Lib.Writes Display.recordRow .blank (sentRecord u) 4 (setRecordKind low u) :=
  .of_single fun k j d i hj hi => by
    have hfloor := toNat_floor hj
    rw [setRecordKind, recordRow_setRecord (by omega) hi, hfloor]
    rfl

/-- The last two variables: what was paid, and what is to be given back. -/
def setPaid (u : UserSelection) (d : Display) : Display :=
  if 0 < u.moneyBack then
    (d.write Show.recordUserActPayAlready (wordBytes u.payAlready)).write
      Show.recordUserActPayBack (wordBytes u.displayUserRecord.moneyBack.toUInt16)
  else
    (d.write Show.recordUserActPayAlready (wordBytes 0)).write
      Show.recordUserActPayBack (wordBytes 0)

/-- What `DisplayUserRecord` makes of the screen. -/
def recorded (low : UInt8 → UInt8) (u : UserSelection) (d : Display) : Display :=
  setPaid u (Lib.fill (setRecordKind low u) (Show.cartKinds u) 0 (clearRecord low d))

lemma does_displayUserRecord (u : UserSelection) :
    Does low (Show.displayUserRecord u) (recorded low u) := by
  refine (does_clearRecord.append (does_recordRows u _ 0)).append ?_
  by_cases hback : 0 < u.moneyBack
  · rw [if_pos hback]
    refine ((does_variableChage _ _).append (does_variableChage _ _)).congr fun d => ?_
    rw [setPaid, if_pos hback]
  · rw [if_neg hback]
    refine ((does_variableChage _ _).append (does_variableChage _ _)).congr fun d => ?_
    rw [setPaid, if_neg hback]

/-- A word behind the rows. -/
lemma recordRow_write {a v : UInt16} {j : ℕ} (ha : 0x5C00 ≤ a.toNat) (hj : j < 4) :
    (d.write a (wordBytes v)).recordRow j = d.recordRow j := by
  have hname₀ : Show.recordColumn1stName.toNat = 0x5000 := rfl
  have hcntT₀ : Show.recordColumn1stCntT.toNat = 0x5400 := rfl
  have hcnt₀ : Show.recordColumn1stCnt.toNat = 0x5800 := rfl
  rw [Display.recordRow, row_write_of_disjoint (by omega), text_write_of_disjoint (by omega),
    text_write_of_disjoint (by omega), Display.recordRow]

lemma recordRow_setPaid {j : ℕ} (hj : j < 4) : (setPaid u d).recordRow j = d.recordRow j := by
  rw [setPaid]
  split_ifs <;>
    rw [recordRow_write (by decide) hj, recordRow_write (by decide) hj]

lemma recordRow_recorded (i : Fin 4) :
    (recorded low u d).recordRow i.val =
      ((Show.cartKinds u)[i.val]?.map (sentRecord u)).getD .blank := by
  have hlen := length_cartKinds (u := u)
  rw [recorded, recordRow_setPaid i.isLt, (setRecordKind_writes u).fill (by omega)
    (fun j _ hj => recordRow_clearRecord hj) i.isLt, if_neg (Nat.not_lt_zero _), Nat.sub_zero]

lemma recordRow_recorded_iff (i : Fin 4) :
    (recorded low u d).recordRow i.val = recordRow u i.val ↔
      ∀ k ∈ (Show.cartKinds u)[i.val]?, u.mealCntT k ≠ 0xff ∧ u.mealCnt k ≠ 0xff := by
  rw [recordRow_recorded, recordRow]
  cases (Show.cartKinds u)[i.val]? with
  | none => exact iff_of_true rfl fun k hk => absurd hk (by simp)
  | some k =>
    simp only [Option.map_some, Option.getD_some, Option.mem_some_iff, forall_eq', sentRecord,
      RecordRow.mk.injEq, true_and, countText_eq_iff]

end Record

/-- After `DisplayUserRecord` the rows are the kinds that are left, with how many were ordered and
how many are left, whatever the screen showed before, exactly if none of these counts is 255; what
was paid and the change are shown if there is change to give. -/
theorem displayUserRecord_shows_iff (low : UInt8 → UInt8) (t : Terminal) (u : UserSelection)
    (h : t.rx = .idle) :
    let d := (t.receive low (Show.displayUserRecord u)).display
    ((∀ i : Fin 4, d.recordRow i.val = recordRow u i.val) ↔
      ∀ k, 0 < u.mealCnt k → u.mealCntT k ≠ 0xff ∧ u.mealCnt k ≠ 0xff) ∧
    d.word Show.recordUserActPayAlready.toNat = (if 0 < u.moneyBack then u.payAlready else 0) ∧
    d.word Show.recordUserActPayBack.toNat =
      if 0 < u.moneyBack then (Int16.ofInt u.recordChange).toUInt16 else 0 := by
  intro d
  have hd : d = recorded low u t.display :=
    congrArg Terminal.display ((does_displayUserRecord u).receive h)
  rw [hd]
  refine ⟨?_, ?_, ?_⟩
  · rw [← forall_cartKinds_iff]
    exact forall_congr' fun i => recordRow_recorded_iff i
  · rw [recorded, setPaid]
    split_ifs <;> rw [word_write_wordBytes, if_neg (by decide), word_write_wordBytes, if_pos rfl]
  · rw [recorded, setPaid, UserSelection.displayUserRecord]
    split_ifs <;> rw [word_write_wordBytes, if_pos rfl]

/-- Three meals of the second kind were paid for, and one has been taken out. -/
def twoLeft : UserSelection :=
  { UserSelection.zero with
    mealCntT := fun k => if k = 1 then 3 else 0
    mealCnt := fun k => if k = 1 then 2 else 0
    payAlready := 45
    moneyBack := 30 }

/-- The record page after that. -/
def Display.twoLeft : Display :=
  (Terminal.start.receive id (Show.displayUserRecord MealVendor.twoLeft)).display

/-- It has one row, and the change. -/
theorem displayUserRecord_shows_two :
    Display.twoLeft.recordRow 0 = ⟨nameRow 2, ['3'].map Char.toUInt8, ['2'].map Char.toUInt8⟩ ∧
    Display.twoLeft.recordRow 1 = .blank ∧
    Display.twoLeft.word Show.recordUserActPayAlready.toNat = 45 := by
  obtain ⟨hrows, hpaid, -⟩ := displayUserRecord_shows_iff id Terminal.start twoLeft rfl
  have hrow := hrows.mpr (by decide)
  exact ⟨hrow 0, hrow 1, hpaid⟩

/-! ## The password page -/

/-- The number of a page. -/
def Page.number : Page → UInt8
  | .mealSet => Show.mealSetInterface
  | .userAbonamalRecord => Show.userAbonamalRecordInterface
  | .coinset => Show.coinsetInterface
  | .password => Show.passwordInterface

/-- A keypad and its screen. -/
structure KeypadScreen where
  keypad : Keypad
  terminal : Terminal

namespace KeypadScreen

/-- One key, and what the screen is sent. -/
def step (low : UInt8 → UInt8) (s : KeypadScreen) (k : Key) : Option KeypadScreen :=
  (s.keypad.step k).map fun q =>
    ⟨q, s.terminal.receive low (Show.password k.data (s.keypad.found k))⟩

end KeypadScreen

section PassWord

variable {low : UInt8 → UInt8} {d : Display} {m : Machine} {n : ℕ}

/-- The text of the password page. -/
def Display.passWord (d : Display) : List UInt8 := d.text Show.passwordShow.toNat 7

lemma passWord_writeText (h : n ≤ 6) :
    (d.writeText low Show.passwordShow (stars n)).passWord = stars n := by
  have hlen : (stars n).length = n := List.length_replicate
  refine text_writeText (fun hmem => ?_) (by omega)
  exact absurd (List.eq_of_mem_replicate hmem) (by decide)

lemma passWord_write {a v : UInt16} (ha : 0x11 ≤ a.toNat) :
    (d.write a (wordBytes v)).passWord = d.passWord := by
  have hshow : Show.passwordShow.toNat = 5 := rfl
  exact text_write_of_disjoint (.inl (by omega))

lemma passWord_setPage (page : UInt8) : (d.setPage page).passWord = d.passWord := rfl

lemma page_setPage (page : UInt8) : (d.setPage page).page = page := rfl

lemma page_write (a : UInt16) (data : List UInt8) : (d.write a data).page = d.page := rfl

lemma page_recorded (u : UserSelection) : (recorded low u d).page = d.page := by
  have hpaid : ∀ d : Display, (setPaid u d).page = d.page := by
    intro d
    rw [setPaid]
    split_ifs <;> rfl
  rw [recorded, hpaid]
  exact Lib.fill_fixed (f := Display.page) fun _ _ _ _ => rfl

/-- What the confirm key shows: no star, and the page that it opens. -/
lemma does_confirmPassWord (low : UInt8 → UInt8) (m : Machine) :
    ∃ f, Does low (Show.confirmPassWord m) f ∧ ∀ d, (f d).passWord = [] ∧
      (f d).page = (m.confirmPage.map Page.number).getD d.page := by
  have hstar : ∀ d : Display, (d.writeText low Show.passwordShow (stars 0)).passWord = [] :=
    fun d => passWord_writeText (Nat.zero_le 6)
  have hnone : Does low (Show.displayPassWord 0)
      (Display.writeText low Show.passwordShow (stars 0)) := does_displayPassWord (Nat.zero_le 6)
  rw [Show.confirmPassWord, Machine.confirmPage]
  split_ifs with hpass herr hadmin herr
  · exact ⟨_, hnone.append Does.nil, fun d => ⟨hstar d, rfl⟩⟩
  · refine ⟨_, hnone.append ((does_pageChange _).append (((does_variableChage _ _).append
      (does_variableChage _ _)).append (does_variableChage _ _))), fun d => ⟨?_, rfl⟩⟩
    rw [passWord_write (by decide), passWord_write (by decide), passWord_write (by decide),
      passWord_setPage, hstar]
  · refine ⟨_, ((does_pageChange _).append (does_displayUserRecord _)).append hnone,
      fun d => ⟨hstar _, ?_⟩⟩
    rw [Display.writeText, page_write, page_recorded, page_setPage]
    rfl
  · exact ⟨_, ((does_pageChange _).append (does_variableChage _ _)).append hnone,
      fun d => ⟨hstar _, rfl⟩⟩
  · exact ⟨_, (does_pageChange _).append hnone, fun d => ⟨hstar _, rfl⟩⟩

lemma passWordLen_confirmPassWord (m : Machine) : m.confirmPassWord.passWordLen = 0 := by
  rw [Machine.confirmPassWord]
  dsimp only
  split_ifs <;> rfl

/-- What a key shows: a star for each digit. -/
lemma does_password (low : UInt8 → UInt8) (c : UInt8) (hm : m.passWordLen ≤ 6) :
    (m.password c).passWordLen ≤ 6 ∧ ∃ f, Does low (Show.password c m) f ∧
      ∀ d : Display, d.passWord = stars m.passWordLen →
        (f d).passWord = stars (m.password c).passWordLen := by
  have hkeep : ∃ f, Does low [] f ∧ ∀ d : Display, d.passWord = stars m.passWordLen →
      (f d).passWord = stars m.passWordLen := ⟨id, Does.nil, fun _ h => h⟩
  have hset : ∀ {n : ℕ}, n ≤ 6 → ∃ f, Does low (Show.displayPassWord n) f ∧
      ∀ d : Display, d.passWord = stars m.passWordLen → (f d).passWord = stars n :=
    fun hn => ⟨_, does_displayPassWord hn, fun _ _ => passWord_writeText hn⟩
  rw [Machine.password, Show.password]
  by_cases hdigit : c ≤ 0x0F
  · rw [if_pos hdigit, if_pos hdigit]
    by_cases h6 : m.passWordLen < 6
    · rw [dif_pos h6, if_pos h6]
      exact ⟨h6, hset h6⟩
    · rw [dif_neg h6, if_neg h6]
      exact ⟨hm, hkeep⟩
  rw [if_neg hdigit, if_neg hdigit]
  by_cases hback : c = 0x10
  · rw [if_pos hback, if_pos hback]
    by_cases h0 : 0 < m.passWordLen
    · rw [if_pos h0, if_pos h0]
      have hpred : m.passWordLen - 1 ≤ 6 := by omega
      exact ⟨hpred, hset hpred⟩
    · rw [if_neg h0, if_neg h0]
      exact ⟨hm, hkeep⟩
  rw [if_neg hback, if_neg hback]
  by_cases hconfirm : c = 0x11
  · rw [if_pos hconfirm, if_pos hconfirm, passWordLen_confirmPassWord]
    obtain ⟨f, hf, hshown⟩ := does_confirmPassWord low m
    exact ⟨Nat.zero_le _, f, hf, fun d _ => (hshown d).1⟩
  rw [if_neg hconfirm, if_neg hconfirm]
  by_cases hreturn : c = 0x12
  · rw [if_pos hreturn, if_pos hreturn]
    by_cases herr : m.erroFlag ≠ 0
    · rw [if_pos herr, if_pos herr]
      exact ⟨hm, hkeep⟩
    · rw [if_neg herr, if_neg herr]
      refine ⟨Nat.zero_le _, _, (does_pageChange _).append (does_displayPassWord (Nat.zero_le 6)),
        fun d _ => passWord_writeText (Nat.zero_le 6)⟩
  · rw [if_neg hreturn, if_neg hreturn]
    exact ⟨hm, hkeep⟩

end PassWord

namespace KeypadScreen

/-- The screen shows as many stars as digits are counted, and no more than six. -/
structure Shows (s : KeypadScreen) : Prop where
  rx : s.terminal.rx = .idle
  short : s.keypad.machine.passWordLen ≤ 6
  text : s.terminal.display.passWord = stars s.keypad.machine.passWordLen

variable {low : UInt8 → UInt8} {s q : KeypadScreen} {k : Key}

lemma Shows.step (h : s.Shows) (hs : s.step low k = some q) : q.Shows := by
  obtain ⟨hshort, f, hf, hshown⟩ := does_password (m := s.keypad.found k) low k.data h.short
  have hreceive := hf.receive h.rx
  cases hs
  refine ⟨?_, hshort, ?_⟩
  · change (s.terminal.receive low (Show.password k.data (s.keypad.found k))).rx = .idle
    rw [hreceive]
  · change (s.terminal.receive low (Show.password k.data
      (s.keypad.found k))).display.passWord = _
    rw [hreceive]
    exact hshown _ h.text

end KeypadScreen

/-- In every run of keys, from power-up on and whatever errors are shown meanwhile, the password
page has a star for each digit that is counted, at most six; the confirm key opens on the screen
the page that it is about to open in the program. -/
theorem passWordPage_run (low : UInt8 → UInt8) {t : Terminal} {s : Keypad} {ks : List Key}
    {p : KeypadScreen} (ht : t.rx = .idle) (htext : t.display.passWord = []) (hs : s.Init)
    (hrun : Lib.runFrom (KeypadScreen.step low) ⟨s, t⟩ ks = some p) :
    p.keypad.machine.passWordLen ≤ 6 ∧
    p.terminal.display.passWord = stars p.keypad.machine.passWordLen ∧
    ∀ k q, k.data = 0x11 → p.step low k = some q →
      q.terminal.display.page = ((p.keypad.found k).confirmPage.map Page.number).getD
        p.terminal.display.page := by
  have hlen : s.machine.passWordLen = 0 := hs.1.counts.2
  have hstart : KeypadScreen.Shows ⟨s, t⟩ :=
    ⟨ht, by rw [hlen]; exact Nat.zero_le 6, by rw [hlen]; exact htext⟩
  have hshows : p.Shows :=
    (Lib.Runs.of_runFrom hrun).invariant (fun _ _ _ h _ hstep => h.step hstep) hstart
  refine ⟨hshows.short, hshows.text, fun k q hk hq => ?_⟩
  obtain ⟨f, hf, hshown⟩ := does_confirmPassWord low (p.keypad.found k)
  have hsent : Show.password k.data (p.keypad.found k) =
      Show.confirmPassWord (p.keypad.found k) := by
    rw [hk]
    rfl
  cases hq
  change (p.terminal.receive low (Show.password k.data (p.keypad.found k))).display.page = _
  rw [hsent, hf.receive hshows.rx]
  exact (hshown _).2

/-- The password of the stock is typed, with a digit corrected: six stars, and the confirm key opens
the page of the stock. -/
theorem passWordPage_run_mealSet :
    ∃ p, Lib.runFrom (KeypadScreen.step id) ⟨Keypad.fresh, Terminal.start⟩
        (Keypad.keys [5, 1, 9, 0x10, 8, 5, 1, 8]) = some p ∧
      p.terminal.display.passWord = stars 6 ∧
      ∀ q, p.step id ⟨0x11, 0⟩ = some q →
        q.terminal.display.page = Show.mealSetInterface := by
  have hrun : ((Lib.runFrom (KeypadScreen.step id) ⟨Keypad.fresh, Terminal.start⟩
      (Keypad.keys [5, 1, 9, 0x10, 8, 5, 1, 8])).any fun p =>
        p.keypad.machine.passWordLen = 6 ∧
          (p.keypad.found ⟨0x11, 0⟩).confirmPage = some .mealSet) = true := by
    decide +kernel
  obtain ⟨p, hp, hlen, hpage⟩ := Lib.exists_of_any hrun
  obtain ⟨-, htext, hopens⟩ := passWordPage_run id rfl rfl Keypad.fresh_init hp
  refine ⟨p, hp, by rw [htext, hlen], fun q hq => ?_⟩
  rw [hopens _ q rfl hq, hpage]
  rfl

end MealVendor
