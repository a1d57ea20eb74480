import MealVendor.Screen.Menu
import MealVendor.Stock.Admin

/-!
# The comparison with the server

The fourth key of `mealinput_choose` compares the meals with what the server knows, and opens a page
with the result: all kinds with their counts if they are the same, else the kinds that differ with
the counts of the server.  Once a floor was filled, the return key of the administrator does not
open the menu before the counts are the same.
-/

namespace MealVendor

/-- A row of the page. -/
@[ext] structure SyncRow where
  name : List UInt8
  number : List UInt8

/-- A row without a meal. -/
def SyncRow.blank : SyncRow := ⟨nameRow 0, []⟩

/-- Row `i` as it is on the screen. -/
def Display.syncRow (d : Display) (i : ℕ) : SyncRow where
  name := d.row (Show.syncColumn1stName.toNat + 256 * i) 12
  number := d.text (Show.syncColumn1stNumber.toNat + 256 * i) 4

section Sync

variable {low : UInt8 → UInt8} {d : Display} {mealCnt : Kind → UInt8}

/-- What the two frames of a row make of the screen. -/
def setSync (low : UInt8 → UInt8) (mealId mealCnt floor : UInt8) (d : Display) : Display :=
  (d.write (Show.syncColumn1stName + floor.toUInt16 * 0x0100) (nameRow mealId)).writeText low
    (Show.syncColumn1stNumber + floor.toUInt16 * 0x0100) (countText mealCnt)

lemma does_syncRow (mealId mealCnt floor : UInt8) :
    Does low (Show.syncRow mealId mealCnt floor) (setSync low mealId mealCnt floor) :=
  (does_nameDisp _ _ _).append (does_textDisp _ _ _)

/-- The row is set, and the others stay. -/
lemma syncRow_setSync {mealId mealCnt floor : UInt8} {j : ℕ} (h : floor.toNat < 4) (hj : j < 4) :
    (setSync low mealId mealCnt floor d).syncRow j =
      if j = floor.toNat then ⟨nameRow mealId, countText mealCnt⟩ else d.syncRow j := by
  have hname := toNat_block (a := Show.syncColumn1stName) (by decide) h
  have hnumber := toNat_block (a := Show.syncColumn1stNumber) (by decide) h
  have hname₀ : Show.syncColumn1stName.toNat = 0x4500 := rfl
  have hnumber₀ : Show.syncColumn1stNumber.toNat = 0x4900 := rfl
  have hlen := length_nameRow mealId
  have hlenC := length_countText_le mealCnt
  have hrow : (setSync low mealId mealCnt floor d).row
      (Show.syncColumn1stName.toNat + 256 * j) 12 = if j = floor.toNat then nameRow mealId
        else d.row (Show.syncColumn1stName.toNat + 256 * j) 12 := by
    rw [setSync, row_writeText_of_disjoint (by omega)]
    split_ifs with hjf
    · rw [hjf, ← hname, row_write hlen]
    · exact row_write_of_disjoint (by omega)
  have htext : (setSync low mealId mealCnt floor d).text
      (Show.syncColumn1stNumber.toNat + 256 * j) 4 = if j = floor.toNat then countText mealCnt
        else d.text (Show.syncColumn1stNumber.toNat + 256 * j) 4 := by
    rw [setSync]
    split_ifs with hjf
    · rw [hjf, ← hnumber, text_writeText (zero_notMem_countText _) (by omega)]
    · rw [text_writeText_of_disjoint (by omega), text_write_of_disjoint (by omega)]
  rw [Display.syncRow, hrow, htext, Display.syncRow]
  split_ifs <;> rfl

/-- The rows are emptied. -/
def clearSync (low : UInt8 → UInt8) (d : Display) : Display :=
  setSync low 0 0xff 3 (setSync low 0 0xff 2 (setSync low 0 0xff 1 (setSync low 0 0xff 0 d)))

lemma does_clearSync :
    Does low ((List.range 4).flatMap fun i => Show.syncRow 0 0xff (UInt8.ofNat i))
      (clearSync low) :=
  Does.flatMap (fun _ => does_syncRow _ _ _) (List.range 4)

lemma syncRow_clearSync {j : ℕ} (hj : j < 4) : (clearSync low d).syncRow j = .blank := by
  rw [clearSync]
  interval_cases j <;> simp [syncRow_setSync, SyncRow.blank, countText]

/-- The row of a kind. -/
def setSyncKind (low : UInt8 → UInt8) (mealCnt : Kind → UInt8) (k : Kind) (floor : ℕ) :
    Display → Display :=
  setSync low k.id (mealCnt k) (UInt8.ofNat floor)

lemma does_syncRows (mealCnt : Kind → UInt8) (ks : List Kind) (floor : ℕ) :
    Does low (Show.syncRows mealCnt ks floor) (Lib.fill (setSyncKind low mealCnt) ks floor) := by
  induction ks generalizing floor with
  | nil => exact Does.nil
  | cons k ks ih => exact (does_syncRow _ _ _).append (ih (floor + 1))

/-- The row of a kind, as it is sent. -/
def sentSync (mealCnt : Kind → UInt8) (k : Kind) : SyncRow := ⟨nameRow k.id, countText (mealCnt k)⟩

lemma setSyncKind_writes (mealCnt : Kind → UInt8) :
    Lib.Writes Display.syncRow .blank (sentSync mealCnt) 4 (setSyncKind low mealCnt) :=
  .of_single fun k j d i hj hi => by
    have hfloor := toNat_floor hj
    rw [setSyncKind, syncRow_setSync (by omega) hi, hfloor]
    rfl

/-- A frame with the address of the register in place of the command does nothing. -/
lemma does_screenControl (cmd : UInt8) : Does low (Show.screenControl cmd) id := by
  have heq : Show.screenControl cmd =
      lcd.message 4 [Show.tpcEnable, 0, cmd, 0] ++ List.replicate 1 0 := rfl
  rw [heq]
  exact (Does.message rfl 1).congr fun _ => rfl

/-! ## The page with the result -/

/-- What the comparison makes of the screen: a page, and on it some kinds with their counts. -/
def syncShown (low : UInt8 → UInt8) (s : Stock) (page : UInt8) (mealCnt : Kind → UInt8)
    (ks : List Kind) (d : Display) : Display :=
  leftShown s (Lib.fill (setSyncKind low mealCnt) ks 0 ((clearSync low d).setPage page))

lemma does_syncPage (s : Stock) (page : UInt8) (mealCnt : Kind → UInt8) (ks : List Kind) :
    Does low ((List.range 4).flatMap (fun i => Show.syncRow 0 0xff (UInt8.ofNat i)) ++
      Show.screenControl 0x00 ++ (Show.pageChange page ++ Show.syncRows mealCnt ks 0) ++
        Show.screenControl 0x01 ++ Show.dispLeftMeal s) (syncShown low s page mealCnt ks) :=
  (((does_clearSync.append (does_screenControl 0)).append
    ((does_pageChange page).append (does_syncRows mealCnt ks 0))).append
      (does_screenControl 1)).append (does_dispLeftMeal s)

lemma syncRow_leftShown (s : Stock) (j : ℕ) : (leftShown s d).syncRow j = d.syncRow j := by
  have hname₀ : Show.syncColumn1stName.toNat = 0x4500 := rfl
  have hnumber₀ : Show.syncColumn1stNumber.toNat = 0x4900 := rfl
  have hwrite : ∀ {a : UInt16} {d : Display} (c : UInt8), a.toNat < 0x25 →
      (d.write a [0, c]).syncRow j = d.syncRow j := by
    intro a d c ha
    have hlen : [0, c].length = 2 := rfl
    rw [Display.syncRow, row_write_of_disjoint (by omega), text_write_of_disjoint (by omega),
      Display.syncRow]
  rw [leftShown, hwrite _ (by decide), hwrite _ (by decide), hwrite _ (by decide),
    hwrite _ (by decide)]

/-- The rows are the kinds, one after the other. -/
lemma syncRow_syncShown (s : Stock) (page : UInt8) {ks : List Kind} (hks : ks.length ≤ 4)
    (i : Fin 4) : (syncShown low s page mealCnt ks d).syncRow i.val =
      (ks[i.val]?.map (sentSync mealCnt)).getD .blank := by
  have hblank : ∀ j, 0 ≤ j → j < 4 → ((clearSync low d).setPage page).syncRow j = .blank :=
    fun j _ hj => syncRow_clearSync hj
  rw [syncShown, syncRow_leftShown, (setSyncKind_writes mealCnt).fill (by omega) hblank i.isLt,
    if_neg (Nat.not_lt_zero _), Nat.sub_zero]

/-- Registers are not touched by rows. -/
lemma reg_syncShown (s : Stock) (page : UInt8) (ks : List Kind) :
    (syncShown low s page mealCnt ks d).reg = (d.setPage page).reg := by
  have hfill : (Lib.fill (setSyncKind low mealCnt) ks 0 ((clearSync low d).setPage page)).reg =
      ((clearSync low d).setPage page).reg := Lib.fill_fixed fun _ _ _ _ => rfl
  exact hfill

lemma page_syncShown (s : Stock) (page : UInt8) (ks : List Kind) :
    (syncShown low s page mealCnt ks d).page = page := by
  rw [Display.page, reg_syncShown]
  rfl

/-- `ScreenControl` leaves its register as it was. -/
lemma tpcEnable_syncShown (s : Stock) (page : UInt8) (ks : List Kind) :
    (syncShown low s page mealCnt ks d).reg Show.tpcEnable.toNat = d.reg Show.tpcEnable.toNat := by
  have hbehind : Show.picID.toNat + [0, page].length ≤ Show.tpcEnable.toNat :=
    Nat.le_of_ble_eq_true rfl
  rw [reg_syncShown]
  exact Lib.stored_of_le hbehind

variable {t : Terminal} {s : Stock} {part : Kind → UInt8}

/-- The server has the same counts. -/
lemma receive_synchronize_same (h : t.rx = .idle) (hpart : part = fun _ => 0xff) :
    (t.receive low (Show.synchronize part s)).display =
      syncShown low s Show.dataSynchronization (fun k => (s.defineMeal k).mealCount)
        (List.finRange 4) t.display := by
  rw [Show.synchronize, if_pos hpart, (does_syncPage s _ _ _).receive h]

/-- The server has other counts, or there is no reply. -/
lemma receive_synchronize_other (h : t.rx = .idle) (hpart : part ≠ fun _ => 0xff) :
    (t.receive low (Show.synchronize part s)).display =
      syncShown low s (Show.dataSynchronization + 2) part (Show.syncKinds part) t.display := by
  rw [Show.synchronize, if_neg hpart, (does_syncPage s _ _ _).receive h]

end Sync

/-- With the fourth key of `mealinput_choose`, whatever the screen showed before: if the server has
the same counts its page shows all kinds, rightly exactly if no count is 255; else the other page
shows the kinds that differ with the counts of the server.  The touch panel is never locked, since
the frames of `ScreenControl` have no command that is known. -/
theorem synchronize_shows_iff (low : UInt8 → UInt8) (t : Terminal) (s : Stock)
    (part : Kind → UInt8) (h : t.rx = .idle) :
    let d := (t.receive low (Show.synchronize part s)).display
    (part = (fun _ => 0xff) → d.page = Show.dataSynchronization ∧
      ((∀ k : Kind, d.syncRow k.val = ⟨nameRow k.id, Show.decimal (s.defineMeal k).mealCount⟩) ↔
        ∀ k, (s.defineMeal k).mealCount ≠ 0xff)) ∧
    (part ≠ (fun _ => 0xff) → d.page = Show.dataSynchronization + 2 ∧
      ∀ i : Fin 4, d.syncRow i.val = ((Show.syncKinds part)[i.val]?.map fun k =>
        ⟨nameRow k.id, Show.decimal (part k)⟩).getD .blank) ∧
    d.reg Show.tpcEnable.toNat = t.display.reg Show.tpcEnable.toNat := by
  intro d
  by_cases hpart : part = fun _ => 0xff
  · have hd : d = _ := receive_synchronize_same h hpart
    rw [hd]
    refine ⟨fun _ => ⟨page_syncShown .., forall_congr' fun k => ?_⟩,
      fun hne => absurd hpart hne, tpcEnable_syncShown ..⟩
    rw [syncRow_syncShown s _ (by rw [List.length_finRange])]
    simp [sentSync, countText_eq_iff]
  · have hd : d = _ := receive_synchronize_other h hpart
    rw [hd]
    refine ⟨fun heq => absurd heq hpart, fun _ => ⟨page_syncShown .., fun i => ?_⟩,
      tpcEnable_syncShown ..⟩
    rw [syncRow_syncShown s _ (length_syncKinds part)]
    cases hk : (Show.syncKinds part)[i.val]? with
    | none => rfl
    | some k =>
      -- a count of the server that is shown is not 255
      have hmem := List.mem_of_getElem? hk
      have hcnt : part k ≠ 0xff := by
        rw [Show.syncKinds, List.mem_filter, decide_eq_true_eq] at hmem
        exact hmem.2
      rw [Option.map_some, Option.map_some, Option.getD_some, Option.getD_some, sentSync,
        countText_eq_iff.mpr hcnt]

/-- The server has two meals of the second kind, of which none is left. -/
def Display.secondDiffers : Display :=
  (Terminal.start.receive id (Show.synchronize (fun k => if k = 1 then 2 else 0xff)
    (stocked 3).stock)).display

/-- It is the only row. -/
theorem synchronize_shows_second :
    Display.secondDiffers.page = Show.dataSynchronization + 2 ∧
    Display.secondDiffers.syncRow 0 = ⟨nameRow 2, ['2'].map Char.toUInt8⟩ ∧
    Display.secondDiffers.syncRow 1 = .blank := by
  obtain ⟨-, hother, -⟩ := synchronize_shows_iff id Terminal.start (stocked 3).stock
    (fun k => if k = 1 then 2 else 0xff) rfl
  obtain ⟨hpage, hrow⟩ := hother fun heq => absurd (congrFun heq 1) (by decide)
  exact ⟨hpage, hrow 0, hrow 1⟩

/-! ## The way back to the menu -/

namespace Shop

variable {low : UInt8 → UInt8} {s t p q : Shop} {x : Event} {es : List Event}

/-- A floor is filled: the third key of `mealinput_choose`. -/
def Event.Fills : Event → Prop
  | .program (.screen f _) _ => f.variable = some .mealinputChoose ∧ f.data1 = 3
  | _ => False

/-- A comparison in which the server has the same counts. -/
def Event.Agrees : Event → Prop
  | .program (.screen f _) v =>
    f.variable = some .mealinputChoose ∧ f.data1 = 4 ∧ v.part = fun _ => 0xff
  | _ => False

/-- `mealneed_sync` is set by filling a floor, and cleared by such a comparison only. -/
lemma mealneedSync_step (hs : s.step low x = some q) :
    (x.Fills → q.mealneedSync = true) ∧
      (q.mealneedSync = false → s.mealneedSync = false ∨ x.Agrees) := by
  cases x with
  | touch a d0 d1 =>
    cases hs
    exact ⟨False.elim, .inl⟩
  | program x v =>
    obtain ⟨m, -, rfl⟩ := Option.map_eq_some_iff.mp hs
    cases x with
    | screen f io =>
      dsimp only [needsSync]
      split_ifs with hvar h3 h4
      · exact ⟨fun _ => rfl, fun h => by cases h⟩
      · refine ⟨fun h => absurd h.2 h3, fun h => .inr ⟨hvar, h4, ?_⟩⟩
        rwa [decide_eq_false_iff_not, not_not] at h
      · exact ⟨fun h => absurd h.2 h3, .inl⟩
      · exact ⟨fun h => absurd h.1 hvar, .inl⟩
    | _ => exact ⟨False.elim, .inl⟩

/-- What has to be compared stays so up to a comparison. -/
lemma agrees_of_cleared (hrun : Lib.runFrom (step low) s es = some p) (hs : s.mealneedSync = true)
    (hp : p.mealneedSync = false) : ∃ z ∈ es, z.Agrees := by
  induction es generalizing s with
  | nil =>
    cases hrun
    rw [hs] at hp
    cases hp
  | cons x es ih =>
    rw [Lib.runFrom_cons] at hrun
    obtain ⟨t, ht, hrun⟩ := Option.bind_eq_some_iff.mp hrun
    cases hneed : t.mealneedSync with
    | true =>
      obtain ⟨z, hz, hagrees⟩ := ih hrun hneed
      exact ⟨z, List.mem_cons_of_mem x hz, hagrees⟩
    | false =>
      rcases (mealneedSync_step ht).2 hneed with hclear | hagrees
      · rw [hs] at hclear
        cases hclear
      · exact ⟨x, List.mem_cons_self, hagrees⟩

/-- After a floor was filled. -/
lemma agrees_of_fills {pre post : List Event}
    (hrun : Lib.runFrom (step low) s (pre ++ x :: post) = some p) (hx : x.Fills)
    (hp : p.mealneedSync = false) : ∃ z ∈ post, z.Agrees := by
  rw [Lib.runFrom_append] at hrun
  obtain ⟨t, -, hrun⟩ := Option.bind_eq_some_iff.mp hrun
  rw [Lib.runFrom_cons] at hrun
  obtain ⟨q, hq, hrun⟩ := Option.bind_eq_some_iff.mp hrun
  exact agrees_of_cleared hrun ((mealneedSync_step hq).1 hx) hp

end Shop

/-- In every run from power-up: the return key of the administrator opens no page but the menu, and
it does so only if after each filling of a floor there was a comparison in which the server had the
same counts. -/
theorem return_needs_comparison (low : UInt8 → UInt8) {m : Machine} {t : Terminal} {b : Bool}
    {es : List Shop.Event} {p q : Shop} {f : Frame} {io : Io} {v : Show.Values} (hm : IsPowerUp m)
    (ht : t.rx = .idle) (hrun : Lib.Runs (Shop.step low) Shop.Aside ⟨m, t, b⟩ es p)
    (hvar : f.variable = some .adminSet) (hkey : f.data1 = 3)
    (hstep : p.step low (.program (.screen f io) v) = some q)
    (hpage : q.terminal.display.page ≠ p.terminal.display.page) :
    q.terminal.display.page = Show.menuInterface ∧
      ∀ pre x post, es = pre ++ x :: post → x.Fills → ∃ z ∈ post, z.Agrees := by
  have hright := Shop.right_run (Shop.right_powerUp hm ht b) hrun
  obtain ⟨m', -, rfl⟩ := Option.map_eq_some_iff.mp hstep
  have hsent : Show.step p.mealneedSync v p.machine (.screen f io) =
      if p.mealneedSync then [] else Show.pageChange Show.menuInterface := by
    rw [Show.step, Show.changeVariableValues, hvar, hkey]
    rfl
  rw [hsent] at hpage ⊢
  cases hneed : p.mealneedSync with
  | true =>
    rw [hneed] at hpage
    exact absurd rfl hpage
  | false =>
    refine ⟨((sets_pageChange _).receive hright.rx).2, fun pre x post hes hx => ?_⟩
    rw [hes] at hrun
    exact Shop.agrees_of_fills hrun.runFrom hx hneed

/-- The server has the same counts. -/
def Show.Values.same : Show.Values := { Show.Values.quiet with part := fun _ => 0xff }

/-- A floor is filled, compared, and then the menu is opened. -/
theorem return_needs_comparison_filled :
    ∃ p q, Lib.checkedRun (Shop.step id) Shop.Aside (Shop.start 3)
        (((startUp ++ fillSecondFloor.take 3).map (.program · .quiet)) ++
          .program (.touch 0x1A 3) .quiet :: [.program (.touch 0x1A 4) .same]) = some p ∧
      p.step id (.program (.touch 0x06 3) .quiet) = some q ∧
      q.terminal.display.page = Show.menuInterface ∧
      ∃ z ∈ [Shop.Event.program (.touch 0x1A 4) .same], z.Agrees := by
  have hrun : (Lib.checkedRun (Shop.step id) Shop.Aside (Shop.start 3)
      (((startUp ++ fillSecondFloor.take 3).map (.program · .quiet)) ++
        .program (.touch 0x1A 3) .quiet :: [.program (.touch 0x1A 4) .same])).any
          (fun p => p.terminal.display.page = Show.dataSynchronization ∧
            (p.step id (.program (.touch 0x06 3) .quiet)).any
              (fun q => q.terminal.display.page = Show.menuInterface) = true) = true := by
    decide +kernel
  obtain ⟨p, hp, hsync, hany⟩ := Lib.exists_of_any hrun
  obtain ⟨q, hq, hmenu⟩ := Lib.exists_of_any hany
  have hpage : q.terminal.display.page ≠ p.terminal.display.page := by
    rw [hsync, hmenu]
    decide
  obtain ⟨hopen, hagrees⟩ := return_needs_comparison id (stocked_isPowerUp 3) rfl
    (.of_checkedRun hp) rfl rfl hq hpage
  exact ⟨p, q, hp, hq, hopen, hagrees _ _ _ rfl ⟨rfl, rfl⟩⟩

end MealVendor
