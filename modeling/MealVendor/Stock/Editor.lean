import MealVendor.Model.Editor
import MealVendor.Stock.Admin
import MealVendor.Model.Main

/-!
# Where the administrator edits

The number of the edited floor is what the screen has sent, 0 at power-up and after the return key.
So the messages of the administrator stay inside of the floor table exactly if every number that is
entered is one of a floor, and one has been entered before a kind is chosen or the floor is
confirmed.
-/

namespace MealVendor

/-! ## The order of the messages -/

/-- Whether a floor has been entered since power-up and the last return key. -/
def AdminMsg.entered (b : Bool) : AdminMsg → Bool
  | .floorNum _ => true
  | .key d _ => if d = 5 then false else b
  | _ => b

/-- A message that may come: the numbers of floors are 1 to 15, and where the edited floor is
looked at, one has been entered. -/
def AdminMsg.Allowed (b : Bool) : AdminMsg → Prop
  | .enter => b = true
  | .mealNum _ => b = true
  | .floorNum d => 1 ≤ d ∧ d ≤ 15
  | .row _ _ => True
  | .key d _ => d = 3 → b = true

/-- All messages may come where they come. -/
def InOrder : Bool → List AdminMsg → Prop
  | _, [] => True
  | b, m :: ms => m.Allowed b ∧ InOrder (m.entered b) ms

namespace Editor

/-- Every message comes where `P` holds. -/
def Along (P : Editor → AdminMsg → Prop) : Editor → List AdminMsg → Prop
  | _, [] => True
  | e, m :: ms => P e m ∧ Along P (e.handle m) ms

/-- Floor `i` is not the one whose number was shown or entered last. -/
def NotShown (e : Editor) (i : Floor) : Prop := e.shown ≠ some (UInt8.ofNat (i.val + 1))

/-- The accesses up to this message are inside of the table, and if it is the confirm key only the
floor that was shown last is changed. -/
structure Stays (e : Editor) (m : AdminMsg) : Prop where
  inside : ∀ i ∈ (e.handle m).accesses, 0 ≤ i ∧ i ≤ 14
  keeps : ∀ readBack, m = .key 3 readBack → ∀ i, e.NotShown i →
    (e.handle m).stock.floorMeal i = e.stock.floorMeal i

/-- If the comparison of `WriteMeal` fails, the other floors are read back as they were. -/
def FlashKeeps (e : Editor) (m : AdminMsg) : Prop :=
  ∀ r, m = .key 3 (some r) → ∀ i, e.NotShown i → r i = e.stock.floorMeal i

/-- The edited floor is 0 or the one that was shown last. -/
structure Ready (b : Bool) (e : Editor) : Prop where
  inside : ∀ i ∈ e.accesses, 0 ≤ i ∧ i ≤ 14
  returned : b = false → e.stock.curFloor.floorNum = 0
  entered : b = true → 1 ≤ e.stock.curFloor.floorNum ∧ e.stock.curFloor.floorNum ≤ 15 ∧
    e.shown = some e.stock.curFloor.floorNum

variable {e : Editor} {b : Bool} {m : AdminMsg}

/-! ## What one message does -/

/-- The edited floor is one of the table. -/
def OnFloor (e : Editor) : Prop :=
  1 ≤ e.stock.curFloor.floorNum ∧ e.stock.curFloor.floorNum ≤ 15

lemma onFloor_iff_toNat : e.OnFloor ↔
    1 ≤ e.stock.curFloor.floorNum.toNat ∧ e.stock.curFloor.floorNum.toNat ≤ 15 :=
  Iff.rfl

lemma Ready.onFloor_iff (h : e.Ready b) : e.OnFloor ↔ b = true := by
  cases b with
  | true => exact iff_of_true ⟨(h.entered rfl).1, (h.entered rfl).2.1⟩ rfl
  | false =>
    refine iff_of_false (fun hon => ?_) Bool.false_ne_true
    rw [OnFloor, h.returned rfl] at hon
    exact absurd hon.1 (by decide)

/-- The access is inside of the table exactly if the edited floor is one of it. -/
lemma forall_mem_access (h : ∀ i ∈ e.accesses, 0 ≤ i ∧ i ≤ 14) :
    (∀ i ∈ e.access.accesses, 0 ≤ i ∧ i ≤ 14) ↔ e.OnFloor := by
  rw [access, List.forall_mem_cons, and_iff_left h, onFloor_iff_toNat]
  omega

lemma forall_mem_accessAll :
    (∀ i ∈ e.accessAll.accesses, 0 ≤ i ∧ i ≤ 14) ↔ ∀ i ∈ e.accesses, 0 ≤ i ∧ i ≤ 14 := by
  rw [accessAll, List.forall_mem_append, and_iff_right]
  intro i hi
  obtain ⟨n, hn, rfl⟩ := List.mem_map.mp hi
  have := List.mem_range.mp hn
  rw [Int.ofNat_eq_natCast]
  omega

lemma initSetting_curFloor_floorNum (s : Stock) :
    s.initSetting.curFloor.floorNum = s.curFloor.floorNum := by
  rw [Stock.initSetting]
  cases s.curIndex with
  | none => rfl
  | some i =>
    dsimp only
    split_ifs <;> rfl

lemma suggest_floorNum (s : Stock) :
    s.suggest.curFloor.floorNum = s.curFloor.floorNum ∨
      ∃ i : Floor, s.suggest.curFloor.floorNum = UInt8.ofNat (i.val + 1) := by
  rw [Stock.suggest]
  split
  · exact .inr ⟨_, rfl⟩
  · exact .inl rfl

/-- The suggested floor is one of the table if the edited one was. -/
lemma suggest_onFloor {s : Stock} (h : 1 ≤ s.curFloor.floorNum ∧ s.curFloor.floorNum ≤ 15) :
    1 ≤ s.suggest.curFloor.floorNum ∧ s.suggest.curFloor.floorNum ≤ 15 := by
  rcases suggest_floorNum s with heq | ⟨i, heq⟩
  · rw [heq]
    exact h
  · have hfloor : ∀ i : Floor, 1 ≤ UInt8.ofNat (i.val + 1) ∧ UInt8.ofNat (i.val + 1) ≤ 15 := by
      decide
    rw [heq]
    exact hfloor i

lemma curIndex_eq (h : e.OnFloor) : ∃ i : Floor,
    e.stock.curIndex = some i ∧ e.stock.curFloor.floorNum = UInt8.ofNat (i.val + 1) := by
  have hn := onFloor_iff_toNat.mp h
  refine ⟨⟨e.stock.curFloor.floorNum.toNat - 1, by omega⟩, dif_pos hn, ?_⟩
  apply UInt8.toNat_inj.mp
  rw [UInt8.toNat_ofNat']
  dsimp only
  omega

/-- The confirm key changes the edited floor only, but for what is read back. -/
lemma confirm_floorMeal_of_ne (readBack : Option (Floor → FloorAttribute)) (h : e.OnFloor)
    {i : Floor} (hi : e.stock.curFloor.floorNum ≠ UInt8.ofNat (i.val + 1)) :
    (e.stock.confirm readBack).floorMeal i = readBack.getD e.stock.floorMeal i := by
  obtain ⟨j, hj, hnum⟩ := curIndex_eq h
  have hij : i ≠ j := by
    rintro rfl
    exact hi hnum
  obtain ⟨cur, hconfirm⟩ := Stock.confirm_eq readBack hj
  rw [hconfirm]
  cases readBack with
  | none => exact Function.update_of_ne hij _ _
  | some r => rfl

lemma confirm_floorNum (readBack : Option (Floor → FloorAttribute)) (s : Stock) :
    (s.confirm readBack).curFloor.floorNum = s.curFloor.floorNum := by
  rw [Stock.confirm]
  dsimp only
  split
  · cases readBack <;> rfl
  · cases readBack <;> rfl

/-! ## The messages one by one -/

/-- Only the confirm key stores. -/
lemma stays_iff_of_ne (hne : ∀ readBack, m ≠ .key 3 readBack)
    (hinside : (∀ i ∈ (e.handle m).accesses, 0 ≤ i ∧ i ≤ 14) ↔ m.Allowed b) :
    e.Stays m ↔ m.Allowed b ∧ e.FlashKeeps m := by
  have hflash : e.FlashKeeps m := fun _ heq => absurd heq (hne _)
  rw [and_iff_left hflash, ← hinside]
  exact ⟨Stays.inside, fun h => ⟨h, fun readBack heq => absurd heq (hne readBack)⟩⟩

/-- A confirm key that comes with the edited floor on the screen. -/
lemma stays_confirm_iff (h : e.Ready true) (readBack : Option (Floor → FloorAttribute)) :
    e.Stays (.key 3 readBack) ↔ e.FlashKeeps (.key 3 readBack) := by
  have hon : e.OnFloor := h.onFloor_iff.mpr rfl
  have hinside : ∀ i ∈ (e.handle (.key 3 readBack)).accesses, 0 ≤ i ∧ i ≤ 14 :=
    forall_mem_accessAll.mpr ((forall_mem_access h.inside).mpr hon)
  have hstore : ∀ i, e.NotShown i →
      (e.handle (.key 3 readBack)).stock.floorMeal i = readBack.getD e.stock.floorMeal i := by
    intro i hi
    refine confirm_floorMeal_of_ne readBack hon fun heq => hi ?_
    rw [(h.entered rfl).2.2, heq]
  constructor
  · rintro hstays r heq i hi
    cases heq
    rw [← hstays.keeps (some r) rfl i hi, hstore i hi]
    rfl
  · refine fun hflash => ⟨hinside, fun readBack' heq i hi => ?_⟩
    cases heq
    rw [hstore i hi]
    cases readBack with
    | none => rfl
    | some r => exact hflash r rfl i hi

lemma stays_iff (h : e.Ready b) : e.Stays m ↔ m.Allowed b ∧ e.FlashKeeps m := by
  cases m with
  | enter =>
    exact stays_iff_of_ne (fun _ => AdminMsg.noConfusion)
      ((forall_mem_access h.inside).trans h.onFloor_iff)
  | mealNum d =>
    exact stays_iff_of_ne (fun _ => AdminMsg.noConfusion)
      ((forall_mem_access h.inside).trans h.onFloor_iff)
  | floorNum d =>
    exact stays_iff_of_ne (fun _ => AdminMsg.noConfusion)
      (forall_mem_access (e := { e with stock.curFloor.floorNum := d }) h.inside)
  | row c d => exact stays_iff_of_ne (fun _ => AdminMsg.noConfusion) (iff_of_true h.inside trivial)
  | key d readBack =>
    by_cases hd : d = 3
    · subst hd
      cases b with
      | true => exact (stays_confirm_iff h readBack).trans (and_iff_right fun _ => rfl).symm
      | false =>
        -- the edited floor is 0
        refine iff_of_false (fun hstays => ?_) fun hmay => Bool.false_ne_true (hmay.1 rfl)
        have hon := (forall_mem_access h.inside).mp (forall_mem_accessAll.mp hstays.inside)
        exact Bool.false_ne_true (h.onFloor_iff.mp hon)
    · refine stays_iff_of_ne (fun _ heq => ?_) (iff_of_true ?_ fun heq => absurd heq hd)
      · cases heq
        exact hd rfl
      · rw [handle, key, if_neg hd]
        split_ifs <;> exact h.inside

/-- A message that leaves the number of the edited floor as it is. -/
lemma Ready.congr {e' : Editor} (h : e.Ready b) (hinside : ∀ i ∈ e'.accesses, 0 ≤ i ∧ i ≤ 14)
    (hnum : e'.stock.curFloor.floorNum = e.stock.curFloor.floorNum) (hshown : e'.shown = e.shown) :
    e'.Ready b := by
  refine ⟨hinside, ?_, ?_⟩
  · rw [hnum]
    exact h.returned
  · rw [hnum, hshown]
    exact h.entered

lemma ready_handle (h : e.Ready b) (hm : m.Allowed b) (hstays : e.Stays m) :
    (e.handle m).Ready (m.entered b) := by
  have hinside := hstays.inside
  cases m with
  | enter => exact h.congr hinside (initSetting_curFloor_floorNum _) rfl
  | mealNum d =>
    have hon := h.onFloor_iff.mpr hm
    refine ⟨hinside, fun hb => absurd (hm.symm.trans hb) Bool.noConfusion, fun _ => ?_⟩
    have hinit : 1 ≤ ({ e with stock.curFloor.mealID := d }.initSetting).stock.curFloor.floorNum ∧
        ({ e with stock.curFloor.mealID := d }.initSetting).stock.curFloor.floorNum ≤ 15 := by
      rw [initSetting, initSetting_curFloor_floorNum]
      exact hon
    have hsuggest := suggest_onFloor hinit
    exact ⟨hsuggest.1, hsuggest.2, rfl⟩
  | floorNum d =>
    refine ⟨hinside, fun hb => absurd hb Bool.noConfusion, fun _ => ?_⟩
    rw [handle, floorNum, initSetting, initSetting_curFloor_floorNum]
    exact ⟨hm.1, hm.2, rfl⟩
  | row c d => exact h.congr hinside rfl rfl
  | key d readBack =>
    by_cases hd : d = 5
    · subst hd
      exact ⟨hinside, fun _ => rfl, fun h => absurd h Bool.false_ne_true⟩
    · rw [AdminMsg.entered, if_neg hd]
      refine h.congr hinside ?_ ?_
      · rw [handle, key_stock]
        split_ifs
        · rfl
        · rfl
        · exact confirm_floorNum readBack e.stock
        · rfl
      · rw [handle, key]
        split_ifs <;> rfl

/-- The messages of the administrator stay inside of the floor table, and each confirm key changes
only the floor that was shown last, exactly if they come in order and the flash reads back the
other floors as they were. -/
theorem along_stays_iff (s : Stock) (ms : List AdminMsg) :
    (start s).Along Stays ms ↔ InOrder false ms ∧ (start s).Along FlashKeeps ms := by
  have hready : (start s).Ready false := ⟨fun _ hi => absurd hi List.not_mem_nil, fun _ => rfl,
    fun h => absurd h Bool.false_ne_true⟩
  generalize start s = e at hready
  generalize false = b at hready
  induction ms generalizing e b with
  | nil => exact iff_of_true trivial ⟨trivial, trivial⟩
  | cons m ms ih =>
    constructor
    · rintro ⟨hstays, hrest⟩
      obtain ⟨hm, hflash⟩ := (stays_iff hready).mp hstays
      obtain ⟨horder, hkeeps⟩ := (ih _ _ (ready_handle hready hm hstays)).mp hrest
      exact ⟨⟨hm, horder⟩, hflash, hkeeps⟩
    · rintro ⟨⟨hm, horder⟩, hflash, hkeeps⟩
      have hstays := (stays_iff hready).mpr ⟨hm, hflash⟩
      exact ⟨hstays, (ih _ _ (ready_handle hready hm hstays)).mpr ⟨horder, hkeeps⟩⟩

/-- Floor 3 is entered, the administrator goes back and confirms: `FloorMeal[-1]` is stored. -/
theorem confirm_behind_return : ¬ ∀ (s : Stock) (ms : List AdminMsg), (start s).Along Stays ms := by
  intro h
  obtain ⟨-, -, hconfirm, -⟩ := h (Machine.reset fun _ => 0).stock
    [.floorNum 3, .key 5 none, .key 3 none]
  have hbefore := hconfirm.inside (-1) (by decide)
  exact absurd hbefore.1 (by decide)

end Editor

end MealVendor
