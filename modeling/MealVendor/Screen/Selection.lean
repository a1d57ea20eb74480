import MealVendor.Model.Main
import MealVendor.Screen.Shown

/-!
# The page of a kind

When a kind is chosen, its page shows one meal and its price.  Each count that is entered is checked
against the stock; the price of the count is shown, and a count beyond the stock is corrected.  For
the fourth kind the correction goes to a variable of the third.  The price is shown as a `char`,
which holds the price of 17 meals.
-/

namespace MealVendor

/-- The program and the screen, and a message between them that is dealt with at once. -/
structure Selection where
  machine : Machine
  terminal : Terminal

namespace Selection

/-- A key of the menu, or a count that is entered on the page of the chosen kind. -/
inductive Event
  | choose (d : UInt8)
  | count (d0 d1 : UInt8)

/-- One message.  The screen stores a count before it sends it. -/
def step (low : UInt8 → UInt8) (s : Selection) : Event → Option Selection
  | .choose d => some ⟨s.machine.mealChoose d,
      s.terminal.receive low (Show.mealChoose d s.machine)⟩
  | .count d0 d1 =>
    (Kind.ofID s.machine.session.userAct.mealID).map fun k =>
      ⟨s.machine.count k d1, (s.terminal.touch (Show.mealCnt k) d0 d1).receive low
        (Show.count k d1 s.machine)⟩

/-- The page of the chosen kind shows its count and the price of the count. -/
def Right (s : Selection) : Prop :=
  ∀ k : Kind, s.machine.session.userAct.mealID = k.id →
    s.terminal.display.word (Show.mealCnt k).toNat =
      (s.machine.session.userAct.mealCntT k).toUInt16 ∧
    (s.terminal.display.word (Show.mealCost k).toNat).toNat =
      price k * (s.machine.session.userAct.mealCntT k).toNat

/-- The price of the count is a byte. -/
def Priced (k : Kind) (c : UInt8) : Prop := price k * c.toNat < 256

/-- The count is a byte and in stock, or it is beyond the stock and not one of the fourth kind; and
the count that is taken has a price which is a byte. -/
def Fits (s : Selection) : Event → Prop
  | .choose _ => True
  | .count d0 d1 => ∀ k : Kind, s.machine.session.userAct.mealID = k.id →
      (d0 = 0 ∧ d1 ≤ (s.machine.stock.defineMeal k).mealCount ∧ Priced k d1) ∨
        ((s.machine.stock.defineMeal k).mealCount < d1 ∧ k ≠ 3 ∧
          Priced k (s.machine.stock.defineMeal k).mealCount)

instance (k : Kind) (c : UInt8) : Decidable (Priced k c) := Nat.decLt _ _

instance (s : Selection) (e : Event) : Decidable (s.Fits e) := by
  cases e with
  | choose c => exact .isTrue trivial
  | count d0 d1 =>
    exact inferInstanceAs (Decidable (∀ k : Fin 4, s.machine.session.userAct.mealID = Kind.id k →
      (d0 = 0 ∧ d1 ≤ (s.machine.stock.defineMeal k).mealCount ∧ Priced k d1) ∨
        ((s.machine.stock.defineMeal k).mealCount < d1 ∧ k ≠ 3 ∧
          Priced k (s.machine.stock.defineMeal k).mealCount)))

variable {low : UInt8 → UInt8} {s q : Selection} {d : Display} {k : Kind} {c d0 d1 : UInt8}

lemma toNat_mealCnt (k : Kind) : (Show.mealCnt k).toNat = 0x30 + 3 * k.val := by
  fin_cases k <;> rfl

lemma toNat_mealCost (k : Kind) : (Show.mealCost k).toNat = 0x32 + 3 * k.val := by
  fin_cases k <;> rfl

lemma does_mealCostDisp (k : Kind) (c : UInt8) :
    Does low (Show.mealCostDisp k.id c)
      (Display.write (Show.mealCost k) [0, getMealPrice k.id c]) := by
  have heq : Show.mealCostDisp k.id c =
      lcd.message 5 (writeBody (Show.mealCost k) [0, getMealPrice k.id c]) ++
        List.replicate 0 0 := by
    fin_cases k <;> rfl
  rw [heq]
  exact Does.write _ (m := 1) rfl rfl 0

/-- A byte in a word. -/
lemma ofNat_byte (c : UInt8) : UInt16.ofNat (256 * (0 : UInt8).toNat + c.toNat) = c.toUInt16 := by
  refine UInt16.toNat_inj.mp ?_
  rw [UInt16.toNat_ofNat', UInt8.toNat_toUInt16]
  have := c.toNat_lt
  change (256 * 0 + c.toNat) % 65536 = c.toNat
  omega

lemma ofNat_two_eq_iff :
    UInt16.ofNat (256 * d0.toNat + d1.toNat) = c.toUInt16 ↔ d0 = 0 ∧ d1 = c := by
  have hd0 := d0.toNat_lt
  have hd1 := d1.toNat_lt
  have hc := c.toNat_lt
  rw [← UInt16.toNat_inj, UInt16.toNat_ofNat', UInt8.toNat_toUInt16, ← UInt8.toNat_inj,
    ← UInt8.toNat_inj]
  change (256 * d0.toNat + d1.toNat) % 65536 = c.toNat ↔ d0.toNat = 0 ∧ d1.toNat = c.toNat
  omega

/-- The `char` is the price. -/
lemma price_shown_iff (k : Kind) (c : UInt8) :
    ((getMealPrice k.id c).toUInt16).toNat = price k * c.toNat ↔ Priced k c := by
  have hc := c.toNat_lt
  have hchar : (getMealPrice k.id c).toNat = price k * c.toNat % 256 := by
    rw [getMealPrice, Kind.ofID_id]
    exact UInt8.toNat_ofNat'
  rw [UInt8.toNat_toUInt16, hchar, Priced]
  omega

/-- One meal has a price that is a byte. -/
lemma priced_one (k : Kind) : Priced k 1 := by
  rw [Priced, price_eq]
  decide

/-- Only the chosen kind has its page open. -/
lemma right_iff (hk : s.machine.session.userAct.mealID = k.id) :
    s.Right ↔ s.terminal.display.word (Show.mealCnt k).toNat =
        (s.machine.session.userAct.mealCntT k).toUInt16 ∧
      (s.terminal.display.word (Show.mealCost k).toNat).toNat =
        price k * (s.machine.session.userAct.mealCntT k).toNat := by
  refine ⟨fun h => h k hk, fun h j hj => ?_⟩
  obtain rfl : k = j := Kind.id_injective (hk.symm.trans hj)
  exact h

/-- A kind that is in stock is chosen. -/
lemma right_choose (hrx : s.terminal.rx = .idle) (hk : Kind.ofID c = some k)
    (hstock : 0 < (s.machine.stock.defineMeal k).mealCount) :
    (s.terminal.receive low (Show.mealChoose c s.machine)).rx = .idle ∧
      Right ⟨s.machine.mealChoose c, s.terminal.receive low (Show.mealChoose c s.machine)⟩ := by
  have hcnt := toNat_mealCnt k
  have hcost := toNat_mealCost k
  have hc : c = k.id := Kind.ofID_eq_some hk
  have hsent : Show.mealChoose c s.machine = Show.variableChage Show.countDowm 60 ++
      Show.pageChange (Show.mealInterface k) ++ Show.variableChage (Show.mealCnt k) 1 ++
      Show.mealCostDisp k.id 1 := by
    rw [Show.mealChoose, hk]
    dsimp only
    rw [if_pos hstock, hc]
  have hdoes : s.terminal.receive low _ = ⟨.idle, _⟩ :=
    ((((does_variableChage Show.countDowm 60).append
      (does_pageChange (Show.mealInterface k))).append
      (does_variableChage (Show.mealCnt k) 1)).append (does_mealCostDisp k 1)).receive hrx
  have hmachine : s.machine.mealChoose c = ((s.machine.onTimers Timers.closeTIM4).onSession fun t =>
      { t with userAct := t.userAct.choose k }).onTimers Timers.openTIM3 := by
    rw [Machine.mealChoose, hk]
    exact if_pos hstock
  have hone : (s.machine.mealChoose c).session.userAct.mealCntT k = 1 := by
    rw [hmachine]
    exact Function.update_self _ _ _
  rw [hsent, hdoes]
  refine ⟨rfl, (right_iff (k := k) (by rw [hmachine]; rfl)).mpr ⟨?_, ?_⟩⟩
  · rw [hone]
    dsimp only
    rw [word_write_two, if_neg (by omega), word_write_wordBytes, if_pos rfl]
    rfl
  · rw [hone]
    dsimp only
    rw [word_write_two, if_pos rfl, ofNat_byte]
    exact (price_shown_iff k 1).mpr (priced_one k)

/-- A count is entered on the page of the chosen kind. -/
lemma right_count (low : UInt8 → UInt8) (d0 d1 : UInt8) (hrx : s.terminal.rx = .idle)
    (hk : s.machine.session.userAct.mealID = k.id) :
    ((s.terminal.touch (Show.mealCnt k) d0 d1).receive low (Show.count k d1 s.machine)).rx =
      .idle ∧
    (Right ⟨s.machine.count k d1, (s.terminal.touch (Show.mealCnt k) d0 d1).receive low
      (Show.count k d1 s.machine)⟩ ↔ s.Fits (.count d0 d1)) := by
  have hcnt := toNat_mealCnt k
  have hcost := toNat_mealCost k
  have hfits : s.Fits (.count d0 d1) ↔
      (d0 = 0 ∧ d1 ≤ (s.machine.stock.defineMeal k).mealCount ∧ Priced k d1) ∨
        ((s.machine.stock.defineMeal k).mealCount < d1 ∧ k ≠ 3 ∧
          Priced k (s.machine.stock.defineMeal k).mealCount) := by
    refine ⟨fun h => h k hk, fun h j hj => ?_⟩
    obtain rfl : k = j := Kind.id_injective (hk.symm.trans hj)
    exact h
  rw [hfits]
  by_cases hstock : d1 ≤ (s.machine.stock.defineMeal k).mealCount
  · have hmachine : s.machine.count k d1 =
        (s.machine.onSession fun t => { t with userAct := t.userAct.draft k d1 }).emit
          (.draft k s.machine.session.userAct.mealID d1) := if_pos hstock
    have hone : (s.machine.count k d1).session.userAct.mealCntT k = d1 := by
      rw [hmachine]
      exact Function.update_self _ _ _
    have hsame : (s.machine.count k d1).session.userAct.mealID = k.id := by
      rw [hmachine]
      exact hk
    have hsent : Show.count k d1 s.machine = Show.mealCostDisp k.id d1 := by
      rw [Show.count, if_pos hstock, hone, hsame, List.append_nil]
    have hlt : ¬ (s.machine.stock.defineMeal k).mealCount < d1 := UInt8.not_lt.mpr hstock
    have hdoes : (s.terminal.touch (Show.mealCnt k) d0 d1).receive low _ = ⟨.idle, _⟩ :=
      (does_mealCostDisp k d1).receive hrx
    rw [hsent, hdoes]
    refine ⟨rfl, ?_⟩
    rw [right_iff (k := k) hsame, hone]
    dsimp only [Terminal.touch]
    rw [word_write_two, if_neg (by omega), word_write_two, if_pos rfl, word_write_two, if_pos rfl,
      ofNat_byte, ofNat_two_eq_iff, price_shown_iff]
    simp only [hstock, hlt, true_and, and_true, false_and, or_false]
  · -- the count is corrected, but for the fourth kind on another page
    have hlt : (s.machine.stock.defineMeal k).mealCount < d1 := UInt8.not_le.mp hstock
    have hmachine : s.machine.count k d1 = s.machine.onSession fun t =>
        { t with userAct := t.userAct.draftAll k (s.machine.stock.defineMeal k).mealCount } :=
      if_neg hstock
    have hone : (s.machine.count k d1).session.userAct.mealCntT k =
        (s.machine.stock.defineMeal k).mealCount := by
      rw [hmachine]
      exact Function.update_self _ _ _
    have hsame : (s.machine.count k d1).session.userAct.mealID = k.id := by
      rw [hmachine]
      exact hk
    have hsent : Show.count k d1 s.machine =
        Show.mealCostDisp k.id (s.machine.stock.defineMeal k).mealCount ++
          Show.variableChage (Show.corrected k)
            (s.machine.stock.defineMeal k).mealCount.toUInt16 := by
      rw [Show.count, if_neg hstock, hone, hsame]
    have hdoes : (s.terminal.touch (Show.mealCnt k) d0 d1).receive low _ = ⟨.idle, _⟩ :=
      ((does_mealCostDisp k (s.machine.stock.defineMeal k).mealCount).append
        (does_variableChage (Show.corrected k)
          (s.machine.stock.defineMeal k).mealCount.toUInt16)).receive hrx
    rw [hsent, hdoes]
    refine ⟨rfl, ?_⟩
    rw [right_iff (k := k) hsame, hone]
    dsimp only [Terminal.touch]
    have hcorrected : (Show.corrected k).toNat =
        if k = 3 then 0x38 else (Show.mealCnt k).toNat := by
      fin_cases k <;> rfl
    by_cases h3 : k = 3
    · -- what the customer has entered stands there still
      rw [if_pos h3] at hcorrected
      have hthree : (Show.mealCnt k).toNat = 0x39 := by rw [h3]; rfl
      have hne : d1 ≠ (s.machine.stock.defineMeal k).mealCount := fun heq =>
        hstock (heq ▸ UInt8.le_refl _)
      rw [word_write_wordBytes, if_neg (by omega), word_write_two, if_neg (by omega),
        word_write_two, if_pos rfl, ofNat_two_eq_iff]
      refine iff_of_false (fun h => hne h.1.2) ?_
      rintro (⟨-, h, -⟩ | ⟨-, h, -⟩)
      · exact hstock h
      · exact h h3
    · rw [if_neg h3] at hcorrected
      rw [word_write_wordBytes, if_pos hcorrected.symm, word_write_wordBytes, if_neg (by omega),
        word_write_two, if_pos rfl, ofNat_byte, price_shown_iff]
      simp [hlt, h3]

/-- A key of the menu that chooses nothing. -/
lemma right_choose_none {bs : List UInt8} {m : Machine} (h : s.terminal.rx = .idle ∧ s.Right)
    (hm : m.session.userAct = s.machine.session.userAct)
    (hbs : bs = [] ∨ ∃ page, bs = Show.pageChange page) :
    (s.terminal.receive low bs).rx = .idle ∧ Right ⟨m, s.terminal.receive low bs⟩ := by
  obtain ⟨hrx, hright⟩ := h
  rcases hbs with rfl | ⟨page, rfl⟩
  · refine ⟨hrx, fun k hk => ?_⟩
    dsimp only at hk ⊢
    rw [hm] at hk ⊢
    exact hright k hk
  · rw [(does_pageChange page).receive hrx]
    refine ⟨rfl, fun k hk => ?_⟩
    dsimp only at hk ⊢
    rw [hm] at hk ⊢
    exact hright k hk

/-- One message, in both directions. -/
lemma step_right {e : Event} (hI : s.terminal.rx = .idle ∧ s.Right) (hs : s.step low e = some q) :
    (s.Fits e → q.terminal.rx = .idle ∧ q.Right) ∧ (q.Right → s.Fits e) := by
  cases e with
  | choose c =>
    cases hs
    refine ⟨fun _ => ?_, fun _ => trivial⟩
    cases hk : Kind.ofID c with
    | none =>
      have hmachine : s.machine.mealChoose c = s.machine.onTimers Timers.closeTIM4 := by
        rw [Machine.mealChoose, hk]
      refine right_choose_none hI (by rw [hmachine]; rfl) ?_
      rw [Show.mealChoose, hk]
      dsimp only
      split_ifs
      · exact .inr ⟨_, rfl⟩
      · exact .inl rfl
    | some k =>
      by_cases hstock : 0 < (s.machine.stock.defineMeal k).mealCount
      · exact right_choose hI.1 hk hstock
      · have hmachine : s.machine.mealChoose c = s.machine.onTimers Timers.closeTIM4 := by
          rw [Machine.mealChoose, hk]
          exact if_neg hstock
        refine right_choose_none hI (by rw [hmachine]; rfl) (.inl ?_)
        rw [Show.mealChoose, hk]
        exact if_neg hstock
  | count d0 d1 =>
    obtain ⟨k, hk, rfl⟩ := Option.map_eq_some_iff.mp hs
    obtain ⟨hrx, hiff⟩ := right_count low d0 d1 hI.1 (Kind.ofID_eq_some hk)
    exact ⟨fun hf => ⟨hrx, hiff.mpr hf⟩, hiff.mp⟩

end Selection

/-- In a run of messages of the menu and of the pages of the kinds, the page of the chosen kind
shows its count and the price of the count all the time exactly if each count that was entered is a
byte in stock, or beyond the stock and not one of the fourth kind, and the price of the count that
is taken is a byte. -/
theorem selection_right_iff (low : UInt8 → UInt8) {s t : Selection} {es : List Selection.Event}
    (hrx : s.terminal.rx = .idle) (hnone : s.machine.session.userAct.mealID = 0)
    (hrun : Lib.runFrom (Selection.step low) s es = some t) :
    Lib.Runs (Selection.step low) Selection.Fits s es t ↔
      ∀ pre post u, es = pre ++ post →
        Lib.runFrom (Selection.step low) s pre = some u → u.Right := by
  have hstart : s.Right := fun k hk => absurd (hnone.symm.trans hk).symm k.id_ne_zero
  exact Lib.runs_iff_forall_prefix (P := Selection.Right)
    (I := fun s => s.terminal.rx = .idle ∧ s.Right) (fun _ h => h.2)
    (fun _ _ _ h hs => Selection.step_right h hs) ⟨hrx, hstart⟩ hrun

/-- The first kind is chosen; four are entered, and then twenty, of which there are nine. -/
theorem selection_right_corrected :
    ∃ t, Lib.runFrom (Selection.step id) ⟨stocked 3, Terminal.start⟩
        [.choose 1, .count 0 4, .count 0 20] = some t ∧
      t.machine.session.userAct.mealCntT 0 = 9 ∧
      ∀ pre post u, [.choose 1, .count 0 4, .count 0 20] = pre ++ post →
        Lib.runFrom (Selection.step id) ⟨stocked 3, Terminal.start⟩ pre = some u → u.Right := by
  have hrun : ((Lib.checkedRun (Selection.step id) Selection.Fits ⟨stocked 3, Terminal.start⟩
      [.choose 1, .count 0 4, .count 0 20]).any fun t =>
        t.machine.session.userAct.mealCntT 0 = 9) = true := by
    decide +kernel
  obtain ⟨t, ht, hcnt⟩ := Lib.exists_of_any hrun
  have hruns := Lib.Runs.of_checkedRun ht
  exact ⟨t, hruns.runFrom, hcnt, (selection_right_iff id rfl rfl hruns.runFrom).mp hruns⟩

end MealVendor
