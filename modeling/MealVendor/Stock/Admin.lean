import MealVendor.Sale.Flow
import MealVendor.Stock.Consistent
import MealVendor.Stock.Move

/-!
# The stock over a run

`StatisticsTotal` copies the positions of the floors that hold a kind and leaves the other
ones alone.  The confirm key clears all positions before, so nothing is left over; the key
that clears everything does not.
-/

namespace MealVendor

/-- What `WriteMeal` reads back is what was written. -/
def Written (readBack : Option (Floor → FloorAttribute)) (floorMeal : Floor → FloorAttribute) :
    Prop :=
  ∀ r ∈ readBack, r = floorMeal

instance (readBack : Option (Floor → FloorAttribute)) (floorMeal : Floor → FloorAttribute) :
    Decidable (Written readBack floorMeal) :=
  inferInstanceAs (Decidable (∀ r ∈ readBack, _))

instance (floorMeal : Floor → FloorAttribute) : Decidable (FloorsSound floorMeal) :=
  decidable_of_iff
    ((∀ i, (floorMeal i).mealCount.toNat = (floorMeal i).columns) ∧
      ∀ j, kindTotal floorMeal j ≤ 255)
    ⟨fun h => ⟨h.1, h.2⟩, fun h => ⟨h.1, h.2⟩⟩

namespace Stock

variable {s : Stock}

/-- The floor table with the edited floor at `i`. -/
def withEdited (s : Stock) (i : Floor) : Floor → FloorAttribute :=
  Function.update s.floorMeal i
    { s.curFloor with
      mealCount := s.curFloor.count 0 + s.curFloor.count 1 + s.curFloor.count 2 }

/-- The confirm key stores the edited floor in the table, and no sum needs more than a
byte. -/
def Confirmable (readBack : Option (Floor → FloorAttribute)) (s : Stock) : Prop :=
  s.curIndex.isSome ∧ s.curFloor.columns ≤ 255 ∧
    ∀ i, s.curIndex = some i → (∀ j, kindTotal (s.withEdited i) j ≤ 255) ∧
      Written readBack (s.withEdited i)

instance (readBack : Option (Floor → FloorAttribute)) : Decidable (s.Confirmable readBack) :=
  inferInstanceAs (Decidable (_ ∧ _))

lemma writeMeal_eq_self {readBack : Option (Floor → FloorAttribute)}
    (h : Written readBack s.floorMeal) : s.writeMeal readBack = s := by
  unfold writeMeal
  cases readBack with
  | none => rfl
  | some r =>
    have hr := h r rfl
    subst hr
    rfl

/-- The edited floor is no part of the tables. -/
lemma Consistent.edit (h : s.Consistent) (cur : FloorAttribute) (place : Option (Floor × Column)) :
    { s with curFloor := cur, place := place }.Consistent :=
  ⟨h.position, h.mealCount, h.floor⟩

/-- The sum of the three columns. -/
lemma columns_eq (f : FloorAttribute) (h : f.columns ≤ 255) :
    (f.count 0 + f.count 1 + f.count 2).toNat = f.columns := by
  rw [FloorAttribute.columns] at h ⊢
  rw [Fin.sum_univ_three] at h ⊢
  rw [UInt8.toNat_add, UInt8.toNat_add]
  omega

/-- The table that the loops of the confirm key start from has the edited floor. -/
lemma confirm_eq (readBack : Option (Floor → FloorAttribute)) {i : Floor}
    (hi : s.curIndex = some i) : ∃ cur, s.confirm readBack =
      ({ s with curFloor := cur, floorMeal := s.withEdited i }.rebuild.statisticsTotal).writeMeal
        readBack := by
  set cur : FloorAttribute :=
    { s.curFloor with
      mealCount := s.curFloor.count 0 + s.curFloor.count 1 + s.curFloor.count 2 } with hcur
  have hindex : { s with curFloor := cur }.curIndex = some i := hi
  refine ⟨cur, ?_⟩
  rw [confirm]
  dsimp only
  rw [← hcur, hindex]
  rfl

/-- The confirm key makes the tables agree. -/
lemma confirm_consistent {readBack : Option (Floor → FloorAttribute)}
    (hfloor : ∀ i, (s.floorMeal i).mealCount.toNat = (s.floorMeal i).columns)
    (h : s.Confirmable readBack) : (s.confirm readBack).Consistent := by
  obtain ⟨hsome, hcol, htable⟩ := h
  obtain ⟨i, hi⟩ := Option.isSome_iff_exists.mp hsome
  obtain ⟨htotal, hwritten⟩ := htable i hi
  have hsound : FloorsSound (s.withEdited i) := by
    refine ⟨fun l => ?_, htotal⟩
    rw [withEdited]
    rcases eq_or_ne l i with rfl | hne
    · rw [Function.update_self]
      exact columns_eq s.curFloor hcol
    · rw [Function.update_of_ne hne]
      exact hfloor l
  obtain ⟨cur, hconfirm⟩ := confirm_eq readBack hi
  have hrebuild : { s with curFloor := cur, floorMeal := s.withEdited i }.rebuild.Consistent :=
    rebuild_consistent hsound
  rw [hconfirm, statisticsTotal_eq_self hrebuild, writeMeal_eq_self hwritten]
  exact hrebuild

lemma findMeal_pos {k : Kind} {l : Floor} {c : Column} (h : s.findMeal k = some (l, c)) :
    0 < (s.defineMeal k).position l c := by
  unfold findMeal at h
  simpa using List.find?_some h

end Stock

/-! ## The condition -/

/-- Case 1 of `WaitMeal` finds the selection as case 0 has left it, and what it writes to the
flash can be read back. -/
def Machine.TakesSafely (s : Machine) (io : Io) : Prop :=
  s.session.pc = .take → s.session.userAct.mealID ≠ 0 ∧
    ∀ l c, s.stock.place = some (l, c) → Written io.flash (s.stock.takeMeal none l c).floorMeal

instance (s : Machine) (io : Io) : Decidable (s.TakesSafely io) := by
  rw [Machine.TakesSafely]
  infer_instance

/-- Everything is cleared only when no position is left; what is confirmed fits; what is
written to the flash can be read back; the selection is not cleared between case 0 and
case 1 of `WaitMeal`. -/
def StockKept (s : Machine) (e : Event) : Prop :=
  match e with
  | .screen f io =>
    (f.variable = some .adminSet → f.data1 = 2 →
      (∀ j i c, (s.stock.defineMeal j).position i c = 0) ∧
        Written io.flash fun _ => FloorAttribute.empty) ∧
    (f.variable = some .mealinputChoose → f.data1 = 3 → s.stock.Confirmable io.flash)
  | .go io => s.TakesSafely io
  | _ => True

instance (s : Machine) : ∀ e, Decidable (StockKept s e)
  | .screen _ _ => inferInstanceAs (Decidable ((_ → _ → _ ∧ _) ∧ (_ → _ → _)))
  | .go io => inferInstanceAs (Decidable (s.TakesSafely io))
  | .coinIn | .coinOut | .tim3 | .tim4 | .tim5 | .tim7 | .pvd | .usart6 _ => .isTrue trivial

/-- Power-up with a sound floor table in the flash. -/
def SoundPowerUp (s : Machine) : Prop := IsPowerUp s ∧ FloorsSound s.stock.floorMeal

/-! ## The invariant -/

/-- The tables agree, and at case 1 of `WaitMeal` there is a meal in the place that was
found. -/
structure Machine.StockInv (s : Machine) : Prop where
  consistent : s.stock.Consistent
  take : s.session.pc = .take → ∃ k l c, s.stock.place = some (l, c) ∧
    0 < (s.stock.defineMeal k).position l c ∧
    (s.session.userAct.mealID = k.id ∨ s.session.userAct.mealID = 0)

lemma powerUp_stock (bkp : Fin 20 → UInt32) (flash : Floor → FloorAttribute) (io : Io) :
    (powerUp bkp flash io).stock =
      ({ (Machine.reset bkp).stock with floorMeal := fun i => (flash i).read }.writeMeal
        io.flash).statisticsTotal := by
  rw [powerUp, Machine.hardfawreInit]
  dsimp only
  split_ifs
  · rw [(Machine.abnormalHandle_passes _ _ _).stock]
    rfl
  · rfl
  · rfl

namespace Machine.StockInv

variable {s t : Machine} {e : Event}

lemma powerUp (h : SoundPowerUp s) : s.StockInv := by
  obtain ⟨⟨bkp, flash, io, rfl⟩, hsound⟩ := h
  have hstart := powerUp_start bkp flash io
  refine ⟨?_, fun hpc => ?_⟩
  · rw [powerUp_stock] at hsound ⊢
    refine Stock.statisticsTotal_consistent hsound fun j i c _ => ?_
    -- no position is set before
    unfold Stock.writeMeal
    split <;> rfl
  · have hflight := hstart.2.2.2.1
    rw [hpc] at hflight
    cases hflight

/-! One lemma for each way the stock can change. -/

lemma keep (h : s.StockInv) (hk : s.KeepsStock t) : t.StockInv := by
  refine ⟨hk.stock ▸ h.consistent, fun hpc => ?_⟩
  obtain ⟨hpc', hid⟩ := hk.take hpc
  obtain ⟨k, l, c, hp, hpos, hid'⟩ := h.take hpc'
  refine ⟨k, l, c, ?_, ?_, ?_⟩
  · rw [hk.stock]; exact hp
  · rw [hk.stock]; exact hpos
  · rcases hid with hid | hid
    · rw [hid]; exact hid'
    · exact .inr hid

/-- A message that leaves the tables in agreement. -/
lemma screen (hpc : s.session.pc.deals) (ht : t.session = s.session) (hs : t.stock.Consistent) :
    t.StockInv := by
  refine ⟨hs, fun hpc' => ?_⟩
  rw [← ht, hpc'] at hpc
  cases hpc

lemma found (h : s.stock.Consistent) {k : Kind} {l : Floor} {c : Column}
    (hp : s.stock.findMeal k = some (l, c)) (hs : t.stock = { s.stock with place := some (l, c) })
    (ht : t.session = (s.session.found k l c).goto .take) : t.StockInv := by
  refine ⟨?_, fun _ => ⟨k, l, c, ?_, ?_, ?_⟩⟩
  · rw [hs]; exact h.edit _ _
  · rw [hs]
  · rw [hs]; exact Stock.findMeal_pos hp
  · rw [ht]; exact .inl rfl

lemma notFound (h : s.StockInv) {k : Kind} (hpc : s.session.pc = .find)
    (hs : t.stock = { s.stock with place := none }) (ht : t.session = s.session.notFound k) :
    t.StockInv := by
  refine ⟨?_, fun hpc' => ?_⟩
  · rw [hs]; exact h.consistent.edit _ _
  · rw [ht] at hpc'
    exact absurd (hpc.symm.trans hpc') nofun

/-- Case 1 takes a meal of a kind from a place that has one. -/
lemma takes (h : s.StockInv) {io : Io} {l : Floor} {c : Column} (hG : s.TakesSafely io)
    (hpc : s.session.pc = .take) (hp : s.stock.place = some (l, c))
    (hs : t.stock = ((s.stock.takeMeal (Kind.ofID s.session.userAct.mealID) l c).writeMeal
      io.flash).statisticsTotal) :
    ∃ k, s.session.userAct.mealID = k.id ∧ 0 < (s.stock.defineMeal k).position l c ∧
      t.stock = s.stock.takeMeal (some k) l c := by
  obtain ⟨hid, hwritten⟩ := hG hpc
  obtain ⟨k, l', c', hp', hpos, hid'⟩ := h.take hpc
  obtain ⟨rfl, rfl⟩ : l = l' ∧ c = c' := by simpa [hp] using hp'
  have hid := hid'.resolve_right hid
  have htake := h.consistent.takeMeal hpos
  have hw : Written io.flash (s.stock.takeMeal (some k) l c).floorMeal := hwritten l c hp
  refine ⟨k, hid, hpos, ?_⟩
  rw [hs, hid, Kind.ofID_id, Stock.writeMeal_eq_self hw, Stock.statisticsTotal_eq_self htake]

lemma taken (h : s.StockInv) {k : Kind} {l : Floor} {c : Column}
    (hpos : 0 < (s.stock.defineMeal k).position l c)
    (hs : t.stock = s.stock.takeMeal (some k) l c) (ht : t.session.pc = .coord 0) :
    t.StockInv := by
  refine ⟨?_, fun hpc => ?_⟩
  · rw [hs]
    exact h.consistent.takeMeal hpos
  · rw [ht] at hpc
    cases hpc

/-- Every step under the condition keeps the tables in agreement. -/
lemma step (h : s.StockInv) (hG : StockKept s e) (hm : StockMove s e t) : t.StockInv := by
  cases hm with
  | keep hk => exact h.keep hk
  | edit hpc cur hs ht =>
    refine screen hpc ht ?_
    rw [hs]
    exact h.consistent.edit cur _
  | clearAll hpc hf hd hs ht =>
    obtain ⟨hzero, hwritten⟩ := hG.1 hf hd
    refine screen hpc ht ?_
    rw [hs]
    rw [Stock.clearAll]
    rw [Stock.writeMeal_eq_self hwritten]
    refine Stock.statisticsTotal_consistent ?_ fun j i c _ => hzero j i c
    change FloorsSound fun _ => FloorAttribute.empty
    decide
  | confirm hpc hf hd hs ht =>
    refine screen hpc ht ?_
    rw [hs]
    exact Stock.confirm_consistent h.consistent.floor (hG.2 hf hd)
  | found hpc hk hp hs ht => exact found h.consistent hp hs ht
  | notFound hpc hk hp hs ht => exact h.notFound hpc hs ht
  | @take io t l c hpc hp hs ht =>
    obtain ⟨k, -, hpos, htake⟩ := h.takes hG hpc hp hs
    exact h.taken hpos htake ht

end Machine.StockInv

/-- In every run from power-up with a sound floor table in which everything is cleared only
when no position is left and what is confirmed fits, the two tables agree. -/
theorem stock_consistent {s : Machine} (h : Lib.Reach step SoundPowerUp StockKept s) :
    s.stock.Consistent := by
  have hI : s.StockInv := by
    refine h.invariant (I := Machine.StockInv) ?_ ?_
    · intro s hs
      exact .powerUp hs
    · intro s e s' hI hG hs
      exact hI.step hG (step_stock hs)
  exact hI.consistent

/-! ### Filling a floor, and clearing everything -/

/-- The second floor is filled with meals of the second kind. -/
def fillSecondFloor : List Event :=
  [.touch 0x15 2, .touch 0x14 2, .touch 0x1A 1, .touch 0x1A 3]

lemma stocked_sound : SoundPowerUp (stocked 3) := ⟨stocked_isPowerUp 3, by decide +kernel⟩

/-- A run that meets the condition: a meal is sold, and a floor is filled. -/
theorem stock_consistent_sale :
    ∃ t, Lib.checkedRun step StockKept (stocked 3)
        (List.flatten [payOne, payOutAndServe, fetchMeal, fillSecondFloor]) = some t ∧
      (t.stock.defineMeal 0).mealCount = 8 ∧ (t.stock.defineMeal 1).mealCount = 9 ∧
      t.stock.Consistent := by
  have hrun : (Lib.checkedRun step StockKept (stocked 3)
      (List.flatten [payOne, payOutAndServe, fetchMeal, fillSecondFloor])).any
        (fun t => (t.stock.defineMeal 0).mealCount = 8 ∧
          (t.stock.defineMeal 1).mealCount = 9) = true := by
    decide +kernel
  obtain ⟨t, ht, hfirst, hsecond⟩ := Lib.exists_of_any hrun
  exact ⟨t, ht, hfirst, hsecond, stock_consistent ⟨_, _, stocked_sound, .of_checkedRun ht⟩⟩

/-- The administrator clears everything: the floors are empty, but the positions of the
first kind are still there. -/
theorem positions_left_after_clearAll :
    ¬ ∀ s, Lib.Reach step SoundPowerUp Lib.anyEvent s → s.stock.Consistent := by
  intro hall
  have hrun : (Lib.runFrom step (stocked 3) (startUp ++ [.touch 0x06 2])).any
      (fun t => (t.stock.defineMeal 0).position 0 0 = 3 ∧ (t.stock.floorMeal 0).mealID = 0)
        = true := by
    decide +kernel
  obtain ⟨t, ht, hpos, hid⟩ := Lib.exists_of_any hrun
  have := (hall t (.of_runFrom stocked_sound ht)).position 0 0 0
  rw [hpos, hid, if_neg (Kind.id_ne_zero 0).symm] at this
  exact absurd this (by decide)

end MealVendor
