import MealVendor.Errors.Record
import MealVendor.Stock.Admin

/-!
# A meal that could not be fetched

Case 1 of `WaitMeal` takes the meal out of the tables and writes them to the flash before the arm is
sent for it.  If the arm fails, nothing puts it back: of every call that fails before the arm has
accepted the command to get the meal, the tables are one meal short.
-/

namespace MealVendor

/-! ## The table in the flash -/

/-- The table that `WriteMeal` is called with in a step. -/
def Machine.written (s : Machine) : Event → Option (Floor → FloorAttribute)
  | .go _ =>
    match s.session.pc, s.stock.place with
    | .take, some (l, c) =>
      some (s.stock.takeMeal (Kind.ofID s.session.userAct.mealID) l c).floorMeal
    | _, _ => none
  | .screen f _ =>
    match f.variable with
    | some .adminSet => if f.data1 = 2 then some fun _ => FloorAttribute.empty else none
    | some .mealinputChoose => if f.data1 = 3 then some (s.stock.confirm none).floorMeal else none
    | _ => none
  | _ => none

/-- What the flash returns in a step. -/
def Event.readBack : Event → Option (Floor → FloorAttribute)
  | .go io | .screen _ io => io.flash
  | _ => none

/-- The machine and the table that was written to the flash last. -/
structure Saved where
  machine : Machine
  table : Floor → FloorAttribute

/-- One step, and the table it writes. -/
def Saved.step (x : Saved) (e : Event) : Option Saved :=
  (MealVendor.step x.machine e).map fun t => ⟨t, (x.machine.written e).getD x.table⟩

lemma Saved.step_some {x y : Saved} {e : Event} (h : x.step e = some y) :
    MealVendor.step x.machine e = some y.machine ∧
      y.table = (x.machine.written e).getD x.table := by
  obtain ⟨t, ht, rfl⟩ := Option.map_eq_some_iff.mp h
  exact ⟨ht, rfl⟩

/-! ## A call of `WaitMeal` -/

/-- The pieces of `WaitMeal` before the arm has accepted the command to get the meal. -/
def Pc.beforeMeal : Pc → Bool
  | .find | .take | .coord _ | .goal | .getMeal _ => true
  | .abnormal _ ret | .resume ret => ret == .goal
  | _ => false

/-- Case 0 apart, the arm is on its way there. -/
lemma Pc.flight_of_beforeMeal {p : Pc} (h : p.beforeMeal) (hfind : p ≠ .find) : p.flight := by
  cases p with
  | find => exact absurd rfl hfind
  | take | coord | goal | getMeal => rfl
  | abnormal erro ret | resume ret =>
    obtain rfl : ret = .goal := by simpa [Pc.beforeMeal] using h
    rfl
  | initLink | initOrder | initWait | check | deal | switch | link | cardRead | cardDeal
  | cardDeduct | payTail | door | away | count => cases h

/-- The keys with which the administrator enters another table. -/
def Event.entersTable : Event → Bool
  | .screen f _ =>
    f.variable == some .adminSet && f.data1 == 2 ||
      f.variable == some .mealinputChoose && f.data1 == 3
  | _ => false

/-- A step in a call of `WaitMeal`, before the arm has accepted the command to get the meal, in
which the administrator does not enter another table. -/
def Saved.InCall (x : Saved) (e : Event) : Prop :=
  x.machine.session.pc.beforeMeal ∧ e.entersTable = false

instance (x : Saved) (e : Event) : Decidable (x.InCall e) := inferInstanceAs (Decidable (_ ∧ _))

/-- The main program has got `takemeal_erro`. -/
def Session.Failed (s : Session) : Prop := s.pc = .deal ∧ s.current = .hpperOut

instance (s : Session) : Decidable s.Failed := inferInstanceAs (Decidable (_ ∧ _))

/-! ## What is taken out -/

namespace Stock

variable {s t : Stock} {k : Kind} {l : Floor} {c : Column}
  {readBack : Option (Floor → FloorAttribute)}

/-- A meal of kind `k` was taken out at floor `l` and column `c`, and `readBack` was read back.
`MealID` may have been cleared before; then `StatisticsTotal` alone makes the entries of
`DefineMeal`. -/
structure TakenOut (s t : Stock) (k : Kind) (l : Floor) (c : Column)
    (readBack : Option (Floor → FloorAttribute)) : Prop where
  floorMeal : t.floorMeal = ((s.takeMeal (some k) l c).writeMeal readBack).floorMeal
  defineMeal : ∃ m : Option Kind, (m = some k ∨ m = none) ∧
    t.defineMeal = ((s.takeMeal m l c).writeMeal readBack).statisticsTotal.defineMeal

/-- Only the edited floor and the place that was found are no part of it. -/
lemma TakenOut.congr {t' : Stock} (h : s.TakenOut t k l c readBack)
    (hf : t'.floorMeal = t.floorMeal) (hd : t'.defineMeal = t.defineMeal) :
    s.TakenOut t' k l c readBack := by
  obtain ⟨hfloor, m, hm, hdefine⟩ := h
  exact ⟨hf.trans hfloor, m, hm, hd.trans hdefine⟩

/-- In tables that agree `StatisticsTotal` makes up for an entry that was not lowered. -/
lemma Consistent.statisticsTotal_takeMeal_none (h : s.Consistent)
    (hp : 0 < (s.defineMeal k).position l c) :
    (s.takeMeal none l c).statisticsTotal.defineMeal = (s.takeMeal (some k) l c).defineMeal := by
  rw [← statisticsTotal_eq_self (h.takeMeal hp)]
  funext j
  have hposition : ∀ i d,
      (if ((s.takeMeal none l c).floorMeal i).mealID = j.id then
        ((s.takeMeal none l c).floorMeal i).count d else (s.defineMeal j).position i d) =
      if ((s.takeMeal none l c).floorMeal i).mealID = j.id then
        ((s.takeMeal none l c).floorMeal i).count d
      else ((s.takeMeal (some k) l c).defineMeal j).position i d := by
    intro i d
    split_ifs with hi
    · rfl
    · rw [takeMeal_position, if_neg]
      rintro ⟨rfl, rfl, -⟩
      -- the floor of the meal holds its kind
      rw [takeMeal_mealID] at hi
      exact hi (h.holds hp).1
  exact congrArg (MealAttribute.mk · _) (funext fun i => funext fun d => hposition i d)

/-- In tables that agree exactly one meal has gone, if what was written is read back. -/
lemma TakenOut.exact (h : s.TakenOut t k l c readBack) (hs : s.Consistent)
    (hp : s.findMeal k = some (l, c)) (hw : Written readBack (s.takeMeal (some k) l c).floorMeal) :
    t.defineMeal = (s.takeMeal (some k) l c).defineMeal := by
  obtain ⟨-, m, rfl | rfl, hdefine⟩ := h
  · rw [hdefine, writeMeal_eq_self hw, statisticsTotal_eq_self (hs.takeMeal (findMeal_pos hp))]
  · have hw' : Written readBack (s.takeMeal none l c).floorMeal := hw
    rw [hdefine, writeMeal_eq_self hw', hs.statisticsTotal_takeMeal_none (findMeal_pos hp)]

end Stock

/-! ## Steps -/

namespace Saved

variable {s : Machine} {flash : Floor → FloorAttribute} {x y : Saved} {e : Event} {k : Kind}
  {l : Floor} {c : Column} {readBack : Option (Floor → FloorAttribute)}

/-- A screen message that enters no table writes none, and leaves the tables alone. -/
lemma written_screen {f : Frame} {io : Io} (he : (Event.screen f io).entersTable = false) :
    s.written (.screen f io) = none := by
  simp only [Event.entersTable, Bool.or_eq_false_iff, Bool.and_eq_false_iff, beq_eq_false_iff_ne]
    at he
  rw [Machine.written]
  split
  · next hf => exact if_neg (he.1.resolve_left fun h => h hf)
  · next hf => exact if_neg (he.2.resolve_left fun h => h hf)
  · rfl

/-- While the main program does not run on, nothing is written, and both tables stay. -/
lemma waits (h : x.step e = some y) (he : e.entersTable = false) (hruns : e.runs = false) :
    y.table = x.table ∧ y.machine.session.pc = x.machine.session.pc ∧
      y.machine.stock.floorMeal = x.machine.stock.floorMeal ∧
      y.machine.stock.defineMeal = x.machine.stock.defineMeal := by
  obtain ⟨hstep, htable⟩ := step_some h
  have hwritten : x.machine.written e = none := by
    cases e with
    | go io => cases hruns
    | screen f io => exact written_screen he
    | coinIn | coinOut | tim3 | tim4 | tim5 | tim7 | pvd | usart6 => rfl
  rw [hwritten] at htable
  refine ⟨htable, (Machine.step_recorded hstep hruns).1, ?_⟩
  cases step_stock hstep with
  | keep hk => rw [hk.stock]; exact ⟨rfl, rfl⟩
  | edit hpc cur hs ht => rw [hs]; exact ⟨rfl, rfl⟩
  | clearAll hpc hf hd hs ht => simp [Event.entersTable, hf, hd] at he
  | confirm hpc hf hd hs ht => simp [Event.entersTable, hf, hd] at he
  | found | notFound | take => cases hruns

/-- The same where no message is dealt with: the place stays as well, and the selection can only be
cleared. -/
lemma waits_undealt (h : x.step e = some y) (hpc : x.machine.session.pc.deals = false)
    (hruns : e.runs = false) :
    y.table = x.table ∧ y.machine.session.pc = x.machine.session.pc ∧
      y.machine.stock = x.machine.stock := by
  have he : e.entersTable = false := by
    cases e with
    | screen f io =>
      have hdeals := (step_some h).1
      rw [MealVendor.step, if_neg (by rw [hpc]; exact Bool.false_ne_true)] at hdeals
      cases hdeals
    | coinIn | coinOut | tim3 | tim4 | tim5 | tim7 | pvd | usart6 | go => rfl
  obtain ⟨htable, hpc', -, -⟩ := waits h he hruns
  refine ⟨htable, hpc', ?_⟩
  cases step_stock (step_some h).1 with
  | keep hk => exact hk.stock
  | edit hd | clearAll hd | confirm hd => rw [hpc] at hd; cases hd
  | found | notFound | take => cases hruns

/-- The keys that enter a table write it. -/
lemma floorMeal_of_entersTable (h : x.step e = some y) (he : e.entersTable)
    (hw : ∀ w ∈ x.machine.written e, Written e.readBack w) :
    y.machine.stock.floorMeal = y.table := by
  obtain ⟨hstep, htable⟩ := step_some h
  cases e with
  | screen f io =>
    obtain ⟨-, hy⟩ := step_screen hstep
    simp only [Event.entersTable, Bool.or_eq_true, Bool.and_eq_true, beq_iff_eq] at he
    rw [htable, hy]
    rcases he with ⟨hf, hd⟩ | ⟨hf, hd⟩
    · have hwritten : x.machine.written (.screen f io) = some fun _ => FloorAttribute.empty := by
        simp only [Machine.written, hf, hd, if_true]
      have hread := hw _ hwritten
      simp only [hwritten, Machine.changeVariableValues, hf, Machine.adminSet, hd, if_true,
        Option.getD_some]
      rw [Stock.clearAll, Stock.writeMeal_eq_self hread]
      rfl
    · have hwritten :
          x.machine.written (.screen f io) = some (x.machine.stock.confirm none).floorMeal := by
        simp only [Machine.written, hf, hd, if_true]
      have hread := hw _ hwritten
      have hconfirm : x.machine.stock.confirm io.flash =
          (x.machine.stock.confirm none).writeMeal io.flash := rfl
      simp only [hwritten, Machine.changeVariableValues, hf, Machine.mealinputChoose, hd,
        Option.getD_some]
      exact congrArg Stock.floorMeal (hconfirm.trans (Stock.writeMeal_eq_self hread))
  | coinIn | coinOut | tim3 | tim4 | tim5 | tim7 | pvd | usart6 | go => cases he

/-- The main program writes a table in case 1 only. -/
lemma written_of_ne {io : Io} (h : s.session.pc ≠ .take) : s.written (.go io) = none := by
  rw [Machine.written]
  split
  · next hpc _ => exact absurd hpc h
  · rfl

/-- There the table that is written becomes the floor table. -/
lemma floorMeal_of_go {io : Io} (h : x.step (.go io) = some y)
    (hw : ∀ w ∈ x.machine.written (.go io), Written io.flash w)
    (hx : x.table = x.machine.stock.floorMeal) : y.machine.stock.floorMeal = y.table := by
  obtain ⟨hstep, htable⟩ := step_some h
  rw [htable]
  by_cases hpc : x.machine.session.pc = .take
  · have hgo := Option.some.inj hstep
    rw [← hgo, Machine.go, hpc]
    dsimp only
    cases hp : x.machine.stock.place with
    | none =>
      rw [Machine.take, hp, Machine.written, hpc, hp, Option.getD_none, hx]
    | some p =>
      obtain ⟨l, c⟩ := p
      have hwritten : x.machine.written (.go io) = some (x.machine.stock.takeMeal
          (Kind.ofID x.machine.session.userAct.mealID) l c).floorMeal := by
        rw [Machine.written, hpc, hp]
      have hread := congrArg Stock.floorMeal (Stock.writeMeal_eq_self (hw _ hwritten))
      rw [hwritten, Machine.take, hp]
      exact hread
  · rw [written_of_ne hpc, Option.getD_none, hx]
    cases step_stock hstep with
    | keep hk => rw [hk.stock]
    | found _ _ _ hs | notFound _ _ _ hs => rw [hs]
    | take hpc' => exact absurd hpc' hpc

/-- As long as what is written is read back, the flash holds the floor table. -/
theorem table_eq {es : List Event}
    (hr : Lib.Runs Saved.step (fun x e => ∀ w ∈ x.machine.written e, Written e.readBack w) x es y)
    (hx : x.table = x.machine.stock.floorMeal) : y.table = y.machine.stock.floorMeal := by
  refine hr.invariant (I := fun x => x.table = x.machine.stock.floorMeal) ?_ hx
  intro x e y hx hw hs
  cases he : e.entersTable with
  | true => exact (floorMeal_of_entersTable hs he hw).symm
  | false =>
    cases e with
    | go io => exact (floorMeal_of_go hs hw hx).symm
    | screen | coinIn | coinOut | tim3 | tim4 | tim5 | tim7 | pvd | usart6 =>
      obtain ⟨htable, -, hfloor, -⟩ := waits hs he rfl
      rw [htable, hx, hfloor]

/-! ### Case 0 -/

/-- `WaitMeal` looks for a meal of the kind that was asked for first. -/
structure Looks (s : Machine) (flash : Floor → FloorAttribute) (x : Saved) : Prop where
  pc : x.machine.session.pc = .find
  floorMeal : x.machine.stock.floorMeal = s.stock.floorMeal
  defineMeal : x.machine.stock.defineMeal = s.stock.defineMeal
  first : x.machine.session.userAct.firstKind = s.session.userAct.firstKind ∨
    x.machine.session.userAct.firstKind = none
  table : x.table = flash

/-- Case 0 has found a meal. -/
structure Finds (s : Machine) (flash : Floor → FloorAttribute) (k : Kind) (l : Floor) (c : Column)
    (x : Saved) : Prop where
  pc : x.machine.session.pc = .take
  floorMeal : x.machine.stock.floorMeal = s.stock.floorMeal
  defineMeal : x.machine.stock.defineMeal = s.stock.defineMeal
  place : x.machine.stock.place = some (l, c)
  mealID : x.machine.session.userAct.mealID = k.id ∨ x.machine.session.userAct.mealID = 0
  table : x.table = flash

lemma firstKind_of_mealCnt {u v : UserSelection} (h : u.mealCnt = v.mealCnt) :
    u.firstKind = v.firstKind := by
  rw [UserSelection.firstKind, UserSelection.firstKind, h]

/-- Where no message is dealt with, the cart can only be cleared while the main program waits. -/
lemma firstKind_of_move {t : Session} (hm : Move x.machine e t)
    (hpc : x.machine.session.pc.deals = false) (hruns : e.runs = false) :
    t.userAct.firstKind = x.machine.session.userAct.firstKind ∨ t.userAct.firstKind = none := by
  cases hm with
  | calm h => exact .inl (firstKind_of_mealCnt h.userAct.mealCnt)
  | coin => exact .inl rfl
  | expire => exact .inr rfl
  | put hd | enter hd | drop hd | column hd | recalc hd | cancel hd | record hd =>
    rw [hpc] at hd
    cases hd
  | bill | enough | request | cardPaid | timeout | statusOk | payOut | serve | toErro | idle
  | found | takeAfter | takeError | takeOut | uploaded | polled | abnormalEnd => cases hruns

lemma Looks.waits (h : Looks s flash x) (hs : x.step e = some y) (hruns : e.runs = false) :
    Looks s flash y := by
  have hdeals : x.machine.session.pc.deals = false := by rw [h.pc]; rfl
  obtain ⟨htable, hpc, hstock⟩ := waits_undealt hs hdeals hruns
  refine ⟨hpc.trans h.pc, ?_, ?_, ?_, htable.trans h.table⟩
  · rw [hstock, h.floorMeal]
  · rw [hstock, h.defineMeal]
  · rcases firstKind_of_move (step_move (step_some hs).1) hdeals hruns with hf | hf
    · rw [hf]
      exact h.first
    · exact .inr hf

/-- The kind that is looked for is that of the call. -/
lemma Looks.firstKind (h : Looks s flash x)
    (hk : x.machine.session.userAct.firstKind = some k) : s.session.userAct.firstKind = some k := by
  rcases h.first with hf | hf
  · rw [← hf, hk]
  · cases hk.symm.trans hf

/-- Case 0 goes on looking, finds a meal or ends because the cart is empty. -/
lemma Looks.go {io : Io} (h : Looks s flash x) (hs : x.step (.go io) = some y) :
    Looks s flash y ∨
      (∃ k l c, s.session.userAct.firstKind = some k ∧ s.stock.findMeal k = some (l, c) ∧
        Finds s flash k l c y) ∨
      y.machine.session.pc = .deal ∧ y.machine.session.current = .currentTemperature := by
  obtain ⟨hstep, htable⟩ := step_some hs
  have hfind : y.machine = x.machine.find := by
    rw [← Option.some.inj hstep, Machine.go, h.pc]
  rw [Machine.written, h.pc, Option.getD_none, h.table] at htable
  rw [Machine.find] at hfind
  cases hk : x.machine.session.userAct.firstKind with
  | none =>
    rw [hk] at hfind
    exact .inr (.inr (by rw [hfind]; exact ⟨rfl, rfl⟩))
  | some k =>
    have hk' := h.firstKind hk
    have hsame : x.machine.stock.findMeal k = s.stock.findMeal k := by
      rw [Stock.findMeal, Stock.findMeal, h.defineMeal]
    rw [hk] at hfind
    dsimp only at hfind
    cases hp : s.stock.findMeal k with
    | none =>
      rw [hsame, hp] at hfind
      refine .inl ⟨?_, ?_, ?_, .inl ?_, htable⟩
      · rw [hfind]; exact h.pc
      · rw [hfind]; exact h.floorMeal
      · rw [hfind]; exact h.defineMeal
      · rw [hfind, hk', ← hk]; rfl
    | some p =>
      rw [hsame, hp] at hfind
      refine .inr (.inl ⟨k, p.1, p.2, hk', hp, ?_, ?_, ?_, ?_, .inl ?_, htable⟩)
      · rw [hfind]; rfl
      · rw [hfind]; exact h.floorMeal
      · rw [hfind]; exact h.defineMeal
      · rw [hfind]; rfl
      · rw [hfind]; rfl

lemma Looks.step (h : Looks s flash x) (hs : x.step e = some y) :
    Looks s flash y ∨
      (∃ k l c, s.session.userAct.firstKind = some k ∧ s.stock.findMeal k = some (l, c) ∧
        Finds s flash k l c y) ∨
      y.machine.session.pc = .deal ∧ y.machine.session.current = .currentTemperature := by
  cases hruns : e.runs with
  | false => exact .inl (h.waits hs hruns)
  | true =>
    obtain ⟨io, rfl⟩ := Event.exists_go hruns
    exact h.go hs

/-! ### Case 1 -/

/-- The meal was taken out, the table was written, and the arm is to fetch the meal. -/
structure Takes (s : Machine) (k : Kind) (l : Floor) (c : Column)
    (readBack : Option (Floor → FloorAttribute)) (x : Saved) : Prop where
  find : x.machine.session.pc ≠ .find
  take : x.machine.session.pc ≠ .take
  stock : s.stock.TakenOut x.machine.stock k l c readBack
  table : x.table = (s.stock.takeMeal (some k) l c).floorMeal

lemma Finds.waits (h : Finds s flash k l c x) (hs : x.step e = some y) (hruns : e.runs = false) :
    Finds s flash k l c y := by
  have hdeals : x.machine.session.pc.deals = false := by rw [h.pc]; rfl
  obtain ⟨htable, hpc, hstock⟩ := waits_undealt hs hdeals hruns
  refine ⟨hpc.trans h.pc, ?_, ?_, ?_, ?_, htable.trans h.table⟩
  · rw [hstock, h.floorMeal]
  · rw [hstock, h.defineMeal]
  · rw [hstock, h.place]
  · cases step_stock (step_some hs).1 with
    | keep hk =>
      rcases (hk.take (hpc.trans h.pc)).2 with hid | hid
      · rw [hid]
        exact h.mealID
      · exact .inr hid
    | edit hd | clearAll hd | confirm hd => rw [hdeals] at hd; cases hd
    | found | notFound | take => cases hruns

/-- Case 1 takes the meal out. -/
lemma Finds.go {io : Io} (h : Finds s flash k l c x) (hs : x.step (.go io) = some y) :
    Takes s k l c io.flash y := by
  obtain ⟨hstep, htable⟩ := step_some hs
  obtain ⟨m, hm, hid⟩ : ∃ m : Option Kind, (m = some k ∨ m = none) ∧
      Kind.ofID x.machine.session.userAct.mealID = m := by
    rcases h.mealID with hid | hid
    · exact ⟨_, .inl rfl, by rw [hid, Kind.ofID_id]⟩
    · exact ⟨_, .inr rfl, by rw [hid]; rfl⟩
  have htake : y.machine = x.machine.take io := by
    rw [← Option.some.inj hstep, Machine.go, h.pc]
  rw [Machine.take, h.place] at htake
  have hsame : x.machine.stock =
      ⟨s.stock.floorMeal, s.stock.defineMeal, x.machine.stock.curFloor,
        x.machine.stock.place⟩ := by
    rw [← h.floorMeal, ← h.defineMeal]
  have hstock : y.machine.stock =
      ((x.machine.stock.takeMeal m l c).writeMeal io.flash).statisticsTotal := by
    rw [htake, ← hid]
    rfl
  rw [hsame] at hstock
  refine ⟨?_, ?_, ⟨?_, m, hm, ?_⟩, ?_⟩
  · rw [htake]; rintro ⟨⟩
  · rw [htake]; rintro ⟨⟩
  · rw [hstock]
    cases io.flash <;> rfl
  · rw [hstock]
    cases io.flash <;> rfl
  · rw [htable, Machine.written, h.pc, h.place, hsame]
    rfl

lemma Finds.step (h : Finds s flash k l c x) (hs : x.step e = some y) :
    Finds s flash k l c y ∨ ∃ io, e = .go io ∧ Takes s k l c io.flash y := by
  cases hruns : e.runs with
  | false => exact .inl (h.waits hs hruns)
  | true =>
    obtain ⟨io, rfl⟩ := Event.exists_go hruns
    exact .inr ⟨io, rfl, h.go hs⟩

/-! ### Cases 2 and 3 -/

/-- The call does not start again while the arm is on its way. -/
lemma pc_ne_find {t : Session} (hm : Move x.machine e t) (hflight : x.machine.session.pc.flight)
    (hruns : e.runs) : t.pc ≠ .find := by
  cases hm with
  | calm h =>
    intro hfind
    have hf := h.flight
    rw [hfind, hflight] at hf
    cases hf
  | coin | expire | put | enter | drop | column | recalc | cancel | record => cases hruns
  | bill | enough | request | cardPaid | timeout | statusOk | payOut | serve | toErro | idle
  | found | takeAfter | takeError | takeOut | uploaded | polled | abnormalEnd => rintro ⟨⟩

lemma Takes.waits (h : Takes s k l c readBack x) (he : e.entersTable = false)
    (hs : x.step e = some y) (hruns : e.runs = false) : Takes s k l c readBack y := by
  obtain ⟨htable, hpc, hfloor, hdefine⟩ := Saved.waits hs he hruns
  refine ⟨?_, ?_, h.stock.congr hfloor hdefine, htable.trans h.table⟩
  · rw [hpc]; exact h.find
  · rw [hpc]; exact h.take

lemma Takes.go {io : Io} (h : Takes s k l c readBack x) (hpc : x.machine.session.pc.beforeMeal)
    (hs : x.step (.go io) = some y) : Takes s k l c readBack y := by
  obtain ⟨hstep, htable⟩ := step_some hs
  have hfind := pc_ne_find (step_move hstep) (Pc.flight_of_beforeMeal hpc h.find) rfl
  rw [written_of_ne h.take, Option.getD_none, h.table] at htable
  cases step_stock hstep with
  | keep hk =>
    refine ⟨hfind, fun ht => h.take (hk.take ht).1, h.stock.congr ?_ ?_, htable⟩
    · rw [hk.stock]
    · rw [hk.stock]
  | found hx | notFound hx => exact absurd hx h.find
  | take hx => exact absurd hx h.take

/-- Nothing more happens to the tables. -/
lemma Takes.step (h : Takes s k l c readBack x) (hG : x.InCall e) (hs : x.step e = some y) :
    Takes s k l c readBack y := by
  cases hruns : e.runs with
  | false => exact h.waits hG.2 hs hruns
  | true =>
    obtain ⟨io, rfl⟩ := Event.exists_go hruns
    exact h.go hG.1 hs

/-! ## Calls -/

variable {es : List Event}

lemma Takes.run (hr : Lib.Runs Saved.step InCall x es y) (h : Takes s k l c readBack x) :
    Takes s k l c readBack y :=
  hr.invariant (fun _ _ _ hx hG hs => hx.step hG hs) h

/-- Once a meal was found, it may have been taken out. -/
lemma Finds.run (hr : Lib.Runs Saved.step InCall x es y) (h : Finds s flash k l c x) :
    Finds s flash k l c y ∨ ∃ io, Event.go io ∈ es ∧ Takes s k l c io.flash y := by
  induction hr with
  | nil => exact .inl h
  | cons hG hs hr ih =>
    rcases h.step hs with h' | ⟨io, rfl, h'⟩
    · rcases ih h' with hy | ⟨io, hio, hy⟩
      · exact .inl hy
      · exact .inr ⟨io, List.mem_cons_of_mem _ hio, hy⟩
    · exact .inr ⟨io, List.mem_cons_self, h'.run hr⟩

/-- A call that fails has found a meal and taken it out. -/
lemma Looks.run (hr : Lib.Runs Saved.step InCall x es y) (h : Looks s flash x)
    (hfailed : y.machine.session.Failed) :
    ∃ k l c io, Event.go io ∈ es ∧ s.session.userAct.firstKind = some k ∧
      s.stock.findMeal k = some (l, c) ∧ Takes s k l c io.flash y := by
  induction hr with
  | nil => exact absurd (h.pc.symm.trans hfailed.1) (by rintro ⟨⟩)
  | @cons x x' y e es hG hs hr ih =>
    rcases h.step hs with h' | ⟨k, l, c, hk, hp, h'⟩ | ⟨hpc, hcurrent⟩
    · obtain ⟨k, l, c, io, hio, hrest⟩ := ih h' hfailed
      exact ⟨k, l, c, io, List.mem_cons_of_mem _ hio, hrest⟩
    · rcases h'.run hr with hy | ⟨io, hio, hy⟩
      · exact absurd (hy.pc.symm.trans hfailed.1) (by rintro ⟨⟩)
      · exact ⟨k, l, c, io, List.mem_cons_of_mem _ hio, hk, hp, hy⟩
    · -- the cart was empty, and the call has ended
      cases hr with
      | nil => exact absurd (hcurrent.symm.trans hfailed.2) (by rintro ⟨⟩)
      | cons hG' =>
        have hbefore := hG'.1
        rw [hpc] at hbefore
        cases hbefore

end Saved

/-- If `WaitMeal` fails before the arm has accepted the command to get the meal, the tables are
those at the call less one meal: of the kind the cart asks for first, in the place that `FindMeal`
finds.  The floor table without it has been written to the flash.  In tables that agree, and if what
is written is read back, `DefineMeal` is one lower in the place and in the count of this kind, too,
and the same everywhere else. -/
theorem failed_call_takes_one {s t : Machine} {flash flash' : Floor → FloorAttribute}
    {es : List Event} (hfind : s.session.pc = .find)
    (hrun : Lib.Runs Saved.step Saved.InCall ⟨s, flash⟩ es ⟨t, flash'⟩)
    (hfailed : t.session.Failed) :
    ∃ k l c io, Event.go io ∈ es ∧ s.session.userAct.firstKind = some k ∧
      s.stock.findMeal k = some (l, c) ∧ s.stock.TakenOut t.stock k l c io.flash ∧
      flash' = (s.stock.takeMeal (some k) l c).floorMeal ∧
      (s.stock.Consistent → Written io.flash flash' →
        t.stock.floorMeal = flash' ∧
          t.stock.defineMeal = (s.stock.takeMeal (some k) l c).defineMeal) := by
  have hlooks : Saved.Looks s flash ⟨s, flash⟩ := ⟨hfind, rfl, rfl, .inl rfl, rfl⟩
  obtain ⟨k, l, c, io, hio, hk, hp, ht⟩ := hlooks.run hrun hfailed
  have htable : flash' = (s.stock.takeMeal (some k) l c).floorMeal := ht.table
  refine ⟨k, l, c, io, hio, hk, hp, ht.stock, htable, fun hs hw => ?_⟩
  subst htable
  exact ⟨by rw [ht.stock.floorMeal, Stock.writeMeal_eq_self hw], ht.stock.exact hs hp hw⟩

/-! ### An arm that does not answer -/

/-- The arm is sent to the meal, and nothing comes back for two seconds. -/
def unansweredArm : List Event := [.next, .next, .tim5, .tim5, .next]

/-- One meal of nine is paid, and the arm does not answer: the call fails, and eight are left. -/
theorem failed_call_takes_one_sale :
    ∃ s t flash, Lib.runFrom step (stocked 3) (payOne ++ List.replicate 6 .next) = some s ∧
      Lib.checkedRun Saved.step Saved.InCall ⟨s, s.stock.floorMeal⟩ unansweredArm =
        some ⟨t, flash⟩ ∧
      ∃ k l c io, Event.go io ∈ unansweredArm ∧ s.session.userAct.firstKind = some k ∧
        s.stock.findMeal k = some (l, c) ∧ s.stock.TakenOut t.stock k l c io.flash ∧
        flash = (s.stock.takeMeal (some k) l c).floorMeal ∧
        (s.stock.Consistent → Written io.flash flash →
          t.stock.floorMeal = flash ∧
            t.stock.defineMeal = (s.stock.takeMeal (some k) l c).defineMeal) := by
  have hrun : (Lib.runFrom step (stocked 3) (payOne ++ List.replicate 6 .next)).any (fun s =>
      s.session.pc = .find ∧
        (Lib.checkedRun Saved.step Saved.InCall ⟨s, s.stock.floorMeal⟩ unansweredArm).any
          (fun x => x.machine.session.Failed) = true) = true := by
    decide +kernel
  obtain ⟨s, hs, hpc, hcall⟩ := Lib.exists_of_any hrun
  obtain ⟨⟨t, flash⟩, ht, hfailed⟩ := Lib.exists_of_any hcall
  exact ⟨s, t, flash, hs, ht, failed_call_takes_one hpc (.of_checkedRun ht) hfailed⟩

/-- There the floor table, `DefineMeal` and the table in the flash are not what they were. -/
theorem failed_call_changes_stock :
    ¬ ∀ s t flash flash' es, Lib.Reach step IsPowerUp Lib.anyEvent s → s.session.pc = .find →
      Lib.Runs Saved.step Saved.InCall ⟨s, flash⟩ es ⟨t, flash'⟩ → t.session.Failed →
      t.stock.floorMeal = s.stock.floorMeal ∧ t.stock.defineMeal = s.stock.defineMeal ∧
        flash' = flash := by
  intro hall
  have hrun : (Lib.runFrom step (stocked 3) (payOne ++ List.replicate 6 .next)).any (fun s =>
      s.session.pc = .find ∧
        (Lib.checkedRun Saved.step Saved.InCall ⟨s, s.stock.floorMeal⟩ unansweredArm).any
          (fun x => x.machine.session.Failed ∧
            (x.machine.stock.floorMeal 0).mealCount ≠ (s.stock.floorMeal 0).mealCount) = true) =
        true := by
    decide +kernel
  obtain ⟨s, hs, hpc, hcall⟩ := Lib.exists_of_any hrun
  obtain ⟨⟨t, flash⟩, ht, hfailed, hne⟩ := Lib.exists_of_any hcall
  obtain ⟨hfloor, -, -⟩ := hall s t s.stock.floorMeal flash unansweredArm
    (.of_runFrom (stocked_isPowerUp 3) hs) hpc (.of_checkedRun ht) hfailed
  exact hne (by rw [hfloor])

end MealVendor
