import MealVendor.Delivery.Order
import MealVendor.Delivery.Service
import MealVendor.Stock.Cover

/-!
# The machine serves the order

With an arm that works, prompt and paced, the machine hands out the cart exactly as the order says:
whatever it records is a step of the order, and the tables of the machine are the shelves of
the order.  A piece of the program that runs on brings the end nearer, or it waits for a byte
of the arm.
-/

namespace MealVendor

/-- The records that belong to an order. -/
def Obs.serves : Obs → Bool
  | .find .. | .takeout | .upload .. | .takeafter | .takemealErro _ => true
  | _ => false

/-- What was counted of the tables. -/
def Stock.shelves (s : Stock) : Shelves where
  label i := (s.floorMeal i).mealID
  column i c := ((s.floorMeal i).count c).toNat
  floor i := (s.floorMeal i).mealCount.toNat
  position k i c := ((s.defineMeal k).position i c).toNat
  kind k := (s.defineMeal k).mealCount.toNat

/-- Where the tables agree, the decrements of case 1 take one meal. -/
lemma Stock.Consistent.shelves_takeMeal {s : Stock} {k : Kind} {l : Floor} {c : Column}
    (h : s.Consistent) (hp : 0 < (s.defineMeal k).position l c) :
    (s.takeMeal (some k) l c).shelves = s.shelves.take k l c := by
  have hlabel : (s.takeMeal (some k) l c).shelves.label = (s.shelves.take k l c).label :=
    funext fun i => s.takeMeal_mealID (some k) l c i
  have hcolumn : (s.takeMeal (some k) l c).shelves.column = (s.shelves.take k l c).column := by
    funext i d
    change (((s.takeMeal (some k) l c).floorMeal i).count d).toNat =
      if i = l ∧ d = c then ((s.floorMeal i).count d).toNat - 1 else ((s.floorMeal i).count d).toNat
    rw [takeMeal_count]
    split_ifs with hid
    · obtain ⟨rfl, rfl⟩ := hid
      exact UInt8.toNat_pred (h.holds hp).2
    · rfl
  have hfloor : (s.takeMeal (some k) l c).shelves.floor = (s.shelves.take k l c).floor := by
    funext i
    change ((s.takeMeal (some k) l c).floorMeal i).mealCount.toNat =
      if i = l then (s.floorMeal i).mealCount.toNat - 1 else (s.floorMeal i).mealCount.toNat
    rw [takeMeal_floorMeal]
    split_ifs with hi
    · subst hi
      exact UInt8.toNat_pred (h.count_pos hp)
    · rfl
  have hposition :
      (s.takeMeal (some k) l c).shelves.position = (s.shelves.take k l c).position := by
    funext j i d
    change (((s.takeMeal (some k) l c).defineMeal j).position i d).toNat =
      if j = k ∧ i = l ∧ d = c then ((s.defineMeal j).position i d).toNat - 1
      else ((s.defineMeal j).position i d).toNat
    rw [takeMeal_position]
    split_ifs with hjid
    · obtain ⟨rfl, rfl, rfl⟩ := hjid
      exact UInt8.toNat_pred hp
    · rfl
  have hkind : (s.takeMeal (some k) l c).shelves.kind = (s.shelves.take k l c).kind := by
    funext j
    change ((s.takeMeal (some k) l c).defineMeal j).mealCount.toNat =
      if j = k then (s.defineMeal j).mealCount.toNat - 1 else (s.defineMeal j).mealCount.toNat
    rw [takeMeal_mealCount]
    split_ifs with hj
    · subst hj
      exact UInt8.toNat_pred (h.mealCount_pos hp)
    · rfl
  calc (s.takeMeal (some k) l c).shelves
      = ⟨(s.shelves.take k l c).label, (s.shelves.take k l c).column,
          (s.shelves.take k l c).floor, (s.shelves.take k l c).position,
          (s.shelves.take k l c).kind⟩ := by
        rw [← hlabel, ← hcolumn, ← hfloor, ← hposition, ← hkind]
    _ = s.shelves.take k l c := rfl

/-! ## The cart -/

namespace UserSelection

variable {u : UserSelection}

lemma meals_of_firstKind_none (h : u.firstKind = none) : u.meals = [] :=
  Lib.repeated_of_find?_none h

/-- The kind case 0 chooses is the head of the list, and case 5 takes it away. -/
lemma meals_of_firstKind {k : Kind} (h : u.firstKind = some k) {u' : UserSelection}
    (hu : u'.mealCnt = Function.update u.mealCnt k (u.mealCnt k - 1)) :
    u.meals = k :: u'.meals := by
  have hpos := firstKind_pos h
  rw [meals, meals]
  rw [Lib.repeated_of_find? (f := fun j => (u.mealCnt j).toNat) (List.nodup_finRange 4) h]
  have hcnt : (fun j => (u'.mealCnt j).toNat) =
      Function.update (fun j => (u.mealCnt j).toNat) k ((u.mealCnt k).toNat - 1) := by
    funext j
    rw [hu]
    rcases eq_or_ne j k with rfl | hne
    · rw [Function.update_self, Function.update_self]
      exact UInt8.toNat_pred hpos
    · rw [Function.update_of_ne hne, Function.update_of_ne hne]
  rw [hcnt]

lemma count_meals (k : Kind) : u.meals.count k = (u.mealCnt k).toNat :=
  Lib.count_repeated (List.nodup_finRange 4) (List.mem_finRange k)

end UserSelection

/-! ## What is left -/

/-- How far a piece of the program is from the next meal. -/
def Pc.rank (c : Current) : Pc → ℕ
  | .deal => if c = .dataUpload then 41 else 39
  | .switch => if c = .dataUpload then 40 else 38
  | .find => 37
  | .take => 36
  | .coord _ => 28
  | .goal => 27
  | .getMeal _ => 13
  | .door => 12
  | .away => 11
  | .count => 10
  | _ => 0

namespace Service

/-- What is left to be done: the meals, the way to the next one, and the bytes of the arm. -/
def left (x : Service) : ℕ :=
  if x.machine.session.current = .mealOut ∨ x.machine.session.current = .dataUpload then
    40 * x.machine.session.userAct.meals.length +
      x.machine.session.pc.rank x.machine.session.current + x.due.length
  else 0

/-- Nearer the end with the same cart. -/
lemma left_lt {x y : Service} {c c' : Current} {p : Pc} {d : List UInt8} (p' : Pc)
    (d' : List UInt8) (hx : x.serving)
    (hm : y.machine.session.userAct.meals = x.machine.session.userAct.meals)
    (hc : x.machine.session.current = c) (hc' : y.machine.session.current = c')
    (hp : x.machine.session.pc = p) (hp' : y.machine.session.pc = p') (hd : x.due = d)
    (hd' : y.due = d') (h : p'.rank c' + d'.length < p.rank c + d.length) : y.left < x.left := by
  have hleft : x.left = 40 * x.machine.session.userAct.meals.length + p.rank c + d.length := by
    have hx' : x.machine.session.current = .mealOut ∨ x.machine.session.current = .dataUpload := hx
    rw [left]
    rw [if_pos hx', hc, hp, hd]
  unfold left at hleft ⊢
  rw [hleft, hm, hc', hp', hd']
  split_ifs <;> omega

/-- The records of the orders, in their order. -/
def log (x : Service) : List Obs := (x.machine.session.trace.filter Obs.serves).reverse

lemma log_eq {x y : Service} (os : List Obs)
    (h : y.machine.session.trace = os ++ x.machine.session.trace) :
    y.log = x.log ++ (os.filter Obs.serves).reverse := by
  rw [log, log]
  rw [h, List.filter_append, List.reverse_append]

/-- The program has run on. -/
def go (x : Service) (io : Io) : Service :=
  ⟨x.machine.go io, x.due ++ (x.machine.commands (x.machine.go io)).flatMap answer⟩

lemma go_eq {x : Service} {io : Io} {t : Machine} (os : List Obs) (ht : x.machine.go io = t)
    (hos : t.session.trace = os ++ x.machine.session.trace) :
    x.go io = ⟨t, x.due ++ (os.reverse.filterMap Obs.command?).flatMap answer⟩ := by
  rw [go, Machine.commands]
  rw [ht, hos, List.length_append, Nat.add_sub_cancel, List.take_left]

end Service

/-! ## The states of the machine and of the order -/

/-- The places of the program while a meal is fetched. -/
def Pc.fetches : Pc → Bool
  | .coord 0 | .goal | .getMeal 0 | .door | .away | .count => true
  | _ => false

/-- Where the program is in each stage of an order. -/
inductive At (s : Machine) : Order → Prop
  | look {o : Order} (hs : o.stage = .look) (hc : s.session.current = .mealOut)
      (hpc : s.session.pc = .deal ∨ s.session.pc = .switch ∨ s.session.pc = .find)
      (hm : o.meals = s.session.userAct.meals) (hsh : o.shelves = s.stock.shelves) : At s o
  /-- The meal was found and is still in the tables. -/
  | take {o : Order} {k : Kind} {l : Floor} {c : Column} (hs : o.stage = .found k)
      (hc : s.session.current = .mealOut) (hpc : s.session.pc = .take)
      (hid : s.session.userAct.mealID = k.id) (hk : s.session.userAct.firstKind = some k)
      (hp : s.stock.place = some (l, c)) (hpos : 0 < (s.stock.defineMeal k).position l c)
      (hm : o.meals = s.session.userAct.meals) (hsh : o.shelves = s.stock.shelves.take k l c) :
      At s o
  | fetch {o : Order} {k : Kind} (hs : o.stage = .found k) (hc : s.session.current = .mealOut)
      (hpc : s.session.pc.fetches) (hid : s.session.userAct.mealID = k.id)
      (hk : s.session.userAct.firstKind = some k) (hp : s.stock.place.isSome)
      (hm : o.meals = s.session.userAct.meals) (hsh : o.shelves = s.stock.shelves) : At s o
  | upload {o : Order} {k : Kind} (hs : o.stage = .out k)
      (hc : s.session.current = .dataUpload)
      (hpc : s.session.pc = .deal ∨ s.session.pc = .switch)
      (hid : s.session.userAct.mealID = k.id) (hm : o.meals = s.session.userAct.meals)
      (hsh : o.shelves = s.stock.shelves) : At s o
  | ended {o : Order} (hs : o.stage = .ended) (hc : s.session.current = .currentTemperature)
      (hpc : s.session.pc = .deal) (hcart : ∀ k, s.session.userAct.mealCnt k = 0)
      (hsh : o.shelves = s.stock.shelves) : At s o

/-- The machine and the arm do what the order is about. -/
structure Matches (x : Service) (o : Order) : Prop where
  consistent : x.machine.stock.Consistent
  enough : o.Enough
  change : x.machine.moneyBack = o.change
  arm : ArmAt x.machine.session.pc x.machine.arm x.due
  place : At x.machine o

/-- From `x` to `y` the order is kept; and either the end is nearer, or the program waits for a
byte of the arm. -/
structure GoesOn (x y : Service) (o : Order) : Prop where
  keeps : ∃ os o', y.log = x.log ++ os ∧ Lib.Path Order.Step o os o' ∧ Matches y o'
  nearer : y.left < x.left ∨ y = x ∧ x.due ≠ [] ∧ x.machine.arm.usart6DataFlag = false

namespace GoesOn

variable {x y : Service} {o o' : Order} {e : Obs}

/-- Nothing is recorded. -/
lemma silent (h : Matches y o) (hlog : y.log = x.log) (hleft : y.left < x.left) :
    GoesOn x y o :=
  ⟨⟨[], o, by rw [hlog, List.append_nil], .nil o, h⟩, .inl hleft⟩

/-- A step of the order. -/
lemma step (hs : Order.Step o e o') (h : Matches y o') (hlog : y.log = x.log ++ [e])
    (hleft : y.left < x.left) : GoesOn x y o :=
  ⟨⟨[e], o', hlog, .single hs, h⟩, .inl hleft⟩

/-- The program waits. -/
lemma wait (h : Matches x o) (hdue : x.due ≠ []) (hflag : x.machine.arm.usart6DataFlag = false) :
    GoesOn x x o :=
  ⟨⟨[], o, (List.append_nil _).symm, .nil o, h⟩, .inr ⟨rfl, hdue, hflag⟩⟩

end GoesOn

/-! ## Looking for a meal -/

section Look

variable {x : Service} {o : Order} {io : Io}

/-- In the main loop the arm has nothing to say, and `switch(Current)` comes next. -/
lemma goesOn_deal (h : Matches x o) {c : Current} (hserving : x.serving)
    (hc : x.machine.session.current = c) (hpc : x.machine.session.pc = .deal)
    (hat : At (x.machine.goto .switch) o) (hrank : Pc.switch.rank c < Pc.deal.rank c) :
    GoesOn x (x.go io) o := by
  obtain ⟨hdue, hsil, hw⟩ := h.arm.of_rest (by rw [hpc]; exact ⟨rfl, rfl⟩)
  have hgo : x.machine.go io = x.machine.goto .switch := by
    rw [Machine.go]
    rw [hpc]
    exact Machine.manageusart6data_of_silent _ _ hsil.2
  rw [Service.go_eq [] hgo rfl, hdue]
  refine .silent ⟨h.consistent, h.enough, h.change, ?_, hat⟩ rfl ?_
  · exact .rest ⟨rfl, rfl⟩ hsil hw
  · exact Service.left_lt .switch [] hserving rfl hc hc hpc rfl hdue rfl (by simpa using hrank)

lemma goesOn_look_deal (h : Matches x o) (hs : o.stage = .look)
    (hc : x.machine.session.current = .mealOut) (hpc : x.machine.session.pc = .deal)
    (hm : o.meals = x.machine.session.userAct.meals)
    (hsh : o.shelves = x.machine.stock.shelves) : GoesOn x (x.go io) o :=
  goesOn_deal h (.inl hc) hc hpc (.look hs hc (.inr (.inl rfl)) hm hsh) (by decide)

lemma goesOn_look_switch (h : Matches x o) (hs : o.stage = .look)
    (hc : x.machine.session.current = .mealOut) (hpc : x.machine.session.pc = .switch)
    (hm : o.meals = x.machine.session.userAct.meals)
    (hsh : o.shelves = x.machine.stock.shelves) : GoesOn x (x.go io) o := by
  obtain ⟨hdue, hsil, hw⟩ := h.arm.of_rest (by rw [hpc]; exact ⟨rfl, rfl⟩)
  have hgo : x.machine.go io = x.machine.saveUserData.goto .find := by
    rw [Machine.go]
    rw [hpc]
    dsimp only
    rw [Machine.switch]
    rw [hc]
  have hsave : ∃ bkp, x.machine.saveUserData = { x.machine with bkp := bkp } :=
    ⟨_, Machine.foldl_writeBackup _ _⟩
  obtain ⟨bkp, hsave⟩ := hsave
  rw [hsave] at hgo
  rw [Service.go_eq [] hgo rfl, hdue]
  refine .silent ⟨h.consistent, h.enough, h.change, ?_, ?_⟩ rfl ?_
  · exact .rest ⟨rfl, rfl⟩ hsil hw
  · exact .look hs hc (.inr (.inr rfl)) hm hsh
  · exact Service.left_lt .find [] (.inl hc) rfl hc hc hpc rfl hdue rfl (by decide)

/-- Case 0 with an empty cart. -/
lemma goesOn_find_none (h : Matches x o) (hs : o.stage = .look)
    (hc : x.machine.session.current = .mealOut) (hpc : x.machine.session.pc = .find)
    (hm : o.meals = x.machine.session.userAct.meals)
    (hsh : o.shelves = x.machine.stock.shelves)
    (hk : x.machine.session.userAct.firstKind = none) : GoesOn x (x.go io) o := by
  obtain ⟨hdue, hsil, hw⟩ := h.arm.of_rest (by rw [hpc]; exact ⟨rfl, rfl⟩)
  have hgo : x.machine.go io = (x.machine.onSession Session.takeAfter).goto .deal := by
    rw [Machine.go]
    rw [hpc]
    dsimp only
    rw [Machine.find]
    rw [hk]
  have hnil : o.meals = [] := by rw [hm, UserSelection.meals_of_firstKind_none hk]
  rw [Service.go_eq [.takeafter, .clear] hgo rfl, hdue]
  have hstep := Order.Step.takeafter hs hnil
  refine .step hstep ⟨h.consistent, h.enough.step hstep, h.change, ?_, ?_⟩ ?_ ?_
  · exact .rest ⟨rfl, rfl⟩ hsil hw
  · exact .ended rfl rfl rfl (fun _ => rfl) hsh
  · exact Service.log_eq [.takeafter, .clear] rfl
  · have hzero : (⟨(x.machine.onSession Session.takeAfter).goto .deal, []⟩ : Service).left = 0 :=
      if_neg (by rintro (h | h) <;> cases h)
    refine lt_of_eq_of_lt hzero ?_
    rw [Service.left]
    rw [if_pos (.inl hc), hpc]
    dsimp only [Pc.rank]
    omega

/-- Case 0 finds a meal, as the shelves hold what is to be taken. -/
lemma goesOn_find_some (h : Matches x o) (hs : o.stage = .look)
    (hc : x.machine.session.current = .mealOut) (hpc : x.machine.session.pc = .find)
    (hm : o.meals = x.machine.session.userAct.meals)
    (hsh : o.shelves = x.machine.stock.shelves) {k : Kind}
    (hk : x.machine.session.userAct.firstKind = some k) : GoesOn x (x.go io) o := by
  obtain ⟨hdue, hsil, hw⟩ := h.arm.of_rest (by rw [hpc]; exact ⟨rfl, rfl⟩)
  have hcons : o.meals = k :: o.meals.tail := by
    have hmeals : x.machine.session.userAct.meals = k :: UserSelection.meals
        { x.machine.session.userAct with
          mealCnt := Function.update x.machine.session.userAct.mealCnt k
            (x.machine.session.userAct.mealCnt k - 1) } :=
      UserSelection.meals_of_firstKind hk rfl
    rw [hm, hmeals]
    rfl
  have hone : 1 ≤ o.shelves.kind k := by
    have henough := h.enough k
    unfold Order.toTake at henough
    rw [hs] at henough
    dsimp only at henough
    rw [hcons, List.count_cons_self] at henough
    omega
  obtain ⟨⟨l, c⟩, hp⟩ : ∃ p, x.machine.stock.findMeal k = some p := by
    cases hp : x.machine.stock.findMeal k with
    | some p => exact ⟨p, rfl⟩
    | none =>
      -- no position would be left, although a meal is counted
      have hzero := Stock.positions_eq_zero hp
      rw [h.consistent.positions_eq, ← h.consistent.mealCount] at hzero
      rw [hsh] at hone
      have hone : 1 ≤ (x.machine.stock.defineMeal k).mealCount.toNat := hone
      omega
  have hpos := Stock.findMeal_pos hp
  have hgo : x.machine.go io =
      ({ x.machine with stock.place := some (l, c) }.onSession (Session.found k l c)).goto
        .take := by
    rw [Machine.go]
    rw [hpc]
    dsimp only
    rw [Machine.find]
    rw [hk]
    dsimp only
    rw [hp]
  rw [Service.go_eq [.find k l c] hgo rfl, hdue]
  have hposition : 0 < o.shelves.position k l c := by
    rw [hsh]
    exact hpos
  have hstep := Order.Step.find hs hcons hposition
  refine .step hstep ⟨h.consistent.edit _ _, h.enough.step hstep, h.change, ?_, ?_⟩ ?_ ?_
  · exact .rest ⟨rfl, rfl⟩ hsil hw
  · refine .take rfl hc rfl rfl hk rfl hpos hm ?_
    rw [hsh]
    rfl
  · exact Service.log_eq [.find k l c] rfl
  · exact Service.left_lt .take [] (.inl hc) rfl hc hc hpc rfl hdue rfl (by decide)

/-- Case 1 takes the meal from the tables and sends the arm there. -/
lemma goesOn_take (h : Matches x o) {k : Kind} {l : Floor} {c : Column} (hflash : io.flash = none)
    (hs : o.stage = .found k) (hc : x.machine.session.current = .mealOut)
    (hpc : x.machine.session.pc = .take) (hid : x.machine.session.userAct.mealID = k.id)
    (hk : x.machine.session.userAct.firstKind = some k)
    (hp : x.machine.stock.place = some (l, c))
    (hpos : 0 < (x.machine.stock.defineMeal k).position l c)
    (hm : o.meals = x.machine.session.userAct.meals)
    (hsh : o.shelves = x.machine.stock.shelves.take k l c) : GoesOn x (x.go io) o := by
  obtain ⟨hdue, hsil, hw⟩ := h.arm.of_rest (by rw [hpc]; exact ⟨rfl, rfl⟩)
  have htake := h.consistent.takeMeal hpos
  have hgo : x.machine.go io = ({ x.machine with
      stock := x.machine.stock.takeMeal (some k) l c }.order (.sendCoord l c)).goto (.coord 0) := by
    rw [Machine.go]
    rw [hpc]
    dsimp only
    rw [Machine.take]
    rw [hp]
    dsimp only
    rw [hid, Kind.ofID_id, hflash]
    change ({ x.machine with
      stock := (x.machine.stock.takeMeal (some k) l c).statisticsTotal }.order _).goto _ = _
    rw [Stock.statisticsTotal_eq_self htake]
  rw [Service.go_eq [.command (.sendCoord l c)] hgo rfl, hdue]
  refine .silent ⟨htake, h.enough, h.change, ?_, ?_⟩ ?_ ?_
  · have hcoord : (Pc.coord 0).orders = some (atGoal, []) := rfl
    exact .ackDue hcoord hsil (hw.of_eq rfl) (Nat.zero_le 1)
  · refine .fetch hs hc rfl hid hk ?_ hm ?_
    · change x.machine.stock.place.isSome
      rw [hp]
      rfl
    · rw [hsh]
      exact (h.consistent.shelves_takeMeal hpos).symm
  · exact (Service.log_eq [.command (.sendCoord l c)] rfl).trans (List.append_nil _)
  · exact Service.left_lt (.coord 0) (0x06 :: List.ofFn atGoal) (.inl hc) rfl hc hc hpc rfl hdue rfl
      (by decide)

end Look

/-! ## Fetching it -/

section Fetch

variable {x : Service} {o : Order} {io : Io} {k : Kind}

/-- The program does nothing while it waits. -/
lemma Service.go_self (h : x.machine.go io = x.machine) : x.go io = x := by
  rw [Service.go_eq [] h rfl]
  simp

/-- What is the same while a meal is fetched. -/
structure Fetching (x : Service) (o : Order) (k : Kind) : Prop where
  stage : o.stage = .found k
  current : x.machine.session.current = .mealOut
  mealID : x.machine.session.userAct.mealID = k.id
  first : x.machine.session.userAct.firstKind = some k
  place : x.machine.stock.place.isSome
  meals : o.meals = x.machine.session.userAct.meals
  shelves : o.shelves = x.machine.stock.shelves

/-- The program goes on from one place to the next. -/
lemma Fetching.goesOn (hf : Fetching x o k) (h : Matches x o) {p p' : Pc} {a : Arm}
    {d d' : List UInt8} (os : List Obs) (hpc : x.machine.session.pc = p) (hdue : x.due = d)
    (hp' : p'.fetches) (hgo : x.machine.go io = { x.machine with
      arm := a
      session := { x.machine.session with pc := p', trace := os ++ x.machine.session.trace } })
    (hos : os.filter Obs.serves = [])
    (hd' : d ++ (os.reverse.filterMap Obs.command?).flatMap answer = d') (harm : ArmAt p' a d')
    (hlt : p'.rank .mealOut + d'.length < p.rank .mealOut + d.length) : GoesOn x (x.go io) o := by
  rw [Service.go_eq os hgo rfl, hdue, hd']
  refine .silent ⟨h.consistent, h.enough, h.change, harm, ?_⟩ ?_ ?_
  · exact .fetch hf.stage hf.current hp' hf.mealID hf.first hf.place hf.meals hf.shelves
  · refine (Service.log_eq os rfl).trans ?_
    rw [hos]
    exact List.append_nil _
  · exact Service.left_lt p' _ (.inl hf.current) rfl hf.current hf.current hpc rfl hdue rfl hlt

/-- The two places where a command was sent. -/
lemma Fetching.order (hf : Fetching x o k) (h : Matches x o) {p p' : Pc} {L : Line}
    {more : List UInt8} {m r : ℕ} {c : Command} {again : ℕ → Pc} {done fail : Machine → Machine}
    (hpc : x.machine.session.pc = p) (hp : p.orders = some (L, more))
    (hp' : p'.waits = some (L, more, m)) (hfetch : p'.fetches)
    (hrank : p'.rank .mealOut < p.rank .mealOut)
    (hgo : x.machine.go io = x.machine.waitOrder c r again done fail)
    (hdone : ∀ s : Machine, ∃ b, done s =
      (s.onArm fun a => { a with linkTime := 0, rerelative := b }).goto p') :
    GoesOn x (x.go io) o := by
  have harm := h.arm
  rw [hpc] at harm
  rcases harm.of_orders hp with ⟨hw, ht, hdue, hflag⟩ | ⟨n, hn, hw, hdue⟩
  · rw [Machine.waitOrder_of_waiting hw ht] at hgo
    rw [Service.go_self hgo]
    exact .wait h hdue hflag
  · rw [Machine.waitOrder_of_acked hw] at hgo
    obtain ⟨b, hb⟩ := hdone { x.machine with
      arm := { x.machine.arm with reack := false, renack := false, linkTime := 0 } }
    refine hf.goesOn h [] hpc hdue hfetch (hgo.trans hb) rfl (List.append_nil _) ?_ ?_
    · exact .waits hp' ⟨hn.le, hn.index, hn.buff, hn.flag⟩ ⟨rfl, rfl, hw.regoal, hw.retodoor,
        hw.remealaway, hw.remealnoaway, hw.reenablegetmeal⟩ (Nat.zero_le m)
    · exact Nat.add_lt_add_right hrank _

lemma Fetching.coord (hf : Fetching x o k) (h : Matches x o)
    (hpc : x.machine.session.pc = .coord 0) : GoesOn x (x.go io) o := by
  obtain ⟨⟨l, c⟩, hplace⟩ := Option.isSome_iff_exists.mp hf.place
  have hgo : x.machine.go io = x.machine.waitOrder (.sendCoord l c) 0 .coord
      (fun s => (s.onArm fun a => { a with linkTime := 0, rerelative := false }).goto .goal)
      (Machine.takemealErro sendUR6Erro) := by
    rw [Machine.go]
    rw [hpc]
    dsimp only
    rw [Machine.coord]
    rw [hplace]
  exact hf.order h hpc rfl rfl rfl (by decide) hgo fun s => ⟨false, rfl⟩

lemma Fetching.getMeal (hf : Fetching x o k) (h : Matches x o)
    (hpc : x.machine.session.pc = .getMeal 0) : GoesOn x (x.go io) o := by
  have hgo : x.machine.go io = x.machine.getMeal 0 := by
    rw [Machine.go]
    rw [hpc]
  exact hf.order h hpc rfl rfl rfl (by decide) hgo fun s => ⟨s.arm.rerelative, rfl⟩

/-- The three places where the program waits for a line. -/
lemma Fetching.line (hf : Fetching x o k) (h : Matches x o) {p : Pc} {L : Line}
    {more : List UInt8} {m : ℕ} (ret : Ret) (check : Machine → Machine) (p' : Pc) (os : List Obs)
    (a' : Arm) (d' : List UInt8) (hpc : x.machine.session.pc = p) (hp : p.waits = some (L, more, m))
    (hE : L 0 ≠ 'E'.toUInt8) (hfetch : p'.fetches)
    (hgo : x.machine.arm.linkTime.toNat ≤ m →
      x.machine.go io = x.machine.manageusart6data ret check)
    (hcheck : x.machine.arm.Waiting false → check x.machine = x.machine)
    (hread : x.machine.arm.Waiting false → x.machine.arm.Heard L 6 →
      check { x.machine with
        arm := { x.machine.arm with usart6DataFlag := false }.readLine.clearBuff } =
      { x.machine with
        arm := a'
        session := { x.machine.session with
          pc := p', trace := os ++ x.machine.session.trace } })
    (hos : os.filter Obs.serves = [])
    (hd' : more ++ (os.reverse.filterMap Obs.command?).flatMap answer = d')
    (harm : x.machine.arm.Waiting false → ArmAt p' a' d')
    (hlt : p'.rank .mealOut + d'.length < p.rank .mealOut + more.length) :
    GoesOn x (x.go io) o := by
  have hat := h.arm
  rw [hpc] at hat
  obtain ⟨hw, ht, hdue⟩ := hat.of_waits hp
  have hgo := hgo ht
  rcases hdue with ⟨hdue, hflag⟩ | ⟨hL, hdue⟩
  · rw [Machine.manageusart6data_of_silent _ _ hflag, hcheck hw] at hgo
    rw [Service.go_self hgo]
    exact .wait h hdue hflag
  · rw [Machine.manageusart6data_of_heard _ _ hL hE, hread hw hL] at hgo
    exact hf.goesOn h os hpc hdue hfetch hgo hos hd' (harm hw) hlt

lemma Fetching.goal (hf : Fetching x o k) (h : Matches x o)
    (hpc : x.machine.session.pc = .goal) : GoesOn x (x.go io) o := by
  refine hf.line h .goal Machine.goalCheck (.getMeal 0) [.command .getMeal]
    { x.machine.arm with
      usart6DataFlag := false, usart6Index := 0, usart6Buff := fun _ => 0, linkTime := 0
      regoal := false }
    (answer .getMeal) hpc rfl (by decide) rfl (fun ht => ?_) (fun hw => ?_) (fun _ hL => ?_) rfl
    rfl (fun hw => ?_) (by decide)
  · have hlate : ¬ 10 < x.machine.arm.linkTime := by
      rw [UInt8.lt_iff_toNat_lt]
      exact Nat.not_lt.mpr ht
    rw [Machine.go]
    rw [hpc]
    dsimp only
    rw [Machine.goal]
    rw [if_neg hlate]
  · rw [Machine.goalCheck]
    rw [hw.regoal]
    exact Machine.goto_self hpc
  · rw [Arm.readLine_goal (a := { x.machine.arm with usart6DataFlag := false }) hL.buff_eq]
    rfl
  · exact .ackDue rfl ⟨rfl, rfl⟩ ⟨hw.reack, hw.renack, rfl, hw.retodoor, hw.remealaway,
      hw.remealnoaway, hw.reenablegetmeal⟩ (Nat.zero_le 1)

lemma Fetching.door (hf : Fetching x o k) (h : Matches x o)
    (hpc : x.machine.session.pc = .door) : GoesOn x (x.go io) o := by
  refine hf.line h .door Machine.doorCheck .away []
    { x.machine.arm with
      usart6DataFlag := false, usart6Index := 0, usart6Buff := fun _ => 0, linkTime := 0
      retodoor := false }
    (List.ofFn mealAway) hpc rfl (by decide) rfl (fun ht => ?_) (fun hw => ?_) (fun _ hL => ?_) rfl
    rfl (fun hw => ?_) (by decide)
  · have hlate : ¬ 120 < x.machine.arm.linkTime := by
      rw [UInt8.lt_iff_toNat_lt]
      exact Nat.not_lt.mpr ht
    rw [Machine.go]
    rw [hpc]
    dsimp only
    rw [Machine.door]
    rw [if_neg hlate]
  · rw [Machine.doorCheck]
    rw [hw.retodoor, hw.reenablegetmeal]
    exact Machine.goto_self hpc
  · rw [Arm.readLine_door (a := { x.machine.arm with usart6DataFlag := false }) hL.buff_eq]
    rfl
  · have hnone : ∀ i : Fin 6, i.val < 0 → (fun _ : Fin 6 => (0 : UInt8)) i = mealAway i := by
      intro i hi
      exact absurd hi (Nat.not_lt_zero i)
    exact .waits (n := 0) (L := mealAway) rfl ⟨Nat.zero_le 6, rfl, hnone, rfl⟩
      ⟨hw.reack, hw.renack, hw.regoal, rfl, hw.remealaway, hw.remealnoaway, hw.reenablegetmeal⟩
      (Nat.zero_le 180)

lemma Fetching.away (hf : Fetching x o k) (h : Matches x o)
    (hpc : x.machine.session.pc = .away) : GoesOn x (x.go io) o := by
  refine hf.line h .away Machine.awayCheck .count []
    { x.machine.arm with
      usart6DataFlag := false, usart6Index := 0, usart6Buff := fun _ => 0, linkTime := 0
      remealaway := false, remealnoaway := false }
    [] hpc rfl (by decide) rfl (fun ht => ?_) (fun hw => ?_) (fun _ hL => ?_) rfl rfl
    (fun hw => ?_) (by decide)
  · have hlate : ¬ 180 < x.machine.arm.linkTime := by
      rw [UInt8.lt_iff_toNat_lt]
      exact Nat.not_lt.mpr ht
    rw [Machine.go]
    rw [hpc]
    dsimp only
    rw [Machine.away]
    rw [if_neg hlate]
  · rw [Machine.awayCheck]
    rw [hw.remealaway, hw.remealnoaway]
    exact Machine.goto_self hpc
  · rw [Arm.readLine_away (a := { x.machine.arm with usart6DataFlag := false }) hL.buff_eq]
    rfl
  · exact .rest ⟨rfl, rfl⟩ ⟨rfl, rfl⟩ ⟨hw.reack, hw.renack, hw.regoal, hw.retodoor, rfl, rfl,
      hw.reenablegetmeal⟩

/-- Case 5: the meal is handed out. -/
lemma Fetching.count (hf : Fetching x o k) (h : Matches x o)
    (hpc : x.machine.session.pc = .count) : GoesOn x (x.go io) o := by
  obtain ⟨hdue, hsil, hw⟩ := h.arm.of_rest (by rw [hpc]; exact ⟨rfl, rfl⟩)
  have hgo : x.machine.go io = (x.machine.onSession Session.takeOut).goto .deal := by
    rw [Machine.go]
    rw [hpc]
    rfl
  set u := x.machine.session.userAct with hu
  have hid : u.takeOut.mealID = k.id := u.takeOut_mealID.trans hf.mealID
  have hcnt : u.takeOut.mealCnt = Function.update u.mealCnt k (u.mealCnt k - 1) :=
    UserSelection.takeOut_mealCnt (by rw [hu, hf.mealID, Kind.ofID_id])
  have hmeals : u.meals = k :: u.takeOut.meals := UserSelection.meals_of_firstKind hf.first hcnt
  have hstep := Order.Step.takeout hf.stage (hf.meals.trans hmeals)
  rw [Service.go_eq [.takeout] hgo rfl, hdue]
  refine .step hstep ⟨h.consistent, h.enough.step hstep, h.change, ?_, ?_⟩ ?_ ?_
  · exact .rest ⟨rfl, rfl⟩ hsil hw
  · exact .upload rfl rfl (.inl rfl) hid rfl hf.shelves
  · exact Service.log_eq [.takeout] rfl
  · have hserving : x.serving := .inl hf.current
    have hserving' : (⟨(x.machine.onSession Session.takeOut).goto .deal, []⟩ : Service).serving :=
      .inr rfl
    have hlen : u.meals.length = u.takeOut.meals.length + 1 := by rw [hmeals]; rfl
    refine lt_of_eq_of_lt (if_pos hserving') ?_
    refine lt_of_lt_of_eq ?_ (if_pos hserving).symm
    rw [hpc, ← hu, hlen]
    change 40 * u.takeOut.meals.length + 41 + 0 < 40 * (u.takeOut.meals.length + 1) + 10 + _
    omega

end Fetch

/-! ## Reporting it -/

lemma price_digits (k : Kind) :
    (![0x00, 0x00, 0x00, 0x00, 0x15, 0x00] : Fin 6 → UInt8) = digits (price k * 100) := by
  revert k
  decide

/-- The record of an upload is a report of its kind, with the change as it is. -/
lemma mealArr_reports (k : Kind) (payType : UInt8) (change : ℤ) (stock : Stock)
    (sel : CustomerSel) : (mealArr k.id payType change stock sel).Reports k change := by
  rw [mealArr]
  rw [Kind.ofID_id]
  exact ⟨rfl, rfl, rfl, price_digits k, rfl⟩

section Upload

variable {x : Service} {o : Order} {io : Io} {k : Kind}

lemma goesOn_upload_deal (h : Matches x o) (hs : o.stage = .out k)
    (hc : x.machine.session.current = .dataUpload) (hpc : x.machine.session.pc = .deal)
    (hid : x.machine.session.userAct.mealID = k.id)
    (hm : o.meals = x.machine.session.userAct.meals)
    (hsh : o.shelves = x.machine.stock.shelves) : GoesOn x (x.go io) o :=
  goesOn_deal h (.inr hc) hc hpc (.upload hs hc (.inr rfl) hid hm hsh) (by decide)

/-- The meal is reported with its kind, and the change only once. -/
lemma goesOn_upload_switch (h : Matches x o) (hs : o.stage = .out k)
    (hc : x.machine.session.current = .dataUpload) (hpc : x.machine.session.pc = .switch)
    (hid : x.machine.session.userAct.mealID = k.id)
    (hm : o.meals = x.machine.session.userAct.meals)
    (hsh : o.shelves = x.machine.stock.shelves) : GoesOn x (x.go io) o := by
  obtain ⟨hdue, hsil, hw⟩ := h.arm.of_rest (by rw [hpc]; exact ⟨rfl, rfl⟩)
  have hgo : x.machine.go io = ((x.machine.dataUpload true).onSession fun t =>
      { t with current := .mealOut }).goto .deal := by
    rw [Machine.go]
    rw [hpc]
    dsimp only
    rw [Machine.switch]
    rw [hc]
  set sel := mealArr x.machine.session.userAct.mealID x.machine.session.userAct.payType
    x.machine.moneyBack x.machine.stock x.machine.customerSel with hsel
  have hrep : sel.Reports k o.change := by
    rw [hsel, hid, h.change]
    exact mealArr_reports ..
  have hstep := Order.Step.upload hs hrep
  rw [Service.go_eq [.upload true sel] hgo rfl, hdue]
  refine .step hstep ⟨h.consistent, h.enough.step hstep, rfl, ?_, ?_⟩ ?_ ?_
  · exact .rest ⟨rfl, rfl⟩ hsil hw
  · exact .look rfl rfl (.inl rfl) hm hsh
  · exact Service.log_eq [.upload true sel] rfl
  · exact Service.left_lt .deal [] (.inr hc) rfl hc (show _ = Current.mealOut from rfl) hpc rfl hdue
      rfl (by decide)

end Upload

/-- The program runs on. -/
lemma Matches.go {x : Service} {o : Order} {io : Io} (h : Matches x o) (hserving : x.serving)
    (hio : io.flash = none) :
    GoesOn x (x.go io) o := by
  cases h.place with
  | look hs hc hpc hm hsh =>
    rcases hpc with hpc | hpc | hpc
    · exact goesOn_look_deal h hs hc hpc hm hsh
    · exact goesOn_look_switch h hs hc hpc hm hsh
    · cases hk : x.machine.session.userAct.firstKind with
      | none => exact goesOn_find_none h hs hc hpc hm hsh hk
      | some k => exact goesOn_find_some h hs hc hpc hm hsh hk
  | take hs hc hpc hid hk hp hpos hm hsh =>
    exact goesOn_take h hio hs hc hpc hid hk hp hpos hm hsh
  | @fetch k hs hc hpc hid hk hp hm hsh =>
    have hf : Fetching x o k := ⟨hs, hc, hid, hk, hp, hm, hsh⟩
    unfold Pc.fetches at hpc
    split at hpc
    · next heq => exact hf.coord h heq
    · next heq => exact hf.goal h heq
    · next heq => exact hf.getMeal h heq
    · next heq => exact hf.door h heq
    · next heq => exact hf.away h heq
    · next heq => exact hf.count h heq
    · cases hpc
  | upload hs hc hpc hid hm hsh =>
    rcases hpc with hpc | hpc
    · exact goesOn_upload_deal h hs hc hpc hid hm hsh
    · exact goesOn_upload_switch h hs hc hpc hid hm hsh
  | ended hs hc =>
    rcases hserving with hc' | hc'
    · rw [hc] at hc'
      cases hc'
    · rw [hc] at hc'
      cases hc'

end MealVendor
