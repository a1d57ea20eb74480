import MealVendor.Delivery.Refine
import MealVendor.Lib.Progress

/-!
# A paid cart is handed out

Coins, timers and the power supply may interrupt the program while it hands out the meals of a
cart; none of them is noticed by the order.  So every run is a path of the order, and one that
goes on serves it to the end.
-/

namespace MealVendor

/-! ## Interrupts -/

section Steps

variable {x y : Service} {o : Order} {io : Io}

/-- An interrupt that does nothing to the dispensing of the meals. -/
structure Aside (s t : Machine) : Prop where
  stock : t.stock = s.stock
  moneyBack : t.moneyBack = s.moneyBack
  pc : t.session.pc = s.session.pc
  current : t.session.current = s.session.current
  mealCnt : t.session.userAct.mealCnt = s.session.userAct.mealCnt
  mealID : t.session.userAct.mealID = s.session.userAct.mealID
  trace : ∃ os : List Obs, os.filter Obs.serves = [] ∧ t.session.trace = os ++ s.session.trace

namespace Aside

variable {s t : Machine}

lemma meals (h : Aside s t) : t.session.userAct.meals = s.session.userAct.meals := by
  rw [UserSelection.meals, UserSelection.meals]
  rw [h.mealCnt]

lemma firstKind (h : Aside s t) :
    t.session.userAct.firstKind = s.session.userAct.firstKind := by
  rw [UserSelection.firstKind, UserSelection.firstKind]
  rw [h.mealCnt]

lemma place (h : Aside s t) (hat : At s o) : At t o := by
  cases hat with
  | look hs hc hpc hm hsh =>
    refine .look hs (h.current.trans hc) ?_ (hm.trans h.meals.symm) ?_
    · rw [h.pc]
      exact hpc
    · rw [h.stock]
      exact hsh
  | @take k l c hs hc hpc hid hk hp hpos hm hsh =>
    refine .take (l := l) (c := c) hs (h.current.trans hc) (h.pc.trans hpc) (h.mealID.trans hid)
      (h.firstKind.trans hk) ?_ ?_ (hm.trans h.meals.symm) ?_
    · rw [h.stock]
      exact hp
    · rw [h.stock]
      exact hpos
    · rw [h.stock]
      exact hsh
  | fetch hs hc hpc hid hk hp hm hsh =>
    refine .fetch hs (h.current.trans hc) ?_ (h.mealID.trans hid) (h.firstKind.trans hk) ?_
      (hm.trans h.meals.symm) ?_
    · rw [h.pc]
      exact hpc
    · rw [h.stock]
      exact hp
    · rw [h.stock]
      exact hsh
  | upload hs hc hpc hid hm hsh =>
    refine .upload hs (h.current.trans hc) ?_ (h.mealID.trans hid) (hm.trans h.meals.symm) ?_
    · rw [h.pc]
      exact hpc
    · rw [h.stock]
      exact hsh
  | ended hs hc hpc hcart hsh =>
    refine .ended hs (h.current.trans hc) (h.pc.trans hpc) ?_ ?_
    · rw [h.mealCnt]
      exact hcart
    · rw [h.stock]
      exact hsh

lemma coinIn : Aside s s.coinIn ∧ s.coinIn.arm = s.arm := by
  rw [Machine.coinIn]
  dsimp only
  split_ifs
  · exact ⟨⟨rfl, rfl, rfl, rfl, rfl, rfl, [.coin], rfl, rfl⟩, rfl⟩
  · exact ⟨⟨rfl, rfl, rfl, rfl, rfl, rfl, [], rfl, rfl⟩, rfl⟩

lemma pvd : Aside s s.pvd ∧ s.pvd.arm = s.arm := by
  rw [Machine.pvd, Machine.saveUserData]
  rw [Machine.foldl_writeBackup]
  exact ⟨⟨rfl, rfl, rfl, rfl, rfl, rfl, [], rfl, rfl⟩, rfl⟩

/-- Only timers, the arm and data that is not about the meals have changed. -/
lemma of_session (hsession : t.session = s.session) (hstock : t.stock = s.stock)
    (hmoney : t.moneyBack = s.moneyBack) : Aside s t := by
  refine ⟨hstock, hmoney, ?_, ?_, ?_, ?_, [], rfl, ?_⟩ <;> rw [hsession]
  rfl

lemma usart6 (b : UInt8) : Aside s (s.usart6 b) ∧ (s.usart6 b).arm = s.arm.receive b := by
  obtain ⟨os, hos, h⟩ := s.usart6_eq b
  rw [h]
  refine ⟨⟨rfl, rfl, rfl, rfl, rfl, rfl, os, ?_, rfl⟩, rfl⟩
  rw [List.filter_eq_nil_iff]
  intro o ho
  obtain ⟨ack, rfl⟩ := hos o ho
  exact nofun

end Aside

/-- The order does not notice such an interrupt, if the arm is where it should be. -/
lemma Matches.aside {t : Machine} {due : List UInt8} (h : Matches x o) (ha : Aside x.machine t)
    (harm : ArmAt x.machine.session.pc t.arm due) :
    Matches ⟨t, due⟩ o ∧ (⟨t, due⟩ : Service).log = x.log ∧
      (x.due.length = due.length → (⟨t, due⟩ : Service).left = x.left) := by
  obtain ⟨os, hos, htrace⟩ := ha.trace
  refine ⟨⟨?_, h.enough, ha.moneyBack.trans h.change, ?_, ha.place h.place⟩, ?_, fun hlen => ?_⟩
  · rw [ha.stock]
    exact h.consistent
  · rw [ha.pc]
    exact harm
  · rw [Service.log_eq os htrace, hos]
    exact List.append_nil _
  · rw [Service.left, Service.left]
    rw [ha.current, ha.pc, ha.meals, hlen]

/-- The arm sends its next byte. -/
lemma Matches.byte (h : Matches x o) {b : UInt8} {ds : List UInt8} (hdue : x.due = b :: ds)
    (hflag : x.machine.arm.usart6DataFlag = false) :
    Matches ⟨x.machine.usart6 b, ds⟩ o ∧
      (⟨x.machine.usart6 b, ds⟩ : Service).log = x.log ∧
      (x.serving → (⟨x.machine.usart6 b, ds⟩ : Service).left < x.left) ∧
      (⟨x.machine.usart6 b, ds⟩ : Service).left ≤ x.left := by
  obtain ⟨ha, harm⟩ := Aside.usart6 (s := x.machine) b
  have hbyte : ArmAt x.machine.session.pc (x.machine.usart6 b).arm ds := by
    have hat := h.arm
    rw [hdue] at hat
    rw [harm]
    exact hat.byte hflag
  obtain ⟨hm, hlog, -⟩ := h.aside ha hbyte
  have hlt : x.serving → (⟨x.machine.usart6 b, ds⟩ : Service).left < x.left := by
    intro hserving
    have hrank : x.machine.session.pc.rank x.machine.session.current + ds.length <
        x.machine.session.pc.rank x.machine.session.current + (b :: ds).length := by
      rw [List.length_cons]
      omega
    exact Service.left_lt (y := ⟨x.machine.usart6 b, ds⟩) _ ds hserving ha.meals rfl ha.current rfl
      ha.pc hdue rfl hrank
  refine ⟨hm, hlog, hlt, ?_⟩
  by_cases hserving : x.serving
  · exact (hlt hserving).le
  · have hzero : (⟨x.machine.usart6 b, ds⟩ : Service).left = 0 := by
      rw [Service.left]
      rw [ha.current]
      exact if_neg hserving
    rw [hzero]
    exact Nat.zero_le _

/-- A step of the machine or of the arm keeps the order, and leads no farther from its end. -/
lemma Matches.step {e : Event} (h : Matches x o) (hs : x.step .steady e = some y) :
    (∃ os o', y.log = x.log ++ os ∧ Lib.Path Order.Step o os o' ∧ Matches y o') ∧
      y.left ≤ x.left := by
  -- interrupts that the order does not notice
  have haside : ∀ t : Machine, Aside x.machine t → ArmAt x.machine.session.pc t.arm x.due →
      y = ⟨t, x.due⟩ →
      (∃ os o', y.log = x.log ++ os ∧ Lib.Path Order.Step o os o' ∧ Matches y o') ∧
        y.left ≤ x.left := by
    rintro t ha harm rfl
    obtain ⟨hm, hlog, hleft⟩ := h.aside ha harm
    exact ⟨⟨[], o, by rw [hlog, List.append_nil], .nil o, hm⟩, (hleft rfl).le⟩
  cases e with
  | screen f io => cases hs
  | tim3 => cases hs
  | coinIn =>
    simp only [Service.step, MealVendor.step, Option.map_some, Option.some.injEq] at hs
    obtain ⟨ha, harm⟩ := Aside.coinIn (s := x.machine)
    refine haside _ ha ?_ hs.symm
    rw [harm]
    exact h.arm
  | pvd =>
    simp only [Service.step, MealVendor.step, Option.map_some, Option.some.injEq] at hs
    obtain ⟨ha, harm⟩ := Aside.pvd (s := x.machine)
    refine haside _ ha ?_ hs.symm
    rw [harm]
    exact h.arm
  | coinOut =>
    simp only [Service.step, MealVendor.step, Option.map_some, Option.some.injEq] at hs
    exact haside x.machine.coinOut (.of_session rfl rfl rfl) h.arm hs.symm
  | tim4 =>
    simp only [Service.step, Option.map_eq_some_iff] at hs
    obtain ⟨t, ht, rfl⟩ := hs
    obtain rfl := step_tim4 ht
    exact haside x.machine.tim4 (.of_session rfl rfl rfl) h.arm rfl
  | tim7 =>
    simp only [Service.step, Option.map_eq_some_iff] at hs
    obtain ⟨t, ht, rfl⟩ := hs
    obtain rfl := step_tim7 ht
    exact haside x.machine.tim7 (.of_session rfl rfl rfl) h.arm rfl
  | tim5 =>
    simp only [Service.step, Option.ite_none_right_eq_some, Option.some.injEq] at hs
    obtain ⟨hin, rfl⟩ := hs
    refine haside x.machine.tim5 (.of_session rfl rfl rfl) ?_ rfl
    exact h.arm.tick fun hack howes => hin ⟨hack, howes⟩
  | usart6 b =>
    cases hdue : x.due with
    | nil => simp [Service.step, hdue] at hs
    | cons d ds =>
      simp only [Service.step, hdue, Option.ite_none_right_eq_some, Option.some.injEq] at hs
      obtain ⟨⟨rfl, hflag⟩, rfl⟩ := hs
      obtain ⟨hm, hlog, -, hle⟩ := h.byte hdue (hflag rfl)
      exact ⟨⟨[], o, by rw [hlog, List.append_nil], .nil o, hm⟩, hle⟩
  | go io =>
    simp only [Service.step, Option.ite_none_right_eq_some, Option.some.injEq] at hs
    obtain ⟨⟨hflash, hserving⟩, rfl⟩ := hs
    have hgo := h.go hserving (Option.isNone_iff_eq_none.mp hflash)
    refine ⟨hgo.keeps, ?_⟩
    rcases hgo.nearer with hlt | ⟨heq, -⟩
    · exact hlt.le
    · exact (congrArg Service.left heq).le

/-- As long as meals are handed out, the end is nearer after the next piece of the program or
after the next byte of the arm. -/
lemma Matches.nearer (h : Matches x o) (hserving : x.serving) :
    (∀ io : Io, io.flash = none → ∃ y, x.step .steady (.go io) = some y ∧ y.left < x.left) ∨
      ∃ b y, x.step .steady (.usart6 b) = some y ∧ y.left < x.left := by
  by_cases hall : ∀ io : Io, io.flash = none → (x.go io).left < x.left
  · left
    intro io hio
    refine ⟨x.go io, ?_, hall io hio⟩
    simp only [Service.step, Option.ite_none_right_eq_some]
    exact ⟨⟨Option.isNone_iff_eq_none.mpr hio, hserving⟩, rfl⟩
  · right
    push Not at hall
    obtain ⟨io, hio, hle⟩ := hall
    obtain ⟨-, hdue, hflag⟩ := (h.go hserving hio).nearer.resolve_left (Nat.not_lt.mpr hle)
    obtain ⟨b, ds, hdue⟩ := List.exists_cons_of_ne_nil hdue
    refine ⟨b, _, ?_, (h.byte hdue hflag).2.2.1 hserving⟩
    simp [Service.step, hdue, hflag]

end Steps

/-! ## Runs -/

/-- The program is about to look for the first meal of the cart.  The tables agree and hold the
cart, no flag of `machinerec` is set and nothing of the arm was left unread. -/
structure Ready (s : Machine) : Prop where
  current : s.session.current = .mealOut
  pc : s.session.pc = .deal
  consistent : s.stock.Consistent
  enough : ∀ k, (s.session.userAct.mealCnt k).toNat ≤ s.stock.positions k
  flags : s.arm.Waiting false
  silent : s.arm.Silent

/-- The order of a paid cart. -/
def Machine.paidOrder (s : Machine) : Order :=
  ⟨s.session.userAct.meals, .look, s.stock.shelves, s.moneyBack⟩

/-- The machine when the arm has nothing to send. -/
def Machine.start (s : Machine) : Service := ⟨s, []⟩

lemma Ready.matches {s : Machine} (h : Ready s) : Matches s.start s.paidOrder := by
  have hrest : s.session.pc.orders = none ∧ s.session.pc.waits = none := by
    rw [h.pc]
    exact ⟨rfl, rfl⟩
  refine ⟨h.consistent, fun k => ?_, rfl, .rest hrest h.silent h.flags, ?_⟩
  · change s.session.userAct.meals.count k ≤ (s.stock.defineMeal k).mealCount.toNat
    rw [UserSelection.count_meals, h.consistent.mealCount, ← h.consistent.positions_eq]
    exact h.enough k
  · exact .look rfl h.current (.inl h.pc) rfl rfl

namespace Matches

variable {x : Service} {o : Order}

lemma serving_or_idle (h : Matches x o) :
    x.serving ∨ x.machine.session.current = .currentTemperature := by
  cases h.place with
  | look _ hc | take _ hc | fetch _ hc => exact .inl (.inl hc)
  | upload _ hc => exact .inl (.inr hc)
  | ended _ hc => exact .inr hc

/-- The main program is idle only when the order has ended. -/
lemma of_idle (h : Matches x o) (hc : x.machine.session.current = .currentTemperature) :
    o.stage = .ended ∧ x.machine.session.pc = .deal ∧
      (∀ k, x.machine.session.userAct.mealCnt k = 0) ∧ o.shelves = x.machine.stock.shelves := by
  cases h.place with
  | look _ hc' | take _ hc' | fetch _ hc' | upload _ hc' =>
    rw [hc] at hc'
    cases hc'
  | ended hs _ hpc hcart hsh => exact ⟨hs, hpc, hcart, hsh⟩

end Matches

/-- The arm has something to send only while meals are handed out. -/
lemma Matches.serving_of_due {x : Service} {o : Order} (h : Matches x o) (hdue : x.due ≠ []) :
    x.serving := by
  refine h.serving_or_idle.resolve_right fun hc => hdue ?_
  have hrest : x.machine.session.pc.orders = none ∧ x.machine.session.pc.waits = none := by
    rw [(h.of_idle hc).2.1]
    exact ⟨rfl, rfl⟩
  exact (h.arm.of_rest hrest).1

/-- The machine and the arm simulate the order. -/
lemma service_simulates : Lib.Simulation (Service.step .steady) Service.log Order.Step Matches :=
  fun _ _ _ _ h hs => (h.step hs).1

/-- What holds after a run that has handed out meals from the state `s` on. -/
structure Dispenses (m : Manner) (s : Machine) (x : Service) : Prop where
  /-- Whatever was recorded is a path of the order. -/
  refines : ∃ os o, x.log = s.start.log ++ os ∧ Lib.Path Order.Step s.paidOrder os o ∧
    At x.machine o
  serving_or_idle : x.serving ∨ x.machine.session.current = .currentTemperature
  /-- When the main program is idle the order was served and the cart is empty. -/
  served : x.machine.session.current = .currentTemperature →
    x.machine.session.pc = .deal ∧ (∀ k, x.machine.session.userAct.mealCnt k = 0) ∧
      ∃ os, x.log = s.start.log ++ os ∧ s.paidOrder.Served os x.machine.stock.shelves
  /-- The run can be continued until it is. -/
  finishes : ∃ es y, Lib.Runs (Service.step m) Lib.anyEvent x es y ∧
    y.machine.session.current = .currentTemperature

/-- An infinite run in which the main program runs on again and again while meals are handed
out, and the arm does send what it has to send. -/
structure Fair (r : Lib.Execution (Service.step .steady)) : Prop where
  runs : ∀ n, (r.state n).serving → ∃ m ≥ n, (r.event m).runs
  sends : ∀ n, (r.state n).due ≠ [] → ∃ m ≥ n, ∃ b, r.event m = .usart6 b

lemma Service.step_go {x y : Service} {m : Manner} {io : Io}
    (h : x.step m (.go io) = some y) : io.flash = none ∧ x.serving ∧ y = x.go io := by
  simp only [step, Option.ite_none_right_eq_some, Option.some.injEq] at h
  exact ⟨Option.isNone_iff_eq_none.mp h.1.1, h.1.2, h.2.symm⟩

lemma Service.step_usart6 {x y : Service} {b : UInt8} (h : x.step .steady (.usart6 b) = some y) :
    ∃ ds, x.due = b :: ds ∧ x.machine.arm.usart6DataFlag = false ∧
      y = ⟨x.machine.usart6 b, ds⟩ := by
  cases hdue : x.due with
  | nil => simp [step, hdue] at h
  | cons d ds =>
    simp only [step, hdue, Option.ite_none_right_eq_some, Option.some.injEq] at h
    obtain ⟨⟨rfl, hflag⟩, rfl⟩ := h
    exact ⟨ds, rfl, hflag rfl, rfl⟩

/-- In a fair run the end is nearer at some time, as long as meals are handed out. -/
lemma Fair.falls {r : Lib.Execution (Service.step .steady)} (hfair : Fair r)
    (hmatches : ∀ n, ∃ o, Matches (r.state n) o) {n : ℕ} (hserving : (r.state n).serving) :
    ∃ m, (r.state m).left < (r.state n).left := by
  have hmono : Antitone fun n => (r.state n).left := by
    refine antitone_nat_of_succ_le fun n => ?_
    obtain ⟨o, h⟩ := hmatches n
    exact (h.step (r.next n)).2
  obtain ⟨m, hnm, hrun⟩ := hfair.runs n hserving
  obtain ⟨o, h⟩ := hmatches m
  have hnext := r.next m
  cases he : r.event m with
  | go io =>
    rw [he] at hnext
    obtain ⟨hio, hserving', hy⟩ := Service.step_go hnext
    rcases (h.go hserving' hio).nearer with hlt | ⟨-, hdue, -⟩
    · exact ⟨m + 1, hy ▸ lt_of_lt_of_le hlt (hmono hnm)⟩
    · -- the program waits until the arm sends its next byte
      obtain ⟨i, hmi, b, hb⟩ := hfair.sends m hdue
      obtain ⟨o', h'⟩ := hmatches i
      have hbyte := r.next i
      rw [hb] at hbyte
      obtain ⟨ds, hdue', hflag, hy'⟩ := Service.step_usart6 hbyte
      have hle : (r.state i).left ≤ (r.state n).left := hmono (hnm.trans hmi)
      have hserving'' := h'.serving_of_due (by rw [hdue']; exact nofun)
      exact ⟨i + 1, hy' ▸ lt_of_lt_of_le ((h'.byte hdue' hflag).2.2.1 hserving'') hle⟩
  | _ =>
    rw [he] at hrun
    cases hrun

/-- Every run of the machine and the arm hands out meals as the order says. -/
lemma Ready.dispenses {s : Machine} (h : Ready s) {es : List Event} {x : Service}
    (hr : Lib.Runs (Service.step .steady) Lib.anyEvent s.start es x) : Dispenses .steady s x := by
  obtain ⟨os, o, hlog, hpath, hm⟩ := service_simulates.run h.matches hr
  refine ⟨⟨os, o, hlog, hpath, hm.place⟩, hm.serving_or_idle, fun hc => ?_, ?_⟩
  · obtain ⟨hended, hpc, hcart, hsh⟩ := hm.of_idle hc
    have hserved := Order.served hpath rfl hended
    rw [hsh] at hserved
    exact ⟨hpc, hcart, os, hlog, hserved⟩
  · refine Lib.reaches (I := fun x => ∃ o, Matches x o) Service.left ?_ ?_ ⟨o, hm⟩
    · rintro x e y ⟨o, hx⟩ hs
      obtain ⟨-, o', -, -, hy⟩ := (hx.step hs).1
      exact ⟨o', hy⟩
    · rintro x ⟨o, hx⟩ hidle
      have hserving := hx.serving_or_idle.resolve_right hidle
      rcases hx.nearer hserving with hgo | ⟨b, y, hs, hlt⟩
      · obtain ⟨y, hs, hlt⟩ := hgo .quiet rfl
        exact ⟨_, y, hs, hlt⟩
      · exact ⟨_, y, hs, hlt⟩

/-- Dispensing a paid cart refines its order.  With an arm that is prompt and paced, every run
from a state in which the cart is to be handed out follows the order; when the main program is
idle every meal was taken from a column that had one, handed out and reported, one after the
other, the change with the first; and this is reached in every fair run. -/
theorem dispense_refines_order {s : Machine} (h : Ready s) :
    (∀ es x, Lib.Runs (Service.step .steady) Lib.anyEvent s.start es x → Dispenses .steady s x) ∧
    ∀ r : Lib.Execution (Service.step .steady), r.state 0 = s.start → Fair r →
      ∃ n, (r.state n).machine.session.current = .currentTemperature := by
  refine ⟨fun es x hr => h.dispenses hr, fun r h0 hfair => ?_⟩
  have hmatches : ∀ n, ∃ o, Matches (r.state n) o := by
    intro n
    obtain ⟨es, hr⟩ := r.runs n
    rw [h0] at hr
    obtain ⟨-, o, -, -, hm⟩ := service_simulates.run h.matches hr
    exact ⟨o, hm⟩
  refine r.eventually (P := fun x => x.machine.session.current = .currentTemperature)
    Service.left fun n hidle => ?_
  obtain ⟨o, hm⟩ := hmatches n
  exact hfair.falls hmatches (hm.serving_or_idle.resolve_right hidle)

/-! ### Two meals, and two lines in one -/

instance (s : Machine) : Decidable (Ready s) :=
  decidable_of_iff (s.session.current = .mealOut ∧ s.session.pc = .deal ∧ s.stock.Consistent ∧
      (∀ k, (s.session.userAct.mealCnt k).toNat ≤ s.stock.positions k) ∧ s.arm.Waiting false ∧
      s.arm.Silent)
    ⟨fun ⟨h₁, h₂, h₃, h₄, h₅, h₆⟩ => ⟨h₁, h₂, h₃, h₄, h₅, h₆⟩,
      fun h => ⟨h.current, h.pc, h.consistent, h.enough, h.flags, h.silent⟩⟩

/-- Both meals are handed out, and nothing is left. -/
theorem dispense_refines_order_two :
    ∃ s x, Lib.runFrom step (stocked 3) payTwo = some s ∧ s.session.userAct.meals = [0, 0] ∧
      Lib.runFrom (Service.step .steady) s.start
        (List.flatten [serveMeal, serveMeal, [.next, .next, .next]]) = some x ∧
      x.machine.session.current = .currentTemperature ∧ Dispenses .steady s x := by
  have hrun : (Lib.runFrom step (stocked 3) payTwo).any (fun s =>
      Ready s ∧ s.session.userAct.meals = [0, 0] ∧
        (Lib.runFrom (Service.step .steady) s.start
          (List.flatten [serveMeal, serveMeal, [.next, .next, .next]])).any (fun x =>
            x.machine.session.current = .currentTemperature)) = true := by
    decide +kernel
  obtain ⟨s, hs, hready, hmeals, hserve⟩ := Lib.exists_of_any hrun
  obtain ⟨x, hx, hidle⟩ := Lib.exists_of_any hserve
  exact ⟨s, x, hs, hmeals, hx, hidle,
    (dispense_refines_order hready).1 _ x (.of_runFrom hx)⟩

/-- The meal is at the door only when the program has given up waiting. -/
def lineLate : List Event :=
  List.flatten
    [sendArm, [.next, .usart6 0x06, .next], armLine ['S', '0', '0', '0', '\r', '\n'],
     [.next, .usart6 0x06, .next], List.replicate 121 .tim5, [.next]]

/-- The meal is at the door and taken before the program looks again: both lines are lost, and
the program waits until it gives up. -/
def linesLost : List Event :=
  List.flatten
    [sendArm, [.next, .usart6 0x06, .next], armLine ['S', '0', '0', '0', '\r', '\n'],
     [.next, .usart6 0x06, .next], armLine ['O', 'U', 'T', '0', '\r', '\n'],
     armLine ['F', 'I', 'N', '0', '\r', '\n'], [.next], List.replicate 121 .tim5, [.next]]

/-- It is not enough that the arm acknowledges every command in time and sends its lines in their
order: it must be prompt, and it must be paced. -/
theorem order_needs_a_steady_arm :
    (¬ ∀ (s : Machine) (es : List Event) (x : Service), Ready s →
      Lib.Runs (Service.step ⟨false, true⟩) Lib.anyEvent s.start es x →
        Dispenses ⟨false, true⟩ s x) ∧
    ¬ ∀ (s : Machine) (es : List Event) (x : Service), Ready s →
      Lib.Runs (Service.step ⟨true, false⟩) Lib.anyEvent s.start es x →
        Dispenses ⟨true, false⟩ s x := by
  have hrun : (Lib.runFrom step (stocked 3) payTwo).any (fun s => Ready s ∧
      (Lib.runFrom (Service.step ⟨false, true⟩) s.start lineLate).any (fun x =>
        ¬ x.serving ∧ x.machine.session.current ≠ .currentTemperature) ∧
      (Lib.runFrom (Service.step ⟨true, false⟩) s.start linesLost).any (fun x =>
        ¬ x.serving ∧ x.machine.session.current ≠ .currentTemperature)) = true := by
    decide +kernel
  obtain ⟨s, hs, hready, hlate, hlost⟩ := Lib.exists_of_any hrun
  obtain ⟨x, hx, hserving, hidle⟩ := Lib.exists_of_any hlate
  obtain ⟨y, hy, hserving', hidle'⟩ := Lib.exists_of_any hlost
  constructor
  · intro hall
    exact (hall s _ x hready (.of_runFrom hx)).serving_or_idle.elim hserving hidle
  · intro hall
    exact (hall s _ y hready (.of_runFrom hy)).serving_or_idle.elim hserving' hidle'

end MealVendor
