import MealVendor.Delivery.Wire

/-!
# The legs of a delivery

A meal is on its way in three legs: until the arm is at its place, until the meal is at the door,
and until it was taken.  Each ends with a line of the arm, of which the program only sees a flag of
`machinerec`.  `Effect` lists what a step of the machine can do to these flags, to the lines that
are not read yet, and to what is recorded of the delivery; `step_effect` says that the list is
complete.
-/

namespace MealVendor

/-! ## Lines that end a leg -/

/-- What the arm reports while a meal is delivered. -/
inductive Report
  /-- `S000`: the arm is at its place. -/
  | goal
  /-- `OUT0`: the meal is at the door. -/
  | door
  /-- `FIN0` and `T000`: the meal was taken, or was not in time. -/
  | away
  | noaway
deriving DecidableEq

/-- Whether a line is this report, as `manageusart6data` decides it. -/
def Report.heads : Report → Line → Bool
  | goal, b => startsWith b 'S' '0' '0' '0'
  | door, b => startsWith b 'O' 'U' 'T' '0'
  | away, b => startsWith b 'F' 'I' 'N' '0'
  | noaway, b => startsWith b 'T' '0' '0' '0'

/-- The first character. -/
def Report.head : Report → UInt8
  | goal => 'S'.toUInt8
  | door => 'O'.toUInt8
  | away => 'F'.toUInt8
  | noaway => 'T'.toUInt8

lemma Report.head_eq {r : Report} {b : Line} (h : r.heads b = true) : b 0 = r.head := by
  have hfirst : ∀ c₀ c₁ c₂ c₃, startsWith b c₀ c₁ c₂ c₃ = true → b 0 = c₀.toUInt8 := by
    intro c₀ c₁ c₂ c₃ h
    unfold startsWith at h
    simp only [Bool.and_eq_true, beq_iff_eq] at h
    exact h.1.1.1
  cases r <;> exact hfirst _ _ _ _ h

/-- A line is one report only. -/
lemma Report.eq_of_heads {r r' : Report} {b : Line} (h : r.heads b = true)
    (h' : r'.heads b = true) : r = r' := by
  have hhead : r.head = r'.head := (head_eq h).symm.trans (head_eq h')
  revert hhead
  cases r <;> cases r' <;> decide

namespace Arm

/-- A line that is this report is to be read. -/
def Pending (a : Arm) (r : Report) : Prop := a.usart6DataFlag = true ∧ r.heads a.usart6Buff = true

/-- The line in the buffer is complete, and nothing is written over it. -/
def Whole (a : Arm) : Prop :=
  endsLine a.usart6Buff = true ∧ (a.usart6Index = 0 ∨ 6 ≤ a.usart6Index)

/-- A whole line that is this report is to be read. -/
def Unread (a : Arm) (r : Report) : Prop := a.Pending r ∧ a.Whole

instance (a : Arm) (r : Report) : Decidable (a.Pending r) := inferInstanceAs (Decidable (_ ∧ _))

instance (a : Arm) : Decidable a.Whole := inferInstanceAs (Decidable (_ ∧ _))

instance (a : Arm) (r : Report) : Decidable (a.Unread r) := inferInstanceAs (Decidable (_ ∧ _))

/-- No flag and no line comes up between `a` and `b`. -/
structure Sinks (a b : Arm) : Prop where
  goal : b.regoal = true → a.regoal = true
  door : b.retodoor = true → a.retodoor = true
  away : b.remealaway = true → a.remealaway = true
  noaway : b.remealnoaway = true → a.remealnoaway = true
  unread : ∀ r, b.Unread r → a.Unread r

variable {a b c : Arm}

lemma Sinks.refl (a : Arm) : a.Sinks a := ⟨id, id, id, id, fun _ => id⟩

lemma Sinks.trans (h : a.Sinks b) (h' : b.Sinks c) : a.Sinks c :=
  ⟨fun hc => h.goal (h'.goal hc), fun hc => h.door (h'.door hc), fun hc => h.away (h'.away hc),
    fun hc => h.noaway (h'.noaway hc), fun r hc => h.unread r (h'.unread r hc)⟩

/-- An empty buffer holds no report. -/
lemma not_unread_clearBuff (a : Arm) (r : Report) : ¬ a.clearBuff.Unread r := by
  rintro ⟨⟨-, hheads⟩, -⟩
  have hzero : (0 : UInt8) = r.head := Report.head_eq hheads
  revert hzero
  cases r <;> decide

/-- A line that is not to be read any more. -/
lemma not_unread_of_flag (h : a.usart6DataFlag = false) (r : Report) : ¬ a.Unread r := by
  rintro ⟨⟨hflag, -⟩, -⟩
  rw [h] at hflag
  cases hflag

/-- A round of an `Order…` function only looks at what is acknowledged. -/
lemma sinks_order (a : Arm) (r : ℕ) : a.Sinks (a.order r).2 := by
  rw [order]
  dsimp only
  split_ifs <;> exact ⟨id, id, id, id, fun _ => id⟩

/-! ### Reading a line -/

/-- What reading a line sets. -/
lemma readLine_cases (a : Arm) :
    (a.readLine.regoal = true → a.regoal = true ∨ Report.goal.heads a.usart6Buff = true) ∧
    (a.readLine.retodoor = true → a.retodoor = true ∨ Report.door.heads a.usart6Buff = true) ∧
    (a.readLine.remealaway = true → a.remealaway = true ∨ Report.away.heads a.usart6Buff = true) ∧
    (a.readLine.remealnoaway = true →
      a.remealnoaway = true ∨ Report.noaway.heads a.usart6Buff = true) := by
  unfold readLine
  dsimp only
  split_ifs with h₁ h₂ h₃ h₄ h₅
  · exact ⟨.inl, .inl, .inl, .inl⟩
  · exact ⟨fun _ => .inr h₂, .inl, .inl, .inl⟩
  · exact ⟨.inl, fun _ => .inr h₃, .inl, .inl⟩
  · exact ⟨.inl, .inl, fun _ => .inr h₄, .inl⟩
  · exact ⟨.inl, .inl, .inl, fun _ => .inr (Bool.and_eq_true_iff.mp h₅).1⟩
  · exact ⟨.inl, .inl, .inl, .inl⟩
  · exact ⟨.inl, .inl, .inl, .inl⟩

end Arm

/-! ## Legs -/

/-- How far the meal is that is delivered. -/
inductive Leg
  | goal
  | door
  | away
  /-- It is only to be counted. -/
  | out
deriving DecidableEq

def Ret.leg : Ret → Option Leg
  | .goal => some .goal
  | .door => some .door
  | .away => some .away
  | _ => none

def Pc.leg : Pc → Option Leg
  | .coord _ | .goal => some .goal
  | .getMeal _ | .door => some .door
  | .away => some .away
  | .count => some .out
  | .abnormal _ ret | .resume ret => ret.leg
  | _ => none

/-- The places where a line is read. -/
def Pc.reads : Pc → Bool
  | .initWait | .deal | .goal | .door | .away => true
  | _ => false

/-- What may be recorded on a leg without being part of another delivery: commands are sent
again. -/
def Obs.mild (leg : Option Leg) : Obs → Bool
  | .find .. | .takeout => false
  | .command (.sendCoord _ _) => leg == some .goal
  | .command .getMeal => leg == some .door
  | _ => true

/-- The trace grows on a leg. -/
inductive Grows (leg : Option Leg) (tr : List Obs) : List Obs → Prop
  | same : Grows leg tr tr
  | cons {o : Obs} {tr' : List Obs} (h : Grows leg tr tr') (ho : o.mild leg = true) :
      Grows leg tr (o :: tr')

lemma Obs.mild_of_none {o : Obs} (h : o.mild none = true) (leg : Option Leg) :
    o.mild leg = true := by
  cases o with
  | command c => cases c <;> first | rfl | cases h
  | find | takeout => cases h
  | _ => rfl

lemma Grows.trans {leg leg' : Option Leg} {tr tr' tr'' : List Obs} (h : Grows leg tr tr')
    (h' : Grows leg' tr' tr'') (hleg : leg' = leg ∨ leg' = none) : Grows leg tr tr'' := by
  induction h' with
  | same => exact h
  | cons _ ho ih =>
    refine .cons ih ?_
    rcases hleg with hleg | hleg
    · rw [← hleg]
      exact ho
    · rw [hleg] at ho
      exact Obs.mild_of_none ho leg

/-- What the trace grows by. -/
lemma grows_iff {leg : Option Leg} {tr tr' : List Obs} :
    Grows leg tr tr' ↔ ∃ os : List Obs, (∀ o ∈ os, o.mild leg = true) ∧ tr' = os ++ tr := by
  constructor
  · intro h
    induction h with
    | same => exact ⟨[], nofun, rfl⟩
    | cons h ho ih =>
      obtain ⟨os, hos, rfl⟩ := ih
      exact ⟨_ :: os, List.forall_mem_cons.mpr ⟨ho, hos⟩, rfl⟩
  · rintro ⟨os, hos, rfl⟩
    induction os with
    | nil => exact .same
    | cons o os ih =>
      obtain ⟨ho, hos⟩ := List.forall_mem_cons.mp hos
      exact .cons (ih hos) ho

namespace Machine

/-- How far the meal is. -/
def leg (s : Machine) : Option Leg := s.session.pc.leg

/-- The next step may read this report. -/
def Takes (s : Machine) (r : Report) : Prop := s.session.pc.reads = true ∧ s.arm.Pending r

/-- A step that has nothing to do with the reports of the arm. -/
structure Steady (s t : Machine) : Prop where
  arm : s.arm.Sinks t.arm
  trace : Grows s.leg s.session.trace t.session.trace
  leg : t.leg = s.leg ∨ t.leg = none

/-- What a step begins with that reads a line, or drops it. -/
structure Read (s s₁ : Machine) : Prop where
  session : s₁.session = s.session
  goal : s₁.arm.regoal = true → s.arm.regoal = true ∨ s.Takes .goal
  door : s₁.arm.retodoor = true → s.arm.retodoor = true ∨ s.Takes .door
  away : s₁.arm.remealaway = true → s.arm.remealaway = true ∨ s.Takes .away
  noaway : s₁.arm.remealnoaway = true → s.arm.remealnoaway = true ∨ s.Takes .noaway
  unread : ∀ r, ¬ s₁.arm.Unread r

/-- What a step of the program does to a delivery. -/
inductive Effect (s : Machine) : Machine → Prop
  | steady {t : Machine} (h : s.Steady t) : Effect s t
  | read {s₁ t : Machine} (hr : s.Read s₁) (h : s₁.Steady t)
      (hdoor : s.leg = some .door → t.leg = some .door → s₁.arm.retodoor = false) : Effect s t
  | found {t : Machine} {k : Kind} {l : Floor} {c : Column} (harm : s.arm.Sinks t.arm)
      (htrace : t.session.trace = .find k l c :: s.session.trace) (hleg : t.leg = none) : Effect s t
  | take {t : Machine} {l : Floor} {c : Column} (hpc : s.session.pc = .take)
      (harm : s.arm.Sinks t.arm)
      (htrace : t.session.trace = .command (.sendCoord l c) :: s.session.trace)
      (hleg : t.leg = some .goal) : Effect s t
  | getMeal {s₁ t : Machine} (hr : s.Read s₁) (hpc : s.session.pc = .goal ∨
        s.session.pc = .resume .goal) (hgoal : s₁.arm.regoal = true) (harm : s₁.arm.Sinks t.arm)
      (htrace : t.session.trace = .command .getMeal :: s.session.trace)
      (hleg : t.leg = some .door) : Effect s t
  | door {s₁ t : Machine} (hr : s.Read s₁) (hpc : s.session.pc = .door ∨
        s.session.pc = .resume .door) (hdoor : s₁.arm.retodoor = true) (harm : s₁.arm.Sinks t.arm)
      (htrace : t.session.trace = s.session.trace) (hleg : t.leg = some .away) : Effect s t
  | away {s₁ t : Machine} (hr : s.Read s₁) (hleg : s.leg = some .away)
      (haway : s₁.arm.remealaway = true ∨ s₁.arm.remealnoaway = true)
      (harm : s₁.arm.Sinks t.arm) (htrace : t.session.trace = s.session.trace)
      (hleg' : t.leg = some .out) : Effect s t
  | takeout {t : Machine} (hleg : s.leg = some .out) (harm : s.arm.Sinks t.arm)
      (htrace : t.session.trace = .takeout :: s.session.trace) (hleg' : t.leg = none) : Effect s t

/-! ## Every step has such an effect -/

section Program

variable {s : Machine} {io : Io}

/-! ### What many pieces share -/

/-- Reading a line does not move the program. -/
lemma Read.leg {s₁ : Machine} (h : s.Read s₁) : s₁.leg = s.leg :=
  congrArg (Pc.leg ∘ Session.pc) h.session

lemma Read.trace {s₁ : Machine} (h : s.Read s₁) : s₁.session.trace = s.session.trace :=
  congrArg Session.trace h.session

/-- The program goes on outside of a delivery. -/
lemma Steady.leave {t : Machine} (harm : t.arm = s.arm)
    (htrace : Grows s.leg s.session.trace t.session.trace) (hleg : t.leg = none) : s.Steady t :=
  ⟨by rw [harm]; exact .refl _, htrace, .inr hleg⟩

/-- Nothing has changed that matters for a delivery. -/
lemma Steady.stay {t : Machine} (harm : t.arm = s.arm) (ht : t.session = s.session) : s.Steady t :=
  ⟨by rw [harm]; exact .refl _, by rw [ht]; exact .same, .inl (congrArg (Pc.leg ∘ Session.pc) ht)⟩

lemma Steady.trans {t u : Machine} (h : s.Steady t) (h' : t.Steady u) : s.Steady u := by
  refine ⟨h.arm.trans h'.arm, h.trace.trans h'.trace h.leg, ?_⟩
  rcases h'.leg with hleg | hleg
  · rw [hleg]
    exact h.leg
  · exact .inr hleg

lemma abnormalHandle_steady (s : Machine) {e : ℕ} {ret : Ret}
    (hret : ret.leg = s.leg ∨ ret.leg = none) : s.Steady (s.abnormalHandle e ret) := by
  rw [abnormalHandle]
  dsimp only
  split_ifs
  · exact ⟨.refl _, .same, hret⟩
  · exact ⟨.refl _, .cons .same rfl, hret⟩
  · exact ⟨.refl _, .same, hret⟩

/-- A line is dropped. -/
lemma sinks_drop (a : Arm) : a.Sinks { a with usart6DataFlag := false } :=
  ⟨id, id, id, id, fun r h => absurd h (Arm.not_unread_of_flag rfl r)⟩

/-- `manageusart6data` and what comes after it. -/
lemma manageusart6data_effect (hpc : s.session.pc.reads = true) {ret : Ret}
    (hret : ret.leg = s.leg ∨ ret.leg = none) {k : Machine → Machine}
    (hk : ∀ s₁, s.Read s₁ → s.Effect (k s₁)) : s.Effect (s.manageusart6data ret k) := by
  refine manageusart6data_cases rfl (fun _ e _ => ?_) (fun hflag => ?_) fun hflag => ?_
  · -- an error line ends the step in `AbnormalHandle`
    have hdrop : s.Steady { s with arm.usart6DataFlag := false } :=
      ⟨sinks_drop s.arm, .same, .inl rfl⟩
    exact .steady (hdrop.trans (abnormalHandle_steady _ hret))
  · obtain ⟨hgoal, hdoor, haway, hnoaway⟩ :=
      Arm.readLine_cases { s.arm with usart6DataFlag := false }
    have htakes : ∀ {r : Report}, r.heads s.arm.usart6Buff = true → s.Takes r :=
      fun h => ⟨hpc, hflag, h⟩
    exact hk _ ⟨rfl, fun h => (hgoal h).imp_right htakes, fun h => (hdoor h).imp_right htakes,
      fun h => (haway h).imp_right htakes, fun h => (hnoaway h).imp_right htakes,
      fun r => Arm.not_unread_clearBuff _ r⟩
  · exact hk s ⟨rfl, .inl, .inl, .inl, .inl, Arm.not_unread_of_flag hflag⟩

/-- After `AbnormalHandle` the line is dropped. -/
lemma read_clearBuff (s : Machine) : s.Read (s.onArm Arm.clearBuff) :=
  ⟨rfl, .inl, .inl, .inl, .inl, fun r => Arm.not_unread_clearBuff _ r⟩

/-- One round of an `Order…` function, given what comes after it. -/
lemma waitOrder_effect {c : Command} (hc : (Obs.command c).mild s.leg = true) {r : ℕ}
    {again : ℕ → Pc} (hagain : ∀ r, (again r).leg = s.leg) {done fail : Machine → Machine}
    (hdone : ∀ s', s.Steady s' → s'.leg = s.leg → s.Effect (done s'))
    (hfail : ∀ s', s.Steady s' → s'.leg = s.leg → s.Effect (fail s')) :
    s.Effect (s.waitOrder c r again done fail) := by
  have hround : s.Steady (s.onArm fun _ => (s.arm.order r).2) :=
    ⟨Arm.sinks_order s.arm r, .same, .inl rfl⟩
  have hemit : s.Steady ((s.onArm fun _ => (s.arm.order r).2).emit (.command c)) :=
    ⟨hround.arm, .cons .same hc, .inl rfl⟩
  exact waitOrder_cases rfl (hdone _ hround rfl) (hfail _ hround rfl) (hfail _ hemit rfl)
    (fun r => .steady ⟨hemit.arm, hemit.trace, .inl (hagain r)⟩) (.steady hround)

/-! ### Outside of a delivery -/

lemma payTail_steady (s : Machine) : s.Steady s.payTail := by
  rw [payTail]
  split_ifs
  · refine .leave rfl ?_ rfl
    change Grows s.leg s.session.trace s.session.timeout.trace
    rw [Session.timeout_trace]
    exact .cons (.cons .same rfl) rfl
  · exact .leave rfl .same rfl

lemma cardEnd_steady (s : Machine) (paid : Option ℤ) : s.Steady (s.cardEnd paid) := by
  unfold cardEnd
  cases paid with
  | some money => exact .leave rfl (.cons .same rfl) rfl
  | none => exact .leave rfl .same rfl

lemma steady_cardbalence (s : Machine) : s.Steady { s with cardbalenceCancelFlag := false } :=
  .stay rfl rfl

lemma cardRead_steady (s : Machine) (szt : Bool) (money : ℤ) (cnt : ℕ) :
    s.Steady (s.cardRead szt money cnt io) := by
  rw [cardRead]
  split_ifs
  · exact .leave rfl (.cons .same rfl) rfl
  · exact cardEnd_steady s none
  · exact (steady_cardbalence s).trans (cardEnd_steady _ none)
  · exact .leave rfl .same rfl

lemma cardDeal_steady (s : Machine) (szt : Bool) (money : ℤ) (cnt : ℕ) :
    s.Steady (s.cardDeal szt money cnt) := by
  rw [cardDeal]
  split_ifs
  · exact (steady_cardbalence s).trans (cardEnd_steady _ none)
  · exact .leave rfl .same rfl
  · exact cardEnd_steady s none

lemma waitPayMoney_steady (s : Machine) : s.Steady (s.waitPayMoney io) := by
  rw [waitPayMoney]
  cases s.session.currentPoint with
  | p1 =>
    dsimp only
    split_ifs <;> exact .leave rfl .same rfl
  | p3 =>
    dsimp only
    split_ifs
    · exact abnormalHandle_steady s (.inr rfl)
    · refine .leave rfl ?_ rfl
      change Grows s.leg s.session.trace (s.session.readBills io.bill.value).trace
      rw [Session.readBills]
      dsimp only
      split_ifs
      · exact .same
      · exact .cons .same rfl
  | p9 =>
    dsimp only [statusOk]
    split_ifs <;> exact .leave rfl (.cons .same rfl) rfl
  | p0 | p2 | p5 | p6 | p7 | p8 => exact .leave rfl .same rfl

lemma hpperOut_steady (s : Machine) : s.Steady (s.hpperOut io) := by
  rw [hpperOut]
  dsimp only
  split_ifs
  · exact .leave rfl (.cons .same rfl) rfl
  · exact .leave rfl (.cons .same rfl) rfl
  · exact .leave rfl (.cons .same rfl) rfl
  · exact .leave rfl .same rfl
  · exact .leave rfl .same rfl

lemma idleTail_steady (s : Machine) : s.Steady s.idleTail := by
  rw [idleTail]
  split_ifs <;> exact .leave rfl .same rfl

lemma pollAbnormalHandle_steady (s : Machine) (i : ℕ) : s.Steady (s.pollAbnormalHandle i) := by
  rw [pollAbnormalHandle]
  split
  · exact abnormalHandle_steady s (.inr rfl)
  · exact .leave rfl .same rfl

lemma saveUserData_steady (s : Machine) : s.Steady s.saveUserData := by
  refine .stay ?_ s.saveUserData_session
  rw [saveUserData, foldl_writeBackup]

lemma switch_steady (s : Machine) : s.Steady (s.switch io) := by
  rw [switch]
  cases s.session.current with
  | currentTemperature =>
    dsimp only
    split_ifs
    · exact ⟨⟨id, id, id, id, fun _ => id⟩, .cons .same rfl, .inr rfl⟩
    · exact idleTail_steady s
  | waitforMoney => exact (saveUserData_steady s).trans (waitPayMoney_steady _)
  | hpperOut => exact hpperOut_steady s
  | mealOut =>
    have hsave := saveUserData_steady s
    exact ⟨hsave.arm, hsave.trace, .inr rfl⟩
  | dataUpload => exact .leave rfl (.cons .same rfl) rfl
  | erroHanle => exact pollAbnormalHandle_steady s _

lemma nextCheck_leg (n : ℕ) : (nextCheck n).leg = none := by
  rw [nextCheck]
  split_ifs <;> rfl

lemma check_steady (s : Machine) (n : ℕ) : s.Steady (s.check n io) := by
  have hreset : s.Steady (if n = 4 then s.resetCoinsCount else s) := by
    split_ifs
    · exact .stay rfl rfl
    · exact .stay rfl rfl
  unfold check
  dsimp only
  split
  · exact hreset.trans (abnormalHandle_steady _ (.inr rfl))
  · exact ⟨hreset.arm, hreset.trace, .inr (nextCheck_leg n)⟩

lemma initCheck_steady (s : Machine) : s.Steady s.initCheck := by
  rw [initCheck]
  split_ifs <;> exact .leave rfl .same rfl

lemma initLink_steady (s : Machine) : s.Steady s.initLink :=
  ⟨⟨id, id, id, id, fun _ => id⟩, .cons .same rfl, .inr rfl⟩

/-! ### The legs -/

lemma takemealErro_steady (s : Machine) (e : ℕ) : s.Steady (s.takemealErro e) :=
  ⟨.refl _, .cons .same rfl, .inr rfl⟩

lemma find_effect (s : Machine) : s.Effect s.find := by
  rw [find]
  cases s.session.userAct.firstKind with
  | none => exact .steady ⟨.refl _, .cons (.cons .same rfl) rfl, .inr rfl⟩
  | some k =>
    dsimp only
    cases s.stock.findMeal k with
    | none => exact .steady ⟨.refl _, .same, .inl rfl⟩
    | some p => exact .found (.refl _) rfl rfl

lemma take_effect (hpc : s.session.pc = .take) : s.Effect (s.take io) := by
  rw [take]
  split
  · exact .take hpc ⟨id, id, id, id, fun _ => id⟩ rfl rfl
  · exact .steady (.stay rfl rfl)

lemma coord_effect {r : ℕ} (hpc : s.session.pc = .coord r) : s.Effect (s.coord r) := by
  have hleg : s.leg = some .goal := by rw [leg, hpc]; rfl
  rw [coord]
  split
  · refine waitOrder_effect ?_ (fun _ => ?_) (fun s' h h' => ?_) fun s' h h' => ?_
    · rw [hleg]
      rfl
    · exact hleg.symm
    · -- the arm is sent to its place
      have hdone : s'.Steady ((s'.onArm fun a =>
          { a with linkTime := 0, rerelative := false }).goto .goal) :=
        ⟨⟨id, id, id, id, fun _ => id⟩, .same, .inl (hleg.symm.trans h'.symm)⟩
      exact .steady (h.trans hdone)
    · exact .steady (h.trans (takemealErro_steady s' _))
  · exact .steady (.stay rfl rfl)

/-- The arm may be at its place. -/
lemma goalCheck_effect {s₁ : Machine} (hr : s.Read s₁)
    (hpc : s.session.pc = .goal ∨ s.session.pc = .resume .goal) : s.Effect s₁.goalCheck := by
  have hleg : s.leg = some .goal := by
    rcases hpc with hpc | hpc <;> rw [leg, hpc] <;> rfl
  rw [goalCheck]
  split_ifs with hgoal
  · refine .getMeal hr hpc hgoal ⟨nofun, id, id, id, fun _ => id⟩ ?_ rfl
    rw [← hr.session]
    rfl
  · refine .read hr ⟨.refl _, .same, .inl ?_⟩ (by rw [hleg]; exact nofun)
    rw [hr.leg, hleg]
    rfl

lemma goal_effect (hpc : s.session.pc = .goal) : s.Effect s.goal := by
  rw [goal]
  split_ifs
  · have hlate : s.Steady (s.onArm fun a => { a with linkTime := 0 }) :=
      ⟨⟨id, id, id, id, fun _ => id⟩, .same, .inl rfl⟩
    exact .steady (hlate.trans (takemealErro_steady _ _))
  · refine manageusart6data_effect (by rw [hpc]; rfl) (.inl (by rw [leg, hpc]; rfl)) fun s₁ hr => ?_
    exact goalCheck_effect hr (.inl hpc)

lemma getMeal_effect {r : ℕ} (hpc : s.session.pc = .getMeal r) : s.Effect (s.getMeal r) := by
  have hleg : s.leg = some .door := by rw [leg, hpc]; rfl
  have hclear : ∀ s' : Machine, s'.Steady (s'.onArm fun a => { a with linkTime := 0 }) := fun s' =>
    ⟨⟨id, id, id, id, fun _ => id⟩, .same, .inl rfl⟩
  rw [getMeal]
  refine waitOrder_effect ?_ (fun _ => ?_) (fun s' h h' => ?_) fun s' h h' => ?_
  · rw [hleg]
    rfl
  · exact hleg.symm
  · have hdone : s'.Steady ((s'.onArm fun a => { a with linkTime := 0 }).goto .door) :=
      ⟨⟨id, id, id, id, fun _ => id⟩, .same, .inl (hleg.symm.trans h'.symm)⟩
    exact .steady (h.trans hdone)
  · exact .steady ((h.trans (hclear s')).trans (takemealErro_steady _ _))

/-- The meal may be at the door. -/
lemma doorCheck_effect {s₁ : Machine} (hr : s.Read s₁)
    (hpc : s.session.pc = .door ∨ s.session.pc = .resume .door) : s.Effect s₁.doorCheck := by
  have hleg : s.leg = some .door := by
    rcases hpc with hpc | hpc <;> rw [leg, hpc] <;> rfl
  rw [doorCheck]
  split_ifs with hdoor hagain
  · refine .door hr hpc hdoor ⟨id, nofun, id, id, fun _ => id⟩ ?_ rfl
    exact hr.trace
  · have hclear : s₁.Steady (s₁.onArm fun a => { a with reenablegetmeal := false }) :=
      ⟨⟨id, id, id, id, fun _ => id⟩, .same, .inl rfl⟩
    exact .read hr (hclear.trans (takemealErro_steady _ _)) nofun
  · refine .read hr ⟨.refl _, .same, .inl ?_⟩ fun _ _ => Bool.eq_false_iff.mpr hdoor
    rw [hr.leg, hleg]
    rfl

lemma door_effect (hpc : s.session.pc = .door) : s.Effect s.door := by
  rw [door]
  split_ifs
  · exact .steady (takemealErro_steady s _)
  · refine manageusart6data_effect (by rw [hpc]; rfl) (.inl (by rw [leg, hpc]; rfl)) fun s₁ hr => ?_
    exact doorCheck_effect hr (.inl hpc)

/-- The meal may have been taken. -/
lemma awayCheck_effect {s₁ : Machine} (hr : s.Read s₁) (hleg : s.leg = some .away) :
    s.Effect s₁.awayCheck := by
  rw [awayCheck]
  split_ifs with haway hnoaway
  · refine .away hr hleg (.inl haway) ⟨id, id, nofun, nofun, fun _ => id⟩ ?_ rfl
    exact hr.trace
  · refine .away hr hleg (.inr hnoaway) ⟨id, id, id, nofun, fun _ => id⟩ ?_ rfl
    exact hr.trace
  · refine .read hr ⟨.refl _, .same, .inl ?_⟩ (by rw [hleg]; exact nofun)
    rw [hr.leg, hleg]
    rfl

lemma away_effect (hpc : s.session.pc = .away) : s.Effect s.away := by
  have hleg : s.leg = some .away := by rw [leg, hpc]; rfl
  rw [away]
  split_ifs
  · exact .steady (takemealErro_steady s _)
  · refine manageusart6data_effect (by rw [hpc]; rfl) (.inl (by rw [hleg]; rfl)) fun s₁ hr => ?_
    exact awayCheck_effect hr hleg

/-! ### The main program -/

lemma abnormalEnd_steady (s : Machine) {e : ℕ} {ret : Ret} (hpc : s.session.pc = .abnormal e ret) :
    s.Steady (s.abnormalEnd e ret) := by
  have hclear : s.Steady (if xTimeout ≤ e then s.clearUserBuffer.saveUserData else s) := by
    split_ifs
    · have hclear : s.Steady s.clearUserBuffer := ⟨.refl _, .cons .same rfl, .inl rfl⟩
      exact hclear.trans (saveUserData_steady _)
    · exact .stay rfl rfl
  refine ⟨hclear.arm, hclear.trace, .inl ?_⟩
  rw [leg, leg, hpc]
  rfl

lemma resume_effect {ret : Ret} (hpc : s.session.pc = .resume ret) : s.Effect (s.resume ret) := by
  have hr : s.Read (s.onArm Arm.clearBuff) := read_clearBuff s
  unfold resume
  cases ret with
  | start => exact .steady ⟨⟨id, id, id, id, fun r h => absurd h (Arm.not_unread_clearBuff _ r)⟩,
      .cons .same rfl, .inr rfl⟩
  | init => exact .read hr (initCheck_steady _) (by rw [leg, hpc]; exact nofun)
  | check n => exact .steady ⟨.refl _, .same, .inr (nextCheck_leg n)⟩
  | main => exact .read hr (.leave rfl .same rfl) (by rw [leg, hpc]; exact nofun)
  | bill => exact .steady (.leave rfl .same rfl)
  | goal => exact goalCheck_effect hr (.inr hpc)
  | door => exact doorCheck_effect hr (.inr hpc)
  | away => exact awayCheck_effect hr (by rw [leg, hpc]; rfl)
  | poll i => exact .steady (pollAbnormalHandle_steady s i)

/-- The next piece of the main program. -/
lemma go_effect : s.Effect (s.go io) := by
  rw [go]
  cases hpc : s.session.pc with
  | initLink r =>
    refine waitOrder_effect rfl (fun _ => ?_) (fun s' h _ => ?_) fun s' h _ => ?_
    · rw [leg, hpc]
      rfl
    · have hdone : s'.Steady ((s'.order .machineInit).goto (.initOrder 0)) :=
        ⟨⟨id, id, id, id, fun _ => id⟩, .cons .same rfl, .inr rfl⟩
      exact .steady (h.trans hdone)
    · exact .steady (h.trans (initLink_steady s'))
  | initOrder r =>
    refine waitOrder_effect rfl (fun _ => ?_) (fun s' h _ => ?_) fun s' h _ => ?_
    · rw [leg, hpc]
      rfl
    · have hdone : s'.Steady ((s'.onArm fun a => { a with linkTime := 0 }).goto .initWait) :=
        ⟨⟨id, id, id, id, fun _ => id⟩, .same, .inr rfl⟩
      exact .steady (h.trans hdone)
    · exact .steady (h.trans (initLink_steady s'))
  | initWait =>
    refine manageusart6data_effect (by rw [hpc]; rfl) (.inr rfl) fun s₁ hr => ?_
    exact .read hr (initCheck_steady s₁) (by rw [leg, hpc]; exact nofun)
  | check n => exact .steady (check_steady s n)
  | deal =>
    refine manageusart6data_effect (by rw [hpc]; rfl) (.inr rfl) fun s₁ hr => ?_
    exact .read hr (.leave rfl .same rfl) (by rw [leg, hpc]; exact nofun)
  | switch => exact .steady (switch_steady s)
  | link r =>
    refine waitOrder_effect rfl (fun _ => ?_) (fun s' h _ => ?_) fun s' h _ => ?_
    · rw [leg, hpc]
      rfl
    · exact .steady (h.trans (idleTail_steady s'))
    · exact .steady (h.trans (idleTail_steady s'))
  | cardRead szt money cnt => exact .steady (cardRead_steady s szt money cnt)
  | cardDeal szt money cnt => exact .steady (cardDeal_steady s szt money cnt)
  | cardDeduct szt money => exact .steady (cardEnd_steady s _)
  | payTail => exact .steady (payTail_steady s)
  | find => exact find_effect s
  | take => exact take_effect hpc
  | coord r => exact coord_effect hpc
  | goal => exact goal_effect hpc
  | getMeal r => exact getMeal_effect hpc
  | door => exact door_effect hpc
  | away => exact away_effect hpc
  | count => exact .takeout (by rw [leg, hpc]; rfl) (.refl _) rfl rfl
  | abnormal e ret =>
    dsimp only
    split_ifs
    · exact .steady (abnormalEnd_steady s hpc)
    · exact .steady (.stay rfl rfl)
  | resume ret => exact resume_effect hpc

/-! ### Messages of the screen and interrupts -/

/-- The program stays where it is. -/
lemma Steady.edit {t : Machine} (harm : t.arm = s.arm)
    (htrace : Grows s.leg s.session.trace t.session.trace)
    (hpc : t.session.pc = s.session.pc) : s.Steady t :=
  ⟨by rw [harm]; exact .refl _, htrace, .inl (congrArg Pc.leg hpc)⟩

lemma grows_putIntoShopCart (leg : Option Leg) (t : Session) :
    Grows leg t.trace t.putIntoShopCart.trace := by
  unfold Session.putIntoShopCart
  dsimp only
  split
  · exact .cons .same rfl
  · exact .same

lemma mealcntChoose_steady (s : Machine) (d : UInt8) : s.Steady (s.mealcntChoose d) := by
  have hput : Grows s.leg s.session.trace s.session.putIntoShopCart.trace :=
    grows_putIntoShopCart s.leg s.session
  have hpc : s.session.putIntoShopCart.pc = s.session.pc := s.session.putIntoShopCart_pc
  unfold mealcntChoose enterCart
  dsimp only
  split_ifs
  · exact .edit rfl hput hpc
  · exact .edit rfl hput hpc
  · exact .edit rfl hput hpc
  · exact .edit rfl (.cons .same rfl) rfl
  · exact .edit rfl .same rfl

lemma cancelPayment_steady (s : Machine) : s.Steady s.cancelPayment :=
  .edit rfl (.cons (.cons .same rfl) rfl) rfl

lemma paymentMethod_steady (s : Machine) (d : UInt8) : s.Steady (s.paymentMethod d) := by
  have hcopy : s.Steady (s.onSession fun t => { t with userAct := t.userAct.acountCopy }) :=
    .edit rfl .same rfl
  unfold paymentMethod
  dsimp only
  split_ifs
  · exact hcopy.trans (cancelPayment_steady _)
  · exact .edit rfl .same rfl
  · exact .edit rfl .same rfl
  · exact .edit rfl .same rfl
  · exact hcopy.trans (cancelPayment_steady _)
  · exact hcopy

lemma password_steady (s : Machine) (d : UInt8) : s.Steady (s.password d) := by
  rw [password, confirmPassWord]
  dsimp only
  split_ifs <;> exact .edit rfl .same rfl

/-- A message of the screen. -/
lemma changeVariableValues_steady (s : Machine) (f : Frame) :
    s.Steady (s.changeVariableValues f io) := by
  rw [changeVariableValues]
  cases f.variable with
  | none => exact .edit rfl .same rfl
  | some v =>
    cases v with
    | mealcntChoose => exact mealcntChoose_steady s _
    | paymentMethod => exact paymentMethod_steady s _
    | password => exact password_steady s _
    | mealChoose =>
      dsimp only [mealChoose]
      split
      · split_ifs <;> exact .edit rfl .same rfl
      · exact .edit rfl .same rfl
    | count k =>
      dsimp only [count]
      split_ifs
      · exact .edit rfl (.cons .same rfl) rfl
      · exact .edit rfl .same rfl
    | column i =>
      dsimp only [column]
      split
      · split_ifs
        · exact .edit rfl (.cons .same rfl) rfl
        · exact .edit rfl .same rfl
      · exact .edit rfl .same rfl
    | billPrint =>
      dsimp only [billPrint]
      split_ifs <;> exact .edit rfl .same rfl
    | recordClear =>
      dsimp only [recordClear]
      split_ifs <;> exact .edit rfl .same rfl
    | adminSet =>
      dsimp only [adminSet]
      split_ifs <;> exact .edit rfl .same rfl
    | mealinputChoose =>
      dsimp only [mealinputChoose]
      split_ifs <;> exact .edit rfl .same rfl
    | tempratureSet => exact .edit rfl (.cons .same rfl) rfl
    | mealNum | floorNum | row | coinsIn | coinsKey | caedbalenceCancel =>
      exact .edit rfl .same rfl

lemma coinIn_steady (s : Machine) : s.Steady s.coinIn := by
  rw [coinIn]
  dsimp only
  split_ifs
  · exact .edit rfl (.cons .same rfl) rfl
  · exact .edit rfl .same rfl

lemma tim3_steady (s : Machine) : s.Steady s.tim3 := by
  rw [tim3]
  split_ifs
  · exact .edit rfl .same rfl
  · exact .edit rfl (.cons .same rfl) rfl

lemma pvd_steady (s : Machine) : s.Steady s.pvd := by
  have hrecord : s.Steady { s with erroRecord := s.erroRecord ||| bit outageErro } :=
    .stay rfl rfl
  exact hrecord.trans (saveUserData_steady _)

end Program

end Machine

/-- What a step does to a delivery: a byte comes, the program goes on, or nothing is done. -/
theorem step_effect {s t : Machine} {e : Event} (h : step s e = some t) :
    (∃ b, e = .usart6 b ∧ t = s.usart6 b) ∨ (∃ io, e = .go io ∧ s.Effect t) ∨
      ((∀ b, e ≠ .usart6 b) ∧ s.Steady t) := by
  cases e with
  | usart6 b =>
    cases h
    exact .inl ⟨b, rfl, rfl⟩
  | go io =>
    cases h
    exact .inr (.inl ⟨io, rfl, Machine.go_effect⟩)
  | coinIn => cases h; exact .inr (.inr ⟨nofun, s.coinIn_steady⟩)
  | coinOut => cases h; exact .inr (.inr ⟨nofun, .edit rfl .same rfl⟩)
  | tim3 =>
    obtain ⟨-, rfl⟩ := step_tim3 h
    exact .inr (.inr ⟨nofun, s.tim3_steady⟩)
  | tim4 =>
    obtain rfl := step_tim4 h
    exact .inr (.inr ⟨nofun, .edit rfl .same rfl⟩)
  | tim7 =>
    obtain rfl := step_tim7 h
    exact .inr (.inr ⟨nofun, .edit rfl .same rfl⟩)
  | tim5 =>
    cases h
    exact .inr (.inr ⟨nofun, ⟨id, id, id, id, fun _ => id⟩, .same, .inl rfl⟩)
  | pvd => cases h; exact .inr (.inr ⟨nofun, s.pvd_steady⟩)
  | screen f io =>
    obtain ⟨-, rfl⟩ := step_screen h
    exact .inr (.inr ⟨nofun, s.changeVariableValues_steady f⟩)

end MealVendor
