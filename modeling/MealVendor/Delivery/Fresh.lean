import MealVendor.Delivery.Leg
import MealVendor.Lib.History

/-!
# What confirms a meal

A meal should be counted when the arm has reported, after the commands for this meal, that it is at
its place, that the meal is at the door, and that it was taken.  The flags of `machinerec` do not
tell when a report came, so a report from before may stand for one of this meal.  `Timely` says that
there is none where a command is sent and where a report is taken up; in a run in which every step
of the program is timely, every meal that is counted was confirmed.
-/

namespace MealVendor

/-! ## What is noted -/

/-- What is noted of a run: what is recorded, and the lines as they are received. -/
inductive Note
  | obs (o : Obs)
  | line (L : Line)

/-- What has come of the meal at hand: its command with the coordinates, a report after it that the
arm is at its place, the command to get the meal, a report after both that the meal is at the door,
and a report after this one that it was taken, or was not in time. -/
structure Seen where
  coord : Bool
  goal : Bool
  getMeal : Bool
  door : Bool
  away : Bool
deriving DecidableEq

namespace Seen

/-- Nothing yet. -/
def nothing : Seen := ⟨false, false, false, false, false⟩

/-- A line is received. -/
def hear (b : Seen) (L : Line) : Seen :=
  if Report.goal.heads L then { b with goal := b.goal || b.coord }
  else if Report.door.heads L then { b with door := b.door || (b.goal && b.getMeal) }
  else if Report.away.heads L || Report.noaway.heads L then { b with away := b.away || b.door }
  else b

def note (b : Seen) : Note → Seen
  | .obs (.find ..) | .obs .takeout => nothing
  | .obs (.command (.sendCoord ..)) => { b with coord := true }
  | .obs (.command .getMeal) => { b with getMeal := b.getMeal || b.coord }
  | .obs _ => b
  | .line L => b.hear L

end Seen

/-- What has come of the meal at hand. -/
def seen (notes : List Note) : Seen := Lib.tally Seen.note .nothing notes

/-- `Meal_takeout` is incremented. -/
def Note.counts : Note → Bool
  | .obs .takeout => true
  | _ => false

/-- Every meal that was counted was confirmed. -/
def Confirmed (notes : List Note) : Prop :=
  Lib.Always Seen.note .nothing (fun n b => n.counts = true → b.away = true) notes

instance (notes : List Note) : Decidable (Confirmed notes) := Lib.decidableAlways notes

/-- The line that an event completes. -/
def completed (s : Machine) : Event → List Note
  | .usart6 b =>
    let a := (s.arm.store b).acknowledge
    if a.endOfLine && a.usart6Index == 6 then [.line a.usart6Buff] else []
  | _ => []

/-- A machine, and what was noted of its run, the latest first. -/
structure Watched where
  machine : Machine
  notes : List Note

/-- The machine makes a step, and what is new in the trace is noted. -/
def Watched.step (w : Watched) (e : Event) : Option Watched :=
  (MealVendor.step w.machine e).map fun s =>
    let new := s.session.trace.take (s.session.trace.length - w.machine.session.trace.length)
    ⟨s, completed w.machine e ++ (new.map .obs ++ w.notes)⟩

/-- Watching a run does not change it. -/
lemma Watched.runFrom_machine (w : Watched) (es : List Event) :
    (Lib.runFrom Watched.step w es).map Watched.machine =
      Lib.runFrom MealVendor.step w.machine es := by
  induction es generalizing w with
  | nil => rfl
  | cons e es ih =>
    rw [Lib.runFrom_cons, Lib.runFrom_cons, Watched.step]
    cases MealVendor.step w.machine e with
    | none => rfl
    | some s => exact ih _

/-! ## Steps that use no old report -/

/-- The next step of the program uses no report from before. -/
structure Machine.Timely (s : Machine) : Prop where
  /-- A report that is read is not half overwritten. -/
  whole : s.session.pc.reads = true → ∀ r, s.arm.Pending r → s.arm.Whole
  /-- When the arm is sent to its place, no report of that is left. -/
  take : s.session.pc = .take → s.arm.regoal = false ∧ ¬ s.arm.Unread .goal
  /-- When the arm is to get the meal, no report of a meal at the door is left. -/
  getMeal : s.session.pc = .goal ∨ s.session.pc = .resume .goal →
    s.arm.regoal = true ∨ s.Takes .goal → s.arm.retodoor = false ∧ ¬ s.Takes .door
  /-- When the meal is at the door, no report that one was taken is left. -/
  door : s.session.pc = .door → s.Takes .door →
    s.arm.remealaway = false ∧ s.arm.remealnoaway = false

instance : Fintype Report := ⟨{.goal, .door, .away, .noaway}, by rintro ⟨⟩ <;> decide⟩

instance (s : Machine) (r : Report) : Decidable (s.Takes r) := inferInstanceAs (Decidable (_ ∧ _))

instance (s : Machine) : Decidable s.Timely :=
  decidable_of_iff
    ((s.session.pc.reads = true → ∀ r, s.arm.Pending r → s.arm.Whole) ∧
      (s.session.pc = .take → s.arm.regoal = false ∧ ¬ s.arm.Unread .goal) ∧
      (s.session.pc = .goal ∨ s.session.pc = .resume .goal →
        s.arm.regoal = true ∨ s.Takes .goal → s.arm.retodoor = false ∧ ¬ s.Takes .door) ∧
      (s.session.pc = .door → s.Takes .door →
        s.arm.remealaway = false ∧ s.arm.remealnoaway = false))
    ⟨fun ⟨h₁, h₂, h₃, h₄⟩ => ⟨h₁, h₂, h₃, h₄⟩, fun ⟨h₁, h₂, h₃, h₄⟩ => ⟨h₁, h₂, h₃, h₄⟩⟩

/-- The condition at a step of a run. -/
def Timely (w : Watched) (e : Event) : Prop := e.runs = true → w.machine.Timely

instance (w : Watched) (e : Event) : Decidable (Timely w e) := inferInstanceAs (Decidable (_ → _))

/-! ## The invariant -/

/-- What has come of a meal that is on this leg. -/
def Seen.Fits (b : Seen) (a : Arm) : Option Leg → Prop
  | some .goal => b.coord = true
  | some .door => b.goal = true ∧ b.getMeal = true ∧ a.retodoor = false
  | some .away => b.door = true ∧ (a.remealaway = true ∨ a.remealnoaway = true → b.away = true)
  | some .out => b.away = true
  | none => True

/-- What is known of a meal while every step is timely. -/
structure Fresh (s : Machine) (b : Seen) : Prop where
  goal : b.coord = true → s.arm.regoal = true ∨ s.arm.Unread .goal → b.goal = true
  door : b.goal = true → b.getMeal = true → s.arm.Unread .door → b.door = true
  away : b.door = true → s.arm.Unread .away ∨ s.arm.Unread .noaway → b.away = true
  fits : b.Fits s.arm s.leg

/-- The flags may go, but none comes up. -/
lemma Seen.Fits.mono {b : Seen} {a a' : Arm} {l : Option Leg} (h : b.Fits a l)
    (hdoor : a'.retodoor = true → a.retodoor = true)
    (haway : a'.remealaway = true → a.remealaway = true)
    (hnoaway : a'.remealnoaway = true → a.remealnoaway = true) : b.Fits a' l := by
  cases l with
  | none => trivial
  | some l =>
    cases l with
    | goal | out => exact h
    | door =>
      obtain ⟨hg, hm, hold⟩ := h
      refine ⟨hg, hm, Bool.eq_false_iff.mpr fun hnew => ?_⟩
      rw [hdoor hnew] at hold
      cases hold
    | away => exact ⟨h.1, fun hr => h.2 (hr.imp haway hnoaway)⟩

lemma Seen.Fits.of_sinks {b : Seen} {a a' : Arm} {l : Option Leg} (h : b.Fits a l)
    (harm : a.Sinks a') : b.Fits a' l := h.mono harm.door harm.away harm.noaway

namespace Fresh

variable {s t : Machine} {b : Seen}

section Legs

variable (h : Fresh s b)

include h

lemma toGoal (hs : s.leg = some .goal) : b.coord = true := by
  have hfits := h.fits
  rwa [hs] at hfits

lemma toDoor (hs : s.leg = some .door) :
    b.goal = true ∧ b.getMeal = true ∧ s.arm.retodoor = false := by
  have hfits := h.fits
  rwa [hs] at hfits

lemma toAway (hs : s.leg = some .away) :
    b.door = true ∧ (s.arm.remealaway = true ∨ s.arm.remealnoaway = true → b.away = true) := by
  have hfits := h.fits
  rwa [hs] at hfits

lemma out (hs : s.leg = some .out) : b.away = true := by
  have hfits := h.fits
  rwa [hs] at hfits

end Legs

/-- What is recorded on a leg is known already. -/
lemma note_mild (h : Fresh s b) {o : Obs} (ho : o.mild s.leg = true) : b.note (.obs o) = b := by
  cases o with
  | command c =>
    cases c with
    | sendCoord l c =>
      have hcoord : b.coord = true := h.toGoal (by simpa [Obs.mild] using ho)
      obtain ⟨coord, goal, getMeal, door, away⟩ := b
      obtain rfl : coord = true := hcoord
      rfl
    | getMeal =>
      have hget : b.getMeal = true := (h.toDoor (by simpa [Obs.mild] using ho)).2.1
      obtain ⟨coord, goal, getMeal, door, away⟩ := b
      obtain rfl : getMeal = true := hget
      rfl
    | _ => rfl
  | find | takeout => cases ho
  | _ => rfl

/-- Where nothing has come there is nothing to know. -/
lemma of_nothing (hleg : t.leg = none) : Fresh t .nothing := by
  refine ⟨nofun, nofun, nofun, ?_⟩
  rw [hleg]
  trivial

/-- Nothing comes up, and the leg is the same or has ended. -/
lemma of_sinks (h : Fresh s b) (harm : s.arm.Sinks t.arm) (hleg : t.leg = s.leg ∨ t.leg = none) :
    Fresh t b := by
  refine ⟨fun hc hr => h.goal hc (hr.imp harm.goal (harm.unread _)),
    fun hg hm hr => h.door hg hm (harm.unread _ hr),
    fun hd hr => h.away hd (hr.imp (harm.unread _) (harm.unread _)), ?_⟩
  rcases hleg with heq | hnone
  · rw [heq]
    exact h.fits.of_sinks harm
  · rw [hnone]
    trivial

/-- A step that has nothing to do with the reports. -/
lemma steady (h : Fresh s b) (hs : s.Steady t) : Fresh t b := h.of_sinks hs.arm hs.leg

/-- The arm is sent to its place. -/
lemma take (h : Fresh s b) (ht : s.Timely) (hpc : s.session.pc = .take)
    (harm : s.arm.Sinks t.arm) (hleg : t.leg = some .goal) :
    Fresh t { b with coord := true } := by
  -- with no report left, one that is seen from here on is new
  obtain ⟨hold, hunread⟩ := ht.take hpc
  refine ⟨fun _ hg => ?_, fun hg hm hu => h.door hg hm (harm.unread _ hu),
    fun hd hu => h.away hd (hu.imp (harm.unread _) (harm.unread _)), ?_⟩
  · rcases hg with hg | hu
    · rw [harm.goal hg] at hold
      cases hold
    · exact absurd (harm.unread _ hu) hunread
  · rw [hleg]
    rfl

/-! ### Behind a line -/

/-- A report that is taken up is whole. -/
lemma unread_of_takes (ht : s.Timely) {r : Report} (h : s.Takes r) : s.arm.Unread r :=
  ⟨h.2, ht.whole h.1 r h.2⟩

/-- Behind a line nothing is unread. -/
lemma of_not_unread (hunread : ∀ r, ¬ t.arm.Unread r)
    (hgoal : b.coord = true → t.arm.regoal = true → b.goal = true) (hfits : b.Fits t.arm t.leg) :
    Fresh t b := by
  refine ⟨fun hc hg => ?_, fun _ _ hu => absurd hu (hunread _), fun _ hu => ?_, hfits⟩
  · rcases hg with hg | hu
    · exact hgoal hc hg
    · exact absurd hu (hunread _)
  · rcases hu with hu | hu <;> exact absurd hu (hunread _)

section Read

variable {s₁ : Machine} (h : Fresh s b) (ht : s.Timely) (hr : s.Read s₁)

include h ht hr

/-- The flag for the place of the arm. -/
lemma read_goal (hc : b.coord = true) (hg : s₁.arm.regoal = true) : b.goal = true :=
  h.goal hc ((hr.goal hg).imp_right (unread_of_takes ht))

/-- The flags for a meal that was taken. -/
lemma read_away (hleg : s.leg = some .away)
    (ha : s₁.arm.remealaway = true ∨ s₁.arm.remealnoaway = true) : b.away = true := by
  obtain ⟨hd, hold⟩ := h.toAway hleg
  rcases ha with ha | ha
  · rcases hr.away ha with hset | htakes
    · exact hold (.inl hset)
    · exact h.away hd (.inl (unread_of_takes ht htakes))
  · rcases hr.noaway ha with hset | htakes
    · exact hold (.inr hset)
    · exact h.away hd (.inr (unread_of_takes ht htakes))

/-- What fits the leg behind a line, if the meal is not at the door. -/
lemma fits_read (hdoor : s.leg = some .door → s₁.arm.retodoor = false) : b.Fits s₁.arm s.leg := by
  cases hleg : s.leg with
  | none => trivial
  | some l =>
    cases l with
    | goal => exact h.toGoal hleg
    | door =>
      obtain ⟨hg, hm, -⟩ := h.toDoor hleg
      exact ⟨hg, hm, hdoor hleg⟩
    | away => exact ⟨(h.toAway hleg).1, h.read_away ht hr hleg⟩
    | out => exact h.out hleg

/-- A line is read, and the leg goes on. -/
lemma read (hs : s₁.Steady t)
    (hdoor : s.leg = some .door → t.leg = some .door → s₁.arm.retodoor = false) : Fresh t b := by
  refine of_not_unread (fun r hu => hr.unread r (hs.arm.unread r hu))
    (fun hc hg => h.read_goal ht hr hc (hs.arm.goal hg)) ?_
  rcases hs.leg with heq | hnone
  · have hsame : t.leg = s.leg := heq.trans hr.leg
    rw [hsame]
    exact (h.fits_read ht hr fun hleg => hdoor hleg (hsame.trans hleg)).of_sinks hs.arm
  · rw [hnone]
    trivial

/-- The arm is to get the meal. -/
lemma getMeal (hpc : s.session.pc = .goal ∨ s.session.pc = .resume .goal)
    (hgoal : s₁.arm.regoal = true) (harm : s₁.arm.Sinks t.arm) (hleg : t.leg = some .door) :
    Fresh t { b with getMeal := b.getMeal || b.coord } := by
  have hcoord : b.coord = true := by
    refine h.toGoal ?_
    rcases hpc with hpc | hpc <;> rw [Machine.leg, hpc] <;> rfl
  have hg : b.goal = true := h.read_goal ht hr hcoord hgoal
  -- the flag of the door may only come up from here on
  obtain ⟨hold, htakes⟩ := ht.getMeal hpc (hr.goal hgoal)
  refine of_not_unread (fun r hu => hr.unread r (harm.unread r hu)) (fun _ _ => hg) ?_
  rw [hleg]
  refine ⟨hg, by rw [hcoord, Bool.or_true], Bool.eq_false_iff.mpr fun hnew => ?_⟩
  rcases hr.door (harm.door hnew) with hset | hnow
  · rw [hold] at hset
    cases hset
  · exact htakes hnow

/-- The meal is at the door. -/
lemma atDoor (hpc : s.session.pc = .door ∨ s.session.pc = .resume .door)
    (hdoor : s₁.arm.retodoor = true) (harm : s₁.arm.Sinks t.arm) (hleg : t.leg = some .away) :
    Fresh t b := by
  have hs : s.leg = some .door := by
    rcases hpc with hpc | hpc <;> rw [Machine.leg, hpc] <;> rfl
  obtain ⟨hg, hm, hold⟩ := h.toDoor hs
  -- the flag was not set before, so the line is read in this step
  have htakes : s.Takes .door := by
    refine (hr.door hdoor).resolve_left fun hset => ?_
    rw [hold] at hset
    cases hset
  have hpc : s.session.pc = .door := by
    refine hpc.resolve_right fun hresume => ?_
    have hreads := htakes.1
    rw [hresume] at hreads
    cases hreads
  obtain ⟨haway, hnoaway⟩ := ht.door hpc htakes
  have hother : ∀ r, r ≠ .door → ¬ s.Takes r := fun r hne hr =>
    hne (Report.eq_of_heads hr.2.2 htakes.2.2)
  refine of_not_unread (fun r hu => hr.unread r (harm.unread r hu)) (fun _ _ => hg) ?_
  rw [hleg]
  refine ⟨h.door hg hm (unread_of_takes ht htakes), fun ha => ?_⟩
  rcases ha with ha | ha
  · rcases hr.away (harm.away ha) with hset | hnow
    · rw [haway] at hset
      cases hset
    · exact absurd hnow (hother _ (by decide))
  · rcases hr.noaway (harm.noaway ha) with hset | hnow
    · rw [hnoaway] at hset
      cases hset
    · exact absurd hnow (hother _ (by decide))

/-- The meal was taken. -/
lemma taken (hs : s.leg = some .away)
    (haway : s₁.arm.remealaway = true ∨ s₁.arm.remealnoaway = true) (harm : s₁.arm.Sinks t.arm)
    (hleg : t.leg = some .out) : Fresh t b := by
  refine of_not_unread (fun r hu => hr.unread r (harm.unread r hu))
    (fun hc hg => h.read_goal ht hr hc (harm.goal hg)) ?_
  rw [hleg]
  exact h.read_away ht hr hs haway

end Read

end Fresh

/-! ## A byte comes -/

namespace Arm

variable {a : Arm} {c : UInt8} {r : Report}

/-- A byte sets no flag of a report. -/
lemma receive_flags (a : Arm) (c : UInt8) : (a.receive c).regoal = a.regoal ∧
    (a.receive c).retodoor = a.retodoor ∧ (a.receive c).remealaway = a.remealaway ∧
    (a.receive c).remealnoaway = a.remealnoaway := by
  unfold receive wrap acknowledge store
  dsimp only
  split_ifs <;> exact ⟨rfl, rfl, rfl, rfl⟩

/-- A reply leaves no report in the buffer. -/
lemma not_unread_of_zero (h : a.usart6Buff 0 = 0) (r : Report) : ¬ a.Unread r := by
  rintro ⟨⟨-, hheads⟩, -⟩
  have hzero : (0 : UInt8) = r.head := h.symm.trans (Report.head_eq hheads)
  revert hzero
  cases r <;> decide

lemma acknowledge_of_reply (h : a.usart6Buff 0 = 0x06 ∨ a.usart6Buff 0 = 0x15) :
    a.acknowledge.usart6Buff 0 = 0 := by
  rw [acknowledge]
  split_ifs with hack hnack
  · simp only [Function.update_self]
  · simp only [Function.update_self]
  · exact absurd h (not_or.mpr ⟨hack, hnack⟩)

/-- A byte that is no reply, behind five others. -/
lemma endOfLine_eq (h : a.usart6Index = 6) : a.endOfLine = endsLine a.usart6Buff := by
  rw [endOfLine, endsLine]
  rw [dif_pos (by omega)]
  congr 2
  all_goals
    congr 1
    exact Fin.ext (by simp [h])

/-- A whole line was in the buffer before, or is completed by this byte. -/
lemma unread_receive (h : (a.receive c).Unread r) :
    let a' := (a.store c).acknowledge
    if a'.endOfLine && a'.usart6Index == 6 then r.heads a'.usart6Buff = true else a.Unread r := by
  intro a'
  have hrec : a.receive c =
      if a'.endOfLine then { a' with usart6DataFlag := true }.wrap else a'.wrap := rfl
  have hwrap : ∀ x : Arm, x.wrap.usart6Buff = x.usart6Buff := fun x => by
    rw [wrap]
    split_ifs <;> rfl
  have hbuff : (a.receive c).usart6Buff = a'.usart6Buff := by
    rw [hrec]
    split_ifs <;> exact hwrap _
  split_ifs with hdone
  · rw [← hbuff]
    exact h.1.2
  · by_cases hreply : (a.store c).usart6Buff 0 = 0x06 ∨ (a.store c).usart6Buff 0 = 0x15
    · -- a reply is taken out of the buffer
      have hzero : a'.usart6Buff 0 = 0 := acknowledge_of_reply hreply
      exact absurd h (not_unread_of_zero (by rw [hbuff, hzero]) r)
    · obtain ⟨hack, hnack⟩ := not_or.mp hreply
      have ha' : a' = a.store c := by
        change (a.store c).acknowledge = a.store c
        rw [acknowledge]
        rw [if_neg hack, if_neg hnack]
      have hindex : a'.usart6Index = a.usart6Index + 1 := by rw [ha']; rfl
      by_cases hfull : 6 ≤ a.usart6Index
      · -- the byte has no place, and the line stays
        have hline : a'.endOfLine = false := by
          rw [endOfLine]
          rw [dif_neg (by omega)]
        have hsame : a'.usart6Buff = a.usart6Buff := by
          rw [ha', store]
          exact dif_neg (by omega)
        have hflag : (a.receive c).usart6DataFlag = a.usart6DataFlag := by
          rw [hrec, hline, if_neg Bool.false_ne_true, wrap, if_pos (by omega), ha']
          rfl
        obtain ⟨⟨hset, hheads⟩, hwhole⟩ := h
        rw [hbuff, hsame] at hheads
        refine ⟨⟨hflag ▸ hset, hheads⟩, ?_, .inr hfull⟩
        rw [← hsame, ← hbuff]
        exact hwhole.1
      · -- less than six bytes, or six bytes that are no line
        have hstay : ∀ x : Arm, x.usart6Index = a.usart6Index + 1 →
            x.wrap.usart6Index = a.usart6Index + 1 := fun x hx => by
          rw [wrap, if_neg (by omega), hx]
        have hkeep : (a.receive c).usart6Index = a.usart6Index + 1 := by
          rw [hrec]
          split_ifs <;> exact hstay _ hindex
        exfalso
        obtain ⟨-, hend, hwhole⟩ := h
        have hsix : a'.usart6Index = 6 := by omega
        rw [endOfLine_eq hsix, ← hbuff, hend, hsix] at hdone
        exact hdone rfl

end Arm

/-! ### A line is heard -/

namespace Seen

variable {b : Seen} {L : Line}

@[simp] lemma hear_coord (b : Seen) (L : Line) : (b.hear L).coord = b.coord := by
  rw [hear]
  split_ifs <;> rfl

@[simp] lemma hear_getMeal (b : Seen) (L : Line) : (b.hear L).getMeal = b.getMeal := by
  rw [hear]
  split_ifs <;> rfl

/-- What has come stays. -/
lemma hear_mono (b : Seen) (L : Line) : (b.goal = true → (b.hear L).goal = true) ∧
    (b.door = true → (b.hear L).door = true) ∧ (b.away = true → (b.hear L).away = true) := by
  rw [hear]
  split_ifs
  · exact ⟨fun h => by rw [h, Bool.true_or], id, id⟩
  · exact ⟨id, fun h => by rw [h, Bool.true_or], id⟩
  · exact ⟨id, id, fun h => by rw [h, Bool.true_or]⟩
  · exact ⟨id, id, id⟩

lemma hear_goal (hL : Report.goal.heads L = true) (hc : b.coord = true) :
    (b.hear L).goal = true := by
  rw [hear, if_pos hL, hc, Bool.or_true]

lemma hear_door (hL : Report.door.heads L = true) (hg : (b.hear L).goal = true)
    (hm : b.getMeal = true) : (b.hear L).door = true := by
  have hgoal : ¬ Report.goal.heads L = true := fun h => nomatch Report.eq_of_heads h hL
  rw [hear, if_neg hgoal, if_pos hL] at hg ⊢
  rw [hg, hm, Bool.and_true, Bool.or_true]

lemma hear_away (hL : Report.away.heads L = true ∨ Report.noaway.heads L = true)
    (hd : (b.hear L).door = true) : (b.hear L).away = true := by
  have hgoal : ¬ Report.goal.heads L = true := fun h => by
    rcases hL with hL | hL <;> exact nomatch Report.eq_of_heads h hL
  have hdoor : ¬ Report.door.heads L = true := fun h => by
    rcases hL with hL | hL <;> exact nomatch Report.eq_of_heads h hL
  rw [hear, if_neg hgoal, if_neg hdoor, if_pos (Bool.or_eq_true_iff.mpr hL)] at hd ⊢
  rw [hd, Bool.or_true]

end Seen

namespace Fresh

variable {s t : Machine} {b : Seen}

/-- A line changes nothing for the leg. -/
lemma fits_hear (h : Fresh s b) (L : Line) : (b.hear L).Fits s.arm s.leg := by
  obtain ⟨monoGoal, monoDoor, monoAway⟩ := b.hear_mono L
  cases hleg : s.leg with
  | none => trivial
  | some l =>
    cases l with
    | goal => exact (Seen.hear_coord b L).trans (h.toGoal hleg)
    | door =>
      obtain ⟨hg, hm, hold⟩ := h.toDoor hleg
      exact ⟨monoGoal hg, by rw [Seen.hear_getMeal, hm], hold⟩
    | away =>
      obtain ⟨hd, hold⟩ := h.toAway hleg
      exact ⟨monoDoor hd, fun hr => monoAway (hold hr)⟩
    | out => exact monoAway (h.out hleg)

/-- A line is completed, and it is the only one in the buffer. -/
lemma hear (h : Fresh s b) {L : Line} (hunread : ∀ r, t.arm.Unread r → r.heads L = true)
    (hleg : t.leg = s.leg) (hgoal : t.arm.regoal = s.arm.regoal)
    (hdoor : t.arm.retodoor = s.arm.retodoor) (haway : t.arm.remealaway = s.arm.remealaway)
    (hnoaway : t.arm.remealnoaway = s.arm.remealnoaway) : Fresh t (b.hear L) := by
  refine ⟨fun hc hr => ?_, fun hg hm hr => ?_, fun hd hr => ?_, ?_⟩
  · rw [Seen.hear_coord] at hc
    rcases hr with hr | hr
    · exact (b.hear_mono L).1 (h.goal hc (.inl (hgoal ▸ hr)))
    · exact Seen.hear_goal (hunread _ hr) hc
  · rw [Seen.hear_getMeal] at hm
    exact Seen.hear_door (hunread _ hr) hg hm
  · exact Seen.hear_away (hr.imp (hunread _) (hunread _)) hd
  · have hfits := h.fits_hear L
    rw [← hleg] at hfits
    exact hfits.mono (fun hr => hdoor ▸ hr) (fun hr => haway ▸ hr) fun hr => hnoaway ▸ hr

/-- A byte comes. -/
lemma usart6 (h : Fresh s b) (c : UInt8) :
    Fresh (s.usart6 c) (Lib.tally Seen.note b (completed s (.usart6 c))) := by
  obtain ⟨os, -, heq⟩ := s.usart6_eq c
  obtain ⟨hgoal, hdoor, haway, hnoaway⟩ := s.arm.receive_flags c
  rw [heq, completed]
  dsimp only
  split_ifs with hdone
  · refine h.hear (fun r hr => ?_) rfl hgoal hdoor haway hnoaway
    have hnew := Arm.unread_receive hr
    rwa [if_pos hdone] at hnew
  · have hunread : ∀ r, (s.arm.receive c).Unread r → s.arm.Unread r := fun r hr => by
      have hold := Arm.unread_receive hr
      rwa [if_neg hdone] at hold
    have hsinks : s.arm.Sinks (s.arm.receive c) := ⟨fun hr => hgoal ▸ hr, fun hr => hdoor ▸ hr,
      fun hr => haway ▸ hr, fun hr => hnoaway ▸ hr, hunread⟩
    exact h.of_sinks hsinks (.inl rfl)

end Fresh

/-! ## Every run -/

namespace Watched

/-- What is kept of a run that is watched. -/
structure Kept (w : Watched) : Prop where
  fresh : Fresh w.machine (seen w.notes)
  confirmed : Confirmed w.notes

variable {w w' : Watched} {e : Event}

/-- What is noted of a step. -/
lemma step_spec (h : w.step e = some w') : MealVendor.step w.machine e = some w'.machine ∧
    ∀ os : List Obs, w'.machine.session.trace = os ++ w.machine.session.trace →
      w'.notes = completed w.machine e ++ (os.map .obs ++ w.notes) := by
  rw [step, Option.map_eq_some_iff] at h
  obtain ⟨t, hstep, rfl⟩ := h
  refine ⟨hstep, fun os hos => ?_⟩
  dsimp only at hos ⊢
  rw [hos, List.length_append, Nat.add_sub_cancel, List.take_left]

/-- What is recorded on a leg changes nothing. -/
lemma Kept.append (h : w.Kept) {os : List Obs} (hos : ∀ o ∈ os, o.mild w.machine.leg = true) :
    seen (os.map .obs ++ w.notes) = seen w.notes ∧ Confirmed (os.map .obs ++ w.notes) := by
  constructor
  · refine Lib.tally_append_fixed fun n hn => ?_
    obtain ⟨o, ho, rfl⟩ := List.mem_map.mp hn
    exact h.fresh.note_mild (hos o ho)
  · refine Lib.Always.append (fun n hn b htake => ?_) h.confirmed
    obtain ⟨o, ho, rfl⟩ := List.mem_map.mp hn
    have hmild := hos o ho
    cases o with
    | takeout => cases hmild
    | _ => cases htake

section Go

variable (h : w.Kept) (hnotes : ∀ os : List Obs,
  w'.machine.session.trace = os ++ w.machine.session.trace → w'.notes = os.map .obs ++ w.notes)

include h hnotes

/-- A step of the program on a leg. -/
lemma Kept.mild
    (hgrows : Grows w.machine.leg w.machine.session.trace w'.machine.session.trace)
    (hfresh : Fresh w'.machine (seen w.notes)) : w'.Kept := by
  obtain ⟨os, hos, htrace⟩ := grows_iff.mp hgrows
  obtain ⟨hseen, hconf⟩ := h.append hos
  rw [← hnotes os htrace] at hseen hconf
  exact ⟨hseen ▸ hfresh, hconf⟩

/-- A step of the program that is recorded. -/
lemma Kept.cons {o : Obs} (htrace : w'.machine.session.trace = o :: w.machine.session.trace)
    (ho : (Note.obs o).counts = true → (seen w.notes).away = true)
    (hfresh : Fresh w'.machine ((seen w.notes).note (.obs o))) : w'.Kept := by
  have hcons : w'.notes = .obs o :: w.notes := hnotes [o] htrace
  constructor
  · rw [hcons]
    exact hfresh
  · rw [hcons]
    exact ⟨ho, h.confirmed⟩

end Go

/-- A step of the program that uses no report from before. -/
lemma Kept.go (h : w.Kept) (ht : w.machine.Timely) (heffect : w.machine.Effect w'.machine)
    (hnotes : ∀ os : List Obs, w'.machine.session.trace = os ++ w.machine.session.trace →
      w'.notes = os.map .obs ++ w.notes) : w'.Kept := by
  cases heffect with
  | steady hs => exact h.mild hnotes hs.trace (h.fresh.steady hs)
  | read hr hs hdoor =>
    refine h.mild hnotes ?_ (h.fresh.read ht hr hs hdoor)
    rw [← hr.leg, ← hr.trace]
    exact hs.trace
  | found harm htrace hleg => exact h.cons hnotes htrace nofun (.of_nothing hleg)
  | take hpc harm htrace hleg => exact h.cons hnotes htrace nofun (h.fresh.take ht hpc harm hleg)
  | getMeal hr hpc hgoal harm htrace hleg =>
    exact h.cons hnotes htrace nofun (h.fresh.getMeal ht hr hpc hgoal harm hleg)
  | door hr hpc hdoor harm htrace hleg =>
    refine h.mild hnotes ?_ (h.fresh.atDoor ht hr hpc hdoor harm hleg)
    rw [htrace]
    exact .same
  | away hr hs haway harm htrace hleg =>
    refine h.mild hnotes ?_ (h.fresh.taken ht hr hs haway harm hleg)
    rw [htrace]
    exact .same
  | takeout hs harm htrace hleg =>
    exact h.cons hnotes htrace (fun _ => h.fresh.out hs) (.of_nothing hleg)

/-- What every step of such a run keeps. -/
lemma Kept.step (h : w.Kept) (ht : Timely w e) (hstep : w.step e = some w') : w'.Kept := by
  obtain ⟨hmachine, hnotes⟩ := step_spec hstep
  rcases step_effect hmachine with ⟨c, rfl, hbyte⟩ | ⟨io, rfl, heffect⟩ | ⟨hbyte, hs⟩
  · -- the line that the byte completes comes after what the machine records
    obtain ⟨os, hos, heq⟩ := w.machine.usart6_eq c
    have hmild : ∀ o ∈ os, o.mild w.machine.leg = true := fun o ho => by
      obtain ⟨ack, rfl⟩ := hos o ho
      rfl
    obtain ⟨hseen, hconf⟩ := h.append hmild
    have hnew := hnotes os (by rw [hbyte, heq])
    constructor
    · rw [hbyte, hnew, seen, Lib.tally_append, ← seen, hseen]
      exact h.fresh.usart6 c
    · rw [hnew]
      refine Lib.Always.append (fun n hn b htake => ?_) hconf
      rw [completed] at hn
      split_ifs at hn
      · cases List.mem_singleton.mp hn
        cases htake
      · cases hn
  · exact h.go (ht rfl) heffect hnotes
  · refine h.mild (fun os hos => ?_) hs.trace (h.fresh.steady hs)
    rw [hnotes os hos]
    cases e with
    | usart6 c => exact absurd rfl (hbyte c)
    | _ => rfl

/-- When power comes nothing is known and nothing is noted. -/
lemma kept_of_powerUp {s : Machine} (hs : IsPowerUp s) : Kept ⟨s, []⟩ := by
  obtain ⟨bkp, flash, io, rfl⟩ := hs
  refine ⟨.of_nothing ?_, trivial⟩
  rw [powerUp, Machine.hardfawreInit]
  dsimp only
  split_ifs
  · rw [Machine.abnormalHandle]
    dsimp only
    split_ifs <;> rfl
  · rfl
  · rfl

end Watched

/-- In every run in which the program uses no report from before, every meal that is counted was
confirmed by the arm. -/
theorem every_takeout_confirmed {s : Machine} {es : List Event} {w : Watched} (hs : IsPowerUp s)
    (h : Lib.Runs Watched.step Timely ⟨s, []⟩ es w) : Confirmed w.notes :=
  (h.invariant (fun _ _ _ hw ht hstep => Watched.Kept.step hw ht hstep)
    (Watched.kept_of_powerUp hs)).confirmed

/-- Two meals are handed out, and each is confirmed. -/
theorem every_takeout_confirmed_two :
    ∃ w, Lib.checkedRun Watched.step Timely ⟨stocked 3, []⟩
        (List.flatten [payTwo, serveMeal, serveMeal]) = some w ∧
      w.notes.countP Note.counts = 2 ∧ Confirmed w.notes := by
  have hrun : (Lib.checkedRun Watched.step Timely ⟨stocked 3, []⟩
      (List.flatten [payTwo, serveMeal, serveMeal])).any
      (fun w => w.notes.countP Note.counts = 2) = true := by
    decide +kernel
  obtain ⟨w, hw, hcount⟩ := Lib.exists_of_any hrun
  exact ⟨w, hw, hcount,
    every_takeout_confirmed (stocked_isPowerUp 3) (.of_checkedRun hw)⟩

/-! ### A line that comes twice -/

/-- The arm reports twice that it is at its place. -/
def fetchTwice : List Event :=
  List.flatten
    [[.next, .usart6 0x06, .next], armLine ['S', '0', '0', '0', '\r', '\n'],
     [.next, .usart6 0x06, .next], armLine ['S', '0', '0', '0', '\r', '\n'],
     [.next], armLine ['O', 'U', 'T', '0', '\r', '\n'],
     [.next], armLine ['F', 'I', 'N', '0', '\r', '\n'], [.next, .next]]

/-- The arm never reports that it is at its place. -/
def fetchUnplaced : List Event :=
  List.flatten
    [[.next, .usart6 0x06, .next, .next, .usart6 0x06, .next],
     armLine ['O', 'U', 'T', '0', '\r', '\n'],
     [.next], armLine ['F', 'I', 'N', '0', '\r', '\n'], [.next, .next]]

/-- The second report of the first meal stands for the one that the second meal does not have. -/
theorem doubled_line_confirms_next :
    ¬ ∀ (s : Machine) (es : List Event) (w : Watched), IsPowerUp s →
      Lib.runFrom Watched.step ⟨s, []⟩ es = some w → Confirmed w.notes := by
  intro hall
  have hrun : (Lib.runFrom Watched.step ⟨stocked 3, []⟩
      (List.flatten [payTwo, sendArm, fetchTwice, [.next, .next], sendArm, fetchUnplaced])).any
      (fun w => ¬ Confirmed w.notes) = true := by
    decide +kernel
  obtain ⟨w, hw, hnot⟩ := Lib.exists_of_any hrun
  exact hnot (hall _ _ w (stocked_isPowerUp 3) hw)

end MealVendor
