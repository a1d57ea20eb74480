import MealVendor.Errors.Record
import MealVendor.Lib.Transition

/-!
# The dispatch of the errors

A call of `AbnormalHandle` is the run from its beginning up to the step that leaves its loop;
a call of `PollAbnormalHandle` is the run from the state `erro_hanle` back to the main loop.
Whatever happens in between, the record only loses the bit of the error that is dealt with.
-/

namespace MealVendor

namespace Machine

variable {s t u : Machine} {e i : ℕ} {ret : Ret} {es : List Event} {io : Io}

/-! ## `AbnormalHandle` -/

/-- `AbnormalHandle(e)`, called in the state `s`, returns in the state `t` after the events
`es`. -/
structure Returns (s : Machine) (e : ℕ) (ret : Ret) (es : List Event) (t : Machine) : Prop where
  run : Lib.Runs step (fun u _ => u.session.pc = .abnormal e ret) (s.abnormalHandle e ret) es t
  pc : t.session.pc = .resume ret

/-- What is asked of a call: the bit of the error is cleared, those of other errors are the
same unless the power fails meanwhile, and `erro_flag` is 0. -/
structure Handled (s : Machine) (e : ℕ) (es : List Event) (t : Machine) : Prop where
  clear : t.recorded e = false
  kept : ∀ i, i ≠ e →
    t.recorded i = (s.recorded i || (es.any Event.fails && decide (outageErro = i)))
  flag : t.erroFlag = 0

/-- The early return: a power failure with nothing to pay back. -/
def ReturnsAtOnce (s : Machine) (e : ℕ) : Prop :=
  e = outageErro ∧ ¬ 0 < s.session.userAct.moneyBack

lemma abnormalHandle_of_returnsAtOnce (ret : Ret) (h : s.ReturnsAtOnce e) :
    (s.abnormalHandle e ret).session.pc = .resume ret ∧
      (s.abnormalHandle e ret).erroFlag = UInt16.ofNat e ∧
      (s.abnormalHandle e ret).erroRecord = (s.erroRecord ||| bit e) &&& ~~~(bit e) := by
  rw [ReturnsAtOnce] at h
  rw [abnormalHandle]
  dsimp only
  rw [if_pos h]
  exact ⟨rfl, rfl, rfl⟩

lemma abnormalHandle_of_not_returnsAtOnce (ret : Ret) (h : ¬ s.ReturnsAtOnce e) :
    (s.abnormalHandle e ret).session.pc = .abnormal e ret ∧
      (s.abnormalHandle e ret).erroRecord = s.erroRecord ||| bit e := by
  rw [ReturnsAtOnce] at h
  rw [abnormalHandle]
  dsimp only
  rw [if_neg h]
  split_ifs <;> exact ⟨rfl, rfl⟩

/-- The end of the loop. -/
lemma abnormalEnd_record (s : Machine) (e : ℕ) (ret : Ret) :
    (s.abnormalEnd e ret).session.pc = .resume ret ∧
    (s.abnormalEnd e ret).erroFlag = s.erroFlag ∧
    (s.abnormalEnd e ret).erroRecord = s.erroRecord &&& ~~~(bit e) := by
  rw [abnormalEnd]
  dsimp only
  split_ifs
  · refine ⟨rfl, ?_, ?_⟩
    · show s.clearUserBuffer.saveUserData.erroFlag = _
      rw [saveUserData_erroFlag]
      rfl
    · show s.clearUserBuffer.saveUserData.erroRecord &&& _ = _
      rw [saveUserData_erroRecord]
      rfl
  · exact ⟨rfl, rfl, rfl⟩

/-- A step in the loop of `AbnormalHandle`: it stays there, or `erro_flag` is 0 and it ends. -/
lemma step_abnormal {ev : Event} (hpc : s.session.pc = .abnormal e ret)
    (h : step s ev = some t) :
    (t.session.pc = .abnormal e ret ∧
      ∀ i, t.recorded i = (s.recorded i || (ev.fails && decide (outageErro = i)))) ∨
    (t.session.pc = .resume ret ∧ t.erroFlag = 0 ∧ ev.fails = false ∧
      ∀ i, t.recorded i = (s.recorded i && decide (i ≠ e))) := by
  cases hruns : ev.runs with
  | false =>
    obtain ⟨hpc', hrec⟩ := step_recorded h hruns
    exact .inl ⟨hpc'.trans hpc, hrec⟩
  | true =>
    obtain ⟨io, rfl⟩ := Event.exists_go hruns
    cases h
    rw [go, hpc]
    by_cases h0 : s.erroFlag = 0
    · obtain ⟨hpc', hflag, hrec⟩ := abnormalEnd_record s e ret
      refine .inr ?_
      simp only [if_pos h0]
      refine ⟨hpc', hflag.trans h0, rfl, fun i => ?_⟩
      rw [recorded, hrec, getLsbD_and_not_bit]
      rfl
    · simp only [if_neg h0]
      exact .inl ⟨hpc, fun i => (Bool.or_false _).symm⟩

/-- The loop of `AbnormalHandle` from any of its states up to its end. -/
lemma run_abnormal (h : Lib.Runs step (fun u _ => u.session.pc = .abnormal e ret) s es t)
    (hpc : s.session.pc = .abnormal e ret) (ht : t.session.pc = .resume ret) :
    t.erroFlag = 0 ∧ ∀ i, t.recorded i =
      ((s.recorded i || (es.any Event.fails && decide (outageErro = i))) && decide (i ≠ e)) := by
  -- every state but the last one is in the loop
  induction h with
  | nil s =>
    rw [hpc] at ht
    cases ht
  | cons hG hs hr ih =>
    rcases step_abnormal hG hs with ⟨hpc', hrec⟩ | ⟨hpc', hflag, hfails, hrec⟩
    · obtain ⟨hflag, hrec'⟩ := ih hpc' ht
      refine ⟨hflag, fun i => ?_⟩
      rw [hrec', hrec, List.any_cons, Bool.or_assoc, ← Bool.and_or_distrib_right]
    · -- the loop has ended, and so has the run
      cases hr with
      | nil =>
        refine ⟨hflag, fun i => ?_⟩
        rw [hrec, List.any_cons, hfails]
        simp
      | cons hG' _ _ =>
        rw [hpc'] at hG'
        cases hG'

/-- A call does what is asked of it unless it returns at once. -/
lemma handled_iff (h : Returns s e ret es t) :
    Handled s e es t ↔ ¬ s.ReturnsAtOnce e := by
  by_cases honce : s.ReturnsAtOnce e
  · -- the run is empty, and the flag still is the number of the error
    obtain ⟨hpc, hflag, -⟩ := abnormalHandle_of_returnsAtOnce ret honce
    refine iff_of_false (fun hh => ?_) (not_not_intro honce)
    have hend : t = s.abnormalHandle e ret := by
      cases h.run with
      | nil => rfl
      | cons hG _ _ =>
        rw [hpc] at hG
        cases hG
    have h0 := hh.flag
    rw [hend, hflag, honce.1] at h0
    cases h0
  · obtain ⟨hpc, hrec⟩ := abnormalHandle_of_not_returnsAtOnce ret honce
    obtain ⟨hflag, hall⟩ := run_abnormal h.run hpc h.pc
    refine iff_of_true ⟨?_, fun i hi => ?_, hflag⟩ honce
    · rw [hall]
      simp
    · rw [hall, recorded, hrec, getLsbD_or_bit, ← recorded]
      simp [hi, Ne.symm hi]

/-! ## `PollAbnormalHandle` -/

/-- The amounts by which the loop of `PollAbnormalHandle` shifts before it enters the handler:
the loop counts down. -/
def pollShifts (erroRecord : Int32) : ℕ → List ℕ
  | 0 => []
  | i + 1 =>
    if i = 0 then []
    else if erroRecord &&& bit i ≠ 0 then [i]
    else i :: pollShifts erroRecord i

/-- The main program is in a call of `PollAbnormalHandle`. -/
def InPoll (s : Machine) : Bool :=
  match s.session.pc with
  | .abnormal i (.poll j) => i = j
  | .resume (.poll _) => true
  | _ => false

/-- The error whose handler a step of `PollAbnormalHandle` enters. -/
def polls (s : Machine) : Event → Option ℕ
  | .go _ =>
    match s.session.pc with
    | .switch => if s.session.current = .erroHanle then pollNext s.erroRecord 33 else none
    | .resume (.poll i) => pollNext s.erroRecord i
    | _ => none
  | _ => none

/-- The errors whose handlers are entered in a run. -/
def entered : Machine → List Event → List ℕ
  | _, [] => []
  | s, ev :: es =>
    (s.polls ev).toList ++
      match step s ev with
      | some t => t.entered es
      | none => []

/-- `PollAbnormalHandle` is called in the state `s` and returns in the state `t`. -/
structure PollReturns (s : Machine) (io : Io) (es : List Event) (t : Machine) : Prop where
  at_switch : s.session.pc = .switch
  erroHanle : s.session.current = .erroHanle
  run : Lib.Runs step (fun u _ => u.InPoll = true) (s.switch io) es t
  pc : t.session.pc = .deal

/-- The error that the loop finds next. -/
lemma pollNext_eq_some {r : Int32} (h : pollNext r i = some e) :
    e < i ∧ e ≠ 0 ∧ r.toBitVec.getLsbD e = true ∧
      ∀ j, e < j → j < i → r.toBitVec.getLsbD j = false := by
  induction i with
  | zero => cases h
  | succ i ih =>
    rw [pollNext] at h
    split_ifs at h with hi
    · cases h
      refine ⟨Nat.lt_succ_self _, hi.1, and_bit_ne_zero_iff.mp hi.2, fun j hj hji => ?_⟩
      omega
    · obtain ⟨hlt, h0, hset, hclear⟩ := ih h
      refine ⟨Nat.lt_succ_of_lt hlt, h0, hset, fun j hj hji => ?_⟩
      rcases Nat.lt_succ_iff_lt_or_eq.mp hji with hji | rfl
      · exact hclear j hj hji
      · rw [and_bit_ne_zero_iff] at hi
        rw [← Bool.not_eq_true]
        exact fun hbit => hi ⟨by omega, hbit⟩

/-- Nothing is left for the loop. -/
lemma pollNext_eq_none {r : Int32} (h : pollNext r i = none) :
    ∀ j < i, j ≠ 0 → r.toBitVec.getLsbD j = false := by
  induction i with
  | zero => exact fun j hj => absurd hj (Nat.not_lt_zero j)
  | succ i ih =>
    rw [pollNext] at h
    split_ifs at h with hi
    intro j hj h0
    rcases Nat.lt_succ_iff_lt_or_eq.mp hj with hj | rfl
    · exact ih h j hj h0
    · rw [and_bit_ne_zero_iff] at hi
      rw [← Bool.not_eq_true]
      exact fun hbit => hi ⟨h0, hbit⟩

/-- The handlers `l` are those of the errors below `i`: each recorded one is among them once,
and the error 0 is not. -/
structure Below (s : Machine) (i : ℕ) (l : List ℕ) : Prop where
  lt : ∀ e ∈ l, e < i ∧ e ≠ 0
  once : ∀ e < i, e ≠ 0 → s.recorded e = true → l.count e = 1

/-- What is recorded below `i` may grow. -/
lemma Below.mono {l : List ℕ} (hrec : ∀ j < i, s.recorded j = true → t.recorded j = true)
    (h : t.Below i l) : s.Below i l :=
  ⟨h.lt, fun e he h0 hset => h.once e he h0 (hrec e he hset)⟩

/-- The loop enters the handler of the next error and goes on below it. -/
lemma Below.cons {l : List ℕ} (hnext : pollNext s.erroRecord i = some e)
    (hrec : ∀ j < e, s.recorded j = true → t.recorded j = true) (h : t.Below e l) :
    s.Below i (e :: l) := by
  obtain ⟨hlt, h0, hset, hclear⟩ := pollNext_eq_some hnext
  refine ⟨fun j hj => ?_, fun j hj hj0 hjset => ?_⟩
  · rcases List.mem_cons.mp hj with rfl | hj
    · exact ⟨hlt, h0⟩
    · exact ⟨(h.lt j hj).1.trans hlt, (h.lt j hj).2⟩
  · -- below `e` it comes later, and between `e` and `i` nothing was recorded
    rcases Nat.lt_trichotomy j e with hje | rfl | hje
    · rw [List.count_cons_of_ne (Nat.ne_of_gt hje)]
      exact h.once j hje hj0 (hrec j hje hjset)
    · rw [List.count_cons_self, List.count_eq_zero_of_not_mem fun hmem =>
        Nat.lt_irrefl _ (h.lt _ hmem).1]
    · rw [recorded, hclear j hje hj] at hjset
      cases hjset

/-- The beginning of a call of `AbnormalHandle`: other errors are recorded as before. -/
lemma abnormalHandle_begin (s : Machine) (e : ℕ) (ret : Ret) :
    ((s.abnormalHandle e ret).session.pc = .abnormal e ret ∨
      (s.abnormalHandle e ret).session.pc = .resume ret) ∧
      ∀ j, j ≠ e → (s.abnormalHandle e ret).recorded j = s.recorded j := by
  by_cases honce : s.ReturnsAtOnce e
  · obtain ⟨hpc, -, hrec⟩ := abnormalHandle_of_returnsAtOnce ret honce
    refine ⟨.inr hpc, fun j hj => ?_⟩
    rw [recorded, hrec, getLsbD_and_not_bit, getLsbD_or_bit, ← recorded]
    simp [hj, Ne.symm hj]
  · obtain ⟨hpc, hrec⟩ := abnormalHandle_of_not_returnsAtOnce ret honce
    refine ⟨.inl hpc, fun j hj => ?_⟩
    rw [recorded, hrec, getLsbD_or_bit, ← recorded]
    simp [Ne.symm hj]

/-- A run that starts outside of the loop is empty. -/
lemma eq_nil_of_not_inPoll (h : Lib.Runs step (fun u _ => u.InPoll = true) s es t)
    (hs : s.InPoll = false) : es = [] := by
  cases h with
  | nil => rfl
  | cons hG _ _ =>
    rw [hs] at hG
    cases hG

/-- `PollAbnormalHandle` goes on below the error `i`. -/
lemma below_of_poll
    (h : Lib.Runs step (fun u _ => u.InPoll = true) (s.pollAbnormalHandle i) es t)
    (ih : ∀ e, (s.pollAbnormalHandle i).session.pc = .abnormal e (.poll e) ∨
        (s.pollAbnormalHandle i).session.pc = .resume (.poll e) →
      (s.pollAbnormalHandle i).Below e ((s.pollAbnormalHandle i).entered es)) :
    s.Below i ((pollNext s.erroRecord i).toList ++ (s.pollAbnormalHandle i).entered es) := by
  cases hnext : pollNext s.erroRecord i with
  | none =>
    -- the call returns, and nothing was recorded below `i`
    have hend : (s.pollAbnormalHandle i).InPoll = false := by
      rw [pollAbnormalHandle, hnext]
      rfl
    rw [eq_nil_of_not_inPoll h hend]
    refine ⟨nofun, fun e he h0 hset => ?_⟩
    rw [recorded, pollNext_eq_none hnext e he h0] at hset
    cases hset
  | some e =>
    have hcall : s.pollAbnormalHandle i = s.abnormalHandle e (.poll e) := by
      rw [pollAbnormalHandle, hnext]
    rw [hcall] at ih ⊢
    obtain ⟨hpc, hrec⟩ := abnormalHandle_begin s e (.poll e)
    exact .cons hnext (fun j hj hset => (hrec j hj.ne).trans hset) (ih e hpc)

/-- The handlers that are entered behind the one of the error `i`. -/
lemma below_of_run (h : Lib.Runs step (fun u _ => u.InPoll = true) s es t)
    (hpc : s.session.pc = .abnormal i (.poll i) ∨ s.session.pc = .resume (.poll i))
    (ht : t.session.pc = .deal) : s.Below i (s.entered es) := by
  induction h generalizing i with
  | nil s =>
    rw [ht] at hpc
    rcases hpc with h | h <;> cases h
  | @cons s s' t ev es _ hs hr ih =>
    have hentered : s.entered (ev :: es) = (s.polls ev).toList ++ s'.entered es := by
      rw [entered, hs]
    rw [hentered]
    cases hruns : ev.runs with
    | false =>
      -- an interrupt or a message: the record does not lose a bit
      obtain ⟨hpc', hrec⟩ := step_recorded hs hruns
      have hpolls : s.polls ev = none := by
        cases ev <;> first | rfl | cases hruns
      rw [hpolls]
      refine .mono (fun j _ hset => ?_) (ih (by rwa [hpc']) ht)
      rw [hrec, hset]
      rfl
    | true =>
      obtain ⟨io, rfl⟩ := Event.exists_go hruns
      rcases hpc with hpc | hpc
      · -- in the loop of the handler for `i`, which clears no bit below `i`
        have hpolls : s.polls (.go io) = none := by
          rw [polls, hpc]
        rw [hpolls]
        rcases step_abnormal hpc hs with ⟨hpc', hrec⟩ | ⟨hpc', -, -, hrec⟩
        · refine .mono (fun j _ hset => ?_) (ih (.inl hpc') ht)
          rw [hrec, hset]
          rfl
        · refine .mono (fun j hj hset => ?_) (ih (.inr hpc') ht)
          rw [hrec, hset, decide_eq_true hj.ne]
          rfl
      · -- behind it `PollAbnormalHandle` goes on
        have hpolls : s.polls (.go io) = pollNext s.erroRecord i := by
          rw [polls, hpc]
        have hgo : s.pollAbnormalHandle i = s' := by
          rw [step, go, hpc] at hs
          exact Option.some.inj hs
        rw [hpolls]
        subst hgo
        exact below_of_poll hr fun e he => ih he ht

/-- A call of `PollAbnormalHandle` enters the handler of each recorded error once, but for the
error 0. -/
lemma poll_iff (h : PollReturns s io es t) :
    (∀ e, s.recorded e = true → (s.entered (.go io :: es)).count e = 1) ↔
      s.recorded 0 = false := by
  have hgo : s.go io = s.pollAbnormalHandle 33 := by
    rw [go, h.at_switch]
    show s.switch io = _
    rw [switch, h.erroHanle]
  have hentered : s.entered (.go io :: es) =
      (pollNext s.erroRecord 33).toList ++ (s.pollAbnormalHandle 33).entered es := by
    rw [entered, step, hgo, polls, h.at_switch]
    simp only [h.erroHanle, if_true]
  have hrun : Lib.Runs step (fun u _ => u.InPoll = true) (s.pollAbnormalHandle 33) es t := by
    have hswitch : s.switch io = s.pollAbnormalHandle 33 := by
      rw [switch, h.erroHanle]
    rw [← hswitch]
    exact h.run
  have hbelow : s.Below 33 (s.entered (.go io :: es)) := by
    rw [hentered]
    exact below_of_poll hrun fun e he => below_of_run hrun he h.pc
  constructor
  · -- the loop ends before 0, so that the handler of the error 0 is never entered
    intro hall
    rw [← Bool.not_eq_true]
    intro h0
    have hmem : 0 ∈ s.entered (.go io :: es) := by
      rw [← List.count_pos_iff, hall 0 h0]
      exact Nat.one_pos
    exact (hbelow.lt 0 hmem).2 rfl
  · intro h0 e hset
    refine hbelow.once e ?_ ?_ hset
    · by_contra hge
      rw [recorded, BitVec.getLsbD_of_ge _ _ (by omega)] at hset
      cases hset
    · rintro rfl
      rw [h0] at hset
      cases hset

/-- The first shift of every call is by 32. -/
lemma mem_pollShifts (r : Int32) : 32 ∈ pollShifts r 33 := by
  rw [pollShifts, if_neg (by decide)]
  split_ifs <;> exact List.mem_cons_self

/-! ## After the refund -/

/-- `main` in the state `hpper_out`, when the money of a sale that failed or was cancelled is
paid back. -/
structure AfterRefund (s : Machine) : Prop where
  at_switch : s.session.pc = .switch
  hpperOut : s.session.current = .hpperOut
  moneyBack : ¬ 0 < s.session.userAct.moneyBack
  cancle : s.session.userAct.cancle ≠ 0

/-- Some error is recorded exactly if the record is not 0. -/
lemma exists_recorded_iff : (∃ e, s.recorded e = true) ↔ s.erroRecord ≠ 0 := by
  constructor
  · rintro ⟨e, he⟩ h0
    rw [recorded, h0] at he
    change (0#32).getLsbD e = true at he
    rw [BitVec.getLsbD_zero] at he
    cases he
  · intro hne
    by_contra hno
    refine hne (Int32.toBitVec_inj.mp (BitVec.eq_of_getLsbD_eq fun i _ => ?_))
    rw [← recorded, Bool.eq_false_of_not_eq_true (not_exists.mp hno i)]
    exact (BitVec.getLsbD_zero (w := 32)).symm

/-- `main` compares the record with the number of an error of the arm. -/
lemma refund_iff (h : s.AfterRefund) (io : Io) :
    ((s.go io).session.current = .erroHanle ↔ ∃ e, s.recorded e = true) ↔
      s.erroRecord = 0 ∨ 0x10 < s.erroRecord := by
  have hgo : s.go io = s.hpperOut io := by
    rw [go, h.at_switch]
    show s.switch io = _
    rw [switch, h.hpperOut]
  have hcurrent : (s.go io).session.current = .erroHanle ↔ 0x10 < s.erroRecord := by
    rw [hgo, hpperOut, if_neg h.moneyBack, if_neg h.cancle]
    split_ifs with hr
    · exact iff_of_true rfl hr
    · refine iff_of_false ?_ hr
      rintro ⟨⟩
  rw [hcurrent, exists_recorded_iff]
  by_cases h0 : s.erroRecord = 0
  · rw [h0]
    decide
  · simp [h0]

/-- What is asked of the dispatch of the errors. -/
structure LosesNoError : Prop where
  handled : ∀ s e ret es t, Returns s e ret es t → Handled s e es t
  once : ∀ s io es t, PollReturns s io es t →
    ∀ e, s.recorded e = true → (s.entered (.go io :: es)).count e = 1
  shifts : ∀ s io es t, PollReturns s io es t → ∀ n ∈ pollShifts s.erroRecord 33, n < 32
  refund : ∀ s io, AfterRefund s →
    ((s.go io).session.current = .erroHanle ↔ ∃ e, s.recorded e = true)

/-- When the four parts hold: a call of the handler does what is asked unless it returns at
once; a poll enters each handler once unless the error 0 is recorded, and always shifts too far;
after the refund the record must be 0 or above 0x10. -/
theorem dispatch_iff {es' : List Event} {p t' : Machine} (hcall : Returns s e ret es t)
    (hpoll : PollReturns p io es' t') (hrefund : u.AfterRefund) (io' : Io) :
    (Handled s e es t ↔ ¬ s.ReturnsAtOnce e) ∧
      ((∀ e, p.recorded e = true → (p.entered (.go io :: es')).count e = 1) ↔
        p.recorded 0 = false) ∧
      (¬ ∀ n ∈ pollShifts p.erroRecord 33, n < 32) ∧
      (((u.go io').session.current = .erroHanle ↔ ∃ e, u.recorded e = true) ↔
        u.erroRecord = 0 ∨ 0x10 < u.erroRecord) := by
  refine ⟨handled_iff hcall, poll_iff hpoll, fun h => ?_, refund_iff hrefund io'⟩
  exact Nat.lt_irrefl 32 (h 32 (mem_pollShifts _))

/-- A machine in which an error of the arm and an empty hopper are recorded when the state
`erro_hanle` is entered. -/
def twoErrors : Machine :=
  { stocked 3 with
    session := { (stocked 3).session with pc := .switch, current := .erroHanle }
    erroRecord := bit yTimeout ||| bit coinhoopersetEmpty }

/-- The administrator clears the error that is shown. -/
def clearError : List Event := [.touch 0x54 1, .next]

/-- The same machine when a sale that failed has been paid back. -/
def twoErrorsRefunded : Machine :=
  twoErrors.onSession fun t =>
    { t with current := .hpperOut, userAct := { t.userAct with cancle := 1 } }

/-- An error is dealt with, the poll deals with both errors, and `main` goes to `erro_hanle`. -/
theorem dispatch_iff_twoErrors : ∃ es t es' t',
    Returns twoErrors networkErro .start es t ∧ Handled twoErrors networkErro es t ∧
      PollReturns twoErrors .quiet es' t' ∧
      (twoErrors.entered (.go .quiet :: es')).count yTimeout = 1 ∧
      (twoErrorsRefunded.go .quiet).session.current = .erroHanle := by
  have hcall : ((Lib.checkedRun step (fun u _ => u.session.pc = .abnormal networkErro .start)
      (twoErrors.abnormalHandle networkErro .start) clearError).any fun t =>
        t.session.pc = .resume .start) = true := by
    decide +kernel
  have hpoll : ((Lib.checkedRun step (fun u _ => u.InPoll = true) (twoErrors.switch .quiet)
      (clearError ++ [.next] ++ clearError ++ [.next])).any fun t =>
        t.session.pc = .deal) = true := by
    decide +kernel
  obtain ⟨t, ht, hpc⟩ := Lib.exists_of_any hcall
  obtain ⟨t', ht', hpc'⟩ := Lib.exists_of_any hpoll
  have hreturns : Returns twoErrors networkErro .start clearError t := ⟨.of_checkedRun ht, hpc⟩
  have hpolled := PollReturns.mk (s := twoErrors) rfl rfl (.of_checkedRun ht') hpc'
  have hrefund : twoErrorsRefunded.AfterRefund := ⟨rfl, rfl, by decide +kernel, by decide +kernel⟩
  obtain ⟨hhandled, honce, -, hmain⟩ := dispatch_iff hreturns hpolled hrefund .quiet
  refine ⟨clearError, t, _, t', hreturns, hhandled.mpr ?_, hpolled, ?_, ?_⟩
  · rintro ⟨h, -⟩
    cases h
  · exact honce.mpr (by decide +kernel) yTimeout (by decide +kernel)
  · exact (hmain.mpr (.inr (by decide +kernel))).mpr ⟨yTimeout, by decide +kernel⟩

/-- The power falters, and a choice is cancelled: `main` goes back to the idle state although
the outage is recorded. -/
theorem dispatch_loses_error : ¬ LosesNoError := by
  intro h
  have hrun : ((Lib.runFrom step (stocked 3)
      (startUp ++ [.pvd, .touch 0x00 1, .touch 0x02 4, .next])).any fun u =>
        u.session.pc = .switch ∧ u.session.current = .hpperOut ∧
          ¬ 0 < u.session.userAct.moneyBack ∧ u.session.userAct.cancle ≠ 0 ∧
          u.recorded outageErro = true ∧ (u.go .quiet).session.current ≠ .erroHanle) = true := by
    decide +kernel
  obtain ⟨u, -, hpc, hcurrent, hmoney, hcancle, hrec, hne⟩ := Lib.exists_of_any hrun
  exact hne ((h.refund u .quiet ⟨hpc, hcurrent, hmoney, hcancle⟩).mpr ⟨_, hrec⟩)

end Machine

end MealVendor
