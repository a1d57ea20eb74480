import MealVendor.Delivery.Wire
import MealVendor.Model.Order

/-!
# Who is acknowledged

The flags `reack` and `renack` only tell that a byte has come at some time, and what came last.  An
`Order…` function looks at them without having cleared them, it does not wait for the reply to the
last line that it sends, and an ACK is lost if a NACK follows it, if it comes while a NACK is dealt
with, or if it comes behind the last look.  Where none of this happens, what the function returns is
right.
-/

namespace MealVendor

/-! ## Flags -/

/-- Only a success returns 1. -/
lemma OrderPc.acked_of_value {p : OrderPc} (h : p.value = some 1) : p = .acked := by
  cases p with
  | acked => rfl
  | ack | time | nack | retry | count => cases h
  | late | refused => exact absurd h (by decide)

namespace OrderCall

variable {c c' : OrderCall} {e : OrderEvent} {es pre post : List OrderEvent} {a : Arm}

/-! ## What an event does -/

/-- The steps of a call. -/
inductive Moves (c : OrderCall) : OrderEvent → OrderCall → Prop
  | ack (h : c.pc.value = none) : Moves c .ack { c with arm := c.arm.hearAck }
  | nack (h : c.pc.value = none) : Moves c .nack { c with arm := c.arm.hearNack }
  | tick (h : c.pc.value = none) :
      Moves c .tick { c with arm := { c.arm with linkTime := c.arm.linkTime + 1 } }
  | acked (hpc : c.pc = .ack) (h : c.arm.reack = true) :
      Moves c .prog { c with arm := { c.arm.clearFlags with linkTime := 0 }, pc := .acked }
  | notAcked (hpc : c.pc = .ack) (h : c.arm.reack = false) : Moves c .prog { c with pc := .time }
  | late (hpc : c.pc = .time) (h : 1 < c.arm.linkTime) :
      Moves c .prog { c with arm := { c.arm with linkTime := 0 }, pc := .late }
  | inTime (hpc : c.pc = .time) (h : ¬ 1 < c.arm.linkTime) : Moves c .prog { c with pc := .nack }
  | nacked (hpc : c.pc = .nack) (h : c.arm.renack = true) : Moves c .prog { c with pc := .retry }
  | notNacked (hpc : c.pc = .nack) (h : c.arm.renack = false) :
      Moves c .prog { c with pc := .count }
  | retry (hpc : c.pc = .retry) :
      Moves c .prog { c with
        arm := c.arm.clearFlags
        retryFre := c.retryFre + 1
        pc := .count
        sent := c.sent ++ [c.cmd] }
  | refused (hpc : c.pc = .count) (h : 3 ≤ c.retryFre) :
      Moves c .prog { c with arm := { c.arm.clearFlags with linkTime := 0 }, pc := .refused }
  | again (hpc : c.pc = .count) (h : c.retryFre < 3) : Moves c .prog { c with pc := .ack }

lemma value_eq_none (h : c.step e = some c') : c.pc.value = none := by
  unfold step at h
  split_ifs at h with hreturned
  exact Option.not_isSome_iff_eq_none.mp hreturned

lemma moves_of_step (h : c.step e = some c') : c.Moves e c' := by
  have hnone : c.pc.value = none := value_eq_none h
  unfold step at h
  rw [hnone, if_neg (by decide)] at h
  obtain rfl := Option.some.inj h
  cases e with
  | ack => exact .ack hnone
  | nack => exact .nack hnone
  | tick => exact .tick hnone
  | prog =>
    rw [prog]
    cases hpc : c.pc with
    | ack =>
      dsimp only
      split_ifs with hack
      · exact .acked hpc hack
      · exact .notAcked hpc (Bool.eq_false_iff.mpr hack)
    | time =>
      dsimp only
      split_ifs with hlate
      · exact .late hpc hlate
      · exact .inTime hpc hlate
    | nack =>
      dsimp only
      split_ifs with hnack
      · exact .nacked hpc hnack
      · exact .notNacked hpc (Bool.eq_false_iff.mpr hnack)
    | retry => exact .retry hpc
    | count =>
      dsimp only
      split_ifs with hthird
      · exact .refused hpc hthird
      · exact .again hpc (Nat.not_le.mp hthird)
    | acked | late | refused => rw [hpc] at hnone; cases hnone

/-- What the program does depends on where it is. -/
lemma Moves.eq_prog (h : c.Moves .prog c') : c' = c.prog := by
  cases h with
  | acked hpc hif | notAcked hpc hif | nacked hpc hif | notNacked hpc hif | late hpc hif
  | inTime hpc hif | refused hpc hif => simp [prog, hpc, hif]
  | retry hpc => simp [prog, hpc]
  | again hpc hif => simp [prog, hpc, Nat.not_le.mpr hif]

/-- After a return nothing more happens. -/
lemma eq_nil_of_returned (h : c.run es = some c') (hpc : c.pc.value.isSome = true) :
    es = [] ∧ c' = c := by
  cases es with
  | nil => exact ⟨rfl, (Option.some.inj h).symm⟩
  | cons e es =>
    rw [run, Lib.runFrom_cons, Option.bind_eq_some_iff] at h
    obtain ⟨c₁, hstep, -⟩ := h
    rw [value_eq_none hstep] at hpc
    cases hpc

/-! ## What is known during a call -/

/-- A reply has come since the line was sent. -/
def Heard (es : List OrderEvent) : Prop := .ack ∈ es ∨ .nack ∈ es

lemma heard_ack : Heard (es ++ [.ack]) := .inl (List.mem_append_right _ (List.mem_singleton_self _))

lemma heard_nack : Heard (es ++ [.nack]) :=
  .inr (List.mem_append_right _ (List.mem_singleton_self _))

/-- What was sent, and how often. -/
structure Sent (c : OrderCall) : Prop where
  sent : c.sent.length = c.retryFre + 1
  le : c.retryFre ≤ 3
  lt : c.pc ≠ .count → c.pc ≠ .refused → c.retryFre < 3
  refused : c.pc = .refused → c.retryFre = 3

/-- Every event keeps what was sent. -/
lemma Sent.step (h : c.Sent) (hm : c.Moves e c') : c'.Sent := by
  obtain ⟨hsent, hle, hlt, hrefused⟩ := h
  cases hm with
  | ack | nack | tick => exact ⟨hsent, hle, hlt, hrefused⟩
  | acked hpc _ | notAcked hpc _ | late hpc _ | inTime hpc _ | nacked hpc _ | notNacked hpc _ =>
    have hlt := hlt (by rw [hpc]; exact nofun) (by rw [hpc]; exact nofun)
    exact ⟨hsent, hle, fun _ _ => hlt, nofun⟩
  | retry hpc =>
    have hlt := hlt (by rw [hpc]; exact nofun) (by rw [hpc]; exact nofun)
    refine ⟨?_, hlt, fun hcount => absurd rfl hcount, nofun⟩
    rw [List.length_append, List.length_singleton, hsent]
  | refused hpc hthird =>
    exact ⟨hsent, hle, fun _ hrefused => absurd rfl hrefused, fun _ => le_antisymm hle hthird⟩
  | again hpc hlt => exact ⟨hsent, hle, fun _ _ => hlt, nofun⟩

lemma resends_eq (hs : c.Sent) : c.resends = c.retryFre + if c.pc = .retry then 1 else 0 := by
  rw [resends, hs.sent, Nat.add_sub_cancel]

/-- What the flags say when the function has begun with those of `a`. -/
structure Flags (a : Arm) (es : List OrderEvent) (c : OrderCall) : Prop where
  /-- An ACK that is seen has come, unless it is an old one. -/
  ack : c.arm.reack = true → .ack ∈ es ∨ a.reack = true ∧ ¬ Heard es
  acked : c.pc = .acked → .ack ∈ es ∨ a.reack = true ∧ ¬ Heard es
  /-- An old ACK is seen at once. -/
  old : a.reack = true → ¬ Heard es → c.pc = .ack ∧ c.arm.reack = true ∨ c.pc = .acked
  /-- An old NACK is seen as well. -/
  oldNack : a.renack = true → ¬ Heard es → c.arm.renack = true ∨ 1 ≤ c.resends ∨ c.pc = .acked

lemma Flags.start (cmd : List UInt8) (a : Arm) : Flags a [] (start cmd a) :=
  ⟨fun h => .inr ⟨h, by simp [Heard]⟩, nofun, fun h _ => .inl ⟨rfl, h⟩, fun h _ => .inl h⟩

/-- Only which replies have come matters. -/
lemma Flags.congr {es' : List OrderEvent} (hack : .ack ∈ es' ↔ .ack ∈ es)
    (hheard : Heard es' ↔ Heard es) (h : Flags a es c) : Flags a es' c := by
  constructor
  · rw [hack, hheard]
    exact h.ack
  · rw [hack, hheard]
    exact h.acked
  · rw [hheard]
    exact h.old
  · rw [hheard]
    exact h.oldNack

/-- Nothing is taken back. -/
lemma resends_mono (hs : c.Sent) (hm : c.Moves e c') : c.resends ≤ c'.resends := by
  rw [resends_eq hs, resends_eq (hs.step hm)]
  cases hm with
  | ack | nack | tick => exact le_rfl
  | retry hpc =>
    dsimp only
    rw [if_pos hpc, if_neg nofun]
  | acked hpc _ | notAcked hpc _ | late hpc _ | inTime hpc _ | nacked hpc _ | notNacked hpc _
  | refused hpc _ | again hpc _ =>
    dsimp only
    rw [if_neg (by rw [hpc]; exact nofun)]
    omega

/-- An old NACK is still to be seen, or was. -/
lemma Flags.keep_oldNack (h : Flags a es c) {p : OrderPc} (hpc : c.pc = p)
    (hp : p ≠ .acked) (ha : a.renack = true) (hheard : ¬ Heard es) :
    c.arm.renack = true ∨ 1 ≤ c.resends := by
  rcases h.oldNack ha hheard with hrenack | hresends | hacked
  · exact .inl hrenack
  · exact .inr hresends
  · exact absurd (hpc.symm.trans hacked) hp

/-- Every event keeps what the flags say. -/
lemma Flags.step (h : Flags a es c) (hs : c.Sent) (hm : c.Moves e c') :
    Flags a (es ++ [e]) c' := by
  have hmono : c.resends ≤ c'.resends := resends_mono hs hm
  have hprog : ∀ {c'}, Flags a es c' → Flags a (es ++ [.prog]) c' :=
    .congr (by simp) (by simp [Heard])
  cases hm with
  | ack hpc =>
    -- a reply has been heard: nothing that is left from before the call counts any more
    refine ⟨fun _ => .inl (List.mem_append_right _ (List.mem_singleton_self _)), fun hacked => ?_,
      fun _ hheard => absurd heard_ack hheard, fun _ hheard => absurd heard_ack hheard⟩
    rw [show c.pc = .acked from hacked] at hpc
    cases hpc
  | nack hpc =>
    refine ⟨nofun, fun hacked => ?_, fun _ hheard => absurd heard_nack hheard,
      fun _ hheard => absurd heard_nack hheard⟩
    rw [show c.pc = .acked from hacked] at hpc
    cases hpc
  | tick hpc =>
    exact .congr (by simp) (by simp [Heard]) ⟨h.ack, h.acked, h.old, h.oldNack⟩
  | acked hpc hack => exact hprog ⟨nofun, fun _ => h.ack hack, fun _ _ => .inr rfl,
      fun _ _ => .inr (.inr rfl)⟩
  | notAcked hpc hack =>
    -- an old ACK would still have been there
    refine hprog ⟨h.ack, nofun, fun ha hheard => ?_, fun ha hheard => ?_⟩
    · rcases h.old ha hheard with ⟨-, hreack⟩ | hacked
      · rw [hack] at hreack
        cases hreack
      · rw [hpc] at hacked
        cases hacked
    · exact (h.keep_oldNack hpc nofun ha hheard).imp_right fun hle => .inl (hle.trans hmono)
  | late hpc _ | inTime hpc _ | nacked hpc _ | notNacked hpc _ | again hpc _ =>
    refine hprog ⟨h.ack, nofun, fun ha hheard => ?_, fun ha hheard => ?_⟩
    · exact absurd (h.old ha hheard) (by rw [hpc]; exact nofun)
    · exact (h.keep_oldNack hpc nofun ha hheard).imp_right fun hle => .inl (hle.trans hmono)
  | retry hpc =>
    refine hprog ⟨nofun, nofun, fun ha hheard => ?_, fun ha hheard => .inr (.inl ?_)⟩
    · exact absurd (h.old ha hheard) (by rw [hpc]; exact nofun)
    · refine le_trans ?_ hmono
      rw [resends_eq hs, if_pos hpc]
      omega
  | refused hpc hthird =>
    refine hprog ⟨nofun, nofun, fun ha hheard => ?_, fun ha hheard => .inr (.inl ?_)⟩
    · exact absurd (h.old ha hheard) (by rw [hpc]; exact nofun)
    · refine le_trans ?_ hmono
      rw [resends_eq hs]
      omega

/-! ## Whole calls -/

/-- The line of the function was sent, and these events have led to `c`. -/
lemma sent_run {cmd : List UInt8} (h : (start cmd a).run es = some c) : c.Sent := by
  refine Lib.prefix_invariant (P := fun _ c => c.Sent) ?_ ?_
    (List.append_nil es).symm h
  · exact ⟨rfl, Nat.zero_le 3, fun _ _ => Nat.succ_pos 2, nofun⟩
  · intro pre e post t t' _ _ hstep hs
    exact hs.step (moves_of_step hstep)

lemma flags_run {cmd : List UInt8} (h : (start cmd a).run es = some c) : Flags a es c := by
  refine Lib.prefix_invariant (P := Flags a) (.start cmd a) ?_
    (List.append_nil es).symm h
  intro pre e post t t' _ hpre hstep hf
  exact hf.step (sent_run hpre) (moves_of_step hstep)

/-- In the run `es` of the function, the program goes on behind `pre`, where the state is `c`. -/
def Goes (c₀ : OrderCall) (es pre : List OrderEvent) (c : OrderCall) : Prop :=
  ∃ post, es = pre ++ .prog :: post ∧ c₀.run pre = some c

/-- What an `Order…` function is for: it returns 1 exactly if ACK came, it sends its line again only
after a NACK and at most three times, and it does not give up while it may still be acknowledged. -/
structure Right (c₀ : OrderCall) (es : List OrderEvent) (c : OrderCall) : Prop where
  result : c.pc.value = some 1 ↔ .ack ∈ es
  resend : ∀ pre c', pre <+: es → c₀.run pre = some c' → c'.resends ≤ pre.count .nack
  atMost : c.sent.length ≤ 1 + 3
  last : c.pc ≠ .refused

/-- Nothing happens that the function does not allow for. -/
structure Allowed (a : Arm) (c₀ : OrderCall) (es : List OrderEvent) : Prop where
  /-- No old ACK is left when the function looks for one. -/
  ack : a.reack = true → ∀ pre c', Goes c₀ es pre c' → c'.pc = .ack → Heard pre
  /-- No old NACK is left when the function looks for one. -/
  nack : a.renack = true → ∀ pre c', Goes c₀ es pre c' → c'.pc = .nack → Heard pre
  /-- There is no third NACK to react to. -/
  third : ∀ pre c', Goes c₀ es pre c' → c'.pc = .retry → c'.retryFre < 2
  /-- The last ACK is not followed by a NACK. -/
  kept : ∀ pre post, es = pre ++ .nack :: post → .ack ∈ pre → .ack ∈ post
  /-- The last ACK does not come while a NACK is dealt with. -/
  apart : ∀ pre post c', es = pre ++ .prog :: post → c₀.run pre = some c' → c'.pc = .retry →
    .ack ∈ pre → .ack ∈ post
  /-- No ACK comes between the last look and the end of the time. -/
  inTime : ∀ pre c', Goes c₀ es pre c' → c'.pc = .time → 1 < c'.arm.linkTime →
    c'.arm.reack = false

section Run

variable {cmd : List UInt8}

/-- The program goes on, and so does the run. -/
lemma Goes.step {c₀ : OrderCall} (h : Goes c₀ es pre c') (hrun : c₀.run es = some c) :
    ∃ post c'', es = pre ++ .prog :: post ∧ c'.Moves .prog c'' ∧
      c₀.run (pre ++ [.prog]) = some c'' ∧ c''.run post = some c := by
  obtain ⟨post, rfl, hpre⟩ := h
  rw [run, Lib.runFrom_append] at hrun
  rw [run] at hpre
  rw [hpre, Option.bind_some, Lib.runFrom_cons, Option.bind_eq_some_iff] at hrun
  obtain ⟨c'', hstep, hpost⟩ := hrun
  refine ⟨post, c'', rfl, moves_of_step hstep, ?_, hpost⟩
  rw [run, Lib.runFrom_append, hpre, Option.bind_some, Lib.runFrom_cons, hstep]
  rfl

/-! ## Where everything is allowed for -/

/-- Only a new NACK makes the function send again. -/
lemma Allowed.resend (h : Allowed a (start cmd a) es) (hes : es = pre ++ post)
    (hpre : (start cmd a).run pre = some c) : c.resends ≤ pre.count .nack := by
  -- a NACK that was not reacted to yet is one more than the lines sent again
  suffices hP : c.resends ≤ pre.count .nack ∧ (c.arm.renack = true →
      c.retryFre + 1 ≤ pre.count .nack ∨ a.renack = true ∧ ¬ Heard pre) from hP.1
  refine Lib.prefix_invariant (P := fun pre c => c.resends ≤ pre.count .nack ∧
    (c.arm.renack = true → c.retryFre + 1 ≤ pre.count .nack ∨ a.renack = true ∧ ¬ Heard pre))
    ?_ ?_ hes hpre
  · exact ⟨Nat.zero_le _, fun hnack => .inr ⟨hnack, by simp [Heard]⟩⟩
  · intro pre e post t t' hes hpre hstep hP
    obtain ⟨hle, hnack⟩ := hP
    have hs : t.Sent := sent_run hpre
    have hm : t.Moves e t' := moves_of_step hstep
    have hs' : t'.Sent := hs.step hm
    rw [resends_eq hs] at hle
    rw [resends_eq hs', List.count_append]
    have hprog : [OrderEvent.prog].count .nack = 0 := by decide
    cases hm with
    | ack hpc =>
      exact ⟨hle, nofun⟩
    | nack hpc =>
      have hone : [OrderEvent.nack].count .nack = 1 := by decide
      refine ⟨by dsimp only; omega, fun _ => .inl ?_⟩
      dsimp only
      omega
    | tick hpc =>
      refine ⟨hle, fun hren => (hnack hren).imp_right fun hold => ⟨hold.1, ?_⟩⟩
      simpa [Heard] using hold.2
    | nacked hpc hren =>
      have hle' : t.retryFre + 1 ≤ pre.count .nack := by
        refine (hnack hren).resolve_right ?_
        rintro ⟨ha, hheard⟩
        exact hheard (h.nack ha pre t ⟨post, hes, hpre⟩ hpc)
      rw [hprog]
      exact ⟨hle', fun _ => .inl hle'⟩
    | retry hpc =>
      rw [if_pos hpc] at hle
      rw [hprog]
      exact ⟨hle, nofun⟩
    | acked hpc _ | refused hpc _ =>
      rw [hprog]
      refine ⟨?_, nofun⟩
      dsimp only
      rw [if_neg nofun]
      omega
    | notAcked hpc _ | late hpc _ | inTime hpc _ | notNacked hpc _ | again hpc _ =>
      rw [hprog]
      refine ⟨?_, fun hren => (hnack hren).imp_right fun hold => ⟨hold.1, ?_⟩⟩
      · dsimp only
        rw [if_neg nofun]
        omega
      · simpa [Heard] using hold.2

/-- Only a new ACK is taken for one. -/
lemma Allowed.acked (h : Allowed a (start cmd a) es) (hes : es = pre ++ post)
    (hpre : (start cmd a).run pre = some c) : c.pc = .acked → .ack ∈ pre := by
  refine Lib.prefix_invariant (P := fun pre c => c.pc = .acked → .ack ∈ pre)
    (fun hstart => absurd (show OrderPc.ack = .acked from hstart) (by decide)) ?_ hes hpre
  intro pre e post t t' hes hpre hstep _ hacked
  have hnone : t.pc.value = none := value_eq_none hstep
  have hm : t.Moves e t' := moves_of_step hstep
  cases hm with
  | ack | nack | tick =>
    rw [show t.pc = .acked from hacked] at hnone
    cases hnone
  | acked hpc hack =>
    refine List.mem_append_left _ (((flags_run hpre).ack hack).resolve_right ?_)
    rintro ⟨ha, hheard⟩
    exact hheard (h.ack ha pre t ⟨post, hes, hpre⟩ hpc)
  | notAcked | late | inTime | nacked | notNacked | retry | refused | again => cases hacked

/-- The function does not give up. -/
lemma Allowed.not_refused (h : Allowed a (start cmd a) es) (hes : es = pre ++ post)
    (hpre : (start cmd a).run pre = some c) : c.retryFre ≤ 2 ∧ c.pc ≠ .refused := by
  refine Lib.prefix_invariant (P := fun _ c => c.retryFre ≤ 2 ∧ c.pc ≠ .refused)
    ⟨Nat.zero_le 2, show OrderPc.ack ≠ .refused by decide⟩ ?_ hes hpre
  intro pre e post t t' hes hpre hstep hP
  have hm : t.Moves e t' := moves_of_step hstep
  cases hm with
  | ack | nack | tick => exact hP
  | retry hpc => exact ⟨h.third pre t ⟨post, hes, hpre⟩ hpc, nofun⟩
  | refused hpc hthird => exact absurd hthird (by have := hP.1; omega)
  | acked | notAcked | late | inTime | nacked | notNacked | again => exact ⟨hP.1, nofun⟩

/-- The last ACK is seen. -/
lemma Allowed.last (h : Allowed a (start cmd a) es) (hes : es = pre ++ .ack :: post)
    (hlast : .ack ∉ post) (hrun : (start cmd a).run es = some c) :
    c.arm.reack = true ∧ c.pc.value = none ∨ c.pc = .acked := by
  rw [hes, run, Lib.runFrom_append, Option.bind_eq_some_iff] at hrun
  obtain ⟨t, ht, hrun⟩ := hrun
  rw [Lib.runFrom_cons, Option.bind_eq_some_iff] at hrun
  obtain ⟨t', ht', hrun⟩ := hrun
  have hsplit : ∀ mid rest, post = mid ++ rest → es = (pre ++ .ack :: mid) ++ rest := by
    rintro mid rest rfl
    rw [hes, List.append_assoc, List.cons_append]
  have hbefore : ∀ {mid u}, t'.run mid = some u →
      (start cmd a).run (pre ++ .ack :: mid) = some u := by
    intro mid u hu
    rw [run, Lib.runFrom_append, ht, Option.bind_some, Lib.runFrom_cons, ht', Option.bind_some]
    exact hu
  have hmem : ∀ mid, OrderEvent.ack ∈ pre ++ .ack :: mid := fun mid =>
    List.mem_append_right _ List.mem_cons_self
  -- behind the last ACK its flag stays until it is seen
  refine Lib.prefix_invariant (P := fun _ c => c.arm.reack = true ∧ c.pc.value = none ∨
    c.pc = .acked) ?_ ?_ (List.append_nil post).symm hrun
  · cases moves_of_step ht' with
    | ack hpc => exact .inl ⟨rfl, hpc⟩
  · intro mid e rest u u' hpost hu hstep hP
    have hnone : u.pc.value = none := value_eq_none hstep
    have hreack : u.arm.reack = true := by
      refine (hP.resolve_right fun hacked => ?_).1
      rw [hacked] at hnone
      cases hnone
    have hrest : OrderEvent.ack ∉ rest := fun hack => hlast <| by
      rw [hpost]
      exact List.mem_append_right _ (List.mem_cons_of_mem _ hack)
    have hgoes : e = .prog → Goes (start cmd a) es (pre ++ .ack :: mid) u := by
      rintro rfl
      exact ⟨rest, hsplit mid _ hpost, hbefore hu⟩
    cases moves_of_step hstep with
    | ack hpc => exact .inl ⟨rfl, hpc⟩
    | nack hpc => exact absurd (h.kept _ rest (hsplit mid _ hpost) (hmem mid)) hrest
    | tick hpc => exact .inl ⟨hreack, hpc⟩
    | acked hpc _ => exact .inr rfl
    | notAcked hpc hnot =>
      rw [hreack] at hnot
      cases hnot
    | late hpc hlate =>
      rw [h.inTime _ u (hgoes rfl) hpc hlate] at hreack
      cases hreack
    | retry hpc =>
      exact absurd (h.apart _ rest u (hsplit mid _ hpost) (hbefore hu) hpc (hmem mid)) hrest
    | refused hpc hthird =>
      have := (h.not_refused (hsplit mid _ hpost) (hbefore hu)).1
      omega
    | inTime | nacked | notNacked | again => exact .inl ⟨hreack, rfl⟩

/-! ## Where a call is right -/

/-- Without an ACK there is no success. -/
lemma not_acked (hack : c.arm.reack = false) (hpc : c.pc ≠ .acked) (hnot : .ack ∉ post)
    (hrun : c.run post = some c') : c'.pc ≠ .acked := by
  suffices hP : c'.arm.reack = false ∧ c'.pc ≠ .acked from hP.2
  refine Lib.prefix_invariant (P := fun _ c => c.arm.reack = false ∧ c.pc ≠ .acked)
    ⟨hack, hpc⟩ ?_ (List.append_nil post).symm hrun
  intro pre e rest t t' hpost _ hstep hP
  cases moves_of_step hstep with
  | ack _ => exact absurd (by rw [hpost]; exact List.mem_append_right _ List.mem_cons_self) hnot
  | nack _ => exact ⟨rfl, hP.2⟩
  | tick _ => exact hP
  | acked _ hack =>
    rw [hP.1] at hack
    cases hack
  | retry _ | refused _ _ => exact ⟨rfl, nofun⟩
  | notAcked _ _ | late _ _ | inTime _ _ | nacked _ _ | notNacked _ _ | again _ _ =>
    exact ⟨hP.1, nofun⟩

/-- After the third NACK the function gives up. -/
lemma refused_of_third (hpc : c.pc = .count) (hthird : 3 ≤ c.retryFre)
    (hrun : c.run post = some c') (hreturned : c'.pc.value.isSome = true) : c'.pc = .refused := by
  suffices hP : c'.pc = .count ∧ 3 ≤ c'.retryFre ∨ c'.pc = .refused by
    refine hP.resolve_left fun hcount => ?_
    rw [hcount.1] at hreturned
    cases hreturned
  refine Lib.prefix_invariant (P := fun _ c => c.pc = .count ∧ 3 ≤ c.retryFre ∨ c.pc = .refused)
    (.inl ⟨hpc, hthird⟩) ?_ (List.append_nil post).symm hrun
  intro pre e rest t t' _ _ hstep hP
  have hP : t.pc = .count ∧ 3 ≤ t.retryFre := by
    refine hP.resolve_right fun hrefused => ?_
    have hnone := value_eq_none hstep
    rw [hrefused] at hnone
    cases hnone
  -- from here the program can only give up; bytes and ticks do not change that
  cases moves_of_step hstep with
  | ack _ | nack _ | tick _ => exact .inl hP
  | refused _ _ => exact .inr rfl
  | again _ hlt => exact absurd hP.2 (Nat.not_le.mpr hlt)
  | acked hpc _ | notAcked hpc _ | late hpc _ | inTime hpc _ | nacked hpc _ | notNacked hpc _
  | retry hpc =>
    rw [hP.1] at hpc
    cases hpc

/-- What has come after `pre` comes in the run. -/
lemma Right.acked (h : Right (start cmd a) es c) (hack : .ack ∈ es) : c.pc = .acked :=
  OrderPc.acked_of_value (h.result.mpr hack)

lemma Right.allowed (h : Right (start cmd a) es c) (hrun : (start cmd a).run es = some c)
    (hreturned : c.pc.value.isSome = true) : Allowed a (start cmd a) es where
  ack ha pre t hgoes hpc := by
    obtain ⟨post, t', rfl, hm, hpre', hpost⟩ := hgoes.step hrun
    obtain ⟨-, -, hpre⟩ := hgoes
    by_contra hheard
    have hreack : t.arm.reack = true := by
      rcases (flags_run hpre).old ha hheard with ⟨-, hreack⟩ | hacked
      · exact hreack
      · rw [hpc] at hacked
        cases hacked
    -- the old ACK is taken for a new one, so a new one must have come
    have hacked : t'.pc = .acked := by
      rw [hm.eq_prog]
      simp [prog, hpc, hreack]
    obtain ⟨rfl, rfl⟩ := eq_nil_of_returned hpost (by rw [hacked]; rfl)
    have hmem : OrderEvent.ack ∈ pre ++ [.prog] := h.result.mp (by rw [hacked]; rfl)
    refine hheard (.inl ((List.mem_append.mp hmem).resolve_right ?_))
    decide
  nack ha pre t hgoes hpc := by
    -- an old NACK would be answered by a retransmission that no NACK of the call asks for
    obtain ⟨post, t', rfl, hm, hpre', -⟩ := hgoes.step hrun
    obtain ⟨-, -, hpre⟩ := hgoes
    by_contra hheard
    have hzero : (pre ++ [OrderEvent.prog]).count .nack = 0 := by
      rw [List.count_eq_zero]
      intro hmem
      exact hheard (.inr ((List.mem_append.mp hmem).resolve_right (by decide)))
    have hle := h.resend (pre ++ [.prog]) t' ⟨post, by simp⟩ hpre'
    have hmono : t.resends ≤ t'.resends := resends_mono (sent_run hpre) hm
    rcases (flags_run hpre).keep_oldNack hpc (by decide) ha hheard with hrenack | hresends
    · have hretry : t' = { t with pc := .retry } := by
        rw [hm.eq_prog]
        simp [prog, hpc, hrenack]
      subst hretry
      rw [resends_eq (sent_run hpre'), if_pos rfl] at hle
      omega
    · omega
  third pre t hgoes hpc := by
    -- the call returns 0 right behind the third retransmission
    obtain ⟨post, t', -, hm, -, hpost⟩ := hgoes.step hrun
    by_contra hnot
    have hcount : t'.pc = .count ∧ t'.retryFre = t.retryFre + 1 := by
      rw [hm.eq_prog]
      simp [prog, hpc]
    exact h.last (refused_of_third hcount.1 (by omega) hpost hreturned)
  kept pre post hes hack := by
    -- the NACK clears the flag, and no ACK comes behind it
    by_contra hnot
    rw [hes, run, Lib.runFrom_append, Option.bind_eq_some_iff] at hrun
    obtain ⟨t, -, hrun⟩ := hrun
    rw [Lib.runFrom_cons, Option.bind_eq_some_iff] at hrun
    obtain ⟨t', hstep, hpost⟩ := hrun
    refine not_acked ?_ ?_ hnot hpost (h.acked (by rw [hes]; exact List.mem_append_left _ hack))
    · cases moves_of_step hstep with
      | nack _ => rfl
    · intro hacked
      have hnone : t'.pc.value = none := by
        cases moves_of_step hstep with
        | nack hnone => exact hnone
      rw [hacked] at hnone
      cases hnone
  apart pre post t hes hpre hpc hack := by
    -- the flags are cleared together, and no ACK comes behind that
    by_contra hnot
    obtain ⟨post', t', hes', hm, -, hpost⟩ := Goes.step ⟨post, hes, hpre⟩ hrun
    obtain rfl : post = post' := by simpa using hes.symm.trans hes'
    have hacked := h.acked (by rw [hes]; exact List.mem_append_left _ hack)
    have hcount : t'.arm.reack = false ∧ t'.pc = .count := by
      rw [hm.eq_prog]
      simp [prog, hpc, Arm.clearFlags]
    exact not_acked hcount.1 (by rw [hcount.2]; decide) hnot hpost hacked
  inTime pre t hgoes hpc hlate := by
    -- the ACK came behind the last look at its flag
    obtain ⟨post, t', rfl, hm, -, hpost⟩ := hgoes.step hrun
    obtain ⟨-, -, hpre⟩ := hgoes
    by_contra hreack
    have hmem : OrderEvent.ack ∈ pre := by
      refine ((flags_run hpre).ack (Bool.not_eq_false _ ▸ hreack)).resolve_right ?_
      rintro ⟨ha, hheard⟩
      rcases (flags_run hpre).old ha hheard with ⟨hlook, -⟩ | hacked
      · rw [hpc] at hlook
        cases hlook
      · rw [hpc] at hacked
        cases hacked
    have hacked := h.acked (List.mem_append_left _ hmem)
    have hend : t'.pc = .late := by
      rw [hm.eq_prog]
      simp [prog, hpc, hlate]
    obtain ⟨-, rfl⟩ := eq_nil_of_returned hpost (by rw [hend]; rfl)
    rw [hend] at hacked
    cases hacked

end Run

end OrderCall

/-! ## Acknowledgement -/

/-- In a call that returns, the result and what was sent are right exactly where everything that
happens is allowed for: no flag is left from before, there is no third NACK to react to, the last
ACK is neither followed by a NACK nor comes while one is dealt with, and none comes between the last
look and the end of the time. -/
theorem order_right_iff (f : OrderFn) (a : Arm) (es : List OrderEvent) (c : OrderCall)
    (hrun : (f.call a).run es = some c) (hreturned : c.pc.value.isSome = true) :
    OrderCall.Right (f.call a) es c ↔ OrderCall.Allowed a (f.call a) es := by
  obtain ⟨cmd, hcmd⟩ := f.call_eq a
  rw [hcmd] at hrun ⊢
  have hend : es = es ++ [] := (List.append_nil es).symm
  constructor
  · intro h
    exact h.allowed hrun hreturned
  · intro h
    refine ⟨⟨fun hvalue => ?_, fun hack => ?_⟩, fun pre t hpre ht => ?_, ?_, ?_⟩
    · exact h.acked hend hrun (OrderPc.acked_of_value hvalue)
    · -- the last ACK is seen
      obtain ⟨pre, post, hes, hlast⟩ := Lib.exists_last hack
      rcases h.last hes hlast hrun with ⟨-, hnone⟩ | hacked
      · rw [hnone] at hreturned
        cases hreturned
      · rw [hacked]
        rfl
    · obtain ⟨post, rfl⟩ := hpre
      exact h.resend rfl ht
    · have hs := OrderCall.sent_run hrun
      have hle := hs.le
      rw [hs.sent]
      omega
    · exact (h.not_refused hend hrun).2

/-- A command that is acknowledged at once. -/
theorem order_acked_right : ∃ c, (OrderFn.getMeal.call quietArm).run [.ack, .prog] = some c ∧
    OrderCall.Right (OrderFn.getMeal.call quietArm) [.ack, .prog] c := by
  have hlook : ∀ pre c', OrderCall.Goes (OrderFn.getMeal.call quietArm) [.ack, .prog] pre c' →
      c'.pc = .ack := by
    rintro pre c' ⟨post, hes, hpre⟩
    rcases pre with _ | ⟨e, _ | ⟨e', pre⟩⟩
    · cases hes
    · obtain ⟨rfl, -⟩ := List.cons.inj hes
      cases hpre
      rfl
    · have := congrArg List.length hes
      rw [List.length_append] at this
      simp only [List.length_cons, List.length_nil] at this
      omega
  refine ⟨_, rfl, (order_right_iff .getMeal quietArm [.ack, .prog] _ rfl rfl).mpr
    ⟨nofun, nofun, fun pre c' hgoes hpc => ?_, fun pre post hes => ?_,
      fun pre post c' hes hpre hpc => ?_, fun pre c' hgoes hpc => ?_⟩⟩
  · rw [hlook pre c' hgoes] at hpc
    cases hpc
  · have hnack : OrderEvent.nack ∈ [OrderEvent.ack, .prog] := by
      rw [hes]
      exact List.mem_append_right _ List.mem_cons_self
    exact absurd hnack (by decide)
  · rw [hlook pre c' ⟨post, hes, hpre⟩] at hpc
    cases hpc
  · rw [hlook pre c' hgoes] at hpc
    cases hpc

/-- The ACK to a command before, which came too late, is taken for the ACK to this one. -/
theorem old_ack_is_taken : ¬ ∀ (f : OrderFn) (a : Arm) (es : List OrderEvent) (c : OrderCall),
    (f.call a).run es = some c → c.pc.value.isSome = true → OrderCall.Right (f.call a) es c := by
  intro hall
  have h := hall .getMeal { quietArm with reack := true } [.prog] _ rfl rfl
  have hack : OrderEvent.ack ∈ [OrderEvent.prog] := h.result.mp rfl
  exact absurd hack (by decide)

end MealVendor
