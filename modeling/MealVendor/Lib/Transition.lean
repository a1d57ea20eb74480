import Mathlib.Logic.Basic
import Mathlib.Data.List.Basic
import Mathlib.Data.List.Induction

/-!
# Runs of a partial deterministic machine

A machine is a function `step : σ → ε → Option σ`: in a state, an event either cannot
happen (`none`) or leads to exactly one state.  A *run* is a list of events that all
happen one after the other.

Two things are packaged here once.  `runFrom` is the executable run, which a concrete
list of events can be evaluated with.  `Runs G` is the relation "this list of events
leads from here to there, and every event of it met the guard `G` in the state it
happened in"; its induction rules `Runs.invariant` and `Runs.always` turn a step lemma
into a statement about every state of every guarded run.
-/

namespace MealVendor.Lib

variable {σ ε : Type*}

/-- The state a list of events leads to, if all of them can happen in turn. -/
def runFrom (step : σ → ε → Option σ) : σ → List ε → Option σ
  | s, [] => some s
  | s, e :: es => (step s e).bind fun s' => runFrom step s' es

@[simp] lemma runFrom_nil (step : σ → ε → Option σ) (s : σ) : runFrom step s [] = some s := rfl

lemma runFrom_cons (step : σ → ε → Option σ) (s : σ) (e : ε) (es : List ε) :
    runFrom step s (e :: es) = (step s e).bind fun s' => runFrom step s' es := rfl

/-- Running two lists of events one after the other. -/
lemma runFrom_append (step : σ → ε → Option σ) (s : σ) (es fs : List ε) :
    runFrom step s (es ++ fs) = (runFrom step s es).bind fun s' => runFrom step s' fs := by
  induction es generalizing s with
  | nil => rfl
  | cons e es ih =>
    simp only [List.cons_append, runFrom_cons]
    cases step s e with
    | none => rfl
    | some s' => exact ih s'

/-- Where an event happens for the last time. -/
lemma exists_last {e : ε} {es : List ε} (h : e ∈ es) :
    ∃ pre post, es = pre ++ e :: post ∧ e ∉ post := by
  obtain ⟨post, pre, hes, hpost⟩ := List.eq_append_cons_of_mem (List.mem_reverse.mpr h)
  refine ⟨pre.reverse, post.reverse, ?_, fun hmem => hpost (List.mem_reverse.mp hmem)⟩
  rw [← List.reverse_reverse es, hes]
  simp

/-- What holds at the start of a run and is kept by each of its events holds along the run.
What has happened, and what is still to come, may be used. -/
lemma prefix_invariant {step : σ → ε → Option σ} {s : σ} {es : List ε} {P : List ε → σ → Prop}
    (hnil : P [] s)
    (hstep : ∀ pre e post t t', es = pre ++ e :: post → runFrom step s pre = some t →
      step t e = some t' → P pre t → P (pre ++ [e]) t') {pre post : List ε} {t : σ}
    (hes : es = pre ++ post) (hpre : runFrom step s pre = some t) : P pre t := by
  induction pre using List.reverseRecOn generalizing post t with
  | nil =>
    cases hpre
    exact hnil
  | append_singleton pre e ih =>
    rw [runFrom_append, Option.bind_eq_some_iff] at hpre
    obtain ⟨u, hu, hlast⟩ := hpre
    rw [runFrom_cons, Option.bind_eq_some_iff] at hlast
    obtain ⟨u', hu', hend⟩ := hlast
    cases hend
    rw [List.append_assoc, List.singleton_append] at hes
    exact hstep pre e post u t hes hu hu' (ih hes hu)

/-- A run all of whose events meet the guard `G` in the state in which they happen. -/
inductive Runs (step : σ → ε → Option σ) (G : σ → ε → Prop) : σ → List ε → σ → Prop
  | nil (s : σ) : Runs step G s [] s
  | cons {s s' t : σ} {e : ε} {es : List ε} (hG : G s e) (hs : step s e = some s')
      (hr : Runs step G s' es t) : Runs step G s (e :: es) t

/-- The guard that asks for nothing: every run of the machine. -/
def anyEvent : σ → ε → Prop := fun _ _ => True

namespace Runs

variable {step : σ → ε → Option σ} {G G' : σ → ε → Prop} {s t u : σ} {es fs : List ε}

/-- Without a guard, the relation is the executable run. -/
lemma of_runFrom (h : runFrom step s es = some t) : Runs step anyEvent s es t := by
  induction es generalizing s with
  | nil =>
    cases h
    exact .nil _
  | cons e es ih =>
    rw [runFrom_cons, Option.bind_eq_some_iff] at h
    obtain ⟨s', hs, hr⟩ := h
    exact .cons trivial hs (ih hr)

/-- A guarded run is a run. -/
lemma runFrom (h : Runs step G s es t) : runFrom step s es = some t := by
  induction h with
  | nil => rfl
  | cons hG hs hr ih => rw [runFrom_cons, hs, Option.bind_some, ih]

lemma append (h : Runs step G s es t) (h' : Runs step G t fs u) : Runs step G s (es ++ fs) u := by
  induction h with
  | nil => exact h'
  | cons hG hs hr ih => exact .cons hG hs (ih h')

/-- A weaker guard admits more runs. -/
lemma mono (hGG : ∀ s e, G s e → G' s e) (h : Runs step G s es t) : Runs step G' s es t := by
  induction h with
  | nil s => exact .nil s
  | cons hG hs hr ih => exact .cons (hGG _ _ hG) hs ih

/-- The invariant rule: what every guarded step preserves holds at the end of every
guarded run that starts with it. -/
theorem invariant {I : σ → Prop} (hstep : ∀ s e s', I s → G s e → step s e = some s' → I s')
    (h : Runs step G s es t) (hs : I s) : I t := by
  induction h with
  | nil => exact hs
  | cons hG hst hr ih => exact ih (hstep _ _ _ hs hG hst)

end Runs

/-- A guard is *exact* for a property when, where the invariant holds, an event keeps the
invariant if it meets the guard, and meets the guard if it leads to a state with the property.
Then the runs that have the property in all their states are the guarded ones. -/
theorem runs_iff_forall_prefix {step : σ → ε → Option σ} {G : σ → ε → Prop} {I P : σ → Prop}
    (hprop : ∀ s, I s → P s)
    (hstep : ∀ s e s', I s → step s e = some s' → (G s e → I s') ∧ (P s' → G s e))
    {s t : σ} {es : List ε} (hs : I s) (hrun : runFrom step s es = some t) :
    Runs step G s es t ↔
      ∀ pre post u, es = pre ++ post → runFrom step s pre = some u → P u := by
  -- the invariant goes with the induction, in both directions
  induction es generalizing s with
  | nil =>
    cases hrun
    refine iff_of_true (.nil _) fun pre post u hpre hu => ?_
    obtain rfl : pre = [] := (List.append_eq_nil_iff.mp hpre.symm).1
    cases hu
    exact hprop _ hs
  | cons e es ih =>
    rw [runFrom_cons, Option.bind_eq_some_iff] at hrun
    obtain ⟨s', he, hrun⟩ := hrun
    obtain ⟨hkeep, hguard⟩ := hstep s e s' hs he
    constructor
    · intro hr pre post u hpre hu
      cases hr with
      | cons hG he' hr =>
        rw [he, Option.some.injEq] at he'
        subst he'
        cases pre with
        | nil =>
          cases hu
          exact hprop _ hs
        | cons e' pre =>
          obtain ⟨rfl, hes⟩ := List.cons.inj hpre
          rw [runFrom_cons, he, Option.bind_some] at hu
          exact (ih (hkeep hG) hrun).mp hr pre post u hes hu
    · -- the state after the first event has the property, so the guard held
      intro hall
      have hG : G s e := hguard (hall [e] es s' rfl (by rw [runFrom_cons, he]; rfl))
      refine .cons hG he ((ih (hkeep hG) hrun).mpr fun pre post u hes hu => ?_)
      exact hall (e :: pre) post u (by rw [hes]; rfl) (by rw [runFrom_cons, he]; exact hu)

/-- The states some guarded run from an initial state reaches. -/
def Reach (step : σ → ε → Option σ) (init : σ → Prop) (G : σ → ε → Prop) (t : σ) : Prop :=
  ∃ s es, init s ∧ Runs step G s es t

/-- An invariant of the initial states and of the guarded steps holds of every state
that a guarded run reaches. -/
theorem Reach.invariant {step : σ → ε → Option σ} {init : σ → Prop} {G : σ → ε → Prop}
    {I : σ → Prop} (hinit : ∀ s, init s → I s)
    (hstep : ∀ s e s', I s → G s e → step s e = some s' → I s') {t : σ}
    (h : Reach step init G t) : I t := by
  obtain ⟨s, es, hs, hr⟩ := h
  exact hr.invariant hstep (hinit s hs)

/-- The run of a list of events that checks the guard at every step. -/
def checkedRun (step : σ → ε → Option σ) (G : σ → ε → Prop) [∀ s e, Decidable (G s e)] :
    σ → List ε → Option σ
  | s, [] => some s
  | s, e :: es => if G s e then (step s e).bind fun s' => checkedRun step G s' es else none

/-- A checked run is a guarded run. -/
lemma Runs.of_checkedRun {step : σ → ε → Option σ} {G : σ → ε → Prop}
    [∀ s e, Decidable (G s e)] {s t : σ} {es : List ε}
    (h : checkedRun step G s es = some t) : Runs step G s es t := by
  induction es generalizing s with
  | nil =>
    cases h
    exact .nil _
  | cons e es ih =>
    rw [checkedRun, Option.ite_none_right_eq_some, Option.bind_eq_some_iff] at h
    obtain ⟨hG, s', hs, hr⟩ := h
    exact .cons hG hs (ih hr)

/-- A state that a concrete list of events leads to is reachable. -/
lemma Reach.of_runFrom {step : σ → ε → Option σ} {init : σ → Prop} {s t : σ} {es : List ε}
    (hs : init s) (h : runFrom step s es = some t) : Reach step init anyEvent t :=
  ⟨s, es, hs, Runs.of_runFrom h⟩

/-! ## Evaluated runs -/

/-- The state that a run was evaluated to, and what was found of it. -/
lemma exists_of_any {o : Option σ} {p : σ → Prop} [DecidablePred p]
    (h : (o.any fun s => p s) = true) : ∃ s, o = some s ∧ p s := by
  rw [Option.any_eq_true] at h
  obtain ⟨s, hs, hp⟩ := h
  exact ⟨s, hs, of_decide_eq_true hp⟩

/-- A run that ends where `p` fails: it does not hold of every state that is reached. -/
lemma not_forall_reach {step : σ → ε → Option σ} {init p : σ → Prop} [DecidablePred p] {s : σ}
    (hs : init s) (es : List ε) (h : ((runFrom step s es).any fun t => ¬ p t) = true) :
    ¬ ∀ t, Reach step init anyEvent t → p t := by
  intro hall
  obtain ⟨t, ht, hp⟩ := exists_of_any h
  exact hp (hall t (.of_runFrom hs ht))

end MealVendor.Lib
