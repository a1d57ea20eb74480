import MealVendor.Lib.Transition

/-!
# Forward simulation along a log

An abstract machine is a relation whose steps carry a label.  A concrete machine keeps a
*log* of what it has done.  A simulation relates the two state by state, such that the
entries a concrete step adds to the log are the labels of steps the abstract machine can
take; a step that adds nothing is not seen.

`Simulation.run` turns this into a statement about runs.
-/

namespace MealVendor.Lib

variable {σ ε α ω : Type*}

/-- The steps of an abstract machine one after the other, and their labels. -/
inductive Path (Step : α → ω → α → Prop) : α → List ω → α → Prop
  | nil (a : α) : Path Step a [] a
  | cons {a b c : α} {o : ω} {os : List ω} (hs : Step a o b) (hp : Path Step b os c) :
      Path Step a (o :: os) c

namespace Path

variable {Step : α → ω → α → Prop} {a b c : α} {o : ω} {os os' : List ω}

lemma single (h : Step a o b) : Path Step a [o] b := .cons h (.nil b)

lemma append (h : Path Step a os b) (h' : Path Step b os' c) : Path Step a (os ++ os') c := by
  induction h with
  | nil => exact h'
  | cons hs hp ih => exact .cons hs (ih h')

end Path

/-- Whatever a concrete step adds to the log, the abstract machine can do. -/
def Simulation (step : σ → ε → Option σ) (log : σ → List ω) (Step : α → ω → α → Prop)
    (R : σ → α → Prop) : Prop :=
  ∀ s e t a, R s a → step s e = some t → ∃ os b, log t = log s ++ os ∧ Path Step a os b ∧ R t b

/-- What a run adds to the log is a path of the abstract machine. -/
theorem Simulation.run {step : σ → ε → Option σ} {log : σ → List ω} {Step : α → ω → α → Prop}
    {R : σ → α → Prop} (h : Simulation step log Step R) {G : σ → ε → Prop} {s t : σ} {a : α}
    {es : List ε} (hR : R s a) (hr : Runs step G s es t) :
    ∃ os b, log t = log s ++ os ∧ Path Step a os b ∧ R t b := by
  induction hr generalizing a with
  | nil s => exact ⟨[], a, (List.append_nil _).symm, .nil a, hR⟩
  | cons hG hs hr ih =>
    obtain ⟨os, b, hlog, hpath, hRb⟩ := h _ _ _ a hR hs
    obtain ⟨os', c, hlog', hpath', hRc⟩ := ih hRb
    refine ⟨os ++ os', c, ?_, hpath.append hpath', hRc⟩
    rw [hlog', hlog, List.append_assoc]

end MealVendor.Lib
