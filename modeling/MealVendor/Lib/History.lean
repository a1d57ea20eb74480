import Mathlib.Data.List.Basic

/-!
# Books kept over a trace

A trace is the list of what has happened, the latest first.  A *book* is a value that is
computed from the trace alone, by noting one observation after the other: a sum, a
counter, the last observation of some sort.  `Always` says that whenever something was
recorded, a relation held between it and the book as it was then.

Observations that do not change the book can be dropped from the front of a trace; this is
how the steps of a machine that are silent for a book disappear from the proofs about it.
-/

namespace MealVendor.Lib

variable {ο β : Type*} (note : β → ο → β) (b : β) (P : ο → β → Prop)

/-- The book of a trace: `note` enters one observation, `b` is the empty book. -/
def tally : List ο → β
  | [] => b
  | o :: t => note (tally t) o

/-- Whenever something was recorded, `P` held of it and of the book at that time. -/
def Always : List ο → Prop
  | [] => True
  | o :: t => P o (tally note b t) ∧ Always t

variable {note b P} {os t : List ο}

@[simp] lemma tally_nil : tally note b [] = b := rfl

@[simp] lemma tally_cons (o : ο) : tally note b (o :: t) = note (tally note b t) o := rfl

@[simp] lemma always_nil : Always note b P [] := trivial

@[simp] lemma always_cons (o : ο) :
    Always note b P (o :: t) ↔ P o (tally note b t) ∧ Always note b P t := Iff.rfl

instance decidableAlways [∀ o b, Decidable (P o b)] : ∀ t, Decidable (Always note b P t)
  | [] => isTrue trivial
  | _ :: t =>
    haveI := decidableAlways t
    inferInstanceAs (Decidable (_ ∧ _))

/-- The book of a trace that goes on. -/
lemma tally_append : tally note b (os ++ t) = tally note (tally note b t) os := by
  induction os with
  | nil => rfl
  | cons o os ih => rw [List.cons_append, tally_cons, tally_cons, ih]

/-- Observations that leave the book as it is. -/
lemma tally_append_fixed (h : ∀ o ∈ os, note (tally note b t) o = tally note b t) :
    tally note b (os ++ t) = tally note b t := by
  induction os with
  | nil => rfl
  | cons o os ih =>
    rw [List.cons_append, tally_cons, ih fun o' ho' => h o' (List.mem_cons_of_mem _ ho'),
      h o List.mem_cons_self]

/-- Silent observations do not change the book. -/
lemma tally_append_silent (h : ∀ o ∈ os, ∀ b, note b o = b) :
    tally note b (os ++ t) = tally note b t :=
  tally_append_fixed fun o ho => h o ho _

/-- Observations `P` says nothing about can be added. -/
lemma Always.append (h : ∀ o ∈ os, ∀ b, P o b) (ht : Always note b P t) :
    Always note b P (os ++ t) := by
  induction os with
  | nil => exact ht
  | cons o os ih =>
    exact ⟨h o List.mem_cons_self _, ih fun o' ho' => h o' (List.mem_cons_of_mem _ ho')⟩

end MealVendor.Lib
