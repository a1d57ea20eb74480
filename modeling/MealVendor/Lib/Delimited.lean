import Mathlib.Data.List.Basic

/-!
# Messages delimited by their length

A message on a line is a head of two symbols, a length, and as many symbols as the length says.
Between two messages there may be anything in which no head starts.  A receiver takes one symbol
after the other; the symbols of a body are not looked at, so that a head inside of it does no harm.
-/

namespace MealVendor.Lib

/-- The two symbols of a head, and the length that a symbol stands for. -/
structure Delimited (α : Type*) where
  head₀ : α
  head₁ : α
  len : α → ℕ

/-- What a receiver waits for: a head, its second symbol, the length, or the rest of a body. -/
inductive Rx (α : Type*)
  | idle
  | head
  | length
  | body (n : ℕ) (got : List α)
deriving DecidableEq

namespace Delimited

variable {α : Type*} [DecidableEq α] (D : Delimited α)

/-- One symbol, and the body that it completes. -/
def step (b : α) : Rx α → Rx α × Option (List α)
  | .idle => (if b = D.head₀ then .head else .idle, none)
  | .head => (if b = D.head₁ then .length else if b = D.head₀ then .head else .idle, none)
  | .length => if D.len b = 0 then (.idle, some []) else (.body (D.len b) [], none)
  | .body n got => if n ≤ 1 then (.idle, some (got ++ [b])) else (.body (n - 1) (got ++ [b]), none)

/-- The receiver after a row of symbols. -/
def after (r : Rx α) (bs : List α) : Rx α := bs.foldl (fun r b => (D.step b r).1) r

/-- The bodies it has received. -/
def bodies (r : Rx α) : List α → List (List α)
  | [] => []
  | b :: bs => (D.step b r).2.toList ++ bodies (D.step b r).1 bs

/-- A message. -/
def message (l : α) (body : List α) : List α := D.head₀ :: D.head₁ :: l :: body

variable {D} {r : Rx α} {l : α} {body junk bs : List α}

@[simp] lemma after_nil : D.after r [] = r := rfl

@[simp] lemma bodies_nil : D.bodies r [] = [] := rfl

lemma after_cons (b : α) : D.after r (b :: bs) = D.after (D.step b r).1 bs := rfl

lemma after_append (as bs : List α) : D.after r (as ++ bs) = D.after (D.after r as) bs :=
  List.foldl_append

lemma bodies_append (as bs : List α) :
    D.bodies r (as ++ bs) = D.bodies r as ++ D.bodies (D.after r as) bs := by
  induction as generalizing r with
  | nil => rfl
  | cons a as ih => rw [List.cons_append, bodies, bodies, ih, List.append_assoc, after_cons]

/-! ## One message -/

lemma after_body {got : List α} (h : body ≠ []) :
    D.after (.body body.length got) body = .idle ∧
      D.bodies (.body body.length got) body = [got ++ body] := by
  induction body generalizing got with
  | nil => exact absurd rfl h
  | cons b body ih =>
    by_cases hb : body = []
    · subst hb
      exact ⟨rfl, rfl⟩
    · -- the counter is above one, and the rest of the body is received behind `b`
      have hpos := List.length_pos_iff.mpr hb
      have hstep : D.step b (.body (b :: body).length got) =
          (.body body.length (got ++ [b]), none) := by
        rw [step, List.length_cons, if_neg (by omega), Nat.add_sub_cancel]
      obtain ⟨hafter, hbodies⟩ := @ih (got ++ [b]) hb
      rw [after_cons, bodies, hstep]
      exact ⟨hafter, by rw [hbodies, List.append_assoc]; rfl⟩

/-- A whole message is received. -/
lemma after_message (h : D.len l = body.length) :
    D.after .idle (D.message l body) = .idle ∧ D.bodies .idle (D.message l body) = [body] := by
  have hhead : D.step D.head₀ .idle = (.head, none) := by rw [step, if_pos rfl]
  have hlength : D.step D.head₁ .head = (.length, none) := by rw [step, if_pos rfl]
  rw [message, after_cons, bodies, hhead, after_cons, bodies, hlength, after_cons, bodies]
  by_cases hb : body = []
  · subst hb
    have hl : D.step l .length = (.idle, some []) := by
      rw [step]
      exact if_pos h
    rw [hl]
    exact ⟨rfl, rfl⟩
  · have hpos := List.length_pos_iff.mpr hb
    have hl : D.step l .length = (.body body.length [], none) := by
      rw [step, if_neg (by omega), h]
    rw [hl]
    exact after_body hb

/-- Symbols with which no head starts. -/
lemma after_junk (h : D.head₀ ∉ junk) :
    D.after .idle junk = .idle ∧ D.bodies .idle junk = [] := by
  induction junk with
  | nil => exact ⟨rfl, rfl⟩
  | cons b junk ih =>
    rw [List.mem_cons, not_or] at h
    have hstep : D.step b .idle = (.idle, none) := by rw [step, if_neg (Ne.symm h.1)]
    rw [after_cons, bodies, hstep]
    exact ih h.2

/-- A message and what stands behind it. -/
lemma after_message_junk (h : D.len l = body.length) (hj : D.head₀ ∉ junk) :
    D.after .idle (D.message l body ++ junk) = .idle ∧
      D.bodies .idle (D.message l body ++ junk) = [body] := by
  obtain ⟨hafter, hbodies⟩ := after_message h
  obtain ⟨hafter', hbodies'⟩ := after_junk hj
  rw [after_append, bodies_append, hafter, hbodies, hafter', hbodies']
  exact ⟨rfl, List.append_nil _⟩

end Delimited

end MealVendor.Lib
