import MealVendor.Model.Main
import MealVendor.Lib.History

/-!
# The book of a sale

What the statements about money and meals count: the money taken in and paid back, the
meals delivered, what the last sale has spent, bought and committed.  All of it is computed
from the trace.
-/

namespace MealVendor

/-- How a payment has ended. -/
inductive Ending
  | paid
  | timeout
  | cancel
deriving DecidableEq

/-- The book of a sale. -/
structure Book where
  /-- Coins, bills and card debits. -/
  taken : ℤ
  /-- Coins paid out. -/
  returned : ℕ
  /-- The price of the meals for which `Meal_takeout` was incremented. -/
  delivered : ℕ
  /-- The part of `PayAlready` that a completed payment has used up. -/
  spent : ℕ
  /-- The price of the completed purchases, less what was paid back for meals that could
  not be taken out. -/
  bought : ℤ
  /-- The card debits since the selection was cleared. -/
  debited : ℤ
  /-- The kind `FindMeal` has found last. -/
  lastFind : Option Kind
  /-- The meals of each kind taken out since the last payment has ended. -/
  takenOut : Kind → ℕ
  /-- The cart of the last payment, if it was completed. -/
  committed : Kind → ℕ
  /-- How the payment of the current sale has ended. -/
  lastEnd : Option Ending

/-- The empty book. -/
def Book.empty : Book where
  taken := 0
  returned := 0
  delivered := 0
  spent := 0
  bought := 0
  debited := 0
  lastFind := none
  takenOut := fun _ => 0
  committed := fun _ => 0
  lastEnd := none

/-- A meal of the kind found last is taken out. -/
def Book.takeOut (b : Book) : Book :=
  match b.lastFind with
  | some k =>
    { b with
      delivered := b.delivered + price k
      takenOut := Function.update b.takenOut k (b.takenOut k + 1) }
  | none => b

/-- Meals do not change what is noted about money. -/
lemma Book.takeOut_money (b : Book) :
    b.takeOut.taken = b.taken ∧ b.takeOut.spent = b.spent ∧ b.takeOut.debited = b.debited ∧
      b.takeOut.returned = b.returned ∧ b.takeOut.bought = b.bought := by
  rw [takeOut]
  split <;> exact ⟨rfl, rfl, rfl, rfl, rfl⟩

/-- One observation is entered into the book. -/
def Book.note (b : Book) : Obs → Book
  | .coin => { b with taken := b.taken + 1 }
  | .bill v => { b with taken := b.taken + v }
  | .debit m => { b with taken := b.taken + m, debited := b.debited + m }
  | .payOut n => { b with returned := b.returned + n }
  | .paid u =>
    { b with
      spent := u.payAlready.toNat
      bought := b.bought + u.payShould.toNat
      takenOut := fun _ => 0
      committed := fun k => (u.mealCnt k).toNat
      lastEnd := some .paid }
  | .timeout =>
    { b with takenOut := fun _ => 0, committed := fun _ => 0, lastEnd := some .timeout }
  | .cancel => { b with lastEnd := some .cancel }
  | .clear => { b with spent := 0, debited := 0 }
  | .takemealErro n => { b with bought := b.bought - n, lastEnd := none }
  | .takeafter => { b with lastEnd := none }
  | .find k _ _ => { b with lastFind := some k }
  | .takeout => b.takeOut
  | .request .. | .serve | .upload .. | .command _ | .reply _ | .draft .. | .put _ | .column _ => b

/-- The book of a trace. -/
def book (t : List Obs) : Book := Lib.tally Book.note Book.empty t

@[simp] lemma book_cons (o : Obs) (t : List Obs) : book (o :: t) = (book t).note o := rfl

/-- The observations no book and no statement about payments counts. -/
def Obs.quiet : Obs → Bool
  | .upload .. | .command _ | .reply _ | .draft .. | .put _ | .column _ => true
  | _ => false

lemma Obs.note_of_quiet {o : Obs} (h : o.quiet) (b : Book) : b.note o = b := by
  cases o <;> first | rfl | cases h

/-- The book of the session. -/
def Session.book (s : Session) : Book := MealVendor.book s.trace

@[simp] lemma Session.emit_book (s : Session) (o : Obs) : (s.emit o).book = s.book.note o := rfl

@[simp] lemma Session.goto_book (s : Session) (p : Pc) : (s.goto p).book = s.book := rfl

@[simp] lemma Session.timeout_book (s : Session) :
    s.timeout.book = (s.book.note .clear).note .timeout := by
  rw [Session.book, Session.timeout_trace]
  rfl

/-- Whenever something was recorded, `P` held of it and of the book at that time. -/
def Session.Always (P : Obs → Book → Prop) (s : Session) : Prop :=
  Lib.Always Book.note Book.empty P s.trace

instance (P : Obs → Book → Prop) [∀ o b, Decidable (P o b)] (s : Session) :
    Decidable (s.Always P) :=
  inferInstanceAs (Decidable (Lib.Always _ _ _ _))

@[simp] lemma Session.emit_always {P : Obs → Book → Prop} (s : Session) (o : Obs) :
    (s.emit o).Always P ↔ P o s.book ∧ s.Always P := Iff.rfl

@[simp] lemma Session.goto_always {P : Obs → Book → Prop} (s : Session) (p : Pc) :
    (s.goto p).Always P ↔ s.Always P := Iff.rfl

end MealVendor
