import Mathlib.Data.List.Basic
import Mathlib.Data.Nat.ModEq
import Mathlib.Logic.Function.Basic

/-!
# A memory that is programmed page by page

The cells stand in a ring.  A program instruction takes its bytes into a latch of one page, in which
they start again at the front when they reach its end; a later byte replaces an earlier one.  So
data is cut into pieces that stay in their pages, and the pieces are programmed one after the other.

What programming and erasing make of a cell is left open.
-/

namespace MealVendor.Lib

/-- A ring of `size` cells with its pages and its sectors, and what an instruction makes of a
cell. -/
structure Nor (α : Type*) where
  size : ℕ
  page : ℕ
  sector : ℕ
  page_pos : 0 < page
  size_pos : 0 < size
  page_dvd : page ∣ size
  /-- The cell, what it holds and what is programmed. -/
  prog : ℕ → α → α → α
  erase : ℕ → α → α

namespace Nor

variable {α : Type*} (N : Nor α)

/-- The cell at an address. -/
def cell (a : ℕ) : ℕ := a % N.size

/-- Programming a single cell. -/
def programOne (m : ℕ → α) (a : ℕ) (d : α) : ℕ → α :=
  Function.update m (N.cell a) (N.prog (N.cell a) (m (N.cell a)) d)

/-- Programming cell by cell, as if there were no pages. -/
def program (m : ℕ → α) (a : ℕ) : List α → ℕ → α
  | [] => m
  | d :: ds => program (N.programOne m a d) (a + 1) ds

/-- Reading cell by cell. -/
def read (m : ℕ → α) (a n : ℕ) : List α := (List.range n).map fun i => m (N.cell (a + i))

/-- The address behind `a`, in the page of `a`. -/
def next (a : ℕ) : ℕ := a / N.page * N.page + (a + 1) % N.page

/-- What the latch of the page holds for a cell. -/
def latch (a : ℕ) : List α → ℕ → Option α
  | [], _ => none
  | d :: ds, c => (latch (N.next a) ds c).or (if c = N.cell a then some d else none)

/-- A program instruction. -/
def programPage (m : ℕ → α) (a : ℕ) (ds : List α) : ℕ → α := fun c =>
  match N.latch a ds c with
  | none => m c
  | some d => N.prog c (m c) d

/-- An erase instruction. -/
def eraseSector (m : ℕ → α) (a : ℕ) : ℕ → α := fun c =>
  if c / N.sector = N.cell a / N.sector then N.erase c (m c) else m c

variable {N} {m : ℕ → α} {a b c i : ℕ} {d : α} {ds es : List α}

/-! ## Programming cell by cell -/

@[simp] lemma program_nil : N.program m a [] = m := rfl

lemma program_cons : N.program m a (d :: ds) = N.program (N.programOne m a d) (a + 1) ds := rfl

lemma program_append (m : ℕ → α) (a : ℕ) (ds es : List α) :
    N.program m a (ds ++ es) = N.program (N.program m a ds) (a + ds.length) es := by
  induction ds generalizing m a with
  | nil => rfl
  | cons d ds ih =>
    rw [List.cons_append, program_cons, ih, program_cons, List.length_cons, Nat.add_assoc,
      Nat.add_comm 1]

lemma cell_congr (h : a ≡ b [MOD N.size]) (i : ℕ) : N.cell (a + i) = N.cell (b + i) :=
  h.add_right i

lemma program_congr (h : a ≡ b [MOD N.size]) (m : ℕ → α) (ds : List α) :
    N.program m a ds = N.program m b ds := by
  induction ds generalizing m a b with
  | nil => rfl
  | cons d ds ih =>
    have hone : N.programOne m a d = N.programOne m b d := by
      rw [programOne, programOne, show N.cell a = N.cell b from h]
    rw [program_cons, program_cons, hone, ih (h.add_right 1)]

/-- The cells that are not in the range stay as they are. -/
lemma program_of_ne (h : ∀ i < ds.length, c ≠ N.cell (a + i)) : N.program m a ds c = m c := by
  induction ds generalizing m a with
  | nil => rfl
  | cons d ds ih =>
    rw [program_cons, ih]
    · exact Function.update_of_ne (h 0 (Nat.succ_pos _)) ..
    · intro i hi
      rw [Nat.add_assoc, Nat.add_comm 1]
      exact h (i + 1) (Nat.succ_lt_succ hi)

/-- Within one round the cells are different ones. -/
lemma cell_injOn {j : ℕ} (hi : i < N.size) (hj : j < N.size)
    (h : N.cell (a + i) = N.cell (a + j)) : i = j := by
  have hmod : i ≡ j [MOD N.size] := Nat.ModEq.add_left_cancel' a h
  rwa [Nat.ModEq, Nat.mod_eq_of_lt hi, Nat.mod_eq_of_lt hj] at hmod

/-- A cell in the range is programmed once. -/
lemma program_add (hlen : ds.length ≤ N.size) (hi : i < ds.length) :
    N.program m a ds (N.cell (a + i)) =
      N.prog (N.cell (a + i)) (m (N.cell (a + i))) (ds.get ⟨i, hi⟩) := by
  induction ds generalizing m a i with
  | nil => exact absurd hi (Nat.not_lt_zero _)
  | cons d ds ih =>
    rw [program_cons]
    cases i with
    | zero =>
      rw [program_of_ne]
      · exact Function.update_self ..
      · intro j hj heq
        rw [Nat.add_assoc] at heq
        have := cell_injOn (by omega) (by simp at hlen; omega) heq
        omega
    | succ i =>
      have hne : N.cell (a + (i + 1)) ≠ N.cell a := fun heq => by
        have := cell_injOn (j := 0) (lt_of_lt_of_le hi hlen) N.size_pos heq
        omega
      rw [show a + (i + 1) = a + 1 + i by omega, ih (by simp at hlen; omega)]
      rw [show a + 1 + i = a + (i + 1) by omega, programOne, Function.update_of_ne hne]
      rfl

lemma read_congr (h : a ≡ b [MOD N.size]) (m : ℕ → α) (n : ℕ) : N.read m a n = N.read m b n :=
  List.map_congr_left fun i _ => congrArg m (cell_congr h i)

@[simp] lemma length_read (m : ℕ → α) (a n : ℕ) : (N.read m a n).length = n := by simp [read]

/-- What is programmed is read, if each cell takes it. -/
lemma read_program (hlen : ds.length ≤ N.size)
    (htake : ∀ i (hi : i < ds.length),
      N.prog (N.cell (a + i)) (m (N.cell (a + i))) (ds.get ⟨i, hi⟩) = ds.get ⟨i, hi⟩) :
    N.read (N.program m a ds) a ds.length = ds := by
  refine List.ext_getElem (length_read ..) fun i _ hi => ?_
  simp only [read, List.getElem_map, List.getElem_range]
  rw [program_add hlen hi]
  exact htake i hi

/-! ## Programming page by page -/

lemma mod_page_succ (h : a % N.page + 1 < N.page) : (a + 1) % N.page = a % N.page + 1 := by
  rw [Nat.add_mod, Nat.mod_eq_of_lt (b := N.page) (a := 1) (by omega), Nat.mod_eq_of_lt h]

/-- Before the end of the page, the address behind `a` is the next one. -/
lemma next_of_lt (h : a % N.page + 1 < N.page) : N.next a = a + 1 := by
  have hdiv := Nat.div_add_mod' a N.page
  rw [next, mod_page_succ h]
  omega

/-- The latch holds nothing for a cell that is not in the range. -/
lemma latch_of_ne (hfit : a % N.page + ds.length ≤ N.page)
    (h : ∀ i < ds.length, c ≠ N.cell (a + i)) : N.latch a ds c = none := by
  induction ds generalizing a with
  | nil => rfl
  | cons d ds ih =>
    have hne : c ≠ N.cell a := h 0 (Nat.succ_pos _)
    rw [latch, if_neg hne, Option.or_none]
    cases ds with
    | nil => rfl
    | cons e es =>
      simp only [List.length_cons] at hfit
      have hlt : a % N.page + 1 < N.page := by omega
      rw [next_of_lt hlt]
      refine ih (by rw [mod_page_succ hlt]; simp only [List.length_cons]; omega) fun i hi => ?_
      rw [Nat.add_assoc, Nat.add_comm 1]
      exact h (i + 1) (Nat.succ_lt_succ hi)

/-- What stays in its page is programmed as if there were no pages. -/
lemma programPage_eq (hfit : a % N.page + ds.length ≤ N.page) :
    N.programPage m a ds = N.program m a ds := by
  have hsize : N.page ≤ N.size := Nat.le_of_dvd N.size_pos N.page_dvd
  induction ds generalizing m a with
  | nil => rfl
  | cons d ds ih =>
    simp only [List.length_cons] at hfit
    -- the rest does not come back to the cell of the first byte
    have hrest : ∀ i < ds.length, N.cell a ≠ N.cell (a + 1 + i) := by
      intro i hi heq
      rw [Nat.add_assoc] at heq
      have := cell_injOn (i := 0) N.size_pos (by omega) heq
      omega
    have hlatch : N.latch (N.next a) ds = N.latch (a + 1) ds := by
      cases ds with
      | nil => rfl
      | cons e es =>
        simp only [List.length_cons] at hfit
        rw [next_of_lt (by omega)]
    have hfit' : ds ≠ [] → (a + 1) % N.page + ds.length ≤ N.page := by
      intro hne
      have := List.length_pos_iff.mpr hne
      rw [mod_page_succ (by omega)]
      omega
    have hnone : N.latch (a + 1) ds (N.cell a) = none := by
      cases ds with
      | nil => rfl
      | cons e es => exact latch_of_ne (hfit' (List.cons_ne_nil _ _)) hrest
    have htail : N.programPage (N.programOne m a d) (a + 1) ds =
        N.program (N.programOne m a d) (a + 1) ds := by
      cases ds with
      | nil => rfl
      | cons e es => exact ih (hfit' (List.cons_ne_nil _ _))
    rw [program_cons, ← htail]
    funext c
    rw [programPage, programPage, latch, hlatch]
    by_cases hc : c = N.cell a
    · rw [hc, hnone, if_pos rfl]
      simp [programOne]
    · rw [if_neg hc, Option.or_none, programOne, Function.update_of_ne hc]

/-- A piece of data and where it goes. -/
structure Piece (α : Type*) where
  addr : ℕ
  data : List α

variable (N) in
/-- The pieces follow each other from `a` on. -/
def Consecutive (a : ℕ) : List (Piece α) → Prop
  | [] => True
  | p :: ps => p.addr ≡ a [MOD N.size] ∧ Consecutive (p.addr + p.data.length) ps

variable (N) in
/-- No piece leaves its page. -/
def Paged (ps : List (Piece α)) : Prop := ∀ p ∈ ps, p.addr % N.page + p.data.length ≤ N.page

/-- Data in pieces is programmed as if there were no pages. -/
theorem foldl_programPage {ps : List (Piece α)} (hpaged : N.Paged ps)
    (hcons : N.Consecutive a ps) (m : ℕ → α) :
    ps.foldl (fun m p => N.programPage m p.addr p.data) m =
      N.program m a (ps.flatMap Piece.data) := by
  induction ps generalizing a m with
  | nil => rfl
  | cons p ps ih =>
    obtain ⟨haddr, hcons⟩ := hcons
    have hfit := hpaged p List.mem_cons_self
    rw [List.foldl_cons, ih (fun q hq => hpaged q (List.mem_cons_of_mem _ hq)) hcons,
      programPage_eq hfit, List.flatMap_cons, program_append, program_congr haddr]
    exact program_congr (haddr.add_right _) _ _

/-! ## Erasing -/

lemma eraseSector_of_eq (h : c / N.sector = N.cell a / N.sector) :
    N.eraseSector m a c = N.erase c (m c) := if_pos h

lemma eraseSector_congr (h : a ≡ b [MOD N.size]) (m : ℕ → α) :
    N.eraseSector m a = N.eraseSector m b := by
  have hcell : N.cell a = N.cell b := h
  funext c
  rw [eraseSector, eraseSector, hcell]

lemma eraseSector_of_ne (h : c / N.sector ≠ N.cell a / N.sector) :
    N.eraseSector m a c = m c := if_neg h

end Nor

end MealVendor.Lib
