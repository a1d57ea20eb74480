import Mathlib.Data.List.Basic
import Mathlib.Data.List.Induction
import Mathlib.Logic.Function.Basic

/-!
# A bank of registers

A bank is a function from registers to values, and a program writes to it, one register at
a time.  What a register holds in the end depends on the writes to this register only, and
of these on the last one.  Several programs that write to different registers can thus be
treated one by one, however their writes are mixed.
-/

namespace MealVendor.Lib

variable {ρ ν α : Type*} [DecidableEq ρ]

/-- The bank after some writes, the first one first. -/
def writeAll (ws : List (ρ × ν)) (b : ρ → ν) : ρ → ν :=
  ws.foldl (fun b w => Function.update b w.1 w.2) b

/-- The values written to one register, in order. -/
def writesTo (r : ρ) (ws : List (ρ × ν)) : List ν :=
  ws.filterMap fun w => if w.1 = r then some w.2 else none

variable {r : ρ} {ws ws' : List (ρ × ν)}

@[simp] lemma writesTo_nil : writesTo r ([] : List (ρ × ν)) = [] := rfl

@[simp] lemma writesTo_append : writesTo r (ws ++ ws') = writesTo r ws ++ writesTo r ws' :=
  List.filterMap_append

lemma writesTo_cons (w : ρ × ν) :
    writesTo r (w :: ws) = if w.1 = r then w.2 :: writesTo r ws else writesTo r ws := by
  rw [writesTo, writesTo]
  split_ifs with h
  · rw [List.filterMap_cons_some (by rw [if_pos h])]
  · rw [List.filterMap_cons_none (by rw [if_neg h])]

lemma writesTo_flatMap (f : α → List (ρ × ν)) (l : List α) :
    writesTo r (l.flatMap f) = l.flatMap fun a => writesTo r (f a) :=
  List.filterMap_flatMap

/-- A register that no write is about. -/
lemma writesTo_eq_nil (h : ∀ w ∈ ws, w.1 ≠ r) : writesTo r ws = [] := by
  rw [writesTo]
  rw [List.filterMap_eq_nil_iff]
  intro w hw
  rw [if_neg (h w hw)]

/-- Where every register is written once, the value written to one of them. -/
lemma writesTo_of_mem {v : ν} (hnd : (ws.map Prod.fst).Nodup) (h : (r, v) ∈ ws) :
    writesTo r ws = [v] := by
  induction ws with
  | nil => cases h
  | cons w ws ih =>
    rw [List.map_cons, List.nodup_cons] at hnd
    rw [writesTo_cons]
    rcases List.mem_cons.mp h with rfl | h
    · -- the register does not occur again
      rw [if_pos rfl, writesTo_eq_nil]
      intro w hw hr
      exact hnd.1 (List.mem_map.mpr ⟨w, hw, hr⟩)
    · rw [if_neg, ih hnd.2 h]
      intro hr
      exact hnd.1 (List.mem_map.mpr ⟨_, h, hr.symm⟩)

lemma writeAll_append (b : ρ → ν) :
    writeAll (ws ++ ws') b = writeAll ws' (writeAll ws b) := List.foldl_append

/-- The last write to a register wins. -/
theorem writeAll_apply (ws : List (ρ × ν)) (b : ρ → ν) (r : ρ) :
    writeAll ws b r = (writesTo r ws).getLast?.getD (b r) := by
  induction ws using List.reverseRecOn with
  | nil => rfl
  | append_singleton ws w ih =>
    rw [writeAll_append, writesTo_append, writesTo_cons]
    change Function.update (writeAll ws b) w.1 w.2 r = _
    split_ifs with h
    · subst h
      simp
    · rw [Function.update_of_ne (Ne.symm h), ih]
      simp

/-- The last of the values a partial function gives for the entries of a list is the one of
the last entry, if it has one. -/
lemma getLast?_filterMap_of_getLast? {β : Type*} {l : List α} {f : α → Option β} {a : α}
    {b : β} (h : l.getLast? = some a) (hf : f a = some b) :
    (l.filterMap f).getLast? = some b := by
  obtain ⟨l', rfl⟩ := List.getLast?_eq_some_iff.mp h
  simp [hf]

end MealVendor.Lib
