import Mathlib.Data.List.Basic
import Mathlib.Tactic.Common

/-!
# Sequences of items that say how long they are

An item is a tag and a value.  In front of the value stands a header that holds the tag and the
length of the value.  If headers can be told apart from what follows them, sequences of items can be
told apart: what is written is read, and what is read was written.
-/

namespace MealVendor.Lib

/-- How a tag and a length are written in front of a value; lengths from `limit` on do not fit. -/
structure Header (τ α : Type*) where
  write : τ → ℕ → List α
  read : List α → Option (τ × ℕ × List α)
  limit : ℕ
  write_ne_nil : ∀ t n, write t n ≠ []
  read_write : ∀ t n rest, n < limit → read (write t n ++ rest) = some (t, n, rest)
  write_read : ∀ bs t n rest, read bs = some (t, n, rest) → bs = write t n ++ rest ∧ n < limit

/-- A tag and a value. -/
structure Item (τ α : Type*) where
  tag : τ
  value : List α
deriving DecidableEq

namespace Header

variable {τ α : Type*} (H : Header τ α)

/-- An item as it is written. -/
def item (it : Item τ α) : List α := H.write it.tag it.value.length ++ it.value

/-- Items one after the other. -/
def encode (its : List (Item τ α)) : List α := its.flatMap H.item

/-- The items are read one after the other, at most so many of them. -/
def decodeUpTo : ℕ → List α → Option (List (Item τ α))
  | _, [] => some []
  | 0, _ :: _ => none
  | fuel + 1, b :: bs =>
    (H.read (b :: bs)).bind fun r =>
      if r.2.1 ≤ r.2.2.length then
        (decodeUpTo fuel (r.2.2.drop r.2.1)).map (⟨r.1, r.2.2.take r.2.1⟩ :: ·)
      else none

/-- There are not more items than there is to be read. -/
def decode (bs : List α) : Option (List (Item τ α)) := H.decodeUpTo bs.length bs

variable {H} {it : Item τ α} {its : List (Item τ α)} {bs rest : List α} {fuel : ℕ}

@[simp] lemma encode_nil : H.encode [] = [] := rfl

lemma encode_cons : H.encode (it :: its) = H.item it ++ H.encode its := rfl

lemma encode_append (its its' : List (Item τ α)) :
    H.encode (its ++ its') = H.encode its ++ H.encode its' := List.flatMap_append

lemma length_item_pos (it : Item τ α) : 0 < (H.item it).length := by
  rw [item, List.length_append]
  have := List.length_pos_iff.mpr (H.write_ne_nil it.tag it.value.length)
  omega

/-- An item in front is read, with whatever stands behind it. -/
lemma decodeUpTo_item (hfit : it.value.length < H.limit) :
    H.decodeUpTo (fuel + 1) (H.item it ++ rest) = (H.decodeUpTo fuel rest).map (it :: ·) := by
  have hread : H.read (H.item it ++ rest) = some (it.tag, it.value.length, it.value ++ rest) := by
    rw [item, List.append_assoc]
    exact H.read_write _ _ _ hfit
  obtain ⟨b, bs, hbs⟩ := List.exists_cons_of_ne_nil
    (List.length_pos_iff.mp (length_item_pos (H := H) it))
  rw [hbs] at hread ⊢
  rw [List.cons_append, decodeUpTo, ← List.cons_append, hread, Option.bind_some,
    if_pos (by rw [List.length_append]; exact Nat.le_add_right _ _)]
  simp

lemma decodeUpTo_encode (hfit : ∀ it ∈ its, it.value.length < H.limit)
    (hfuel : its.length ≤ fuel) : H.decodeUpTo fuel (H.encode its) = some its := by
  induction its generalizing fuel with
  | nil => cases fuel <;> rfl
  | cons it its ih =>
    obtain ⟨fuel, rfl⟩ := Nat.exists_eq_add_of_le' (Nat.lt_of_lt_of_le its.length.succ_pos hfuel)
    rw [encode_cons, decodeUpTo_item (hfit it List.mem_cons_self),
      ih (fun i hi => hfit i (List.mem_cons_of_mem _ hi)) (by simpa using hfuel)]
    rfl

lemma length_le_encode (its : List (Item τ α)) : its.length ≤ (H.encode its).length := by
  induction its with
  | nil => exact Nat.zero_le _
  | cons it its ih =>
    have := length_item_pos (H := H) it
    rw [encode_cons, List.length_append, List.length_cons]
    omega

/-- What is written is read. -/
theorem decode_encode (hfit : ∀ it ∈ its, it.value.length < H.limit) :
    H.decode (H.encode its) = some its := decodeUpTo_encode hfit (length_le_encode its)

/-- What is read was written. -/
theorem encode_of_decodeUpTo (h : H.decodeUpTo fuel bs = some its) :
    H.encode its = bs ∧ ∀ it ∈ its, it.value.length < H.limit := by
  induction fuel generalizing bs its with
  | zero =>
    cases bs with
    | nil =>
      cases h
      exact ⟨rfl, by simp⟩
    | cons b bs => cases h
  | succ fuel ih =>
    cases bs with
    | nil =>
      cases h
      exact ⟨rfl, by simp⟩
    | cons b bs =>
      rw [decodeUpTo, Option.bind_eq_some_iff] at h
      obtain ⟨⟨t, n, rest⟩, hread, h⟩ := h
      dsimp only at h
      obtain ⟨hbs, hn⟩ := H.write_read _ _ _ _ hread
      split_ifs at h with hle
      rw [Option.map_eq_some_iff] at h
      obtain ⟨its', htail, rfl⟩ := h
      obtain ⟨hencode, hfit⟩ := ih htail
      have hlen : (rest.take n).length = n := by
        rw [List.length_take, Nat.min_eq_left hle]
      refine ⟨?_, List.forall_mem_cons.mpr ⟨by rw [hlen]; exact hn, hfit⟩⟩
      rw [encode_cons, hencode, item, hlen, List.append_assoc, List.take_append_drop, hbs]

end Header

end MealVendor.Lib
