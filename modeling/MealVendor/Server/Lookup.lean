import MealVendor.Model.Hex
import MealVendor.Model.Lookup
import MealVendor.Server.Receiver

/-!
# The items of a reply

A reply has two bytes for the command, two for the length, and items.  `GetData` takes the first
byte that equals the tag, from the command on, and as many bytes as the items have.  So it finds an
item if nothing before it looks like its tag and it does not begin in the last four bytes.
-/

namespace MealVendor

/-- An item: its tag, its length in two bytes, and its value. -/
structure TlvItem where
  tag : UInt8
  value : List UInt8
  short : value.length < 65536

def TlvItem.bytes (it : TlvItem) : List UInt8 :=
  it.tag :: hlIntToBuffer (UInt16.ofNat it.value.length) ++ it.value

/-- A well-formed reply in `rx1Buf`, and what is in the memory behind it. -/
structure TlvReply where
  command0 : UInt8
  command1 : UInt8
  items : List TlvItem
  behind : ℕ → UInt8
  fits : 4 + (items.flatMap TlvItem.bytes).length ≤ 512

namespace TlvReply

variable (r : TlvReply) (tag : UInt8)

def payload : List UInt8 := r.items.flatMap TlvItem.bytes

def bytes : List UInt8 :=
  [r.command0, r.command1] ++ hlIntToBuffer (UInt16.ofNat r.payload.length) ++ r.payload

def rx1Buf : ℕ → UInt8 := overwrite r.behind 0 r.bytes

/-- The value of the first item with the tag, or nothing. -/
def value : List UInt8 := ((r.items.find? fun it => it.tag == tag).map TlvItem.value).getD []

/-- The value of the first item with the tag is stored and its length returned, nothing if there is
none, and the destination can hold it. -/
structure LooksUp (dest : CompareDest) : Prop where
  value : compareGetData r.rx1Buf tag = r.value tag
  inside : (compareGetData r.rx1Buf tag).length ≤ dest.size

/-- Byte `i` is the first that equals the tag, among those that are looked at. -/
structure FirstAt (i : ℕ) : Prop where
  lt : i < r.payload.length
  eq : r.rx1Buf i = tag
  first : ∀ j < i, r.rx1Buf j ≠ tag

/-- Two bytes with the length of `v` and then `v` stand behind byte `i`. -/
structure Holds (i : ℕ) (v : List UInt8) : Prop where
  length : word (r.rx1Buf (i + 1)) (r.rx1Buf (i + 2)) = v.length
  value : ∀ j, (h : j < v.length) → r.rx1Buf (i + j + 3) = v[j]

/-- When the value is found: the first byte that equals the tag is that of the first item with it;
or another byte, with the same length and value behind it; or there is no such byte and no value. -/
inductive Found : Prop
  | own (pre : List TlvItem) (it : TlvItem) (post : List TlvItem)
      (items : r.items = pre ++ it :: post) (eq : it.tag = tag)
      (early : 4 + (pre.flatMap TlvItem.bytes).length < r.payload.length)
      (first : ∀ j < 4 + (pre.flatMap TlvItem.bytes).length, r.rx1Buf j ≠ tag)
  | alike (i : ℕ) (first : r.FirstAt tag i) (holds : r.Holds i (r.value tag))
  | nothing (none : ∀ i < r.payload.length, r.rx1Buf i ≠ tag) (value : r.value tag = [])

variable {r tag}

/-! ## What stands where -/

/-- The byte `k` of an item, and what comes behind the reply is not looked at for it. -/
lemma rx1Buf_item {pre post : List TlvItem} {it : TlvItem} (h : r.items = pre ++ it :: post)
    {k : ℕ} (hk : k < it.bytes.length) :
    r.rx1Buf (4 + (pre.flatMap TlvItem.bytes).length + k) = it.bytes[k] := by
  have hbytes : r.bytes = ([r.command0, r.command1] ++
      hlIntToBuffer (UInt16.ofNat r.payload.length) ++ pre.flatMap TlvItem.bytes) ++
        (it.bytes ++ post.flatMap TlvItem.bytes) := by
    rw [bytes, payload, h, List.flatMap_append, List.flatMap_cons, List.append_assoc,
      List.append_assoc, List.append_assoc]
  have hlen : ([r.command0, r.command1] ++ hlIntToBuffer (UInt16.ofNat r.payload.length) ++
      pre.flatMap TlvItem.bytes).length = 4 + (pre.flatMap TlvItem.bytes).length := by
    simp [hlIntToBuffer]
    omega
  have hget : r.bytes[4 + (pre.flatMap TlvItem.bytes).length + k]? = some it.bytes[k] := by
    rw [hbytes, ← hlen, List.getElem?_append_right (Nat.le_add_right _ _), Nat.add_sub_cancel_left,
      List.getElem?_append_left hk, List.getElem?_eq_getElem hk]
  rw [rx1Buf, overwrite, if_neg (Nat.not_lt_zero _), Nat.sub_zero, hget, Option.getD_some]

/-- A length in two bytes is read back. -/
lemma word_length {n : ℕ} (h : n < 65536) :
    word (UInt16.ofNat n >>> 8).toUInt8 (UInt16.ofNat n &&& 0xff).toUInt8 = n := by
  rw [word_hlIntToBuffer]
  exact UInt16.toNat_ofNat_of_lt' h

/-- The length that `MealDataCompareFun` takes from the reply is that of the items. -/
lemma lenght_eq : (hlBufferToInit (r.rx1Buf 2) (r.rx1Buf 3)).toNat = r.payload.length := by
  have hfits : r.payload.length < 65536 := by
    have := r.fits
    rw [payload]
    omega
  rw [hlBufferToInit_toNat]
  exact word_length hfits

/-- Behind the tag of an item stand its length and its value. -/
lemma holds_item {pre post : List TlvItem} {it : TlvItem} (h : r.items = pre ++ it :: post) :
    r.Holds (4 + (pre.flatMap TlvItem.bytes).length) it.value := by
  have hlen : it.bytes.length = it.value.length + 3 := by
    simp [TlvItem.bytes, hlIntToBuffer]
  constructor
  · rw [rx1Buf_item h (by omega), rx1Buf_item h (by omega)]
    exact word_length it.short
  · intro j hj
    rw [Nat.add_assoc _ j 3, rx1Buf_item h (by omega)]
    rfl

/-! ## What is found -/

lemma compareGetData_of_first {i : ℕ} {v : List UInt8} (hfirst : r.FirstAt tag i) :
    compareGetData r.rx1Buf tag = v ↔ r.Holds i v := by
  have hfind : (List.range r.payload.length).find? (fun i => r.rx1Buf i == tag) = some i := by
    rw [List.find?_range_eq_some]
    exact ⟨by simpa using hfirst.eq, List.mem_range.mpr hfirst.lt,
      fun j hj => by simpa using hfirst.first j hj⟩
  rw [compareGetData, getData, lenght_eq, hfind]
  dsimp only
  rw [hlBufferToInit_toNat]
  constructor
  · rintro rfl
    exact ⟨by simp, fun j hj => by simp⟩
  · intro hholds
    refine List.ext_getElem (by simp [hholds.length]) fun j hj hjv => ?_
    simpa using hholds.value j hjv

lemma compareGetData_of_none (h : ∀ i < r.payload.length, r.rx1Buf i ≠ tag) :
    compareGetData r.rx1Buf tag = [] := by
  have hfind : (List.range r.payload.length).find? (fun i => r.rx1Buf i == tag) = none := by
    rw [List.find?_range_eq_none]
    simpa using h
  rw [compareGetData, getData, lenght_eq, hfind]

/-- The first item with a tag that does not occur before it. -/
lemma value_eq {pre post : List TlvItem} {it : TlvItem} (h : r.items = pre ++ it :: post)
    (htag : it.tag = tag)
    (hfirst : ∀ j < 4 + (pre.flatMap TlvItem.bytes).length, r.rx1Buf j ≠ tag) :
    r.value tag = it.value := by
  have hpre : ∀ x ∈ pre, x.tag ≠ tag := by
    intro x hx
    obtain ⟨a, b, rfl⟩ := List.append_of_mem hx
    have hx : r.items = a ++ x :: (b ++ it :: post) := by
      rw [h, List.append_assoc, List.cons_append]
    have hbyte := rx1Buf_item hx (k := 0) (by simp [TlvItem.bytes])
    rw [Nat.add_zero] at hbyte
    intro htag
    refine hfirst _ ?_ (hbyte.trans htag)
    simp [TlvItem.bytes]
  have hfind : r.items.find? (fun it => it.tag == tag) = some it := by
    rw [h, List.find?_append, List.find?_eq_none.mpr (by simpa using hpre)]
    simp [htag]
  rw [value, hfind]
  rfl

lemma value_found_iff : compareGetData r.rx1Buf tag = r.value tag ↔ r.Found tag := by
  constructor
  · intro h
    by_cases hany : ∃ i < r.payload.length, r.rx1Buf i = tag
    · classical
      have hspec := Nat.find_spec hany
      have hfirst : r.FirstAt tag (Nat.find hany) := by
        refine ⟨hspec.1, hspec.2, fun j hj htag => ?_⟩
        exact Nat.find_min hany hj ⟨hj.trans hspec.1, htag⟩
      exact .alike _ hfirst ((compareGetData_of_first hfirst).mp h)
    · have hnone : ∀ i < r.payload.length, r.rx1Buf i ≠ tag :=
        fun i hi heq => hany ⟨i, hi, heq⟩
      exact .nothing hnone (h.symm.trans (compareGetData_of_none hnone))
  · rintro (⟨pre, it, post, hitems, htag, hearly, hfirst⟩ | ⟨i, hfirst, hholds⟩ | ⟨hnone, hvalue⟩)
    · have hat : r.FirstAt tag (4 + (pre.flatMap TlvItem.bytes).length) := by
        refine ⟨hearly, ?_, hfirst⟩
        rw [← htag]
        exact rx1Buf_item hitems (k := 0) (by simp [TlvItem.bytes])
      rw [value_eq hitems htag hfirst]
      exact (compareGetData_of_first hat).mpr (holds_item hitems)
    · exact (compareGetData_of_first hfirst).mpr hholds
    · rw [hvalue]
      exact compareGetData_of_none hnone

/-- For every well-formed reply and every tag, the value is looked up right exactly if it is found
and the destination can hold it. -/
theorem looksUp_iff (r : TlvReply) (tag : UInt8) (dest : CompareDest) :
    r.LooksUp tag dest ↔ r.Found tag ∧ (r.value tag).length ≤ dest.size := by
  rw [← value_found_iff]
  constructor
  · intro h
    exact ⟨h.value, h.value ▸ h.inside⟩
  · rintro ⟨hvalue, hsize⟩
    exact ⟨hvalue, hvalue ▸ hsize⟩

/-- The status alone: the item begins in the last four bytes. -/
theorem status_not_found : ¬ ∀ (r : TlvReply) (tag : UInt8) (dest : CompareDest),
    r.LooksUp tag dest := by
  intro h
  have hvalue := (h ⟨0x07, 0x10, [⟨0xc0, [0x01], by decide⟩], fun _ => 0, by decide⟩ 0xc0
    .returnDataLenght).value
  revert hvalue
  decide +kernel

end TlvReply

end MealVendor
