import MealVendor.Model.Card
import Mathlib.Tactic.Common

/-!
# Records are read back

A record is read back as it was written exactly where no value in it contains a byte that
`HextoChar` takes for a separator or for the flag: `','`, `'n'` and `'y'`.
-/

namespace MealVendor

/-- `HextoChar` does not write this byte out as it does others. -/
def Special (b : UInt8) : Prop := b = comma ∨ b = charN ∨ b = charY

instance (b : UInt8) : Decidable (Special b) := inferInstanceAs (Decidable (_ ∨ _ ∨ _))

/-- None of the bytes is special. -/
def Plain (f : List UInt8) : Prop := ∀ b ∈ f, ¬ Special b

instance decidablePlain (f : List UInt8) : Decidable (Plain f) :=
  List.decidableBAll (fun b => ¬ Special b) f

/-! ## Hexadecimal text -/

lemma comma_notMem_hexByte (b : UInt8) : comma ∉ hexByte b := by
  revert b
  refine forall_byte ?_
  decide +kernel

lemma hexByte_flatMap_length (f : List UInt8) : (f.flatMap hexByte).length = 2 * f.length := by
  induction f with
  | nil => rfl
  | cons b f ih =>
    rw [List.flatMap_cons, List.length_append, ih, List.length_cons]
    change 2 + 2 * f.length = 2 * (f.length + 1)
    omega

/-- `StringToHexGroup1` reads the digits of a list of bytes. -/
lemma stringToHexFrom_hex {inStr : ℕ → UInt8} {f : List UInt8} {i : ℕ}
    (h : ∀ j < 2 * f.length, inStr (i + j) = (f.flatMap hexByte).getD j 0) :
    stringToHexFrom inStr f.length i = (true, f) := by
  induction f generalizing i with
  | nil => rfl
  | cons b f ih =>
    have h0 : inStr i = hexDigit ((b &&& 0xf0) >>> 4) := h 0 (by rw [List.length_cons]; omega)
    have h1 : inStr (i + 1) = hexDigit (b &&& 0x0f) := h 1 (by rw [List.length_cons]; omega)
    have hrest : stringToHexFrom inStr f.length (i + 2) = (true, f) := by
      refine ih fun j hj => ?_
      have hj2 := h (j + 2) (by rw [List.length_cons]; omega)
      rw [show i + 2 + j = i + (j + 2) by omega, hj2]
      rfl
    rw [List.length_cons, stringToHexFrom, h0, h1, hexValue_high, hexValue_low]
    dsimp only
    rw [hrest, high_or_low]

/-- A pair that does not begin with a digit stops it. -/
lemma stringToHexFrom_ne {inStr : ℕ → UInt8} {k i j : ℕ} (hj : j < k)
    (h : hexValue (inStr (i + 2 * j)) = none) : (stringToHexFrom inStr k i).1 = false := by
  induction k generalizing i j with
  | zero => omega
  | succ k ih =>
    rw [stringToHexFrom]
    rcases Nat.eq_zero_or_pos j with rfl | hpos
    · rw [Nat.mul_zero, Nat.add_zero] at h
      rw [h]
    · have hrest : (stringToHexFrom inStr k (i + 2)).1 = false := by
        refine ih (j := j - 1) (by omega) ?_
        rw [show i + 2 + 2 * (j - 1) = i + 2 * j by omega]
        exact h
      cases hexValue (inStr i) with
      | none => rfl
      | some hByte =>
        cases hexValue (inStr (i + 1)) with
        | none => rfl
        | some lByte => exact hrest

/-! ## Items -/

/-- How an item is written with `temp` commas before it. -/
def written (temp : ℕ) (f : List UInt8) : List UInt8 :=
  if temp = 9 then f else f.flatMap hexByte

section Items

variable {temp cnt k : ℕ} {f s rest : List UInt8}

lemma comma_notMem_written (temp : ℕ) (hf : Plain f) : comma ∉ written temp f := by
  rw [written]
  split_ifs
  · exact fun hmem => hf comma hmem (.inl rfl)
  · intro hmem
    obtain ⟨b, -, hb⟩ := List.mem_flatMap.mp hmem
    exact comma_notMem_hexByte b hb

lemma hextoCharFrom_plain (hf : Plain f) (rest : List UInt8) :
    hextoCharFrom temp (f ++ rest) = (hextoCharFrom temp rest).map (written temp f ++ ·) := by
  induction f with
  | nil =>
    have hnil : written temp [] = [] := by
      rw [written]
      split_ifs <;> rfl
    rw [hnil, List.nil_append]
    cases hextoCharFrom temp rest <;> rfl
  | cons b f ih =>
    obtain ⟨hb, hf⟩ := List.forall_mem_cons.mp hf
    have hcomma : b ≠ comma := fun h => hb (.inl h)
    have hflag : ¬ (b = charN ∨ b = charY) := fun h => hb (.inr h)
    rw [List.cons_append, hextoCharFrom, if_neg hcomma, if_neg hflag, ih hf]
    by_cases htemp : temp = 9
    · rw [if_neg (not_not_intro htemp), written, written, if_pos htemp, if_pos htemp]
      cases hextoCharFrom temp rest <;> rfl
    · rw [if_pos htemp, written, written, if_neg htemp, if_neg htemp, List.flatMap_cons]
      cases hextoCharFrom temp rest <;> rfl

lemma hextoCharFrom_comma (rest : List UInt8) :
    hextoCharFrom temp (comma :: rest) = (hextoCharFrom (temp + 1) rest).map (comma :: ·) := by
  rw [hextoCharFrom, if_pos rfl]

/-- Every byte is written as at most two. -/
lemma hextoCharFrom_length {bs t : List UInt8} (h : hextoCharFrom temp bs = some t) :
    t.length ≤ 2 * bs.length := by
  induction bs generalizing temp t with
  | nil => cases h
  | cons b bs ih =>
    rw [List.length_cons]
    rw [hextoCharFrom] at h
    split_ifs at h
    · obtain ⟨u, hu, rfl⟩ := Option.map_eq_some_iff.mp h
      have := ih hu
      rw [List.length_cons]
      omega
    · cases h
      change 2 ≤ _
      omega
    · have := ih h
      omega
    · obtain ⟨u, hu, rfl⟩ := Option.map_eq_some_iff.mp h
      have := ih hu
      rw [List.length_cons, List.length_cons]
      omega
    · obtain ⟨u, hu, rfl⟩ := Option.map_eq_some_iff.mp h
      have := ih hu
      rw [List.length_cons]
      omega

/-- Items before the one that is looked for are passed over. -/
lemma searchSeparatorFrom_skip (hs : comma ∉ s) (hk : cnt + 1 < k) :
    searchSeparatorFrom k cnt (s ++ comma :: rest) = searchSeparatorFrom k (cnt + 1) rest := by
  induction s with
  | nil => rw [List.nil_append, searchSeparatorFrom, if_pos rfl, if_neg (by omega)]
  | cons c s ih =>
    rw [List.mem_cons, not_or] at hs
    rw [List.cons_append, searchSeparatorFrom, if_neg (Ne.symm hs.1), if_neg (by omega),
      if_neg (by omega)]
    exact ih hs.2

/-- The item that is looked for is what stands before its comma. -/
lemma searchSeparatorFrom_item (hs : comma ∉ s) (hk : cnt + 1 ≠ 18) :
    searchSeparatorFrom (cnt + 1) cnt (s ++ comma :: rest) = some s := by
  induction s with
  | nil => rw [List.nil_append, searchSeparatorFrom, if_pos rfl, if_pos rfl]
  | cons c s ih =>
    rw [List.mem_cons, not_or] at hs
    rw [List.cons_append, searchSeparatorFrom, if_neg (Ne.symm hs.1), if_pos rfl, if_neg hk,
      ih hs.2]
    rfl

/-- Without a comma there is no end to it. -/
lemma searchSeparatorFrom_none (hs : comma ∉ s) (hk : cnt + 1 ≠ 18) :
    searchSeparatorFrom (cnt + 1) cnt s = none := by
  induction s with
  | nil => rfl
  | cons c s ih =>
    rw [List.mem_cons, not_or] at hs
    rw [searchSeparatorFrom, if_neg (Ne.symm hs.1), if_pos rfl, if_neg hk, ih hs.2]
    rfl

end Items

/-- Items in a buffer, each with a comma behind it. -/
def joined (its : List (List UInt8)) : List UInt8 := its.flatMap (· ++ [comma])

/-- The text that is written for them. -/
def texts : ℕ → List (List UInt8) → List UInt8
  | _, [] => []
  | temp, f :: its => written temp f ++ comma :: texts (temp + 1) its

section Texts

variable {its : List (List UInt8)} {temp k : ℕ}

lemma joined_cons_append (f rest : List UInt8) (its : List (List UInt8)) :
    joined (f :: its) ++ rest = f ++ comma :: (joined its ++ rest) := by
  rw [joined]
  rw [List.flatMap_cons, List.append_assoc, List.append_assoc]
  rfl

lemma hextoCharFrom_joined (h : ∀ f ∈ its, Plain f) (rest : List UInt8) :
    hextoCharFrom temp (joined its ++ rest) =
      (hextoCharFrom (temp + its.length) rest).map (texts temp its ++ ·) := by
  induction its generalizing temp with
  | nil =>
    change hextoCharFrom temp rest = (hextoCharFrom temp rest).map fun t => t
    rw [Option.map_id']
  | cons f its ih =>
    obtain ⟨hf, h⟩ := List.forall_mem_cons.mp h
    rw [joined_cons_append, hextoCharFrom_plain hf, hextoCharFrom_comma, ih h, List.length_cons,
      show temp + 1 + its.length = temp + (its.length + 1) by omega]
    cases hextoCharFrom (temp + (its.length + 1)) rest with
    | none => rfl
    | some t =>
      simp only [Option.map_some, texts, List.append_assoc, List.cons_append]

/-- Every item is found. -/
lemma searchSeparatorFrom_texts (temp : ℕ) (h : ∀ f ∈ its, Plain f) {i : ℕ} {f : List UInt8}
    (hi : its[i]? = some f) (hk : temp + i + 1 ≠ 18) (t : List UInt8) :
    searchSeparatorFrom (temp + i + 1) temp (texts temp its ++ t) =
      some (written (temp + i) f) := by
  induction its generalizing temp i with
  | nil => cases hi
  | cons g its ih =>
    obtain ⟨hg, h⟩ := List.forall_mem_cons.mp h
    rw [texts, List.append_assoc, List.cons_append]
    cases i with
    | zero =>
      obtain rfl : g = f := Option.some.inj hi
      exact searchSeparatorFrom_item (comma_notMem_written _ hg) hk
    | succ i =>
      rw [searchSeparatorFrom_skip (comma_notMem_written _ hg) (by omega)]
      have hrest := ih (temp + 1) h hi (by omega)
      rw [show temp + (i + 1) = temp + 1 + i by omega]
      exact hrest

/-- Behind the items the search goes on. -/
lemma searchSeparatorFrom_behind (temp : ℕ) (h : ∀ f ∈ its, Plain f)
    (hk : temp + its.length < k) (t : List UInt8) :
    searchSeparatorFrom k temp (texts temp its ++ t) =
      searchSeparatorFrom k (temp + its.length) t := by
  induction its generalizing temp with
  | nil => rfl
  | cons g its ih =>
    obtain ⟨hg, h⟩ := List.forall_mem_cons.mp h
    rw [List.length_cons] at hk ⊢
    rw [texts, List.append_assoc, List.cons_append,
      searchSeparatorFrom_skip (comma_notMem_written _ hg) (by omega), ih (temp + 1) h (by omega)]
    congr 1
    omega

end Texts

/-! ## The items of a record -/

namespace Net

/-- The items of a record, in their order: the head, the values, and the end. -/
def items (n : Net) : List (List UInt8) :=
  [0x02, 0x80, 0x00, 0x00, 0x5d] :: recordGlobs.map n.value ++ [[0x03, 0x00, 0x00]]

lemma value_length (n : Net) (g : Glob) : (n.value g).length = g.size - 3 := by
  rw [value, bytes]
  rw [List.length_drop, List.length_map, List.length_range]

lemma joined_values_length (n : Net) (gs : List Glob) :
    (joined (gs.map n.value)).length = (gs.map fun g => g.size - 3 + 1).sum := by
  induction gs with
  | nil => rfl
  | cons g gs ih =>
    rw [joined] at ih ⊢
    rw [List.map_cons, List.flatMap_cons, List.length_append, List.length_append, ih, value_length,
      List.map_cons, List.sum_cons]
    rfl

lemma sendBuf_eq (n : Net) (flag : UInt8) : n.sendBuf flag = joined n.items ++ [flag] := by
  have hvalues : recordGlobs.flatMap n.memCopy01 = joined (recordGlobs.map n.value) := by
    unfold joined
    rw [List.flatMap_map]
    rfl
  have hlen : (joined (recordGlobs.map n.value)).length = 92 :=
    (n.joined_values_length recordGlobs).trans (by decide)
  have hsize : UInt16.ofNat (([0x02, 0x80, 0x00, 0x00, 0x00, comma] ++
      joined (recordGlobs.map n.value) ++ [0x03, 0x00, 0x00]).length - 8) = 93 := by
    rw [List.length_append, List.length_append, hlen]
    rfl
  have hitems : joined n.items = [0x02, 0x80, 0x00, 0x00, 0x5d, comma] ++
      joined (recordGlobs.map n.value) ++ [0x03, 0x00, 0x00, comma] := by
    unfold items joined
    rw [List.cons_append, List.flatMap_cons, List.flatMap_append]
    simp
  unfold sendBuf
  dsimp only
  rw [hvalues, hsize, hitems]
  simp [hlIntToBuffer]
  decide

lemma sendBuf_length (n : Net) (flag : UInt8) : (n.sendBuf flag).length = 103 := by
  have hlen : (joined (recordGlobs.map n.value)).length = 92 :=
    (n.joined_values_length recordGlobs).trans (by decide)
  rw [sendBuf_eq]
  rw [items, joined] at *
  rw [List.cons_append, List.flatMap_cons, List.flatMap_append]
  simp only [List.length_append, hlen]
  rfl

/-- A record has 512 bytes. -/
lemma recBuf_length {n : Net} {flag : UInt8} {p : List UInt8} (h : n.recBuf flag = some p) :
    p.length = 512 := by
  obtain ⟨t, ht, rfl⟩ := Option.map_eq_some_iff.mp h
  have hle := hextoCharFrom_length ht
  rw [sendBuf_length] at hle
  rw [List.length_append, List.length_replicate]
  omega

end Net

/-- What is read back from the record `text` is what the arrays `m` held, with the flag
`erroFlag`, whatever stood in `ReadBuf` before. -/
structure RoundTrip (m : Net) (erroFlag : UInt8) (text : List UInt8) : Prop where
  items : ∀ (k : ℕ) (f : List UInt8) (n : Net), k < 16 → k ≠ 9 → m.items[k]? = some f →
    n.bytes .readSdBuff = text → ∃ n', n.search (k + 1) = some n' ∧
      stringToHexGroup1 (n'.cell .readBuf) (2 * f.length) = (true, f)
  name : ∀ n : Net, n.bytes .readSdBuff = text → ∃ n', n.search 10 = some n' ∧
    n'.first .readBuf 20 = m.value .mealName
  flag : ∀ n : Net, n.bytes .readSdBuff = text → ∃ n', n.search 18 = some n' ∧
    n'.cell .readBuf 0 = erroFlag
  place : text[167]? = some erroFlag

/-! ## Plain values -/

/-- The length of the text of items with these lengths. -/
def textsLength : ℕ → List ℕ → ℕ
  | _, [] => 0
  | temp, k :: ks => (if temp = 9 then k else 2 * k) + 1 + textsLength (temp + 1) ks

lemma texts_length (temp : ℕ) (its : List (List UInt8)) :
    (texts temp its).length = textsLength temp (its.map List.length) := by
  induction its generalizing temp with
  | nil => rfl
  | cons f its ih =>
    rw [texts, List.length_append, List.length_cons, ih, List.map_cons, textsLength, written]
    split_ifs
    · omega
    · rw [hexByte_flatMap_length]
      omega

lemma Net.items_length (m : Net) : m.items.length = 17 := rfl

lemma Net.texts_items_length (m : Net) : (texts 0 m.items).length = 167 := by
  have hmap : m.items.map List.length = [5, 4, 7, 3, 3, 4, 6, 4, 1, 20, 6, 1, 6, 2, 2, 8, 3] := by
    simp [Net.items, Net.recordGlobs, Net.value_length, Glob.size]
  rw [texts_length, hmap]
  rfl

/-- Without special bytes everything is read back. -/
lemma roundTrip_of_plain {m : Net} {flag : UInt8} (hflag : flag = charN ∨ flag = charY)
    (h : ∀ f ∈ m.items, Plain f) : ∃ text, m.recBuf flag = some text ∧ RoundTrip m flag text := by
  have hne : flag ≠ comma := by rcases hflag with rfl | rfl <;> decide
  have hend : hextoCharFrom 17 [flag] = some [flag, 0x0d] := by
    rw [hextoCharFrom, if_neg hne, if_pos hflag, if_pos (by decide)]
  have htext : hextoChar (m.sendBuf flag) = some (texts 0 m.items ++ [flag, 0x0d]) := by
    rw [Net.sendBuf_eq, hextoChar, hextoCharFrom_joined h, m.items_length, Nat.zero_add, hend]
    rfl
  obtain ⟨zeros, hrec⟩ : ∃ zeros,
      m.recBuf flag = some (texts 0 m.items ++ ([flag, 0x0d] ++ zeros)) := by
    refine ⟨List.replicate (512 - (texts 0 m.items ++ [flag, 0x0d]).length) 0, ?_⟩
    rw [Net.recBuf, htext, Option.map_some, List.append_assoc]
  refine ⟨_, hrec, ?_, ?_, ?_, ?_⟩
  · -- the fields in hexadecimal digits
    intro k f n hk hk9 hf hn
    have hsearch := searchSeparatorFrom_texts 0 h hf (by omega) ([flag, 0x0d] ++ zeros)
    rw [Nat.zero_add, ← hn, written, if_neg hk9] at hsearch
    refine ⟨_, by rw [Net.search, searchSeparator, hsearch]; rfl, ?_⟩
    rw [stringToHexGroup1, show (2 * f.length + 1) / 2 = f.length by omega]
    refine stringToHexFrom_hex fun j hj => ?_
    rw [Nat.zero_add, Net.copy_cell_self, if_pos (by rw [hexByte_flatMap_length]; omega),
      Nat.sub_zero]
  · -- the name is stored as it is
    intro n hn
    have hsearch := searchSeparatorFrom_texts 0 (i := 9) (f := m.value .mealName) h rfl
      (by decide) ([flag, 0x0d] ++ zeros)
    rw [← hn, written, if_pos rfl] at hsearch
    refine ⟨_, by rw [Net.search, searchSeparator, hsearch]; rfl, ?_⟩
    exact n.first_copy .readBuf (m.value .mealName)
  · -- the flag behind the last separator
    intro n hn
    have hsearch := searchSeparatorFrom_behind 0 (k := 18) h
      (by rw [m.items_length]; decide) ([flag, 0x0d] ++ zeros)
    rw [← hn, m.items_length, List.cons_append, searchSeparatorFrom, if_neg hne, if_pos rfl,
      if_pos rfl] at hsearch
    refine ⟨_, by rw [Net.search, searchSeparator, hsearch]; rfl, ?_⟩
    rw [Net.copy_cell_self]
    rfl
  · rw [List.getElem?_append_right (by rw [m.texts_items_length]), m.texts_items_length]
    rfl

/-! ## Special bytes -/

/-- The first element with a property. -/
lemma exists_first {α : Type*} {P : α → Prop} {l : List α} (h : ¬ ∀ a ∈ l, ¬ P a) :
    ∃ l₁ a l₂, l = l₁ ++ a :: l₂ ∧ (∀ b ∈ l₁, ¬ P b) ∧ P a := by
  induction l with
  | nil => exact absurd (fun a ha => absurd ha List.not_mem_nil) h
  | cons b l ih =>
    by_cases hb : P b
    · exact ⟨[], b, l, rfl, fun a ha => absurd ha List.not_mem_nil, hb⟩
    · obtain ⟨l₁, a, l₂, rfl, h₁, ha⟩ := ih fun hl => h (List.forall_mem_cons.mpr ⟨hb, hl⟩)
      exact ⟨b :: l₁, a, l₂, rfl, List.forall_mem_cons.mpr ⟨hb, h₁⟩, ha⟩

/-- Whatever the name of the meal is, there is nothing special in its text. -/
lemma hextoCharFrom_name {f rest t : List UInt8}
    (h : hextoCharFrom 9 (f ++ comma :: rest) = some t) :
    ∃ seg t', t = seg ++ comma :: t' ∧ Plain seg := by
  induction f generalizing t with
  | nil =>
    rw [List.nil_append, hextoCharFrom_comma] at h
    obtain ⟨t', -, rfl⟩ := Option.map_eq_some_iff.mp h
    exact ⟨[], t', rfl, fun b hb => absurd hb List.not_mem_nil⟩
  | cons b f ih =>
    rw [List.cons_append, hextoCharFrom] at h
    by_cases hcomma : b = comma
    · rw [if_pos hcomma] at h
      obtain ⟨t', -, rfl⟩ := Option.map_eq_some_iff.mp h
      exact ⟨[], t', by rw [hcomma]; rfl, fun b hb => absurd hb List.not_mem_nil⟩
    · rw [if_neg hcomma] at h
      by_cases hflag : b = charN ∨ b = charY
      · rw [if_pos hflag, if_neg (not_not_intro rfl)] at h
        exact ih h
      · rw [if_neg hflag, if_neg (not_not_intro rfl)] at h
        obtain ⟨u, hu, rfl⟩ := Option.map_eq_some_iff.mp h
        obtain ⟨seg, t', rfl, hseg⟩ := ih hu
        refine ⟨b :: seg, t', rfl, List.forall_mem_cons.mpr ⟨?_, hseg⟩⟩
        rintro (hb | hb)
        · exact hcomma hb
        · exact hflag hb

/-- The record `text` in `ReadSdBuff`, and nothing in `ReadBuf`. -/
def Net.holding (text : List UInt8) : Net :=
  { Net.start with cell := fun g i => if g = .readSdBuff then text.getD i 0 else 0 }

lemma Net.holding_bytes {text : List UInt8} (h : text.length = 512) :
    (Net.holding text).bytes .readSdBuff = text := by
  rw [bytes]
  refine List.ext_getElem (by rw [List.length_map, List.length_range, h]; rfl) fun i hi hi' => ?_
  rw [List.getElem_map, List.getElem_range]
  change (if Glob.readSdBuff = Glob.readSdBuff then text.getD i 0 else 0) = text[i]
  rw [if_pos rfl, List.getD_eq_getElem _ _ hi']

/-- Where nothing special comes back, a special byte does not. -/
lemma name_ne {n : Net} {seg a b : List UInt8} {s : UInt8} (hseg : Plain seg) (hs : Special s)
    (hcell : ∀ i, n.cell .readBuf i = seg.getD i 0) (ha : a.length < 20) :
    n.first .readBuf 20 ≠ a ++ s :: b := by
  intro hname
  have hget : (n.first .readBuf 20).getD a.length 0 = s := by
    rw [hname, List.getD_append_right _ _ _ _ le_rfl, Nat.sub_self]
    rfl
  rw [Net.first_getD _ _ ha, hcell] at hget
  rcases Nat.lt_or_ge a.length seg.length with hlt | hge
  · rw [List.getD_eq_getElem _ _ hlt] at hget
    exact hseg _ (List.getElem_mem hlt) (hget ▸ hs)
  · rw [List.getD_eq_default _ _ hge] at hget
    rw [← hget] at hs
    exact absurd hs (by decide)

/-- An item whose digits end too early is not read. -/
lemma stringToHexGroup1_short {inStr : ℕ → UInt8} {f : List UInt8} {k : ℕ} (hk : k < f.length)
    (h : inStr (2 * k) = 0) : stringToHexGroup1 inStr (2 * f.length) ≠ (true, f) := by
  have hfalse : (stringToHexFrom inStr f.length 0).1 = false := by
    refine stringToHexFrom_ne hk ?_
    rw [Nat.zero_add, h]
    decide
  rw [stringToHexGroup1, show (2 * f.length + 1) / 2 = f.length by omega]
  intro hback
  rw [hback] at hfalse
  cases hfalse

/-- The first special byte of a record, which is not in its last item. -/
lemma exists_special {m : Net} (h : ¬ ∀ f ∈ m.items, Plain f) :
    ∃ pre a s b post, m.items = pre ++ (a ++ s :: b) :: post ∧ (∀ f ∈ pre, Plain f) ∧ Plain a ∧
      Special s ∧ pre.length < 16 := by
  obtain ⟨pre, f, post, hitems, hpre, hf⟩ := exists_first (P := fun f => ¬ Plain f)
    fun hall => h fun f hf => not_not.mp (hall f hf)
  obtain ⟨a, s, b, rfl, ha, hs⟩ := exists_first (P := Special) (l := f) hf
  refine ⟨pre, a, s, b, post, hitems, fun f hf => not_not.mp (hpre f hf), ha, hs, ?_⟩
  have hle : pre.length < 17 := by
    rw [← m.items_length, hitems, List.length_append, List.length_cons]
    omega
  by_contra hlast
  -- the last item is the same in every record
  have hidx : m.items[pre.length]? = some (a ++ s :: b) := by
    rw [hitems, List.getElem?_append_right le_rfl, Nat.sub_self]
    rfl
  rw [show pre.length = 16 by omega] at hidx
  have hend : a ++ s :: b = [0x03, 0x00, 0x00] := (Option.some.inj hidx).symm
  have hplain : Plain [0x03, 0x00, 0x00] := by decide
  exact hplain s (by rw [← hend]; simp) hs

/-- The text behind plain items, and how it is searched. -/
lemma exists_rest {m : Net} {flag : UInt8} {text f : List UInt8} {pre post : List (List UInt8)}
    (hrec : m.recBuf flag = some text) (hitems : m.items = pre ++ f :: post)
    (hpre : ∀ f ∈ pre, Plain f) : ∃ t zeros,
      hextoCharFrom pre.length (f ++ comma :: (joined post ++ [flag])) = some t ∧
      comma ∉ zeros ∧ searchSeparator text (pre.length + 1) =
        searchSeparatorFrom (pre.length + 1) pre.length (t ++ zeros) := by
  obtain ⟨u, hu, rfl⟩ := Option.map_eq_some_iff.mp hrec
  have hbuf : m.sendBuf flag = joined pre ++ (f ++ comma :: (joined post ++ [flag])) := by
    rw [Net.sendBuf_eq, hitems]
    unfold joined
    rw [List.flatMap_append, List.flatMap_cons]
    simp only [List.append_assoc, List.cons_append, List.nil_append]
  rw [hextoChar, hbuf, hextoCharFrom_joined hpre, Nat.zero_add] at hu
  obtain ⟨t, ht, rfl⟩ := Option.map_eq_some_iff.mp hu
  refine ⟨t, List.replicate (512 - (texts 0 pre ++ t).length) 0, ht, fun hmem => ?_, ?_⟩
  · exact absurd (List.eq_of_mem_replicate hmem) (by decide)
  · rw [List.append_assoc, searchSeparator, searchSeparatorFrom_behind 0 hpre (by omega),
      Nat.zero_add]

/-- What is found stands in `ReadBuf`, and nothing behind it. -/
lemma Net.cell_search {text seg : List UInt8} {k : ℕ} {n' : Net} (hlen : text.length = 512)
    (hseg : searchSeparator text k = some seg) (hn' : (Net.holding text).search k = some n')
    (i : ℕ) : n'.cell .readBuf i = seg.getD i 0 := by
  rw [Net.search, Net.holding_bytes hlen, hseg] at hn'
  rw [← Option.some.inj hn', Net.copy_cell_self]
  split_ifs with hi
  · rfl
  · rw [List.getD_eq_default _ _ (by omega)]
    rfl

/-- A record with a special byte is not read back. -/
lemma plain_of_roundTrip {m : Net} {flag : UInt8} {text : List UInt8}
    (hrec : m.recBuf flag = some text) (h : RoundTrip m flag text) : ∀ f ∈ m.items, Plain f := by
  by_contra hnot
  obtain ⟨pre, a, s, b, post, hitems, hpre, ha, hs, hlen⟩ := exists_special hnot
  obtain ⟨t, zeros, ht, hzeros, hsearch⟩ := exists_rest hrec hitems hpre
  have hidx : m.items[pre.length]? = some (a ++ s :: b) := by
    rw [hitems, List.getElem?_append_right le_rfl, Nat.sub_self]
    rfl
  have h512 : text.length = 512 := Net.recBuf_length hrec
  have hbytes := Net.holding_bytes h512
  by_cases h9 : pre.length = 9
  · -- in the name: nothing special comes back
    rw [h9] at ht hsearch hidx
    obtain ⟨seg, t', rfl, hseg⟩ := hextoCharFrom_name ht
    rw [List.append_assoc, List.cons_append, searchSeparatorFrom_item
      (fun hmem => hseg comma hmem (.inl rfl)) (by decide)] at hsearch
    obtain ⟨n', hn', hname⟩ := h.name (Net.holding text) hbytes
    have hvalue : m.value .mealName = a ++ s :: b := Option.some.inj hidx
    have hlen20 : a.length < 20 := by
      have hsize := m.value_length .mealName
      rw [hvalue, List.length_append, List.length_cons] at hsize
      change a.length + (b.length + 1) = 20 at hsize
      omega
    exact name_ne hseg hs (Net.cell_search h512 hsearch hn') hlen20 (hname.trans hvalue)
  · obtain ⟨n', hn', hback⟩ := h.items pre.length _ (Net.holding text) hlen h9 hidx hbytes
    have hwritten := comma_notMem_written pre.length ha
    rw [List.append_assoc, hextoCharFrom_plain ha] at ht
    obtain ⟨t', ht', rfl⟩ := Option.map_eq_some_iff.mp ht
    rcases hs with rfl | hs
    · -- a comma ends the item too early
      rw [List.cons_append, hextoCharFrom_comma] at ht'
      obtain ⟨t'', -, rfl⟩ := Option.map_eq_some_iff.mp ht'
      rw [List.append_assoc, List.cons_append, searchSeparatorFrom_item hwritten (by omega)]
        at hsearch
      refine stringToHexGroup1_short (k := a.length) ?_ ?_ hback
      · rw [List.length_append, List.length_cons]
        omega
      · rw [Net.cell_search h512 hsearch hn', written, if_neg h9, List.getD_eq_default _ _
          (by rw [hexByte_flatMap_length])]
    · -- a flag ends the record, and the search does not come to an end
      have hcomma : s ≠ comma := by rcases hs with rfl | rfl <;> decide
      rw [List.cons_append, hextoCharFrom, if_neg hcomma, if_pos hs, if_pos h9] at ht'
      obtain rfl := Option.some.inj ht'
      have hnone : comma ∉ written pre.length a ++ [s, 0x0d] ++ zeros := by
        rw [List.mem_append, List.mem_append]
        rintro ((hmem | hmem) | hmem)
        · exact hwritten hmem
        · rw [List.mem_cons, List.mem_singleton] at hmem
          rcases hmem with hmem | hmem
          · exact hcomma hmem.symm
          · exact absurd hmem (by decide)
        · exact hzeros hmem
      rw [searchSeparatorFrom_none hnone (by omega)] at hsearch
      rw [Net.search, hbytes, hsearch] at hn'
      cases hn'

/-- A record is read back exactly where none of its values contains `','`, `'n'` or `'y'`. -/
theorem record_roundTrip_iff (m : Net) (flag : UInt8) (hflag : flag = charN ∨ flag = charY) :
    (∃ text, m.recBuf flag = some text ∧ RoundTrip m flag text) ↔
      ∀ g ∈ Net.recordGlobs, ∀ b ∈ m.value g, b ≠ comma ∧ b ≠ charN ∧ b ≠ charY := by
  constructor
  · rintro ⟨text, hrec, h⟩ g hg b hb
    have hmem : m.value g ∈ m.items :=
      List.mem_append_left _ (List.mem_cons_of_mem _ (List.mem_map_of_mem hg))
    have hplain := plain_of_roundTrip hrec h _ hmem b hb
    exact ⟨fun h => hplain (.inl h), fun h => hplain (.inr (.inl h)),
      fun h => hplain (.inr (.inr h))⟩
  · intro h
    refine roundTrip_of_plain hflag fun f hf => ?_
    rcases List.mem_append.mp hf with hf | hf
    · rcases List.mem_cons.mp hf with rfl | hf
      · show Plain _
        decide
      · obtain ⟨g, hg, rfl⟩ := List.mem_map.mp hf
        intro b hb hspecial
        obtain ⟨hcomma, hn, hy⟩ := h g hg b hb
        rcases hspecial with hb | hb | hb
        · exact hcomma hb
        · exact hn hb
        · exact hy hb
    · rw [List.mem_singleton.mp hf]
      show Plain _
      decide

/-- The values with which the program starts. -/
theorem record_roundTrip_start :
    ∃ text, Net.start.recBuf charN = some text ∧ RoundTrip Net.start charN text :=
  (record_roundTrip_iff Net.start charN (.inl rfl)).mpr (by decide +kernel)

/-- When 44 meals are left, a comma stands in the record. -/
theorem forty_four_meals_left : ¬ ∀ (m : Net) (flag : UInt8), flag = charN ∨ flag = charY →
    ∃ text, m.recBuf flag = some text ∧ RoundTrip m flag text := by
  intro hall
  obtain ⟨text, htext, h⟩ := hall
    ((Net.start.getBRWN .zero).fillMeal { CustomerSel.zero with remainMealNum := ![0, 44] } 1)
    charN (.inl rfl)
  have hplace : (Net.recBuf ((Net.start.getBRWN .zero).fillMeal
      { CustomerSel.zero with remainMealNum := ![0, 44] } 1) charN).bind (·[167]?) = some 0x0d := by
    decide +kernel
  rw [htext, Option.bind_some, h.place] at hplace
  exact absurd hplace (by decide)

end MealVendor
