import MealVendor.Card.RoundTrip

/-!
# Where the two scans stop

`HextoChar` stops at a flag, `SearchSeparator` at its separator; nothing else stops them.  So
`HextoChar` runs out of `Send_Buf` for a flag that is neither `n` nor `y` unless one of these comes
by chance, and `SearchSeparator` runs out of a block with fewer separators.
-/

namespace MealVendor

/-! ## `HextoChar` -/

/-- A byte at which `HextoChar` stops, unless it is in the name of the meal. -/
def IsFlag (b : UInt8) : Prop := b = charN ∨ b = charY

instance decidableIsFlag (b : UInt8) : Decidable (IsFlag b) := inferInstanceAs (Decidable (_ ∨ _))

/-- The scan of `Send_Buf` stops inside of it, and the text fits into `Rec_Buf`. -/
def HextoCharSafe (sendBuf : List UInt8) : Prop := ∃ text, hextoChar sendBuf = some text ∧
  text.length ≤ 512

/-- `Send_Buf` as `Sd_Write` fills it. -/
def Net.sdSendBuf (erroFlag takeoutFlag : UInt8) (sel : CustomerSel) (now : StructTD) (n : Net) :
    List UInt8 :=
  ((n.getBRWN now).fillMeal sel takeoutFlag).sendBuf erroFlag

/-- One of the values of the record has an `n` or a `y` outside of the name. -/
def FlagInside (sendBuf : List UInt8) : Prop :=
  ∃ pre b post, sendBuf = pre ++ b :: post ∧ post ≠ [] ∧ IsFlag b ∧ pre.count comma ≠ 9

/-- A flag outside of the name, with `temp` commas before these bytes. -/
def FlagFrom (temp : ℕ) (bs : List UInt8) : Prop :=
  ∃ pre b post, bs = pre ++ b :: post ∧ IsFlag b ∧ temp + pre.count comma ≠ 9

/-- It is the first byte or behind it. -/
lemma flagFrom_cons (temp : ℕ) (c : UInt8) (bs : List UInt8) : FlagFrom temp (c :: bs) ↔
    IsFlag c ∧ temp ≠ 9 ∨ FlagFrom (temp + [c].count comma) bs := by
  constructor
  · rintro ⟨pre, b, post, heq, hb, hcount⟩
    cases pre with
    | nil =>
      obtain ⟨rfl, rfl⟩ := List.cons.inj heq
      exact .inl ⟨hb, hcount⟩
    | cons d pre =>
      obtain ⟨rfl, rfl⟩ := List.cons.inj heq
      rw [← List.singleton_append, List.count_append, ← Nat.add_assoc] at hcount
      exact .inr ⟨pre, b, post, rfl, hb, hcount⟩
  · rintro (⟨hc, htemp⟩ | ⟨pre, b, post, rfl, hb, hcount⟩)
    · exact ⟨[], c, bs, rfl, hc, htemp⟩
    · refine ⟨c :: pre, b, post, rfl, hb, ?_⟩
      rwa [← List.singleton_append, List.count_append, ← Nat.add_assoc]

lemma hextoCharFrom_isSome (temp : ℕ) (bs : List UInt8) :
    (hextoCharFrom temp bs).isSome ↔ FlagFrom temp bs := by
  induction bs generalizing temp with
  | nil => simp [hextoCharFrom, FlagFrom]
  | cons c bs ih =>
    rw [hextoCharFrom, flagFrom_cons]
    by_cases hcomma : c = comma
    · have hc : ¬ IsFlag c := by
        rw [hcomma]
        decide
      rw [if_pos hcomma, Option.isSome_map, ih, hcomma, List.count_singleton_self]
      simp [← hcomma, hc]
    · have hcount : [c].count comma = 0 := by simp [hcomma]
      rw [hcount, Nat.add_zero, if_neg hcomma]
      by_cases hc : c = charN ∨ c = charY
      · rw [if_pos hc]
        split_ifs with htemp
        · exact iff_of_true rfl (.inl ⟨hc, htemp⟩)
        · rw [ih]
          simp [htemp]
      · rw [if_neg hc]
        split_ifs <;> rw [Option.isSome_map, ih] <;> simp [IsFlag, hc]

/-- The last item is not the name. -/
lemma count_items (n : Net) : 17 ≤ (joined n.items).count comma := by
  have hjoined : ∀ its : List (List UInt8), its.length ≤ (joined its).count comma := by
    intro its
    induction its with
    | nil => exact Nat.zero_le _
    | cons f its ih =>
      rw [joined] at ih ⊢
      rw [List.flatMap_cons, List.count_append, List.count_append, List.length_cons,
        List.count_singleton_self]
      omega
  exact (n.items_length ▸ hjoined n.items : 17 ≤ _)

/-- The scan of a record stops exactly if its flag is `n` or `y`, or one of these is in a value. -/
lemma hextoCharSafe_iff (n : Net) (flag : UInt8) :
    HextoCharSafe (n.sendBuf flag) ↔ IsFlag flag ∨ FlagInside (n.sendBuf flag) := by
  have hsafe : HextoCharSafe (n.sendBuf flag) ↔ FlagFrom 0 (n.sendBuf flag) := by
    rw [← hextoCharFrom_isSome, Option.isSome_iff_exists]
    constructor
    · rintro ⟨text, htext, -⟩
      exact ⟨text, htext⟩
    · rintro ⟨text, htext⟩
      refine ⟨text, htext, ?_⟩
      have hlen := hextoCharFrom_length htext
      rw [n.sendBuf_length] at hlen
      omega
  rw [hsafe]
  constructor
  · rintro ⟨pre, b, post, heq, hb, hcount⟩
    cases post with
    | nil =>
      rw [n.sendBuf_eq] at heq
      obtain ⟨-, hlast⟩ := List.append_inj' heq rfl
      obtain rfl : flag = b := by simpa using hlast
      exact .inl hb
    | cons c post => exact .inr ⟨pre, b, c :: post, heq, by simp, hb, by simpa using hcount⟩
  · rintro (hflag | ⟨pre, b, post, heq, -, hb, hcount⟩)
    · refine ⟨joined n.items, flag, [], n.sendBuf_eq flag, hflag, ?_⟩
      have := count_items n
      omega
    · exact ⟨pre, b, post, heq, hb, by simpa using hcount⟩

/-! ## `SearchSeparator` -/

/-- What is behind the first `k` commas. -/
def behind : ℕ → List UInt8 → List UInt8
  | 0, l => l
  | _ + 1, [] => []
  | k + 1, c :: l => if c = comma then behind k l else behind (k + 1) l

/-- What stands between the comma before item `k` and the next one. -/
def item (k : ℕ) (block : List UInt8) : List UInt8 := (behind (k - 1) block).takeWhile (· != comma)

/-- The scan stops inside of the block, and what it copies fits into `ReadBuf`. -/
def SearchSafe (block : List UInt8) (separator : ℕ) : Prop :=
  ∃ seg, searchSeparator block separator = some seg ∧ seg.length ≤ 20

/-- There is a separator behind the item, which is not longer than `ReadBuf`; for the flag, there is
something behind the 17th separator. -/
def Delimited (block : List UInt8) : ℕ → Prop
  | 0 => ∃ c, block.head? = some c ∧ c ≠ comma
  | 18 => behind 17 block ≠ []
  | k => k ≤ block.count comma ∧ (item k block).length ≤ 20

/-- The scan for an item, `d` commas before it. -/
lemma searchSeparatorFrom_eq {separator cnt d : ℕ} (h18 : separator ≠ 18)
    (h : cnt + d + 1 = separator) (l : List UInt8) :
    searchSeparatorFrom separator cnt l = if d + 1 ≤ l.count comma then
      some ((behind d l).takeWhile (· != comma)) else none := by
  induction l generalizing cnt d with
  | nil => simp [searchSeparatorFrom]
  | cons c l ih =>
    rw [searchSeparatorFrom]
    by_cases hc : c = comma
    · rw [if_pos hc, hc, List.count_cons_self]
      cases d with
      | zero =>
        rw [if_pos (by omega), if_pos (by omega)]
        simp [behind]
      | succ d =>
        rw [if_neg (by omega), ih (by omega : cnt + 1 + d + 1 = separator)]
        simp [behind]
    · rw [if_neg hc, List.count_cons_of_ne hc]
      cases d with
      | zero =>
        rw [if_pos (by omega), if_neg h18, ih (d := 0) h]
        split_ifs <;> simp [behind, hc]
      | succ d =>
        rw [if_neg (by omega), if_neg (by omega), ih h]
        simp [behind, hc]

/-- The scan for the flag, `d` commas before it. -/
lemma searchSeparatorFrom_flag {cnt d : ℕ} (h : cnt + d = 17) (l : List UInt8) :
    searchSeparatorFrom 18 cnt l =
      (behind d l).head?.map fun c => if c = comma then [] else [c] := by
  induction l generalizing cnt d with
  | nil => cases d <;> rfl
  | cons c l ih =>
    rw [searchSeparatorFrom]
    by_cases hc : c = comma
    · rw [if_pos hc]
      cases d with
      | zero =>
        rw [if_pos (by omega)]
        simp [behind, hc]
      | succ d =>
        rw [if_neg (by omega), ih (by omega : cnt + 1 + d = 17)]
        simp [behind, hc]
    · rw [if_neg hc]
      cases d with
      | zero =>
        rw [if_pos (by omega), if_pos rfl]
        simp [behind, hc]
      | succ d =>
        rw [if_neg (by omega), if_neg (by omega), ih h]
        simp [behind, hc]

/-- Behind a comma the scan with the separator 0 does not stop any more. -/
lemma searchSeparatorFrom_zero {cnt : ℕ} (h : cnt ≠ 0) (l : List UInt8) :
    searchSeparatorFrom 0 cnt l = none := by
  induction l generalizing cnt with
  | nil => rfl
  | cons c l ih =>
    rw [searchSeparatorFrom]
    by_cases hc : c = comma
    · rw [if_pos hc, if_neg cnt.succ_ne_zero]
      exact ih cnt.succ_ne_zero
    · rw [if_neg hc, if_neg cnt.succ_ne_zero, if_neg h]
      exact ih h

lemma searchSafe_iff (block : List UInt8) (separator : ℕ) :
    SearchSafe block separator ↔ Delimited block separator := by
  rw [SearchSafe, searchSeparator]
  by_cases h0 : separator = 0
  · subst h0
    cases block with
    | nil => simp [searchSeparatorFrom, Delimited]
    | cons c block =>
      rw [searchSeparatorFrom, Delimited]
      by_cases hc : c = comma
      · rw [if_pos hc, if_neg (by omega), searchSeparatorFrom_zero (by omega)]
        simp [hc]
      · rw [if_neg hc, if_neg (by omega), if_pos rfl]
        simp [hc]
  by_cases h18 : separator = 18
  · subst h18
    rw [searchSeparatorFrom_flag (d := 17) rfl, Delimited]
    cases behind 17 block with
    | nil => simp
    | cons c rest =>
      have hlen : (if c = comma then [] else [c] : List UInt8).length ≤ 20 := by
        split_ifs <;> simp
      simp [hlen]
  · rw [searchSeparatorFrom_eq (d := separator - 1) h18 (by omega), Delimited.eq_3 _ _ h0 h18, item,
      Nat.sub_add_cancel (Nat.one_le_iff_ne_zero.mpr h0)]
    split_ifs with hcount <;> simp [hcount]

/-- Exactly with the flags `n` and `y`, or where one of these is in a value, `HextoChar` stops
inside of `Send_Buf`, and exactly where the item is delimited and not too long, `SearchSeparator`
stops inside of the block. -/
theorem scans_safe_iff (erroFlag takeoutFlag : UInt8) (sel : CustomerSel) (now : StructTD) (n : Net)
    (block : List UInt8) (separator : ℕ) :
    (HextoCharSafe (n.sdSendBuf erroFlag takeoutFlag sel now) ↔
      IsFlag erroFlag ∨ FlagInside (n.sdSendBuf erroFlag takeoutFlag sel now)) ∧
    (SearchSafe block separator ↔ Delimited block separator) :=
  ⟨hextoCharSafe_iff _ erroFlag, searchSafe_iff block separator⟩

/-- `DataRecord` passes the flag `N`; and an erased block has no separator. -/
theorem scans_not_safe :
    (¬ ∀ (erroFlag takeoutFlag : UInt8) (sel : CustomerSel) (now : StructTD) (n : Net),
      HextoCharSafe (n.sdSendBuf erroFlag takeoutFlag sel now)) ∧
      ¬ ∀ (block : List UInt8) (separator : ℕ), block.length = 512 →
        SearchSafe block separator := by
  constructor
  · intro h
    obtain ⟨text, htext, -⟩ := h 0x4e 1 .zero .zero .start
    have hsome := Option.isSome_iff_exists.mpr ⟨text, htext⟩
    revert hsome
    decide +kernel
  · intro h
    have hdelimited := (searchSafe_iff _ 1).mp (h (List.replicate 512 0xff) 1 List.length_replicate)
    have hcount := hdelimited.1
    rw [List.count_replicate] at hcount
    revert hcount
    decide

end MealVendor
