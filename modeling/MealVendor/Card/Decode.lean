import MealVendor.Card.RoundTrip

/-!
# Hexadecimal text is read back

`StringToHexGroup1` undoes the digits of `HextoChar`.  In any other text it goes as far as the
first pair that is not one of two digits, and has stored the pairs before it.
-/

namespace MealVendor

/-- An upper-case hexadecimal digit. -/
def IsHexDigit (c : UInt8) : Prop := 0x30 ≤ c ∧ c ≤ 0x39 ∨ 0x41 ≤ c ∧ c ≤ 0x46

/-- The two characters from `i` on are digits. -/
def IsHexPair (inStr : ℕ → UInt8) (i : ℕ) : Prop :=
  IsHexDigit (inStr i) ∧ IsHexDigit (inStr (i + 1))

/-- The number that the two characters from `i` on stand for. -/
def pairValue (inStr : ℕ → UInt8) (i : ℕ) : UInt8 :=
  16 * (hexValue (inStr i)).getD 0 + (hexValue (inStr (i + 1))).getD 0

instance (c : UInt8) : Decidable (IsHexDigit c) := inferInstanceAs (Decidable (_ ∨ _))

instance (inStr : ℕ → UInt8) (i : ℕ) : Decidable (IsHexPair inStr i) :=
  inferInstanceAs (Decidable (_ ∧ _))

/-- How `StringToHexGroup1` reads `k` pairs: it refuses them exactly if a character is no digit, and
then it has stored the pairs before the first that is bad. -/
structure ReadsPairs (inStr : ℕ → UInt8) (k : ℕ) : Prop where
  refuses : (stringToHexGroup1 inStr (2 * k)).1 = false ↔ ∃ i < 2 * k, ¬ IsHexDigit (inStr i)
  stores : ∀ m < k, (∀ j < m, IsHexPair inStr (2 * j)) → ¬ IsHexPair inStr (2 * m) →
    (stringToHexGroup1 inStr (2 * k)).2 = (List.range m).map fun j => pairValue inStr (2 * j)

variable {inStr : ℕ → UInt8} {c : UInt8} {i k m : ℕ}

/-! ## One pair -/

lemma hexValue_eq_none_iff : hexValue c = none ↔ ¬ IsHexDigit c := by
  rw [hexValue, IsHexDigit]
  split_ifs <;> simp [*]

lemma hexValue_of_isHexDigit (h : IsHexDigit c) : hexValue c = some ((hexValue c).getD 0) := by
  cases hc : hexValue c with
  | none => exact absurd h (hexValue_eq_none_iff.mp hc)
  | some v => rfl

/-- The value of a digit needs four bits. -/
lemma hexValue_lt (c : UInt8) : (hexValue c).getD 0 < 16 := by
  revert c
  refine forall_byte ?_
  decide +kernel

/-- Two numbers of four bits are put together by the mask as by a sum. -/
lemma high_or_eq_add {a b : UInt8} (ha : a < 16) (hb : b < 16) :
    (a <<< 4) &&& 0xf0 ||| b = 16 * a + b := by
  have hall : ∀ a b : Fin 16, (UInt8.ofNat a <<< 4) &&& 0xf0 ||| UInt8.ofNat b =
      16 * UInt8.ofNat a + UInt8.ofNat b := by
    decide +kernel
  have := hall ⟨a.toNat, ha⟩ ⟨b.toNat, hb⟩
  simpa using this

/-! ## The loop -/

/-- A good pair is stored, and the loop goes on behind it. -/
lemma stringToHexFrom_pair (h : IsHexPair inStr i) :
    stringToHexFrom inStr (k + 1) i =
      ((stringToHexFrom inStr k (i + 2)).1,
        pairValue inStr i :: (stringToHexFrom inStr k (i + 2)).2) := by
  rw [stringToHexFrom, hexValue_of_isHexDigit h.1, hexValue_of_isHexDigit h.2]
  dsimp only
  rw [high_or_eq_add (hexValue_lt _) (hexValue_lt _), pairValue]

/-- A bad pair ends the loop. -/
lemma stringToHexFrom_bad (h : ¬ IsHexPair inStr i) :
    stringToHexFrom inStr (k + 1) i = (false, []) := by
  rw [stringToHexFrom]
  by_cases hhigh : IsHexDigit (inStr i)
  · have hlow : hexValue (inStr (i + 1)) = none :=
      hexValue_eq_none_iff.mpr fun hlow => h ⟨hhigh, hlow⟩
    rw [hlow, hexValue_of_isHexDigit hhigh]
  · rw [hexValue_eq_none_iff.mpr hhigh]

/-- The good pairs at the front are stored one behind the other. -/
lemma stringToHexFrom_add (k : ℕ) (h : ∀ j < m, IsHexPair inStr (i + 2 * j)) :
    stringToHexFrom inStr (m + k) i =
      ((stringToHexFrom inStr k (i + 2 * m)).1,
        (List.range m).map (fun j => pairValue inStr (i + 2 * j)) ++
          (stringToHexFrom inStr k (i + 2 * m)).2) := by
  induction m generalizing i with
  | zero => simp
  | succ m ih =>
    have hfirst : IsHexPair inStr i := h 0 m.succ_pos
    have hrest : ∀ j < m, IsHexPair inStr (i + 2 + 2 * j) := by
      intro j hj
      rw [show i + 2 + 2 * j = i + 2 * (j + 1) by omega]
      exact h (j + 1) (Nat.succ_lt_succ hj)
    have hvalues : (List.range (m + 1)).map (fun j => pairValue inStr (i + 2 * j)) =
        pairValue inStr i :: (List.range m).map fun j => pairValue inStr (i + 2 + 2 * j) := by
      rw [List.range_succ_eq_map, List.map_cons, List.map_map]
      refine congrArg _ (List.map_congr_left fun j _ => ?_)
      rw [Function.comp_apply, show i + 2 * j.succ = i + 2 + 2 * j by omega]
    rw [show m + 1 + k = m + k + 1 by omega, stringToHexFrom_pair hfirst, ih hrest, hvalues,
      show i + 2 + 2 * m = i + 2 * (m + 1) by omega, List.cons_append]

lemma stringToHexGroup1_two_mul (inStr : ℕ → UInt8) (k : ℕ) :
    stringToHexGroup1 inStr (2 * k) = stringToHexFrom inStr k 0 := by
  rw [stringToHexGroup1, show (2 * k + 1) / 2 = k by omega]

/-- Pairs without a bad one are all stored. -/
lemma stringToHexGroup1_good (h : ∀ j < k, IsHexPair inStr (2 * j)) :
    stringToHexGroup1 inStr (2 * k) =
      (true, (List.range k).map fun j => pairValue inStr (2 * j)) := by
  have hgood := stringToHexFrom_add (i := 0) 0 (by simpa using h)
  rw [stringToHexGroup1_two_mul]
  simpa [stringToHexFrom] using hgood

/-- The first bad pair is where the text is refused. -/
lemma stringToHexGroup1_bad (hm : m < k) (h : ∀ j < m, IsHexPair inStr (2 * j))
    (hbad : ¬ IsHexPair inStr (2 * m)) :
    stringToHexGroup1 inStr (2 * k) =
      (false, (List.range m).map fun j => pairValue inStr (2 * j)) := by
  obtain ⟨n, rfl⟩ : ∃ n, k = m + (n + 1) := ⟨k - m - 1, by omega⟩
  have hgood := stringToHexFrom_add (i := 0) (n + 1) (by simpa using h)
  rw [Nat.zero_add, stringToHexFrom_bad hbad] at hgood
  rw [stringToHexGroup1_two_mul]
  simpa using hgood

/-! ## The whole text -/

/-- A character is no digit exactly if a pair is bad. -/
lemma exists_not_isHexDigit_iff :
    (∃ i < 2 * k, ¬ IsHexDigit (inStr i)) ↔ ∃ m < k, ¬ IsHexPair inStr (2 * m) := by
  constructor
  · rintro ⟨i, hi, hbad⟩
    refine ⟨i / 2, by omega, fun hpair => hbad ?_⟩
    rcases Nat.mod_two_eq_zero_or_one i with hmod | hmod
    · rw [show i = 2 * (i / 2) by omega]
      exact hpair.1
    · rw [show i = 2 * (i / 2) + 1 by omega]
      exact hpair.2
  · rintro ⟨m, hm, hbad⟩
    by_cases hhigh : IsHexDigit (inStr (2 * m))
    · exact ⟨2 * m + 1, by omega, fun hlow => hbad ⟨hhigh, hlow⟩⟩
    · exact ⟨2 * m, by omega, hhigh⟩

lemma readsPairs (inStr : ℕ → UInt8) (k : ℕ) : ReadsPairs inStr k where
  refuses := by
    rw [exists_not_isHexDigit_iff]
    constructor
    · intro hfalse
      by_contra hgood
      push Not at hgood
      rw [stringToHexGroup1_good hgood] at hfalse
      cases hfalse
    · intro hbad
      classical
      have hfirst := Nat.find_spec hbad
      have hbefore : ∀ j < Nat.find hbad, IsHexPair inStr (2 * j) := by
        intro j hj
        have hj' := Nat.find_min hbad hj
        by_contra hpair
        exact hj' ⟨hj.trans hfirst.1, hpair⟩
      rw [stringToHexGroup1_bad hfirst.1 hbefore hfirst.2]
  stores m hm hbefore hbad := by
    rw [stringToHexGroup1_bad hm hbefore hbad]

/-- `HextoChar` writes two digits for each byte that it does not take for a separator or the
flag. -/
lemma hextoChar_plain {b : List UInt8} (hb : Plain b) :
    hextoChar (b ++ [charN]) = some (b.flatMap hexByte ++ [charN, 0x0d]) := by
  have hflag : hextoCharFrom 0 [charN] = some [charN, 0x0d] := by decide
  rw [hextoChar, hextoCharFrom_plain hb, hflag, written, if_neg (by decide)]
  rfl

/-- The two digits that `HextoChar` writes for each byte are read back as the bytes.  Any text is
refused exactly if a character is no digit, behind the pairs before the first bad one. -/
theorem stringToHexGroup1_hexByte (b : List UInt8) (inStr : ℕ → UInt8) (k : ℕ) :
    (Plain b → hextoChar (b ++ [charN]) = some (b.flatMap hexByte ++ [charN, 0x0d])) ∧
    ((∀ j < 2 * b.length, inStr j = (b.flatMap hexByte).getD j 0) →
      stringToHexGroup1 inStr (2 * b.length) = (true, b)) ∧
    ReadsPairs inStr k := by
  refine ⟨hextoChar_plain, fun h => ?_, readsPairs inStr k⟩
  rw [stringToHexGroup1_two_mul]
  refine stringToHexFrom_hex fun j hj => ?_
  rw [Nat.zero_add, h j hj]

/-- The text of two bytes. -/
theorem stringToHexGroup1_hexByte_two :
    hextoChar ([0x3f, 0xa0] ++ [charN]) = some ([0x33, 0x46, 0x41, 0x30] ++ [charN, 0x0d]) ∧
      stringToHexGroup1 (fun j => [0x33, 0x46, 0x41, 0x30].getD j 0) 4 = (true, [0x3f, 0xa0]) := by
  have h := stringToHexGroup1_hexByte [0x3f, 0xa0] (fun j => [0x33, 0x46, 0x41, 0x30].getD j 0) 2
  exact ⟨h.1 (by decide), h.2.1 (by decide)⟩

end MealVendor
