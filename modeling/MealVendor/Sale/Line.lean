import MealVendor.Model.Acceptor
import MealVendor.Sale.Stacked

/-!
# Lines of the bill acceptor

`StringToHexGroup` looks at three characters at a time and stores a number as soon as the third is
a blank or a carriage return.  It does not look for what should follow, and does not take back what
it has stored.  `UART4_IRQHandler` stores the characters of a line however long it is.
-/

namespace MealVendor

/-! ## What is stored is what is converted -/

/-- Two characters that are not two digits. -/
lemma hexValue_eq_none {h l : UInt8}
    (hnone : ∀ hByte lByte, hexValue h = some hByte → hexValue l = some lByte → False) :
    hexValue h = none ∨ hexValue l = none := by
  cases hh : hexValue h with
  | none => exact .inl rfl
  | some hByte =>
    cases hl : hexValue l with
    | none => exact .inr rfl
    | some lByte => exact (hnone hByte lByte hh hl).elim

/-- There the loop is given up. -/
lemma hexNumbers_of_none {h l : UInt8} (hnone : hexValue h = none ∨ hexValue l = none) (c : UInt8)
    (str : List UInt8) : hexNumbers (h :: l :: c :: str) = ([], false) := by
  rw [hexNumbers]
  rcases hnone with hh | hl
  · simp [hh]
  · simp [hl]

lemma hexGroup_of_none {h l : UInt8} (hnone : hexValue h = none ∨ hexValue l = none)
    (out : ℕ → UInt8) (k : ℕ) (c : UInt8) (str : List UInt8) :
    hexGroup out k (h :: l :: c :: str) = (out, false) := by
  rw [hexGroup]
  rcases hnone with hh | hl
  · simp [hh]
  · simp [hl]

/-- The loop stores the numbers one behind the other. -/
lemma hexGroup_eq (out : ℕ → UInt8) (k : ℕ) (str : List UInt8) :
    hexGroup out k str = (overwrite out k (hexNumbers str).1, (hexNumbers str).2) := by
  induction str using hexNumbers.induct generalizing out k with
  | case1 h l str hByte lByte hl hh ih => simp [hexGroup, hexNumbers, hh, hl, ih, overwrite_cons]
  | case2 h l str hByte lByte hl hh =>
    simp [hexGroup, hexNumbers, hh, hl, ← overwrite_cons, overwrite_nil]
  | case3 h l c str hByte lByte hl hh h20 h0D ih =>
    simp [hexGroup, hexNumbers, hh, hl, h20, h0D, ih]
  | case4 h l c str hnone =>
    rw [hexGroup_of_none (hexValue_eq_none hnone), hexNumbers_of_none (hexValue_eq_none hnone),
      overwrite_nil]
  | case5 => rw [hexGroup, hexNumbers, overwrite_nil]
  | case6 str h3 h0 =>
    rw [hexGroup.eq_3 out k str h3 h0, hexNumbers.eq_3 str h3 h0, overwrite_nil]

lemma stringToHexGroup_eq (out : ℕ → UInt8) (str : List UInt8) :
    stringToHexGroup out str = (overwrite out 0 (stringNumbers str).1, (stringNumbers str).2) := by
  rw [stringToHexGroup, stringNumbers]
  split_ifs
  · exact hexGroup_eq out 0 str
  · rw [overwrite_nil]

/-- There are three characters for every number. -/
lemma hexNumbers_length (str : List UInt8) : 3 * (hexNumbers str).1.length ≤ str.length := by
  induction str using hexNumbers.induct with
  | case1 h l str hByte lByte hl hh ih =>
    simp only [hexNumbers, hh, hl, if_true, List.length_cons]
    omega
  | case2 h l str hByte lByte hl hh => simp [hexNumbers, hh, hl]
  | case3 h l c str hByte lByte hl hh h20 h0D ih =>
    simp only [hexNumbers, hh, hl, if_neg h20, if_neg h0D, List.length_cons]
    omega
  | case4 h l c str hnone =>
    rw [hexNumbers_of_none (hexValue_eq_none hnone)]
    simp
  | case5 => simp [hexNumbers]
  | case6 str h3 h0 => simp [hexNumbers.eq_3 str h3 h0]

lemma stringNumbers_length (str : List UInt8) :
    3 * (stringNumbers str).1.length ≤ str.length := by
  rw [stringNumbers]
  split_ifs
  · exact hexNumbers_length str
  · simp

/-- The stored numbers can be told from what the buffer is like behind them. -/
lemma overwrite_injective {a b : List UInt8}
    (h : ∀ out : ℕ → UInt8, overwrite out 0 a = overwrite out 0 b) : a = b := by
  have hget : ∀ i : ℕ, a[i]? = b[i]? := by
    intro i
    have h0 := congrFun (h fun _ => 0) i
    have h1 := congrFun (h fun _ => 1) i
    simp only [overwrite, Nat.not_lt_zero, if_false, Nat.sub_zero] at h0 h1
    cases ha : a[i]? with
    | none =>
      cases hb : b[i]? with
      | none => rfl
      | some y =>
        -- a cell that is stored does not depend on what was there
        simp only [ha, hb, Option.getD_none, Option.getD_some] at h0 h1
        exact absurd (h0.trans h1.symm) (by decide)
    | some x =>
      cases hb : b[i]? with
      | none =>
        simp only [ha, hb, Option.getD_none, Option.getD_some] at h0 h1
        exact absurd (h0.symm.trans h1) (by decide)
      | some y =>
        simp only [ha, hb, Option.getD_some] at h0
        rw [h0]
  exact List.ext_getElem? hget

/-! ## What is accepted -/

/-- The text of the numbers, with a blank between two of them, carriage return and line feed. -/
def IsLine (numbers str : List UInt8) : Prop :=
  ∃ b bs, numbers = b :: bs ∧ str = hexText b bs ++ [0x0A]

/-- What is asked of `StringToHexGroup` for one string: it returns `true` with these numbers exactly
if the string is their line, and otherwise leaves the buffer as it is. -/
structure ParsedRight (str : List UInt8) : Prop where
  accepts : ∀ numbers, (∀ out, stringToHexGroup out str = (overwrite out 0 numbers, true)) ↔
    IsLine numbers str
  refuses : ∀ out, (stringToHexGroup out str).2 = false → (stringToHexGroup out str).1 = out

/-- Two characters that are not two digits come before any number with a blank or a carriage return
behind it. -/
inductive StopsAtOnce : List UInt8 → Prop
  | high {h : UInt8} {str : List UInt8} (hh : hexValue h = none) : StopsAtOnce (h :: str)
  | low {h l : UInt8} {str : List UInt8} (hl : hexValue l = none) : StopsAtOnce (h :: l :: str)
  | skip {h l c : UInt8} {str : List UInt8} (h20 : c ≠ 0x20) (h0D : c ≠ 0x0D)
      (hstr : StopsAtOnce str) : StopsAtOnce (h :: l :: c :: str)

/-- The string is a line, or has no line feed at its end, or is given up before a number is
stored. -/
def Parseable (str : List UInt8) : Prop :=
  (∃ numbers, IsLine numbers str) ∨ str.getLast? ≠ some 0x0A ∨ StopsAtOnce str

/-- A line is read back. -/
lemma IsLine.stringNumbers_eq {numbers str : List UInt8} (h : IsLine numbers str) :
    stringNumbers str = (numbers, true) := by
  obtain ⟨b, bs, rfl, rfl⟩ := h
  have hgroup : ∀ out,
      hexGroup out 0 (hexText b bs ++ [0x0A]) = (overwrite out 0 (b :: bs), true) :=
    fun out => hexGroup_hexText out 0 b bs [0x0A]
  have hlast : (hexText b bs ++ [0x0A]).getLast? = some 0x0A := List.getLast?_concat
  rw [stringNumbers, if_pos hlast]
  refine Prod.ext (overwrite_injective fun out => ?_) ?_
  · exact (Prod.ext_iff.mp ((hexGroup_eq out 0 _).symm.trans (hgroup out))).1
  · exact (Prod.ext_iff.mp ((hexGroup_eq (fun _ => 0) 0 _).symm.trans (hgroup _))).2

/-- Before the line feed nothing else ends the loop without a number than two characters that are
no digits. -/
lemma hexNumbers_eq_nil_iff {str : List UInt8} (hlast : str.getLast? = some 0x0A) :
    hexNumbers str = ([], false) ↔ StopsAtOnce str := by
  have hlf : hexValue 0x0A = none := by decide
  induction str using hexNumbers.induct with
  | case1 h l str hByte lByte hl hh ih =>
    simp only [hexNumbers, hh, hl, if_true]
    refine iff_of_false (by simp) fun hs => ?_
    cases hs with
    | high h' => rw [hh] at h'; cases h'
    | low h' => rw [hl] at h'; cases h'
    | skip h20 => exact h20 rfl
  | case2 h l str hByte lByte hl hh =>
    simp only [hexNumbers, hh, hl]
    refine iff_of_false (by simp) fun hs => ?_
    cases hs with
    | high h' => rw [hh] at h'; cases h'
    | low h' => rw [hl] at h'; cases h'
    | skip _ h0D => exact h0D rfl
  | case3 h l c str hByte lByte hl hh h20 h0D ih =>
    simp only [hexNumbers, hh, hl, if_neg h20, if_neg h0D]
    cases str with
    | nil =>
      refine iff_of_false (by simp [hexNumbers]) fun hs => ?_
      cases hs with
      | high h' => rw [hh] at h'; cases h'
      | low h' => rw [hl] at h'; cases h'
      | skip _ _ hs => cases hs
    | cons d str =>
      have hrest : (d :: str).getLast? = some 0x0A := by simpa using hlast
      refine (ih hrest).trans ?_
      refine ⟨fun hs => .skip h20 h0D hs, fun hs => ?_⟩
      cases hs with
      | high h' => rw [hh] at h'; cases h'
      | low h' => rw [hl] at h'; cases h'
      | skip _ _ hs => exact hs
  | case4 h l c str hnone =>
    refine iff_of_true (hexNumbers_of_none (hexValue_eq_none hnone) c str) ?_
    rcases hexValue_eq_none hnone with hh | hl
    · exact .high hh
    · exact .low hl
  | case5 => cases hlast
  | case6 str h3 h0 =>
    rw [hexNumbers.eq_3 str h3 h0]
    -- one or two characters, of which the last is the line feed
    match str, h3, h0 with
    | [a], _, _ =>
      obtain rfl : a = 0x0A := by simpa using hlast
      exact iff_of_true rfl (.high hlf)
    | [a, b], _, _ =>
      obtain rfl : b = 0x0A := by simpa using hlast
      exact iff_of_true rfl (.low hlf)
    | a :: b :: c :: str, h3, _ => exact (h3 a b c str rfl).elim
    | [], _, h0 => exact (h0 rfl).elim

/-- What is stored and returned, whatever was in the buffer before. -/
lemma forall_stringToHexGroup_iff {str numbers : List UInt8} :
    (∀ out, stringToHexGroup out str = (overwrite out 0 numbers, true)) ↔
      stringNumbers str = (numbers, true) := by
  constructor
  · intro h
    refine Prod.ext (overwrite_injective fun out => ?_) ?_
    · exact (Prod.ext_iff.mp ((stringToHexGroup_eq out str).symm.trans (h out))).1
    · exact (Prod.ext_iff.mp ((stringToHexGroup_eq (fun _ => 0) str).symm.trans (h _))).2
  · intro h out
    rw [stringToHexGroup_eq, h]

lemma stringNumbers_eq_nil_iff {str : List UInt8} :
    stringNumbers str = ([], false) ↔ str.getLast? ≠ some 0x0A ∨ StopsAtOnce str := by
  rw [stringNumbers]
  split_ifs with hlast
  · rw [hexNumbers_eq_nil_iff hlast]
    simp [hlast]
  · simp [hlast]

/-- A line is accepted, with its numbers only. -/
lemma ParsedRight.of_line {numbers str : List UInt8} (hline : IsLine numbers str) :
    ParsedRight str := by
  have heq := hline.stringNumbers_eq
  refine ⟨fun numbers' => ?_, fun out hfalse => ?_⟩
  · rw [forall_stringToHexGroup_iff, heq]
    constructor
    · intro h
      obtain rfl : numbers = numbers' := (Prod.ext_iff.mp h).1
      exact hline
    · intro hline'
      rw [← heq, hline'.stringNumbers_eq]
  · rw [stringToHexGroup_eq, heq] at hfalse
    cases hfalse

/-- What is given up at once is no line. -/
lemma ParsedRight.of_stop {str : List UInt8} (hstop : stringNumbers str = ([], false)) :
    ParsedRight str := by
  refine ⟨fun numbers => ?_, fun out _ => ?_⟩
  · rw [forall_stringToHexGroup_iff, hstop]
    refine iff_of_false (by simp) fun hline => ?_
    rw [hline.stringNumbers_eq] at hstop
    cases (Prod.ext_iff.mp hstop).2
  · rw [stringToHexGroup_eq, hstop, overwrite_nil]

/-- Strings are dealt with right exactly if they are lines or are given up at once. -/
lemma parsedRight_iff (str : List UInt8) : ParsedRight str ↔ Parseable str := by
  rw [Parseable, ← stringNumbers_eq_nil_iff]
  constructor
  · intro h
    by_cases hline : ∃ numbers, IsLine numbers str
    · exact .inl hline
    · refine .inr ?_
      -- it is not accepted, and nothing may be stored
      have hfalse : (stringNumbers str).2 = false := by
        by_contra htrue
        rw [Bool.not_eq_false] at htrue
        exact hline ⟨_, (h.accepts _).mp (forall_stringToHexGroup_iff.mpr (Prod.ext rfl htrue))⟩
      refine Prod.ext (overwrite_injective fun out => ?_) hfalse
      have hout := h.refuses out
      rw [stringToHexGroup_eq] at hout
      exact (hout hfalse).trans (overwrite_nil out 0).symm
  · rintro (⟨numbers, hline⟩ | hstop)
    · exact .of_line hline
    · exact .of_stop hstop

/-! ## Where characters and numbers are stored -/

namespace Rx4

variable {r : Rx4} {b : UInt8}

lemma line_length (r : Rx4) : r.line.length = r.rx4DataLen.toNat := by
  rw [line, List.length_map, List.length_range]

lemma rx4DataLen_store (b : UInt8) (h : r.rx4DataLen.toNat < 255) :
    (r.store b).rx4DataLen.toNat = r.rx4DataLen.toNat + 1 := by
  show (r.rx4DataLen + 1).toNat = _
  rw [UInt8.toNat_add, show (1 : UInt8).toNat = 1 from rfl]
  omega

/-- The line that a character makes longer. -/
lemma line_store (h : r.rx4DataLen.toNat < 255) : (r.store b).line = r.line ++ [b] := by
  rw [line, rx4DataLen_store b h, List.range_succ, List.map_append, line]
  congr 1
  · refine List.map_congr_left fun i hi => ?_
    have hne : i ≠ r.rx4DataLen.toNat := by
      have := List.mem_range.mp hi
      omega
    exact Function.update_of_ne hne _ _
  · exact congrArg (fun c => [c]) (Function.update_self _ _ _)

/-- The line and the numbers, without what is left of older lines. -/
def toUart4 (r : Rx4) : Uart4 := ⟨r.line, r.billDataBuffer⟩

/-- The cells do what the line does, as long as its length can be counted. -/
lemma toUart4_irq (h : r.rx4DataLen.toNat < 255) : (r.irq b).toUart4 = r.toUart4.irq b := by
  rw [irq, Uart4.irq]
  split_ifs
  · rw [lineEnd, line_store h]
    rfl
  · rw [toUart4, line_store h]
    rfl

/-- A character behind `n` others of its line. -/
def behind (n : ℕ) (b : UInt8) : ℕ := if b = 0x0A then 0 else n + 1

/-- No line becomes longer than `RX4Buffer`, `n` characters of one are there already. -/
def FitsFrom : ℕ → List UInt8 → Prop
  | _, [] => True
  | n, b :: bs => n < 40 ∧ FitsFrom (behind n b) bs

/-- No character comes when 40 have come since the last line feed. -/
def Fits (bs : List UInt8) : Prop :=
  ∀ pre cs b post, bs = pre ++ cs ++ b :: post → 0x0A ∉ cs → cs.length < 40

lemma rx4DataLen_irq (h : r.rx4DataLen.toNat < 40) :
    (r.irq b).rx4DataLen.toNat = behind r.rx4DataLen.toNat b := by
  rw [irq, behind]
  split_ifs
  · rfl
  · exact rx4DataLen_store b (h.trans (by omega))

/-- A character that has its place is dealt with inside of both arrays. -/
lemma irqStores_inside (h : r.rx4DataLen.toNat < 40) : ∀ s ∈ r.irqStores b, s.Inside := by
  have hlen := rx4DataLen_store b (h.trans (show 40 < 255 by omega))
  intro s hs
  rw [irqStores, List.mem_cons] at hs
  rcases hs with rfl | hs
  · exact h
  split_ifs at hs
  · rw [lineEndStores, List.mem_append] at hs
    rcases hs with hs | hs
    · obtain ⟨i, hi, rfl⟩ := List.mem_map.mp hs
      -- a third as many numbers as characters
      have hnumbers := stringNumbers_length (r.store b).line
      rw [line_length, hlen] at hnumbers
      have := List.mem_range.mp hi
      show i < 20
      omega
    · split_ifs at hs
      · cases hs
      · obtain ⟨i, hi, rfl⟩ := List.mem_map.mp hs
        rw [hlen] at hi
        have := List.mem_range.mp hi
        show i < 40
        omega
  · cases hs

lemma stores_inside_iff (r : Rx4) (bs : List UInt8) :
    (∀ s ∈ r.stores bs, s.Inside) ↔ FitsFrom r.rx4DataLen.toNat bs := by
  induction bs generalizing r with
  | nil => simp [stores, FitsFrom]
  | cons b bs ih =>
    rw [stores, List.forall_mem_append, FitsFrom, ih]
    constructor
    · rintro ⟨hnow, hlater⟩
      have h40 : r.rx4DataLen.toNat < 40 := hnow (.rx4Buffer _) List.mem_cons_self
      rw [rx4DataLen_irq h40] at hlater
      exact ⟨h40, hlater⟩
    · rintro ⟨h40, hlater⟩
      rw [rx4DataLen_irq h40]
      exact ⟨irqStores_inside h40, hlater⟩

/-- The characters before the first line feed, and the rest. -/
lemma fitsFrom_iff (n : ℕ) (bs : List UInt8) : FitsFrom n bs ↔
    (∀ cs b post, bs = cs ++ b :: post → 0x0A ∉ cs → n + cs.length < 40) ∧
      ∀ pre cs b post, bs = pre ++ 0x0A :: cs ++ b :: post → 0x0A ∉ cs → cs.length < 40 := by
  induction bs generalizing n with
  | nil =>
    refine iff_of_true trivial ⟨?_, ?_⟩
    · intro cs b post h
      simp at h
    · intro pre cs b post h
      simp at h
  | cons a bs ih =>
    rw [FitsFrom, ih]
    constructor
    · rintro ⟨hn, hfirst, hlater⟩
      refine ⟨fun cs b post hbs hcs => ?_, fun pre cs b post hbs hcs => ?_⟩
      · cases cs with
        | nil => exact hn
        | cons c cs =>
          obtain ⟨rfl, rfl⟩ := List.cons.inj hbs
          rw [List.mem_cons, not_or] at hcs
          have := hfirst cs b post rfl hcs.2
          rw [behind, if_neg (Ne.symm hcs.1)] at this
          rw [List.length_cons]
          omega
      · cases pre with
        | nil =>
          obtain ⟨rfl, rfl⟩ := List.cons.inj hbs
          have := hfirst cs b post rfl hcs
          rw [behind, if_pos rfl] at this
          omega
        | cons c pre =>
          obtain ⟨rfl, rfl⟩ := List.cons.inj hbs
          exact hlater pre cs b post rfl hcs
    · rintro ⟨hfirst, hlater⟩
      have hn : n < 40 := by simpa using hfirst [] a bs rfl (by simp)
      refine ⟨hn, fun cs b post hbs hcs => ?_, fun pre cs b post hbs hcs => ?_⟩
      · rw [behind]
        split_ifs with ha
        · have := hlater [] cs b post (by rw [hbs, ha]; rfl) hcs
          omega
        · have := hfirst (a :: cs) b post (by rw [hbs]; rfl) (by simp [Ne.symm ha, hcs])
          rw [List.length_cons] at this
          omega
      · exact hlater (a :: pre) cs b post (by rw [hbs]; rfl) hcs

lemma fits_iff (bs : List UInt8) : Fits bs ↔ FitsFrom 0 bs := by
  rw [fitsFrom_iff]
  constructor
  · intro h
    refine ⟨fun cs b post hbs hcs => ?_, fun pre cs b post hbs hcs => ?_⟩
    · have := h [] cs b post hbs hcs
      omega
    · exact h (pre ++ [0x0A]) cs b post (by rw [hbs]; simp) hcs
  · rintro ⟨hfirst, hlater⟩ pre cs b post hbs hcs
    by_cases hpre : 0x0A ∈ pre
    · obtain ⟨a, c, rfl, hc⟩ := Lib.exists_last hpre
      have := hlater a (c ++ cs) b post (by rw [hbs]; simp) (by simp [hc, hcs])
      rw [List.length_append] at this
      omega
    · have := hfirst (pre ++ cs) b post (by rw [hbs]) (by simp [hpre, hcs])
      rw [List.length_append] at this
      omega

end Rx4

/-- Exactly the strings that are lines, have no line feed at their end or are given up at once are
dealt with right, and exactly while no line becomes longer than 40 characters everything is stored
inside of the two arrays. -/
theorem lines_right_iff (str bs : List UInt8) :
    (ParsedRight str ↔ Parseable str) ∧
      ((∀ s ∈ Rx4.start.stores bs, s.Inside) ↔ Rx4.Fits bs) := by
  refine ⟨parsedRight_iff str, ?_⟩
  rw [Rx4.fits_iff]
  exact Rx4.stores_inside_iff _ bs

/-- For the digits of 12, a blank and a line feed the number 12 is stored and `false` returned; the
41st character without a line feed is stored behind `RX4Buffer`. -/
theorem lines_not_right :
    ¬ (∀ str, ParsedRight str) ∧ ¬ ∀ bs, ∀ s ∈ Rx4.start.stores bs, s.Inside := by
  constructor
  · intro h
    have hrefused := (h [0x31, 0x32, 0x20, 0x0A]).refuses (fun _ => 0) (by decide +kernel)
    have hcell := congrFun hrefused 0
    revert hcell
    decide +kernel
  · intro h
    have hfits := (Rx4.fits_iff _).mpr
      ((Rx4.stores_inside_iff _ _).mp (h (List.replicate 40 0x31 ++ [0x31])))
    have hshort := hfits [] (List.replicate 40 0x31) 0x31 [] rfl (by decide)
    rw [List.length_replicate] at hshort
    omega

end MealVendor
