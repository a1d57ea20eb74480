import MealVendor.Model.Main

/-!
# The password page

The digits are stored in `InputPassWord`, `PassWordLen` counts them.  The confirm key
compares all six cells, whatever the count is, and no key empties them; the backspace key
clears the cell behind the last digit, which may be behind the last cell.

A *keypad* is the machine together with the digits a user has reason to think of as typed.
The cells up to the count are these digits as long as the return key is not refused.
-/

namespace MealVendor

/-- The pages that the confirm key opens. -/
inductive Page
  | mealSet
  | userAbonamalRecord
  | coinset
  | password
deriving DecidableEq

namespace Machine

/-- The cell of `InputPassWord` that a key writes to. -/
def passWordCell (d : UInt8) (s : Machine) : Option ℕ :=
  if d ≤ 0x0F then if s.passWordLen < 6 then some s.passWordLen else none
  else if d = 0x10 then if 0 < s.passWordLen then some s.passWordLen else none
  else none

/-- The page that the confirm key opens.  While an error is shown, the password of the stock
opens none. -/
def confirmPage (s : Machine) : Option Page :=
  if s.inputPassWord = passWord then if s.erroFlag ≠ 0 then none else some .mealSet
  else if s.inputPassWord = adminPassWord then
    if s.erroFlag ≠ 0 then some .userAbonamalRecord else some .coinset
  else some .password

/-- A page is opened by its password only. -/
lemma confirmPage_eq_some {s : Machine} {p : Page} (h : s.confirmPage = some p) :
    (p = .mealSet ∧ s.inputPassWord = passWord) ∨
      ((p = .userAbonamalRecord ∨ p = .coinset) ∧ s.inputPassWord = adminPassWord) ∨
      p = .password := by
  rw [confirmPage] at h
  split_ifs at h with h₁ h₂ h₃ <;> cases h
  · exact .inl ⟨rfl, h₁⟩
  · exact .inr (.inl ⟨.inl rfl, h₃⟩)
  · exact .inr (.inl ⟨.inr rfl, h₃⟩)
  · exact .inr (.inr rfl)

end Machine

/-! ## Keys -/

/-- A message of the password page, and `erro_flag` when it comes. -/
structure Key where
  data : UInt8
  erroFlag : UInt16

/-- The machine, and the digits typed since the last confirm or return. -/
structure Keypad where
  machine : Machine
  typed : List UInt8

/-- The typed digits after a key.  Digits beyond six are ignored. -/
def typedStep (typed : List UInt8) (d : UInt8) : List UInt8 :=
  if d ≤ 0x0F then if typed.length < 6 then typed ++ [d] else typed
  else if d = 0x10 then typed.dropLast
  else if d = 0x11 ∨ d = 0x12 then []
  else typed

/-- The digits that open a page. -/
def Page.digits : Page → Option (List UInt8)
  | .mealSet => some [5, 1, 8, 5, 1, 8]
  | .userAbonamalRecord => some [1, 2, 3, 4, 5, 6]
  | .coinset => some [1, 2, 3, 4, 5, 6]
  | .password => none

namespace Keypad

/-- The machine as a key finds it. -/
def found (s : Keypad) (k : Key) : Machine := { s.machine with erroFlag := k.erroFlag }

/-- One key. -/
def step (s : Keypad) (k : Key) : Option Keypad :=
  some ⟨(s.found k).password k.data, typedStep s.typed k.data⟩

/-- The keypad at power-up. -/
def Init (s : Keypad) : Prop := IsPowerUp s.machine ∧ s.typed = []

/-- A key writes inside of `InputPassWord`, and confirm opens a page only for its digits. -/
structure Sound (s : Keypad) (k : Key) : Prop where
  cell : ∀ i, (s.found k).passWordCell k.data = some i → i < 6
  page : k.data = 0x11 → ∀ p ds, (s.found k).confirmPage = some p → p.digits = some ds →
    s.typed = ds

/-- No backspace comes with six digits, and no confirm with less than six finds a password in
the cells that opens a page. -/
structure Fits (s : Keypad) (k : Key) : Prop where
  backspace : k.data = 0x10 → s.machine.passWordLen < 6
  confirm : k.data = 0x11 → s.machine.passWordLen < 6 →
    s.machine.inputPassWord ≠ Machine.adminPassWord ∧
      (s.machine.inputPassWord = Machine.passWord → k.erroFlag ≠ 0)

/-- The same, and no return comes with digits while an error is shown. -/
structure Calm (s : Keypad) (k : Key) : Prop extends s.Fits k where
  back : k.data = 0x12 → 0 < s.machine.passWordLen → k.erroFlag = 0

instance (s : Keypad) (k : Key) : Decidable (s.Calm k) :=
  decidable_of_iff
    ((k.data = 0x10 → s.machine.passWordLen < 6) ∧
      (k.data = 0x11 → s.machine.passWordLen < 6 →
        s.machine.inputPassWord ≠ Machine.adminPassWord ∧
          (s.machine.inputPassWord = Machine.passWord → k.erroFlag ≠ 0)) ∧
      (k.data = 0x12 → 0 < s.machine.passWordLen → k.erroFlag = 0))
    ⟨fun ⟨h₁, h₂, h₃⟩ => ⟨⟨h₁, h₂⟩, h₃⟩, fun h => ⟨h.backspace, h.confirm, h.back⟩⟩

/-- The cells below the count are the typed digits. -/
structure Holds (s : Keypad) : Prop where
  len : s.machine.passWordLen = s.typed.length
  short : s.typed.length ≤ 6
  cells : ∀ i : Fin 6, i.val < s.typed.length → s.typed[i.val]? = some (s.machine.inputPassWord i)

variable {s t : Keypad} {k : Key}

/-- Nothing is typed any more. -/
lemma Holds.of_empty (hlen : t.machine.passWordLen = 0) (htyped : t.typed = []) : t.Holds := by
  refine ⟨by rw [hlen, htyped]; rfl, by rw [htyped]; exact Nat.zero_le _, fun i hi => ?_⟩
  rw [htyped] at hi
  exact absurd hi (Nat.not_lt_zero _)

/-- At power-up no digit is there. -/
lemma Init.holds (h : s.Init) : s.Holds := .of_empty h.1.counts.2 h.2

/-- With six digits the cells are the digits. -/
lemma Holds.typed_eq (h : s.Holds) (h6 : s.machine.passWordLen = 6) :
    s.typed = List.ofFn s.machine.inputPassWord := by
  have hlen : s.typed.length = 6 := h.len.symm.trans h6
  refine List.ext_getElem? fun i => ?_
  by_cases hi : i < 6
  · rw [h.cells ⟨i, hi⟩ (by rw [hlen]; exact hi), List.getElem?_ofFn, dif_pos hi]
  · rw [List.getElem?_eq_none (by omega), List.getElem?_eq_none (by rw [List.length_ofFn]; omega)]

/-- A digit is stored behind the others, or ignored. -/
lemma Holds.digit (h : s.Holds) (hd : k.data ≤ 0x0F) (hs : s.step k = some t) : t.Holds := by
  cases hs
  have hlen := h.len
  by_cases h6 : s.machine.passWordLen < 6
  · -- the cells up to the count are the digits, and the next cell is the new one
    have hpass : (s.found k).password k.data = { s.found k with
        inputPassWord := Function.update s.machine.inputPassWord ⟨s.machine.passWordLen, h6⟩ k.data
        passWordLen := s.machine.passWordLen + 1 } := by
      rw [Machine.password, if_pos hd]
      exact dif_pos h6
    have htyped : typedStep s.typed k.data = s.typed ++ [k.data] := by
      rw [typedStep, if_pos hd, if_pos (hlen ▸ h6)]
    rw [hpass, htyped]
    refine ⟨?_, ?_, fun i hi => ?_⟩
    · rw [List.length_append, List.length_singleton, ← hlen]
    · rw [List.length_append, List.length_singleton]
      omega
    · rw [List.length_append, List.length_singleton] at hi
      by_cases hlast : i.val < s.typed.length
      · have hne : i ≠ ⟨s.machine.passWordLen, h6⟩ := by
          rintro rfl
          exact absurd hlast (hlen ▸ Nat.lt_irrefl _)
        show (s.typed ++ [k.data])[i.val]? =
          some (Function.update s.machine.inputPassWord ⟨s.machine.passWordLen, h6⟩ k.data i)
        rw [List.getElem?_append_left hlast, Function.update_of_ne hne, h.cells i hlast]
      · have heq : i = ⟨s.machine.passWordLen, h6⟩ := Fin.ext (by simp only; omega)
        subst heq
        show (s.typed ++ [k.data])[s.machine.passWordLen]? =
          some (Function.update s.machine.inputPassWord ⟨s.machine.passWordLen, h6⟩ k.data
            ⟨s.machine.passWordLen, h6⟩)
        rw [Function.update_self, hlen, List.getElem?_concat_length]
  · have hpass : (s.found k).password k.data = s.found k := by
      rw [Machine.password, if_pos hd]
      exact dif_neg h6
    have htyped : typedStep s.typed k.data = s.typed := by
      rw [typedStep, if_pos hd, if_neg (hlen ▸ h6)]
    rw [hpass, htyped]
    exact ⟨h.len, h.short, h.cells⟩

/-- The last digit is taken away; the cell behind it is cleared. -/
lemma Holds.backspace (h : s.Holds) (hd : k.data = 0x10) (hs : s.step k = some t) : t.Holds := by
  cases hs
  have hlen := h.len
  have hnd : ¬ k.data ≤ 0x0F := by rw [hd]; decide
  have htyped : typedStep s.typed k.data = s.typed.dropLast := by
    rw [typedStep, if_neg hnd, if_pos hd]
  by_cases h0 : 0 < s.machine.passWordLen
  · have hpass : (s.found k).password k.data = { s.found k with
        inputPassWord := if h : s.machine.passWordLen < 6 then
            Function.update s.machine.inputPassWord ⟨s.machine.passWordLen, h⟩ 0
          else s.machine.inputPassWord
        passWordLen := s.machine.passWordLen - 1 } := by
      rw [Machine.password, if_neg hnd, if_pos hd]
      exact if_pos h0
    rw [hpass, htyped]
    refine ⟨?_, ?_, fun i hi => ?_⟩
    · rw [List.length_dropLast, ← hlen]
    · rw [List.length_dropLast]
      have := h.short
      omega
    · -- a digit that is left is not in the cell that is cleared
      rw [List.length_dropLast] at hi
      have hi' : i.val < s.typed.length := by omega
      have hcell := h.cells i hi'
      have hget : s.typed.dropLast[i.val]? = s.typed[i.val]? := by
        rw [List.dropLast_eq_take, List.getElem?_take_of_lt hi]
      rw [hget, hcell]
      show _ = some ((if h : s.machine.passWordLen < 6 then _ else _ : Fin 6 → UInt8) i)
      split_ifs with h6
      · rw [Function.update_of_ne]
        rintro rfl
        simp only at hi
        omega
      · rfl
  · have hpass : (s.found k).password k.data = s.found k := by
      rw [Machine.password, if_neg hnd, if_pos hd]
      exact if_neg h0
    have hnil : s.typed = [] := List.length_eq_zero_iff.mp (by omega)
    rw [hpass, htyped, hnil]
    refine ⟨?_, Nat.zero_le _, fun i hi => absurd hi (Nat.not_lt_zero _)⟩
    show s.machine.passWordLen = 0
    omega

lemma Holds.step (h : s.Holds) (hc : s.Calm k) (hs : s.step k = some t) : t.Holds := by
  by_cases hd : k.data ≤ 0x0F
  · exact h.digit hd hs
  by_cases hb : k.data = 0x10
  · exact h.backspace hb hs
  -- confirm and return begin anew, unless the return is refused; other keys do nothing
  by_cases hk : k.data = 0x11 ∨ k.data = 0x12
  · have htyped : typedStep s.typed k.data = [] := by
      rw [typedStep, if_neg hd, if_neg hb, if_pos hk]
    cases hs
    refine .of_empty ?_ htyped
    rw [Machine.password, if_neg hd, if_neg hb]
    rcases hk with hk | hk
    · rw [if_pos hk, Machine.confirmPassWord]
      dsimp only
      split_ifs <;> rfl
    · rw [if_neg (by rw [hk]; decide), if_pos hk]
      split_ifs with he
      · have hback := hc.back hk
        show s.machine.passWordLen = 0
        by_contra hne
        exact he (hback (Nat.pos_of_ne_zero hne))
      · rfl
  · have hpass : (s.found k).password k.data = s.found k := by
      rw [Machine.password, if_neg hd, if_neg hb, if_neg fun h => hk (.inl h),
        if_neg fun h => hk (.inr h)]
    have htyped : typedStep s.typed k.data = s.typed := by
      rw [typedStep, if_neg hd, if_neg hb, if_neg hk]
    cases hs
    rw [hpass, htyped]
    exact ⟨h.len, h.short, h.cells⟩

/-- The digits of a page that is opened are the ones in the cells. -/
lemma page_digits {m : Machine} {p : Page} {ds : List UInt8} (hp : m.confirmPage = some p)
    (hds : p.digits = some ds) : List.ofFn m.inputPassWord = ds := by
  rcases m.confirmPage_eq_some hp with ⟨rfl, hb⟩ | ⟨rfl | rfl, hb⟩ | rfl
  · rw [hb]
    exact Option.some.inj hds
  · rw [hb]
    exact Option.some.inj hds
  · rw [hb]
    exact Option.some.inj hds
  · cases hds

/-- A password in the cells opens a page with its digits, unless it is refused. -/
lemma exists_page {m : Machine} (h : m.inputPassWord = Machine.adminPassWord ∨
    m.inputPassWord = Machine.passWord ∧ m.erroFlag = 0) :
    ∃ p ds, m.confirmPage = some p ∧ p.digits = some ds ∧ ds.length = 6 := by
  rcases h with h | ⟨h, he⟩
  · have hne : Machine.adminPassWord ≠ Machine.passWord := by decide
    by_cases he : m.erroFlag = 0
    · exact ⟨.coinset, _, by simp [Machine.confirmPage, h, hne, he], rfl, rfl⟩
    · exact ⟨.userAbonamalRecord, _, by simp [Machine.confirmPage, h, hne, he], rfl, rfl⟩
  · exact ⟨.mealSet, _, by simp [Machine.confirmPage, h, he], rfl, rfl⟩

/-- Where the cells are the typed digits, exactly the keys that fit are sound. -/
lemma Holds.sound_iff (h : s.Holds) : s.Sound k ↔ s.Fits k := by
  have hlen := h.len
  have hshort := h.short
  constructor
  · intro hs
    refine ⟨fun hd => ?_, fun hd h6 => ?_⟩
    · -- with six digits a backspace writes behind the last cell
      by_contra h6
      have hcell : (s.found k).passWordCell k.data = some 6 := by
        have hlen6 : (s.found k).passWordLen = 6 := by
          show s.machine.passWordLen = 6
          omega
        rw [Machine.passWordCell, if_neg (by rw [hd]; decide), if_pos hd, hlen6]
        rfl
      exact absurd (hs.cell 6 hcell) (Nat.lt_irrefl 6)
    · -- a page that is opened would ask for six digits
      have hno : ¬ (s.machine.inputPassWord = Machine.adminPassWord ∨
          s.machine.inputPassWord = Machine.passWord ∧ k.erroFlag = 0) := by
        intro hb
        obtain ⟨p, ds, hp, hds, hl⟩ := exists_page (m := s.found k) hb
        have := hs.page hd p ds hp hds
        rw [← this] at hl
        omega
      exact ⟨fun hb => hno (.inl hb), fun hb he => hno (.inr ⟨hb, he⟩)⟩
  · intro hf
    refine ⟨fun i hi => ?_, fun hd p ds hp hds => ?_⟩
    · rw [Machine.passWordCell] at hi
      split_ifs at hi with hd h6 hb h0 <;> cases hi
      · exact h6
      · exact hf.backspace hb
    · by_cases h6 : s.machine.passWordLen < 6
      · obtain ⟨hadmin, hpass⟩ := hf.confirm hd h6
        rcases Machine.confirmPage_eq_some hp with ⟨rfl, hb⟩ | ⟨-, hb⟩ | rfl
        · have he : (s.found k).erroFlag ≠ 0 := hpass hb
          rw [Machine.confirmPage, if_pos hb, if_pos he] at hp
          cases hp
        · exact absurd hb hadmin
        · cases hds
      · rw [h.typed_eq (by omega)]
        exact page_digits (m := s.found k) hp hds

/-- After keys all of which are calm, a key is sound exactly if it fits: it is no backspace
with six digits and no confirm with fewer that finds a password in the cells. -/
theorem sound_iff_fits (h : Lib.Reach step Init Calm s) (k : Key) : s.Sound k ↔ s.Fits k := by
  refine Holds.sound_iff (Lib.Reach.invariant ?_ ?_ h)
  · intro s hs
    exact hs.holds
  · intro s k t hs hc ht
    exact hs.step hc ht

/-- The keypad of a machine with nothing saved. -/
def fresh : Keypad := ⟨stocked 3, []⟩

lemma fresh_init : fresh.Init := ⟨stocked_isPowerUp 3, rfl⟩

/-- The keys of some data while no error is shown. -/
def keys (ds : List UInt8) : List Key := ds.map fun d => ⟨d, 0⟩

/-- The password of the stock with a digit too many and two corrected: confirm is sound. -/
theorem sound_iff_fits_corrected :
    ∃ s, Lib.checkedRun step Calm fresh (keys [5, 1, 9, 0x10, 8, 5, 1, 8, 8]) = some s ∧
      s.typed = [5, 1, 8, 5, 1, 8] ∧ s.Sound ⟨0x11, 0⟩ := by
  have hrun : ((Lib.checkedRun step Calm fresh (keys [5, 1, 9, 0x10, 8, 5, 1, 8, 8])).any
      fun s => s.typed = [5, 1, 8, 5, 1, 8] ∧ s.machine.passWordLen = 6) = true := by
    decide +kernel
  obtain ⟨s, hs, htyped, hlen⟩ := Lib.exists_of_any hrun
  refine ⟨s, hs, htyped, (sound_iff_fits ⟨_, _, fresh_init, .of_checkedRun hs⟩ _).mpr ⟨?_, ?_⟩⟩
  · intro hd
    cases hd
  · intro _ h6
    rw [hlen] at h6
    exact absurd h6 (Nat.lt_irrefl 6)

/-- The password of the stock is typed and confirmed; the next confirm opens the page again,
although no digit was typed. -/
theorem not_sound : ¬ ∀ s k, Lib.Reach step Init Lib.anyEvent s → s.Sound k := by
  intro h
  have hrun : ((Lib.runFrom step fresh (keys [5, 1, 8, 5, 1, 8, 0x11])).any fun s =>
      s.typed = [] ∧ (s.found ⟨0x11, 0⟩).confirmPage = some .mealSet) = true := by
    decide +kernel
  obtain ⟨s, hs, htyped, hpage⟩ := Lib.exists_of_any hrun
  have := (h s ⟨0x11, 0⟩ (.of_runFrom fresh_init hs)).page rfl .mealSet _ hpage rfl
  rw [htyped] at this
  cases this

end Keypad

end MealVendor
