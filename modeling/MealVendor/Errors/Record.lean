import MealVendor.Model.Main

/-!
# The record of the errors

`erro_record` has one bit for each error.  Setting and clearing a bit leaves the others, the
screen leaves the record alone, and of the interrupts only the one for a failing power sets a
bit.
-/

namespace MealVendor

/-! ## One bit -/

section Bits

variable {r : Int32} {e i : ℕ}

lemma toBitVec_bit (he : e < 32) : (bit e).toBitVec = BitVec.twoPow 32 e := by
  have hall : ∀ e < 32, (bit e).toBitVec = BitVec.twoPow 32 e := by decide
  exact hall e he

lemma bit_of_le (he : 32 ≤ e) : bit e = 0 := if_neg (Nat.not_lt.mpr he)

/-- The bits of `1 << e`. -/
lemma getLsbD_bit : (bit e).toBitVec.getLsbD i = (decide (i < 32) && decide (e = i)) := by
  by_cases he : e < 32
  · rw [toBitVec_bit he, BitVec.getLsbD_twoPow]
    by_cases hei : e = i
    · rw [hei]
    · simp [hei]
  · rw [bit_of_le (Nat.le_of_not_lt he)]
    show (0#32).getLsbD i = _
    rw [BitVec.getLsbD_zero]
    simp
    omega

/-- Setting a bit. -/
lemma getLsbD_or_bit : (r ||| bit e).toBitVec.getLsbD i =
    (r.toBitVec.getLsbD i || (decide (i < 32) && decide (e = i))) := by
  rw [Int32.toBitVec_or, BitVec.getLsbD_or, getLsbD_bit]

/-- Clearing a bit. -/
lemma getLsbD_and_not_bit : (r &&& ~~~(bit e)).toBitVec.getLsbD i =
    (r.toBitVec.getLsbD i && decide (i ≠ e)) := by
  rw [Int32.toBitVec_and, BitVec.getLsbD_and, Int32.toBitVec_not, BitVec.getLsbD_not,
    getLsbD_bit]
  by_cases hi : i < 32
  · simp [hi, eq_comm]
  · rw [BitVec.getLsbD_of_ge _ _ (Nat.le_of_not_lt hi)]
    rfl

/-- The test of a bit. -/
lemma and_bit_ne_zero_iff : r &&& bit e ≠ 0 ↔ r.toBitVec.getLsbD e = true := by
  by_cases he : e < 32
  · have hne : BitVec.twoPow 32 e ≠ 0#32 := by
      intro h0
      have hbit := congrArg (fun b => b.getLsbD e) h0
      simp [he] at hbit
    rw [← Int32.toBitVec_inj.ne, Int32.toBitVec_and, toBitVec_bit he, BitVec.and_twoPow]
    split_ifs with h
    · exact iff_of_true hne h
    · exact iff_of_false (fun h0 => h0 rfl) h
  · rw [bit_of_le (Nat.le_of_not_lt he), BitVec.getLsbD_of_ge _ _ (Nat.le_of_not_lt he)]
    simp

end Bits

/-! ## What becomes of the record -/

/-- The error `e` is recorded. -/
def Machine.recorded (s : Machine) (e : ℕ) : Bool := s.erroRecord.toBitVec.getLsbD e

lemma Event.exists_go {e : Event} (h : e.runs) : ∃ io, e = .go io := by
  cases e with
  | go io => exact ⟨io, rfl⟩
  | _ => cases h

/-- The interrupt for a failing power. -/
def Event.fails : Event → Bool
  | .pvd => true
  | _ => false

namespace Machine

variable {s t : Machine} {io : Io}

/-- The main program and the record are where they were. -/
def SameRecord (s t : Machine) : Prop :=
  t.session.pc = s.session.pc ∧ t.erroRecord = s.erroRecord

lemma recorded_of_sameRecord (h : s.SameRecord t) (i : ℕ) : t.recorded i = s.recorded i := by
  rw [recorded, recorded, h.2]

@[simp] lemma saveUserData_erroRecord : s.saveUserData.erroRecord = s.erroRecord := by
  rw [saveUserData, foldl_writeBackup]

@[simp] lemma saveUserData_erroFlag : s.saveUserData.erroFlag = s.erroFlag := by
  rw [saveUserData, foldl_writeBackup]

lemma mealChoose_sameRecord (d : UInt8) : s.SameRecord (s.mealChoose d) := by
  dsimp only [mealChoose]
  split
  · split_ifs <;> exact ⟨rfl, rfl⟩
  · exact ⟨rfl, rfl⟩

lemma column_sameRecord (i : Fin 4) (d : UInt8) : s.SameRecord (s.column i d) := by
  dsimp only [column]
  split
  · split_ifs <;> exact ⟨rfl, rfl⟩
  · exact ⟨rfl, rfl⟩

lemma mealcntChoose_sameRecord (d : UInt8) : s.SameRecord (s.mealcntChoose d) := by
  have hput : (s.onSession Session.putIntoShopCart).session.pc = s.session.pc :=
    Session.putIntoShopCart_pc _
  dsimp only [mealcntChoose, enterCart]
  split_ifs <;> first | exact ⟨hput, rfl⟩ | exact ⟨rfl, rfl⟩

lemma paymentMethod_sameRecord (d : UInt8) : s.SameRecord (s.paymentMethod d) := by
  dsimp only [paymentMethod]
  split_ifs <;> exact ⟨rfl, rfl⟩

lemma password_sameRecord (d : UInt8) : s.SameRecord (s.password d) := by
  dsimp only [password, confirmPassWord]
  split_ifs <;> exact ⟨rfl, rfl⟩

/-- A message of the screen leaves the record alone. -/
lemma changeVariableValues_sameRecord (f : Frame) :
    s.SameRecord (s.changeVariableValues f io) := by
  rw [changeVariableValues]
  cases f.variable with
  | none => exact ⟨rfl, rfl⟩
  | some v =>
    cases v with
    | mealChoose => exact mealChoose_sameRecord _
    | mealcntChoose => exact mealcntChoose_sameRecord _
    | paymentMethod => exact paymentMethod_sameRecord _
    | password => exact password_sameRecord _
    | column i => exact column_sameRecord i _
    | billPrint =>
      dsimp only [billPrint]
      split_ifs <;> exact ⟨rfl, rfl⟩
    | count k =>
      dsimp only [count]
      split_ifs <;> exact ⟨rfl, rfl⟩
    | adminSet =>
      dsimp only [adminSet]
      split_ifs <;> exact ⟨rfl, rfl⟩
    | mealinputChoose =>
      dsimp only [mealinputChoose]
      split_ifs <;> exact ⟨rfl, rfl⟩
    | recordClear =>
      dsimp only [recordClear]
      split_ifs <;> exact ⟨rfl, rfl⟩
    | row | floorNum | mealNum | tempratureSet | coinsIn | coinsKey | caedbalenceCancel =>
      exact ⟨rfl, rfl⟩

/-- While the main program does not run on, it stays where it is, and the record changes only
when the power fails. -/
lemma step_recorded {e : Event} (h : step s e = some t) (hruns : e.runs = false) :
    t.session.pc = s.session.pc ∧
      ∀ i, t.recorded i = (s.recorded i || (e.fails && decide (outageErro = i))) := by
  have hsame : s.SameRecord t → e.fails = false → t.session.pc = s.session.pc ∧
      ∀ i, t.recorded i = (s.recorded i || (e.fails && decide (outageErro = i))) := by
    intro h hf
    exact ⟨h.1, fun i => by rw [recorded_of_sameRecord h, hf, Bool.false_and, Bool.or_false]⟩
  cases e with
  | coinIn =>
    cases h
    refine hsame ?_ rfl
    dsimp only [coinIn]
    split_ifs <;> exact ⟨rfl, rfl⟩
  | coinOut => cases h; exact hsame ⟨rfl, rfl⟩ rfl
  | tim3 =>
    obtain ⟨-, rfl⟩ := step_tim3 h
    refine hsame ?_ rfl
    rw [tim3]
    split_ifs <;> exact ⟨rfl, rfl⟩
  | tim4 =>
    obtain rfl := step_tim4 h
    exact hsame ⟨rfl, rfl⟩ rfl
  | tim5 => cases h; exact hsame ⟨rfl, rfl⟩ rfl
  | tim7 =>
    obtain rfl := step_tim7 h
    exact hsame ⟨rfl, rfl⟩ rfl
  | usart6 b =>
    cases h
    refine hsame ?_ rfl
    dsimp only [usart6]
    split_ifs <;> exact ⟨rfl, rfl⟩
  | screen f io =>
    obtain ⟨-, rfl⟩ := step_screen h
    exact hsame (changeVariableValues_sameRecord f) rfl
  | go io => cases hruns
  | pvd =>
    cases h
    refine ⟨by rw [pvd, saveUserData_session], fun i => ?_⟩
    rw [recorded, pvd, saveUserData_erroRecord, getLsbD_or_bit]
    by_cases hi : outageErro = i
    · subst hi
      rfl
    · simp [hi, recorded]

end Machine

end MealVendor
