import MealVendor.Memory.Backup
import MealVendor.Sale.Flow

/-!
# The power fails

`PVD_IRQHandler` records the error `outage_erro` and saves the data of the user.  The next
`hardfawreInit` reads them, and `PowerupAbnormalHandle` looks at the bit of the record with the
number 0; `outage_erro` has the number 1.
-/

namespace MealVendor

/-- The machine after a power failure in the state `s`, up to the end of `hardfawreInit`. -/
def Machine.restarted (s : Machine) (flash : Floor → FloorAttribute) (io : Io) : Machine :=
  powerUp s.pvd.bkp flash io

/-- Nothing is left of the interrupted session. -/
structure Machine.Forgotten (s : Machine) : Prop where
  outage : s.erroRecord &&& bit outageErro = 0
  mealCnt : ∀ k, s.session.userAct.mealCnt k = 0
  payShould : s.session.userAct.payShould = 0
  payAlready : s.session.userAct.payAlready = 0
  moneyBack : s.session.userAct.moneyBack = 0

/-- What a power failure should lead to: with change to give the error is dealt with, and the
data of the user is there again; without it nothing is left. -/
structure OutageRecovered (s : Machine) (flash : Floor → FloorAttribute) (io : Io) : Prop where
  handled : 0 < s.session.userAct.moneyBack →
    (s.restarted flash io).session.pc = .abnormal outageErro .start ∧
      (s.restarted flash io).session.userAct.SameSaved s.session.userAct
  forgotten : s.session.userAct.moneyBack = 0 → (s.restarted flash io).Forgotten

lemma record_and_bit (x y b : Int32) : (x ||| y) &&& b = (x &&& b) ||| (y &&& b) :=
  Int32.toBitVec_inj.mp BitVec.and_or_distrib_right

/-- The record of the errors is in register 13 when the power is gone. -/
lemma Machine.pvd_bkp (s : Machine) :
    (s.pvd.bkp 13).toInt32 = s.erroRecord ||| bit outageErro := by
  rw [Machine.pvd, Machine.saveUserData]
  rw [Machine.foldl_writeBackup]
  rfl

/-- `hardfawreInit` leaves the record of a power failure as it is. -/
lemma powerUp_outage (bkp : Fin 20 → UInt32) (flash : Floor → FloorAttribute) (io : Io) :
    (powerUp bkp flash io).erroRecord &&& bit outageErro =
      (bkp 13).toInt32 &&& bit outageErro := by
  rw [powerUp, Machine.hardfawreInit]
  dsimp only
  split_ifs with h h0
  · -- the error with the number 0 is recorded again
    have hrecord : ∀ s : Machine, (s.abnormalHandle 0 .start).erroRecord = s.erroRecord ||| bit 0 :=
      fun s => rfl
    have hbits : bit 0 &&& bit outageErro = 0 := by decide
    rw [hrecord, record_and_bit, hbits, Int32.or_zero]
    rfl
  · rfl
  · rfl

/-- A power failure is never recovered from: with change to give the error is not dealt with,
without it its record is not cleared.  (If the change is negative, nothing is asked.) -/
theorem outage_recovered_iff (s : Machine) (flash : Floor → FloorAttribute) (io : Io) :
    OutageRecovered s flash io ↔ s.session.userAct.moneyBack < 0 := by
  have hrecord : (s.restarted flash io).erroRecord &&& bit outageErro ≠ 0 := by
    rw [Machine.restarted]
    rw [powerUp_outage, s.pvd_bkp, record_and_bit, Int32.and_self, Ne, Int32.or_eq_zero_iff]
    rintro ⟨-, hbit⟩
    exact absurd hbit (by decide)
  have hpc : (s.restarted flash io).session.pc ≠ .abnormal outageErro .start := by
    rw [Machine.restarted]
    rw [powerUp_session]
    dsimp only
    split_ifs <;> exact nofun
  constructor
  · rintro ⟨hhandled, hforgotten⟩
    by_contra hneg
    rcases Int16.lt_or_eq_of_le (Int16.not_lt.mp hneg) with hpos | hzero
    · exact hpc (hhandled hpos).1
    · exact hrecord (hforgotten hzero.symm).outage
  · intro hneg
    refine ⟨fun hpos => ?_, fun hzero => ?_⟩
    · exact absurd hpos (Int16.not_lt.mpr (Int16.le_of_lt hneg))
    · rw [hzero] at hneg
      exact absurd hneg (by decide)

/-- A change of one coin. -/
theorem outage_not_handled :
    ¬ ∀ (s : Machine) (flash : Floor → FloorAttribute) (io : Io), OutageRecovered s flash io := by
  intro hall
  have h := hall { stocked 3 with session.userAct.moneyBack := 1 } (fun _ => .empty) .quiet
  have hhandled := (h.handled (by decide)).1
  revert hhandled
  decide +kernel

end MealVendor
