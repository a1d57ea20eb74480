import MealVendor.Lib.Bank
import MealVendor.Model.Main

/-!
# The backup registers

`WriteCoins` and `SaveUserData` keep their values in the same bank of registers, and
register 13 is used by both: for the total of the coins by one, for the record of the
errors by the other.  `Call` is one call of either.  The coin interrupt may come between
any two registers that `SaveUserData` writes.
-/

namespace MealVendor

open Lib

/-- A call that writes to the backup registers, with the values it finds.  `irq n` are the
totals that the coin interrupt stores just before register number `n` of `SaveUserData`. -/
inductive Call
  | writeCoins (coinTotoal : UInt16)
  | saveUserData (erroRecord : Int32) (u : UserSelection) (irq : ℕ → List UInt16)

namespace Call

/-- What `WriteCoins` writes. -/
def coinWrite (coinTotoal : UInt16) : Fin 20 × UInt32 := (13, coinTotoal.toUInt32)

/-- Writes with coin interrupts in front of them. -/
def interrupt : (ℕ → List UInt16) → List (Fin 20 × UInt32) → List (Fin 20 × UInt32)
  | _, [] => []
  | irq, w :: ws => (irq 0).map coinWrite ++ w :: interrupt (fun n => irq (n + 1)) ws

/-- The writes of a call. -/
def writes : Call → List (Fin 20 × UInt32)
  | writeCoins c => [coinWrite c]
  | saveUserData e u irq => interrupt irq (Machine.userData e u)

/-- What a call of `SaveUserData` saves. -/
def saved : Call → Option (Int32 × UserSelection)
  | writeCoins _ => none
  | saveUserData e u _ => some (e, u)

/-- What is stored in register 13 during a call, in order: totals of the coins and records
of the errors. -/
def shared : Call → List (UInt16 ⊕ Int32)
  | writeCoins c => [.inl c]
  | saveUserData e _ irq =>
    (irq 0).map .inl ++ .inr e :: ((List.range 13).flatMap fun n => irq (n + 1)).map .inl

end Call

/-! ## The writes of the machine -/

/-- `WriteCoins` is the call without interrupts. -/
lemma Machine.writeCoins_bkp (s : Machine) :
    s.writeCoins.bkp = writeAll (Call.writeCoins s.coinTotoal).writes s.bkp := rfl

lemma Call.interrupt_nil (ws : List (Fin 20 × UInt32)) : interrupt (fun _ => []) ws = ws := by
  induction ws with
  | nil => rfl
  | cons w ws ih => simp [interrupt, ih]

/-- So is `SaveUserData`. -/
lemma Machine.saveUserData_bkp (s : Machine) :
    s.saveUserData.bkp =
      writeAll (Call.saveUserData s.erroRecord s.session.userAct fun _ => []).writes s.bkp := by
  rw [Call.writes, Call.interrupt_nil, Machine.saveUserData, Machine.foldl_writeBackup]
  rfl

/-! ## What is restored -/

section Restore

variable (calls : List Call) (bkp : Fin 20 → UInt32)

/-- The total of the coins of the last `WriteCoins`. -/
def lastCoins : Option UInt16 := ((calls.flatMap Call.shared).filterMap Sum.getLeft?).getLast?

/-- What the last `SaveUserData` has saved. -/
def lastSave : Option (Int32 × UserSelection) := (calls.filterMap Call.saved).getLast?

/-- The bank after the calls. -/
def bank : Fin 20 → UInt32 := writeAll (calls.flatMap Call.writes) bkp

/-- After a reset, `hardfawreInit` calls `ReadCoins` and then `ReadUserData`. -/
def restart : Machine := (Machine.reset (bank calls bkp)).readCoins.readUserData

/-- The fields `SaveUserData` saves are the same. -/
structure UserSelection.SameSaved (u v : UserSelection) : Prop where
  mealCnt : u.mealCnt = v.mealCnt
  mealTotoal : u.mealTotoal = v.mealTotoal
  mealTakeout : u.mealTakeout = v.mealTakeout
  payShould : u.payShould = v.payShould
  payAlready : u.payAlready = v.payAlready
  moneyBack : u.moneyBack = v.moneyBack
  mealCntT : u.mealCntT = v.mealCntT

/-- Everything is restored as it was stored last. -/
structure Restored : Prop where
  coins : ∀ c, lastCoins calls = some c → (restart calls bkp).coinTotoal = c
  record : ∀ e u, lastSave calls = some (e, u) → (restart calls bkp).erroRecord = e
  user : ∀ e u, lastSave calls = some (e, u) →
    (restart calls bkp).session.userAct.SameSaved u

/-- Where both were stored, what is in register 13 serves for both: the last total, if it
was written last, is the record of the errors, or the record cut to 16 bits is the total. -/
def SharedAgree : Prop :=
  ∀ c e u, lastCoins calls = some c → lastSave calls = some (e, u) →
    match (calls.flatMap Call.shared).getLast? with
    | some (.inl _) => e.toUInt32 = c.toUInt32
    | _ => e.toUInt32.toUInt16 = c

end Restore

/-! ## One register after the other -/

section Registers

variable {calls : List Call} {bkp : Fin 20 → UInt32} {r : Fin 20}

/-- The coin interrupt writes to register 13 only. -/
lemma Call.writesTo_coins (hr : r ≠ 13) (cs : List UInt16) :
    writesTo r (cs.map coinWrite) = [] := by
  refine writesTo_eq_nil fun w hw => ?_
  obtain ⟨c, -, rfl⟩ := List.mem_map.mp hw
  exact hr.symm

lemma Call.writesTo_interrupt (hr : r ≠ 13) (irq : ℕ → List UInt16)
    (ws : List (Fin 20 × UInt32)) : writesTo r (interrupt irq ws) = writesTo r ws := by
  induction ws generalizing irq with
  | nil => rfl
  | cons w ws ih =>
    rw [interrupt, writesTo_append, writesTo_coins hr, List.nil_append, writesTo_cons,
      writesTo_cons, ih]

/-- `SaveUserData` writes every register once. -/
lemma userData_nodup (e : Int32) (u : UserSelection) :
    ((Machine.userData e u).map Prod.fst).Nodup := by
  change [13, 4, 5, 6, 7, 8, 9, 10, 11, 12, 14, 15, 16, 17].Nodup
  decide

/-- A register other than 13 holds what the last `SaveUserData` has written to it. -/
lemma bank_apply {e : Int32} {u : UserSelection} {v : UInt32} (h : lastSave calls = some (e, u))
    (hv : (r, v) ∈ Machine.userData e u) (hr : r ≠ 13) : bank calls bkp r = v := by
  induction calls using List.reverseRecOn with
  | nil => cases h
  | append_singleton calls c ih =>
    have hbank : bank (calls ++ [c]) bkp r =
        (writesTo r c.writes).getLast?.getD (bank calls bkp r) := by
      rw [bank, List.flatMap_append, writeAll_append, writeAll_apply]
      simp [bank]
    rw [hbank]
    cases c with
    | writeCoins c' =>
      -- the coins leave the register and the last save as they are
      have hnone : writesTo r (Call.writeCoins c').writes = [] :=
        Call.writesTo_coins hr [c']
      have hlast : lastSave (calls ++ [.writeCoins c']) = lastSave calls := by
        simp [lastSave, Call.saved]
      rw [hnone]
      exact ih (hlast ▸ h)
    | saveUserData e' u' irq =>
      have hlast : lastSave (calls ++ [.saveUserData e' u' irq]) = some (e', u') := by
        simp [lastSave, Call.saved]
      obtain ⟨rfl, rfl⟩ : e' = e ∧ u' = u := by simpa [hlast] using h
      rw [Call.writes, Call.writesTo_interrupt hr, writesTo_of_mem (userData_nodup _ _) hv]
      rfl

/-- What register 13 holds, as a number. -/
def sharedValue : UInt16 ⊕ Int32 → UInt32
  | .inl c => c.toUInt32
  | .inr e => e.toUInt32

lemma Call.writesTo_shared (c : Call) : writesTo 13 c.writes = c.shared.map sharedValue := by
  have hcoins : ∀ cs : List UInt16,
      writesTo 13 (cs.map coinWrite) = cs.map (sharedValue ∘ .inl) := by
    intro cs
    induction cs with
    | nil => rfl
    | cons c cs ih =>
      rw [List.map_cons, writesTo_cons, ih]
      rfl
  -- behind the first register only interrupts write to register 13
  have hrest : ∀ (ws : List (Fin 20 × UInt32)) (irq : ℕ → List UInt16), (∀ w ∈ ws, w.1 ≠ 13) →
      writesTo 13 (interrupt irq ws) =
        ((List.range ws.length).flatMap irq).map (sharedValue ∘ .inl) := by
    intro ws
    induction ws with
    | nil => intro irq _; rfl
    | cons w ws ih =>
      intro irq hw
      have hw' := ih (fun n => irq (n + 1)) fun w' hw' => hw w' (List.mem_cons_of_mem _ hw')
      rw [interrupt, writesTo_append, hcoins, writesTo_cons, if_neg (hw w List.mem_cons_self), hw',
        List.length_cons, List.range_succ_eq_map, List.flatMap_cons, List.flatMap_map,
        List.map_append]
  cases c with
  | writeCoins c => exact hcoins [c]
  | saveUserData e u irq =>
    have hnd := userData_nodup e u
    rw [writes, Machine.userData, interrupt, writesTo_append, hcoins, writesTo_cons, if_pos rfl,
      hrest]
    · simp [shared, sharedValue]
    · intro w hw hw13
      exact (List.nodup_cons.mp hnd).1 (List.mem_map.mpr ⟨w, hw, hw13⟩)

/-- Register 13 holds what was stored in it last. -/
lemma bank_shared {x : UInt16 ⊕ Int32} (h : (calls.flatMap Call.shared).getLast? = some x) :
    bank calls bkp 13 = sharedValue x := by
  have hwrites : writesTo 13 (calls.flatMap Call.writes) =
      (calls.flatMap Call.shared).map sharedValue := by
    rw [writesTo_flatMap, List.map_flatMap]
    exact List.flatMap_congr fun c _ => c.writesTo_shared
  rw [bank, writeAll_apply, hwrites, List.getLast?_map, h]
  rfl

/-- The records stored in register 13 are the ones that were saved. -/
lemma records_eq : (calls.flatMap Call.shared).filterMap Sum.getRight? =
    (calls.filterMap Call.saved).map Prod.fst := by
  induction calls with
  | nil => rfl
  | cons c calls ih =>
    rw [List.flatMap_cons, List.filterMap_append, ih]
    have hcoins : ∀ cs : List UInt16,
        (cs.map (Sum.inl (β := Int32))).filterMap Sum.getRight? = [] := by
      intro cs
      simp [List.filterMap_eq_nil_iff]
    cases c with
    | writeCoins c => rfl
    | saveUserData e u irq =>
      rw [Call.shared, List.filterMap_append, hcoins, List.nil_append]
      change (e :: List.filterMap Sum.getRight? _) ++ _ = _
      rw [hcoins]
      rfl

end Registers

/-! ## The theorem -/

/-- The change is kept as a sign-extended word. -/
lemma moneyBack_restored (x : Int16) : x.toInt32.toUInt32.toUInt16.toInt16 = x := by
  apply Int16.toBitVec_inj.mp
  change BitVec.setWidth 16 (BitVec.signExtend 32 x.toBitVec) = x.toBitVec
  ext i hi
  rw [BitVec.getElem_setWidth, BitVec.getLsbD_signExtend]
  simp only [hi, if_true]
  have : i < 32 := by omega
  simp [this, hi]

/-- The fields of the selection are restored always. -/
lemma restart_sameSaved {calls : List Call} {bkp : Fin 20 → UInt32} {e : Int32}
    {u : UserSelection} (h : lastSave calls = some (e, u)) :
    (restart calls bkp).session.userAct.SameSaved u := by
  have hr : ∀ w ∈ (Machine.userData e u).tail, bank calls bkp w.1 = w.2 := by
    intro w hw
    refine bank_apply h (List.mem_of_mem_tail hw) ?_
    intro hw13
    exact (List.nodup_cons.mp (userData_nodup e u)).1 (List.mem_map.mpr ⟨w, hw, hw13⟩)
  simp only [Machine.userData, List.tail_cons, List.forall_mem_cons, List.not_mem_nil,
    IsEmpty.forall_iff, implies_true, and_true] at hr
  obtain ⟨h4, h5, h6, h7, h8, h9, h10, h11, h12, h14, h15, h16, h17⟩ := hr
  exact
    { mealCnt := by
        funext k
        fin_cases k
        · exact (congrArg UInt32.toUInt8 h4).trans (UInt8.toUInt8_toUInt32 _)
        · exact (congrArg UInt32.toUInt8 h5).trans (UInt8.toUInt8_toUInt32 _)
        · exact (congrArg UInt32.toUInt8 h6).trans (UInt8.toUInt8_toUInt32 _)
        · exact (congrArg UInt32.toUInt8 h7).trans (UInt8.toUInt8_toUInt32 _)
      mealTotoal := (congrArg UInt32.toUInt8 h8).trans (UInt8.toUInt8_toUInt32 _)
      mealTakeout := (congrArg UInt32.toUInt8 h9).trans (UInt8.toUInt8_toUInt32 _)
      payShould := (congrArg UInt32.toUInt16 h10).trans (UInt16.toUInt16_toUInt32 _)
      payAlready := (congrArg UInt32.toUInt16 h11).trans (UInt16.toUInt16_toUInt32 _)
      moneyBack :=
        (congrArg (fun v : UInt32 => v.toUInt16.toInt16) h12).trans (moneyBack_restored _)
      mealCntT := by
        funext k
        fin_cases k
        · exact (congrArg UInt32.toUInt8 h14).trans (UInt8.toUInt8_toUInt32 _)
        · exact (congrArg UInt32.toUInt8 h15).trans (UInt8.toUInt8_toUInt32 _)
        · exact (congrArg UInt32.toUInt8 h16).trans (UInt8.toUInt8_toUInt32 _)
        · exact (congrArg UInt32.toUInt8 h17).trans (UInt8.toUInt8_toUInt32 _) }

/-- The total of the coins, the record of the errors and the selection are all restored
exactly if what register 13 holds in the end serves for both of its users. -/
theorem restored_iff (calls : List Call) (bkp : Fin 20 → UInt32) :
    Restored calls bkp ↔ SharedAgree calls := by
  have hrecords : ∀ e u, lastSave calls = some (e, u) →
      ((calls.flatMap Call.shared).filterMap Sum.getRight?).getLast? = some e := by
    intro e u h
    rw [records_eq, List.getLast?_map, ← lastSave, h]
    rfl
  cases hlast : (calls.flatMap Call.shared).getLast? with
  | none =>
    -- nothing was stored at all
    have hnil : calls.flatMap Call.shared = [] := List.getLast?_eq_none_iff.mp hlast
    have hcoins : lastCoins calls = none := by rw [lastCoins, hnil]; rfl
    have hsave : ∀ e u, lastSave calls ≠ some (e, u) := by
      intro e u h
      have := hrecords e u h
      rw [hnil] at this
      cases this
    constructor
    · intro _ c e u hc
      rw [hcoins] at hc
      cases hc
    · intro _
      refine ⟨fun c hc => ?_, fun e u h => absurd h (hsave e u), fun e u h => absurd h (hsave e u)⟩
      rw [hcoins] at hc
      cases hc
  | some x =>
    have hbank : bank calls bkp 13 = sharedValue x := bank_shared hlast
    have hcoinTotoal : (restart calls bkp).coinTotoal = (sharedValue x).toUInt16 :=
      congrArg UInt32.toUInt16 hbank
    have hrecord : (restart calls bkp).erroRecord = (sharedValue x).toInt32 :=
      congrArg UInt32.toInt32 hbank
    cases x with
    | inl c =>
      have hcoins : lastCoins calls = some c := getLast?_filterMap_of_getLast? hlast rfl
      have htotal : (restart calls bkp).coinTotoal = c :=
        hcoinTotoal.trans (UInt16.toUInt16_toUInt32 c)
      constructor
      · intro h c' e u hc' hs
        obtain rfl : c' = c := Option.some.inj (hc'.symm.trans hcoins)
        rw [hlast]
        have := hrecord.symm.trans (h.record e u hs)
        rw [← this]
        rfl
      · intro h
        refine ⟨fun c' hc' => ?_, fun e u hs => ?_, fun e u hs => restart_sameSaved hs⟩
        · rw [htotal]
          exact Option.some.inj (hcoins.symm.trans hc')
        · have := h c e u hcoins hs
          rw [hlast] at this
          change e.toUInt32 = c.toUInt32 at this
          rw [hrecord, sharedValue, ← this]
          rfl
    | inr e =>
      have hright : ((calls.flatMap Call.shared).filterMap Sum.getRight?).getLast? = some e :=
        getLast?_filterMap_of_getLast? hlast rfl
      have hsaved : ∀ e' u, lastSave calls = some (e', u) → e' = e := by
        intro e' u h
        exact Option.some.inj ((hrecords e' u h).symm.trans hright)
      have hsome : ∃ u, lastSave calls = some (e, u) := by
        rw [records_eq, List.getLast?_map, ← lastSave, Option.map_eq_some_iff] at hright
        obtain ⟨⟨e', u⟩, h, rfl⟩ := hright
        exact ⟨u, h⟩
      constructor
      · intro h c e' u hc hs
        obtain rfl := hsaved e' u hs
        rw [hlast]
        exact hcoinTotoal.symm.trans (h.coins c hc)
      · intro h
        refine ⟨fun c hc => ?_, fun e' u hs => ?_, fun e' u hs => restart_sameSaved hs⟩
        · obtain ⟨u, hs⟩ := hsome
          have := h c e u hc hs
          rw [hlast] at this
          exact hcoinTotoal.trans this
        · rw [hrecord, hsaved e' u hs]
          rfl

/-- A hundred coins are stored, and then a selection without any error: no coin is left
after the restart. -/
theorem coins_lost_after_save : ¬ ∀ calls bkp, Restored calls bkp := by
  intro hall
  have h := (hall [.writeCoins 100, .saveUserData 0 .zero fun _ => []] fun _ => 0).coins 100 rfl
  revert h
  decide

end MealVendor
