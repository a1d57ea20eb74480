import MealVendor.Reader.Reception

/-!
# What `ManageRxData` reads

The loop of `ManageRxData` goes over as many cells as the two length bytes say, and its counter has
16 bits.  The last comparison looks at the cell before `PrintIndex2`.
-/

namespace MealVendor

namespace Uart2

variable {u : Uart2} {fuel : ℕ} {i : UInt16} {sumdata : UInt8}

/-! ## The loop -/

lemma rxLen_lt (h : u.rxLen ≠ 0xffff) : u.rxLen < 0xffff := by
  have h9 := (u.printBuf2 9).toNat_lt
  have h10 := (u.printBuf2 10).toNat_lt
  rw [rxLen] at h ⊢
  omega

/-- A counter of 16 bits never reaches 0x10000. -/
lemma rxLoop_endless (h : u.rxLen = 0xffff) (fuel : ℕ) (i : UInt16) (sumdata : UInt8) :
    (u.rxLoop fuel i sumdata).1 = none := by
  induction fuel generalizing i sumdata with
  | zero => rfl
  | succ fuel ih =>
    have hi : i.toNat < u.rxLen + 1 := by
      rw [h]
      exact i.toNat_lt
    rw [rxLoop, if_pos hi]
    exact ih _ _

/-- With fewer cells the loop adds them up and ends. -/
lemma rxLoop_fst (h : u.rxLen < 0xffff) {n : ℕ} (hn : i.toNat + n = u.rxLen + 1) :
    (u.rxLoop fuel i sumdata).1 = if n < fuel then
      some (sumdata + ((List.range' (11 + i.toNat) n).map u.printBuf2).sum) else none := by
  induction fuel generalizing i sumdata n with
  | zero => simp [rxLoop]
  | succ fuel ih =>
    rw [rxLoop]
    cases n with
    | zero =>
      rw [if_neg (by omega), if_pos fuel.succ_pos]
      simp
    | succ n =>
      have hi : (i + 1).toNat = i.toNat + 1 := by
        rw [UInt16.toNat_add, show (1 : UInt16).toNat = 1 from rfl]
        omega
      rw [if_pos (by omega)]
      refine (ih (by omega : (i + 1).toNat + n = u.rxLen + 1)).trans ?_
      rw [hi, List.range'_succ, List.map_cons, List.sum_cons, add_assoc, ← add_assoc 11]
      simp only [Nat.succ_lt_succ_iff]

/-- The cells that are read by the loop. -/
lemma mem_rxLoop {j : ℕ} (hj : j ∈ (u.rxLoop fuel i sumdata).2) : 9 ≤ j ∧ j ≤ 11 + u.rxLen := by
  induction fuel generalizing i sumdata with
  | zero => cases hj
  | succ fuel ih =>
    rw [rxLoop] at hj
    split_ifs at hj with hi
    · simp only [List.mem_cons] at hj
      rcases hj with rfl | rfl | rfl | hj
      · omega
      · omega
      · omega
      · exact ih hj
    · simp only [List.mem_cons, List.not_mem_nil, or_false] at hj
      omega

/-- The last cell is read unless the loop is stopped before it. -/
lemma last_mem_rxLoop (h : u.rxLen < 0xffff) {n : ℕ} (hn : i.toNat + n = u.rxLen) :
    11 + u.rxLen ∈ (u.rxLoop (n + 2) i sumdata).2 := by
  induction n generalizing i sumdata with
  | zero =>
    rw [rxLoop, if_pos (by omega), ← hn]
    simp
  | succ n ih =>
    have hi : (i + 1).toNat = i.toNat + 1 := by
      rw [UInt16.toNat_add, show (1 : UInt16).toNat = 1 from rfl]
      omega
    rw [rxLoop, if_pos (by omega)]
    simp only [List.mem_cons]
    exact .inr (.inr (.inr (ih (by omega))))

/-! ## The comparisons -/

/-- What the loop adds up. -/
def sum (u : Uart2) : UInt8 := (u.summed.map u.printBuf2).sum

/-- All comparisons before the last one hold. -/
structure Tested (u : Uart2) : Prop where
  sum : u.sum = 0
  first : u.printBuf2 6 = 0x00
  second : u.printBuf2 7 = 0x00
  third : u.printBuf2 8 = 0xff

/-- The call ends, and reads inside of `PrintBuf2` however far it gets. -/
structure RxSafe (u : Uart2) : Prop where
  ends : ∃ fuel, (u.rxRun fuel).1.isSome
  inside : ∀ fuel, ∀ i ∈ (u.rxRun fuel).2, i < 640

/-- As many rounds as there are cells to add up, and one for the end. -/
lemma rxLoop_enough (h : u.rxLen < 0xffff) : (u.rxLoop (u.rxLen + 2) 0 0).1 = some u.sum := by
  rw [rxLoop_fst h (n := u.rxLen + 1) (by simp), if_pos (by omega), sum, summed]
  simp

/-- The sum does not depend on the number of rounds that are allowed. -/
lemma rxLoop_some (h : u.rxLen < 0xffff) (hsome : (u.rxLoop fuel 0 0).1 = some sumdata) :
    sumdata = u.sum := by
  rw [rxLoop_fst h (n := u.rxLen + 1) (by simp)] at hsome
  split_ifs at hsome
  rw [sum, summed, ← Option.some_inj.mp hsome]
  simp

/-- The cell before `PrintIndex2` is looked at last. -/
lemma mem_testCells {j : ℕ}
    (hj : j ∈ (u.testCells [(6, 0x00), (7, 0x00), (8, 0xff), (u.lastCell, 0x00)]).2) :
    j = 6 ∨ j = 7 ∨ j = 8 ∨
      j = u.lastCell ∧ u.printBuf2 6 = 0x00 ∧ u.printBuf2 7 = 0x00 ∧ u.printBuf2 8 = 0xff := by
  simp only [testCells] at hj
  split_ifs at hj with h6 h7 h8 h9 <;>
    simp only [List.mem_cons, List.not_mem_nil, or_false] at hj <;> tauto

lemma lastCell_mem (h : u.Tested) :
    u.lastCell ∈ (u.testCells [(6, 0x00), (7, 0x00), (8, 0xff), (u.lastCell, 0x00)]).2 := by
  simp only [testCells, h.first, h.second, h.third, if_true]
  split_ifs <;> simp

lemma rxRun_of_none (h : (u.rxLoop fuel 0 0).1 = none) :
    u.rxRun fuel = (none, (u.rxLoop fuel 0 0).2) := by
  rw [rxRun, show u.rxLoop fuel 0 0 = (none, (u.rxLoop fuel 0 0).2) from Prod.ext h rfl]

lemma rxRun_of_some (h : (u.rxLoop fuel 0 0).1 = some sumdata) :
    u.rxRun fuel = if sumdata = 0 then
      let t := u.testCells [(6, 0x00), (7, 0x00), (8, 0xff), (u.lastCell, 0x00)]
      (some (if t.1 then .dataReOk else .dataReErr), (u.rxLoop fuel 0 0).2 ++ t.2)
    else (some .dataReErr, (u.rxLoop fuel 0 0).2) := by
  rw [rxRun, show u.rxLoop fuel 0 0 = (some sumdata, (u.rxLoop fuel 0 0).2) from Prod.ext h rfl]

/-- A call ends exactly if its loop does. -/
lemma rxRun_isSome (fuel : ℕ) : (u.rxRun fuel).1.isSome ↔ (u.rxLoop fuel 0 0).1.isSome := by
  cases h : (u.rxLoop fuel 0 0).1 with
  | none =>
    rw [rxRun_of_none h]
    simp
  | some sumdata =>
    rw [rxRun_of_some h]
    split_ifs <;> simp

/-- The cells that are read: those of the loop, and by the comparisons if the sum is 0. -/
lemma mem_rxRun (h : u.rxLen < 0xffff) {j : ℕ} (hj : j ∈ (u.rxRun fuel).2) :
    j ≤ 11 + u.rxLen ∨ j = u.lastCell ∧ u.Tested := by
  cases hloop : (u.rxLoop fuel 0 0).1 with
  | none =>
    rw [rxRun_of_none hloop] at hj
    exact .inl (mem_rxLoop hj).2
  | some sumdata =>
    rw [rxRun_of_some hloop] at hj
    split_ifs at hj with hsum
    · rcases List.mem_append.mp hj with hj | hj
      · exact .inl (mem_rxLoop hj).2
      · rw [rxLoop_some h hloop] at hsum
        rcases mem_testCells hj with rfl | rfl | rfl | ⟨hlast, h6, h7, h8⟩
        · exact .inl (by omega)
        · exact .inl (by omega)
        · exact .inl (by omega)
        · exact .inr ⟨hlast, hsum, h6, h7, h8⟩
    · exact .inl (mem_rxLoop hj).2

lemma lastCell_mem_rxRun (h : u.rxLen < 0xffff) (ht : u.Tested) :
    u.lastCell ∈ (u.rxRun (u.rxLen + 2)).2 := by
  rw [rxRun_of_some (rxLoop_enough h), if_pos ht.sum]
  exact List.mem_append_right _ (lastCell_mem ht)

lemma last_mem_rxRun (h : u.rxLen < 0xffff) : 11 + u.rxLen ∈ (u.rxRun (u.rxLen + 2)).2 := by
  have hmem : 11 + u.rxLen ∈ (u.rxLoop (u.rxLen + 2) 0 0).2 := last_mem_rxLoop h (by simp)
  rw [rxRun_of_some (rxLoop_enough h)]
  split_ifs
  · exact List.mem_append_left _ hmem
  · exact hmem

lemma testCells_fst (tests : List (ℕ × UInt8)) :
    (u.testCells tests).1 = true ↔ ∀ t ∈ tests, u.printBuf2 t.1 = t.2 := by
  induction tests with
  | nil => simp [testCells]
  | cons t tests ih =>
    rw [testCells, List.forall_mem_cons]
    split_ifs with h
    · rw [ih, and_iff_right h]
    · simp [h]

/-- A call that ends returns what `manageRxData` says. -/
lemma rxRun_fst (hindex : u.printIndex2 ≠ 0) (h : u.rxLen < 0xffff)
    (hloop : (u.rxLoop fuel 0 0).1 = some sumdata) : (u.rxRun fuel).1 = u.manageRxData := by
  have hlast : u.lastCell = u.printIndex2 - 1 := if_neg hindex
  have hsum := rxLoop_some h hloop
  rw [rxRun_of_some hloop, manageRxData, if_neg h.ne, hsum, sum, hlast]
  dsimp only
  by_cases h0 : (u.summed.map u.printBuf2).sum = 0
  · rw [if_pos h0]
    refine congrArg some (if_congr ?_ rfl rfl)
    rw [testCells_fst]
    simp [h0]
  · rw [if_neg h0, if_neg fun hall => h0 hall.1]

/-- `manageRxData` is the call with its loop, which ends unless the length is 0xffff. -/
lemma manageRxData_eq_some (hindex : u.printIndex2 ≠ 0) (s : DataReStatus) :
    u.manageRxData = some s ↔ ∃ fuel, (u.rxRun fuel).1 = some s := by
  by_cases hmax : u.rxLen = 0xffff
  · rw [manageRxData, if_pos hmax]
    refine iff_of_false (by simp) ?_
    rintro ⟨fuel, hfuel⟩
    rw [rxRun_of_none (rxLoop_endless hmax ..)] at hfuel
    cases hfuel
  · have hlen := rxLen_lt hmax
    constructor
    · intro h
      exact ⟨_, (rxRun_fst hindex hlen (rxLoop_enough hlen)).trans h⟩
    · rintro ⟨fuel, hfuel⟩
      obtain ⟨sumdata, hloop⟩ := Option.isSome_iff_exists.mp
        ((rxRun_isSome fuel).mp (by rw [hfuel]; rfl))
      rw [← rxRun_fst hindex hlen hloop]
      exact hfuel

/-- The acknowledgement is recognised only behind its six bytes. -/
lemma six_le_printIndex2 {a : Answer} (h : (u.reset.receive a.toAck).manageACK = .isAck) :
    6 ≤ ((u.reset.receive a.toAck).receive a.toData).printIndex2 := by
  have hack : 6 ≤ a.toAck.length := by
    by_contra hshort
    have hcell := (received u a.toAck).cells 5
    rw [List.getElem?_eq_none (by omega)] at hcell
    have hff : (u.reset.receive a.toAck).printBuf2 5 = 0xff := hcell
    rw [manageACK] at h
    simp [front, List.range_succ, hff] at h
  rw [receive, receive, ← List.foldl_append, ← receive, (received u _).index, List.length_append]
  omega

lemma lastCell_lt_iff (h : 6 ≤ u.printIndex2) : u.lastCell < 640 ↔ u.printIndex2 ≤ 640 := by
  rw [lastCell, if_neg (by omega)]
  omega

/-- The call is safe exactly if the length is at most 628 and, where the last comparison is made,
the cell before `PrintIndex2` is inside. -/
lemma rxSafe_iff (u : Uart2) :
    u.RxSafe ↔ u.rxLen ≤ 628 ∧ (u.Tested → u.lastCell < 640) := by
  constructor
  · intro h
    have hlen : u.rxLen < 0xffff := by
      refine rxLen_lt fun hmax => ?_
      obtain ⟨fuel, hfuel⟩ := h.ends
      rw [rxRun_isSome, rxLoop_endless hmax] at hfuel
      cases hfuel
    refine ⟨?_, fun ht => h.inside _ _ (lastCell_mem_rxRun hlen ht)⟩
    have := h.inside _ _ (last_mem_rxRun hlen)
    omega
  · rintro ⟨hlen, hlast⟩
    refine ⟨⟨u.rxLen + 2, ?_⟩, fun fuel j hj => ?_⟩
    · rw [rxRun_isSome, rxLoop_enough (by omega)]
      rfl
    · rcases mem_rxRun (by omega) hj with hj | ⟨rfl, ht⟩
      · omega
      · exact hlast ht

/-- `ManageRxData` ends and reads inside of `PrintBuf2` exactly if the length is at most 628 and,
where the last comparison is made, the cell before `PrintIndex2` is inside; in a call of
`ManageReOrderType`, at most 640 bytes have come then. -/
theorem manageRxData_safe_iff (u : Uart2) :
    (u.RxSafe ↔ u.rxLen ≤ 628 ∧ (u.Tested → u.lastCell < 640)) ∧
    ∀ a : Answer, (u.reset.receive a.toAck).manageACK = .isAck →
      let uData := (u.reset.receive a.toAck).receive a.toData
      uData.RxSafe ↔ uData.rxLen ≤ 628 ∧ (uData.Tested → uData.printIndex2 ≤ 640) := by
  refine ⟨rxSafe_iff u, fun a hack => ?_⟩
  have hindex := six_le_printIndex2 hack
  exact (rxSafe_iff _).trans (and_congr_right' (imp_congr_right fun _ => lastCell_lt_iff hindex))

/-- The reader acknowledges the command and sends nothing else: the length bytes are still 0xff. -/
theorem rx_not_safe : ¬ ∀ (u : Uart2) (a : Answer), (u.reset.receive a.toAck).manageACK = .isAck →
    ((u.reset.receive a.toAck).receive a.toData).RxSafe := by
  intro h
  obtain ⟨fuel, hfuel⟩ := (h blank ⟨[0x00, 0x00, 0xff, 0x00, 0xff, 0x00], [], [], []⟩
    (by decide +kernel)).ends
  rw [rxRun_isSome, rxLoop_endless (by decide +kernel)] at hfuel
  cases hfuel

end Uart2

end MealVendor
