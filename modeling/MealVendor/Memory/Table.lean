import MealVendor.Lib.Transition
import MealVendor.Memory.Flash
import MealVendor.Memory.SpiFlash

/-!
# The table in the flash

`WriteMeal` is followed down to the chip.  Whatever the cells do, it leaves in the RAM what the
flash holds; on a chip that works, the flash is a store for the table in every order of the calls.
-/

namespace MealVendor

namespace SpiFlash

variable {k : W25Q} {c : FlashChip}

/-! ## The cells of the table -/

/-- The table in the first sector. -/
def cells (m : ℕ → UInt8) : FlashBuffer := fun i => m i

/-- What the cells hold once the sector is erased, and once a table is written. -/
def erasedCells (k : W25Q) (m : ℕ → UInt8) : ℕ → UInt8 := k.nor.eraseSector m 0

def writtenCells (k : W25Q) (m : ℕ → UInt8) (ram : FlashBuffer) : ℕ → UInt8 :=
  k.nor.program m 0 (bytesAt (pointer ram) 90)

lemma cell_of_lt {i : ℕ} (hi : i < 90) : k.nor.cell i = i := by
  rw [cell_eq]
  omega

lemma writtenCells_of_lt (m : ℕ → UInt8) (ram : FlashBuffer) (i : Fin 90) :
    writtenCells k m ram i = k.prog i (m i) (ram i) := by
  have hi : (i : ℕ) < (bytesAt (pointer ram) 90).length := by simp
  have hwrite := Lib.Nor.program_add (N := k.nor) (m := m) (a := 0)
    (length_le_size (pointer ram) 90) hi
  rw [Nat.zero_add, cell_of_lt i.isLt] at hwrite
  simpa [writtenCells, bytesAt, pointer, W25Q.nor] using hwrite

lemma writtenCells_of_le (m : ℕ → UInt8) (ram : FlashBuffer) {x : ℕ} (hx : 90 ≤ x) :
    writtenCells k m ram x = m x := by
  refine Lib.Nor.program_of_ne fun i hi => ?_
  rw [length_bytesAt] at hi
  rw [Nat.zero_add, cell_of_lt hi]
  omega

lemma erasedCells_of_lt (m : ℕ → UInt8) {x : ℕ} (hx : x < 4096) :
    erasedCells k m x = k.erase x (m x) := by
  refine Lib.Nor.eraseSector_of_eq ?_
  change x / 4096 = 0 % 0x800000 / 4096
  omega

lemma erasedCells_of_le (m : ℕ → UInt8) {x : ℕ} (hx : 4096 ≤ x) : erasedCells k m x = m x := by
  refine Lib.Nor.eraseSector_of_ne ?_
  change x / 4096 ≠ 0 % 0x800000 / 4096
  omega

lemma table_read (m : ℕ → UInt8) : table (k.nor.read m 0 90) = cells m := by
  funext i
  simp [table, Lib.Nor.read, cells, cell_of_lt i.isLt]

lemma buffercmp_iff (p q : ℕ → UInt8) (n : ℕ) : buffercmp p q n = true ↔ ∀ i < n, p i = q i := by
  induction n generalizing p q with
  | zero => simp [buffercmp]
  | succ n ih =>
    rw [buffercmp]
    split_ifs with h
    · refine iff_of_false (by simp) fun hall => h (hall 0 n.succ_pos)
    · rw [ih, Nat.forall_lt_succ_left]
      simp only [advance, Nat.add_comm 1, not_not.mp h, true_and]

lemma buffercmp_pointer (a b : FlashBuffer) :
    buffercmp (pointer a) (pointer b) 90 = true ↔ a = b := by
  rw [buffercmp_iff]
  constructor
  · intro h
    funext i
    simpa [pointer] using h i i.isLt
  · rintro rfl i -
    rfl

/-- What the flash does in a call of `WriteMeal`, when it is this chip. -/
def air (k : W25Q) (m : ℕ → UInt8) (ram : FlashBuffer) : FlashAir :=
  let written := writtenCells k (erasedCells k m) ram
  let rewritten := writtenCells k written ram
  ⟨cells (erasedCells k m), cells written, cells written, cells rewritten, cells rewritten⟩

/-- `WriteMeal`, with what it leaves in the RAM and in the cells. -/
lemma writeMeal_eq {fuel : ℕ} (htime : ∀ m i, k.time m i < fuel) (hc : Ready c)
    (ram : FlashBuffer) :
    ∃ s, writeMeal k.bus fuel ram c = some s ∧ Ready s.chip ∧
      if ram = (air k c.mem ram).read then
        s.flashBuffer = ram ∧ s.transferStatus1 = true ∧
          s.chip.mem = writtenCells k (erasedCells k c.mem) ram
      else
        s.flashBuffer = (air k c.mem ram).reread ∧
          (s.transferStatus1 = true ↔ (air k c.mem ram).reread = (air k c.mem ram).read) ∧
          s.chip.mem = writtenCells k (writtenCells k (erasedCells k c.mem) ram) ram := by
  obtain ⟨c₁, hc₁, hready₁, hmem₁⟩ := sectorErase_eq htime hc 0
  obtain ⟨c₂, hc₂, hready₂, hmem₂⟩ := bufferWrite_eq htime hready₁ (pointer ram) 0 90
  obtain ⟨c₃, hc₃, hready₃, hmem₃⟩ := bufferWrite_eq htime hready₂ (pointer ram) 0 90
  have hread : ∀ {c : FlashChip}, Ready c →
      bufferRead k.bus 0 90 c = (k.nor.read c.mem 0 90, c) := fun h => bufferRead_eq h 0 90
  have hwritten : c₂.mem = writtenCells k (erasedCells k c.mem) ram := by
    rw [hmem₂, hmem₁]
    rfl
  have hrewritten : c₃.mem = writtenCells k (writtenCells k (erasedCells k c.mem) ram) ram := by
    rw [hmem₃, hwritten]
    rfl
  simp only [writeMeal, readDeviceID_eq hc, readID_eq hc, hread hc, hc₁, hc₂, hc₃,
    Option.bind_some, hread hready₂, hread hready₃, table_read, buffercmp_pointer]
  have hair : (air k c.mem ram).read = cells c₂.mem := by
    rw [hwritten]
    rfl
  rw [hair]
  by_cases hcmp : ram = cells c₂.mem
  · simp only [if_pos hcmp]
    exact ⟨_, rfl, hready₂, rfl, rfl, hwritten⟩
  · simp only [if_neg hcmp]
    refine ⟨_, rfl, hready₃, ?_, ?_, hrewritten⟩
    · rw [hrewritten]
      rfl
    · rw [buffercmp_pointer, hrewritten]
      rfl

lemma getLast_bufferWrite (w b : FlashBuffer) : (MealVendor.bufferWrite w b).getLast? = some w := by
  simp [MealVendor.bufferWrite, List.range_succ]

lemma getLast_writeMealBytes (air : FlashAir) (ram b : FlashBuffer) :
    (writeMealBytes air ram b).2.getLast? =
      some (if ram = air.read then air.written else air.rewritten) := by
  rw [writeMealBytes]
  split_ifs
  · rw [List.getLast?_cons, getLast_bufferWrite]
    rfl
  · rw [List.cons_append, List.getLast?_cons, List.getLast?_append, getLast_bufferWrite,
      getLast_bufferWrite]
    rfl

/-- `WriteMeal` over any chip comes to an end, and is `writeMealBytes` with what this chip does.
Whatever its cells do, the floor table is afterwards what the flash holds, and the other sectors are
as they were. -/
theorem writeMeal_refines (k : W25Q) (fuel : ℕ) (htime : ∀ m i, k.time m i < fuel)
    (c : FlashChip) (hc : Ready c) (ram : FlashBuffer) :
    ∃ s, writeMeal k.bus fuel ram c = some s ∧ Ready s.chip ∧
      s.flashBuffer = (writeMealBytes (air k c.mem ram) ram (cells c.mem)).1 ∧
      (writeMealBytes (air k c.mem ram) ram (cells c.mem)).2.getLast? =
        some (cells s.chip.mem) ∧
      s.flashBuffer = cells s.chip.mem ∧
      ∀ x ≥ 4096, s.chip.mem x = c.mem x := by
  obtain ⟨s, hs, hready, hcases⟩ := writeMeal_eq htime hc ram
  refine ⟨s, hs, hready, ?_⟩
  rw [getLast_writeMealBytes, writeMealBytes]
  split_ifs at hcases ⊢ with hcmp
  · obtain ⟨hram, -, hmem⟩ := hcases
    refine ⟨hram, ?_, ?_, fun x hx => ?_⟩
    · rw [hmem]
      rfl
    · rw [hram, hmem]
      exact hcmp
    · rw [hmem, writtenCells_of_le _ _ (by omega), erasedCells_of_le _ hx]
  · obtain ⟨hram, -, hmem⟩ := hcases
    refine ⟨hram, ?_, ?_, fun x hx => ?_⟩
    · rw [hmem]
      rfl
    · rw [hram, hmem]
      rfl
    · rw [hmem, writtenCells_of_le _ _ (by omega), writtenCells_of_le _ _ (by omega),
        erasedCells_of_le _ hx]

/-- Where programming works, what erasing leaves of the bits decides: the floor table becomes the
table as far as the erased cells can hold it.  The second attempt changes nothing, and
`TransferStatus1` says `PASSED` in any case. -/
theorem writeMeal_erased (k : W25Q) (hprog : ∀ x old d, k.prog x old d = old &&& d) (fuel : ℕ)
    (htime : ∀ m i, k.time m i < fuel) (c : FlashChip) (hc : Ready c) (ram : FlashBuffer) :
    ∃ s, writeMeal k.bus fuel ram c = some s ∧ s.transferStatus1 = true ∧
      s.flashBuffer = (fun i : Fin 90 => k.erase i (c.mem i) &&& ram i) ∧
      (s.flashBuffer = ram ↔ ∀ i : Fin 90, k.erase i (c.mem i) &&& ram i = ram i) := by
  have hwritten : cells (writtenCells k (erasedCells k c.mem) ram) =
      fun i : Fin 90 => k.erase i (c.mem i) &&& ram i := by
    funext i
    rw [cells, writtenCells_of_lt, erasedCells_of_lt _ (by omega), hprog]
  have hrewritten : cells (writtenCells k (writtenCells k (erasedCells k c.mem) ram) ram) =
      cells (writtenCells k (erasedCells k c.mem) ram) := by
    funext i
    rw [cells, cells, writtenCells_of_lt, writtenCells_of_lt, hprog, hprog, UInt8.and_assoc,
      UInt8.and_self]
  obtain ⟨s, hs, -, hcases⟩ := writeMeal_eq htime hc ram
  have hram : s.transferStatus1 = true ∧ s.flashBuffer = cells (writtenCells k
      (erasedCells k c.mem) ram) := by
    split_ifs at hcases with hcmp
    · exact ⟨hcases.2.1, hcases.1.trans hcmp⟩
    · exact ⟨hcases.2.1.mpr hrewritten, hcases.1.trans hrewritten⟩
  refine ⟨s, hs, hram.1, hram.2.trans hwritten, ?_⟩
  rw [hram.2, hwritten]
  exact funext_iff

theorem writeMeal_refines_w25q64 :
    ∃ s, writeMeal w25q64.bus 4 (fun _ => 7) ⟨fun _ => 0, true, 0, none⟩ = some s ∧
      s.flashBuffer = cells s.chip.mem := by
  obtain ⟨s, hs, -, -, -, hsame, -⟩ := writeMeal_refines w25q64 4 time_w25q64
    ⟨fun _ => 0, true, 0, none⟩ ⟨rfl, rfl⟩ fun _ => 7
  exact ⟨s, hs, hsame⟩

/-- A bit of each cell is not set when it is erased. -/
def wornOut : W25Q := { w25q64 with erase := fun _ _ => 0xFE }

theorem writeMeal_erased_wornOut :
    ∃ s, writeMeal wornOut.bus 4 (fun _ => 7) ⟨fun _ => 0, true, 0, none⟩ = some s ∧
      s.transferStatus1 = true ∧ s.flashBuffer ≠ fun _ => 7 := by
  obtain ⟨s, hs, hpassed, -, hiff⟩ := writeMeal_erased wornOut (fun _ _ _ => rfl) 4 time_w25q64
    ⟨fun _ => 0, true, 0, none⟩ ⟨rfl, rfl⟩ fun _ => 7
  exact ⟨s, hs, hpassed, fun heq => absurd (hiff.mp heq 0) (by decide)⟩

/-! ## The flash as a store -/

/-- What the program does with the table and the flash; `edit` is any other change of the table. -/
inductive FlashCall
  | writeMeal
  | readMeal
  | clearMealInfo
  | hardfawreInit
  | edit (t : FlashBuffer)

/-- The table in the RAM and the chip. -/
def callStep (k : W25Q) (fuel : ℕ) (s : FlashBuffer × FlashChip) :
    FlashCall → Option (FlashBuffer × FlashChip)
  | .writeMeal => (writeMeal k.bus fuel s.1 s.2).map fun r => (r.flashBuffer, r.chip)
  | .readMeal => some (readMeal k.bus s.2)
  | .clearMealInfo => (clearMealInfo k.bus fuel s.2).map fun c => (s.1, c)
  | .hardfawreInit => (hardfawreInit k.bus fuel s.2).map fun r => (r.flashBuffer, r.chip)
  | .edit t => some (t, s.2)

/-- A table in the RAM and a table that is kept. -/
structure Store where
  ram : FlashBuffer
  kept : FlashBuffer

/-- What the calls are for. -/
def Store.call (s : Store) : FlashCall → Store
  | .writeMeal => { s with kept := s.ram }
  | .readMeal => { s with ram := s.kept }
  | .clearMealInfo => { s with kept := blankSector }
  | .hardfawreInit => ⟨clearBlank s.kept, clearBlank s.kept⟩
  | .edit t => { s with ram := t }

/-- The chip keeps the table of the store. -/
structure Keeps (s : FlashBuffer × FlashChip) (st : Store) : Prop where
  ready : Ready s.2
  ram : s.1 = st.ram
  kept : cells s.2.mem = st.kept

lemma readMeal_eq (hc : Ready c) : readMeal k.bus c = (cells c.mem, c) := by
  rw [readMeal, bufferRead_eq hc]
  exact congrArg (fun t => (t, c)) (table_read c.mem)

lemma writeMeal_works (hk : Works k) {fuel : ℕ} (htime : ∀ m i, k.time m i < fuel)
    (hc : Ready c) (ram : FlashBuffer) :
    ∃ s, writeMeal k.bus fuel ram c = some s ∧ Ready s.chip ∧ s.flashBuffer = ram ∧
      cells s.chip.mem = ram ∧ ∀ x ≥ 4096, s.chip.mem x = c.mem x := by
  obtain ⟨s, hs, hready, hcases⟩ := writeMeal_eq htime hc ram
  have hwritten : ram = cells (writtenCells k (erasedCells k c.mem) ram) := by
    funext i
    rw [cells, writtenCells_of_lt, erasedCells_of_lt _ (by omega), hk.prog, hk.erase]
    exact UInt8.neg_one_and.symm
  have hpassed : ram = (air k c.mem ram).read := hwritten
  rw [if_pos hpassed] at hcases
  obtain ⟨hram, -, hmem⟩ := hcases
  refine ⟨s, hs, hready, hram, by rw [hmem, ← hwritten], fun x hx => ?_⟩
  rw [hmem, writtenCells_of_le _ _ (by omega), erasedCells_of_le _ hx]

/-- One call: it comes to an end, and does for the store what it is for. -/
lemma callStep_keeps (hk : Works k) {fuel : ℕ} (htime : ∀ m i, k.time m i < fuel)
    {s : FlashBuffer × FlashChip} {st : Store} (h : Keeps s st) (e : FlashCall) :
    ∃ s', callStep k fuel s e = some s' ∧ Keeps s' (st.call e) ∧
      ∀ x ≥ 4096, s'.2.mem x = s.2.mem x := by
  cases e with
  | writeMeal =>
    obtain ⟨r, hr, hready, hram, hmem, hrest⟩ := writeMeal_works hk htime h.ready s.1
    refine ⟨(r.flashBuffer, r.chip), by simp [callStep, hr], ⟨hready, ?_, ?_⟩, hrest⟩
    · rw [hram, h.ram]
      rfl
    · rw [hmem, h.ram]
      rfl
  | readMeal =>
    exact ⟨(cells s.2.mem, s.2), by rw [callStep, readMeal_eq h.ready], ⟨h.ready, h.kept, h.kept⟩,
      fun _ _ => rfl⟩
  | clearMealInfo =>
    obtain ⟨c', hc', hready, hmem⟩ := sectorErase_eq htime h.ready 0
    refine ⟨(s.1, c'), by simp [callStep, clearMealInfo, hc'], ⟨hready, h.ram, ?_⟩, fun x hx => ?_⟩
    · funext i
      rw [cells, hmem]
      exact (erasedCells_of_lt s.2.mem (by omega)).trans (hk.erase ..)
    · rw [hmem]
      exact erasedCells_of_le s.2.mem hx
  | hardfawreInit =>
    obtain ⟨r, hr, hready, hram, hmem, hrest⟩ :=
      writeMeal_works hk htime h.ready (clearBlank (cells s.2.mem))
    refine ⟨(r.flashBuffer, r.chip), ?_, ⟨hready, ?_, ?_⟩, hrest⟩
    · simp [callStep, hardfawreInit, readMeal_eq h.ready, hr]
    · rw [hram, h.kept]
      rfl
    · rw [hmem, h.kept]
      rfl
  | edit t => exact ⟨(t, s.2), rfl, ⟨h.ready, rfl, h.kept⟩, fun _ _ => rfl⟩

/-- On a chip that works, in every order of the calls: each of them comes to an end, the tables are
those of the store, and the other sectors stay as they are. -/
theorem run_keeps (k : W25Q) (hk : Works k) (fuel : ℕ) (htime : ∀ m i, k.time m i < fuel)
    (s : FlashBuffer × FlashChip) (hs : Ready s.2) (es : List FlashCall) :
    ∃ s', Lib.runFrom (callStep k fuel) s es = some s' ∧
      Keeps s' (es.foldl Store.call ⟨s.1, cells s.2.mem⟩) ∧
      ∀ x ≥ 4096, s'.2.mem x = s.2.mem x := by
  have hrun : ∀ (s : FlashBuffer × FlashChip) (st : Store), Keeps s st →
      ∃ s', Lib.runFrom (callStep k fuel) s es = some s' ∧ Keeps s' (es.foldl Store.call st) ∧
        ∀ x ≥ 4096, s'.2.mem x = s.2.mem x := by
    induction es with
    | nil => exact fun s st h => ⟨s, rfl, h, fun _ _ => rfl⟩
    | cons e es ih =>
      intro s st h
      obtain ⟨s₁, hs₁, h₁, hrest₁⟩ := callStep_keeps hk htime h e
      obtain ⟨s₂, hs₂, h₂, hrest₂⟩ := ih s₁ _ h₁
      refine ⟨s₂, ?_, h₂, fun x hx => (hrest₂ x hx).trans (hrest₁ x hx)⟩
      rw [Lib.runFrom_cons, hs₁, Option.bind_some, hs₂]
  exact hrun s _ ⟨hs, rfl, rfl⟩

theorem run_keeps_w25q64 :
    ∃ s', Lib.runFrom (callStep w25q64 4) (fun _ => 7, ⟨fun _ => 0, true, 0, none⟩)
      [.writeMeal, .edit fun _ => 9, .hardfawreInit] = some s' ∧ s'.1 = fun _ => 7 := by
  obtain ⟨s', hs', hkeeps, -⟩ := run_keeps w25q64 works_w25q64 4 time_w25q64
    (fun _ => 7, ⟨fun _ => 0, true, 0, none⟩) ⟨rfl, rfl⟩
    [.writeMeal, .edit fun _ => 9, .hardfawreInit]
  exact ⟨s', hs', hkeeps.ram⟩

end SpiFlash

end MealVendor
