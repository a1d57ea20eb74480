import MealVendor.Model.Flash
import MealVendor.Model.Stock

/-!
# Saving the stock

Between the erasing of the sector and the last byte that is written, the flash holds neither the old
table nor the new one.  And if the comparison fails, the floor table becomes what is read.
-/

namespace MealVendor

/-! ## The bytes of the floor table -/

lemma floorMealOf_flashBuffer (t : Floor → FloorAttribute) : floorMealOf (flashBuffer t) = t := by
  funext l
  have hbyte : ∀ k : Fin 6, flashBuffer t ⟨6 * l + k, by omega⟩ = (t l).byte k := by
    intro k
    have hl : (6 * (l : ℕ) + k) / 6 = l := by omega
    have hk : (6 * (l : ℕ) + k) % 6 = k := by omega
    simp only [flashBuffer, hl, hk]
  have hcount : ![(t l).count 0, (t l).count 1, (t l).count 2] = (t l).count := by
    funext c
    fin_cases c <;> rfl
  rw [floorMealOf]
  simp only [hbyte]
  exact congrArg (fun count => FloorAttribute.mk _ _ count _) hcount

/-- The comparison of the tables is that of their bytes, so `Stock.writeMeal` is what is left of
`WriteMeal` in the RAM. -/
lemma writeMealBytes_ram (air : FlashAir) (s : Stock) (cells : FlashBuffer) :
    floorMealOf (writeMealBytes air (flashBuffer s.floorMeal) cells).1 =
      (s.writeMeal (if flashBuffer s.floorMeal = air.read then none
        else some (floorMealOf air.reread))).floorMeal := by
  rw [writeMealBytes]
  split_ifs
  · exact floorMealOf_flashBuffer s.floorMeal
  · rfl

/-! ## Steps -/

/-- The floor table stays as it is, and at each step the flash holds the old table or the new
one. -/
structure SavesSafely (air : FlashAir) (ram cells : FlashBuffer) : Prop where
  kept : (writeMealBytes air ram cells).1 = ram
  flash : ∀ b ∈ (writeMealBytes air ram cells).2, b = cells ∨ b = ram

variable {air : FlashAir} {ram cells : FlashBuffer}

lemma forall_mem_bufferWrite {P : FlashBuffer → Prop} {w c : FlashBuffer} :
    (∀ b ∈ bufferWrite w c, P b) ↔ ∀ k ≤ 90, P (Lib.torn w c k) := by
  simp [bufferWrite, Nat.lt_succ_iff]

/-- One of the two readings returns the table, and with the erasing and after each writing the flash
holds the old or the new table; a writing changes at most one byte. -/
lemma savesSafely_steps_iff (air : FlashAir) (ram cells : FlashBuffer) :
    SavesSafely air ram cells ↔
      (air.read = ram ∨ air.reread = ram) ∧ Lib.Direct cells ram air.erased air.written ∧
        (air.read ≠ ram → Lib.Direct cells ram air.written air.rewritten) := by
  have hpass : ∀ w c : FlashBuffer,
      (∀ b ∈ bufferWrite w c, b = cells ∨ b = ram) ↔ Lib.Direct cells ram c w :=
    fun w c => forall_mem_bufferWrite.trans Lib.forall_torn_iff
  by_cases hread : ram = air.read
  · have hrun : writeMealBytes air ram cells =
        (ram, cells :: bufferWrite air.written air.erased) := if_pos hread
    constructor
    · intro h
      have hflash := h.flash
      rw [hrun, List.forall_mem_cons, hpass] at hflash
      exact ⟨.inl hread.symm, hflash.2, fun hne => (hne hread.symm).elim⟩
    · rintro ⟨-, hfirst, -⟩
      refine ⟨by rw [hrun], ?_⟩
      rw [hrun, List.forall_mem_cons, hpass]
      exact ⟨.inl rfl, hfirst⟩
  · have hrun : writeMealBytes air ram cells = (air.reread,
        cells :: bufferWrite air.written air.erased ++ bufferWrite air.rewritten air.written) :=
      if_neg hread
    constructor
    · intro h
      have hflash := h.flash
      rw [hrun, List.forall_mem_append, List.forall_mem_cons, hpass, hpass] at hflash
      have hram := h.kept
      rw [hrun] at hram
      exact ⟨.inr hram, hflash.1.2, fun _ => hflash.2⟩
    · rintro ⟨hram, hfirst, hsecond⟩
      refine ⟨?_, ?_⟩
      · rw [hrun]
        exact hram.resolve_left (Ne.symm hread)
      · rw [hrun, List.forall_mem_append, List.forall_mem_cons, hpass, hpass]
        exact ⟨⟨.inl rfl, hfirst⟩, hsecond (Ne.symm hread)⟩

/-- The sector when it is erased. -/
def blankSector : FlashBuffer := fun _ => 0xff

/-- The erasing alone is enough, where it works. -/
lemma not_savesSafely_of_erased (h : air.erased = blankSector) (hcells : cells ≠ blankSector)
    (hram : ram ≠ blankSector) : ¬ SavesSafely air ram cells := by
  intro hsafe
  have hstart := ((savesSafely_steps_iff air ram cells).mp hsafe).2.1.start
  rw [h] at hstart
  exact hstart.elim (fun heq => hcells heq.symm) fun heq => hram heq.symm

/-- For every table and whatever the flash does, `WriteMeal` saves safely exactly if one of the two
readings returns the table, and with the erasing and after each writing the flash holds the old or
the new table, of which a writing changes at most one byte; so never where the sector is erased. -/
theorem savesSafely_iff (air : FlashAir) (ram cells : FlashBuffer) :
    (SavesSafely air ram cells ↔
      (air.read = ram ∨ air.reread = ram) ∧ Lib.Direct cells ram air.erased air.written ∧
        (air.read ≠ ram → Lib.Direct cells ram air.written air.rewritten)) ∧
    (air.erased = blankSector → cells ≠ blankSector → ram ≠ blankSector →
      ¬ SavesSafely air ram cells) :=
  ⟨savesSafely_steps_iff air ram cells, not_savesSafely_of_erased⟩

/-- The readings return something else; and a flash that does all it should holds no table when the
sector is erased. -/
theorem not_savesSafely :
    (¬ ∀ air ram cells, (writeMealBytes air ram cells).1 = ram) ∧
      ¬ ∀ air ram cells, ∀ b ∈ (writeMealBytes air ram cells).2, b = cells ∨ b = ram := by
  constructor
  · intro h
    have hram := congrFun (h ⟨blankSector, fun _ => 0, fun _ => 1, fun _ => 0, fun _ => 1⟩
      (fun _ => 0) (fun _ => 0)) 0
    revert hram
    decide +kernel
  · intro h
    -- the first floor is filled; the flash does what it should
    let ram : FlashBuffer := fun i => if i < 6 then 1 else 0
    have hkept : (writeMealBytes ⟨blankSector, ram, ram, ram, ram⟩ ram fun _ => 0).1 = ram := by
      rw [writeMealBytes, if_pos rfl]
    refine not_savesSafely_of_erased rfl ?_ ?_ ⟨hkept, h _ _ _⟩
    · exact fun heq => absurd (congrFun heq 0) (by decide)
    · exact fun heq => absurd (congrFun heq 0) (by decide)

end MealVendor
