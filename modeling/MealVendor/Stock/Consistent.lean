import MealVendor.Lib.ByteSum
import MealVendor.Model.Stock

/-!
# Tables that agree

What `FindMeal` trusts: the positions of a kind are the columns of the floors that hold it,
and the totals are the sums they stand for.  `StatisticsTotal` has nothing to do in tables
that agree, and the decrements of case 1 of `WaitMeal` keep them in agreement.
-/

namespace MealVendor

/-- The meals of kind `j` on the floors. -/
def kindTotal (floorMeal : Floor → FloorAttribute) (j : Kind) : ℕ :=
  ∑ i, if (floorMeal i).mealID = j.id then (floorMeal i).mealCount.toNat else 0

/-- The meals in the columns of a floor. -/
def FloorAttribute.columns (f : FloorAttribute) : ℕ := ∑ c, (f.count c).toNat

/-- A floor table whose totals are sums, and whose kinds can be counted in a byte. -/
structure FloorsSound (floorMeal : Floor → FloorAttribute) : Prop where
  floor : ∀ i, (floorMeal i).mealCount.toNat = (floorMeal i).columns
  total : ∀ j, kindTotal floorMeal j ≤ 255

namespace Stock

variable {s : Stock} {k : Kind} {l : Floor} {c : Column}

/-- The sum of the positions of a kind. -/
def positions (s : Stock) (k : Kind) : ℕ := ∑ i, ∑ c, ((s.defineMeal k).position i c).toNat

/-- The two tables agree. -/
structure Consistent (s : Stock) : Prop where
  position : ∀ j i c, (s.defineMeal j).position i c =
    if (s.floorMeal i).mealID = j.id then (s.floorMeal i).count c else 0
  mealCount : ∀ j, (s.defineMeal j).mealCount.toNat = kindTotal s.floorMeal j
  floor : ∀ i, (s.floorMeal i).mealCount.toNat = (s.floorMeal i).columns

instance (s : Stock) : Decidable s.Consistent :=
  decidable_of_iff ((∀ j i c, (s.defineMeal j).position i c =
      if (s.floorMeal i).mealID = j.id then (s.floorMeal i).count c else 0) ∧
    (∀ j, (s.defineMeal j).mealCount.toNat = kindTotal s.floorMeal j) ∧
    ∀ i, (s.floorMeal i).mealCount.toNat = (s.floorMeal i).columns)
    ⟨fun ⟨hp, hm, hf⟩ => ⟨hp, hm, hf⟩, fun h => ⟨h.position, h.mealCount, h.floor⟩⟩

lemma toNat_mealSum (floorMeal : Floor → FloorAttribute) (j : Kind) :
    (mealSum floorMeal j).toNat = kindTotal floorMeal j % 256 :=
  Lib.toNat_foldl_finRange _ _

lemma toNat_mealSum_of_le {floorMeal : Floor → FloorAttribute} {j : Kind}
    (h : kindTotal floorMeal j ≤ 255) : (mealSum floorMeal j).toNat = kindTotal floorMeal j := by
  rw [toNat_mealSum]
  exact Nat.mod_eq_of_lt (by omega)

lemma Consistent.total_le (h : s.Consistent) (j : Kind) : kindTotal s.floorMeal j ≤ 255 := by
  have := (s.defineMeal j).mealCount.toNat_lt
  rw [← h.mealCount]
  omega

/-- The positions of a kind add up to its total. -/
lemma Consistent.positions_eq (h : s.Consistent) (j : Kind) :
    s.positions j = kindTotal s.floorMeal j := by
  rw [positions, kindTotal]
  refine Finset.sum_congr rfl fun i _ => ?_
  split_ifs with hi
  · rw [h.floor i]
    refine Finset.sum_congr rfl fun c _ => ?_
    rw [h.position j i c, if_pos hi]
  · refine Finset.sum_eq_zero fun c _ => ?_
    rw [h.position j i c, if_neg hi]
    rfl

/-! ## `StatisticsTotal` and the confirm key -/

/-- `StatisticsTotal` makes the tables agree if the positions elsewhere are 0. -/
lemma statisticsTotal_consistent (hF : FloorsSound s.floorMeal)
    (hstale : ∀ j i c, (s.floorMeal i).mealID ≠ j.id → (s.defineMeal j).position i c = 0) :
    s.statisticsTotal.Consistent where
  position j i c := by
    change (if (s.floorMeal i).mealID = j.id then (s.floorMeal i).count c
      else (s.defineMeal j).position i c) =
        if (s.floorMeal i).mealID = j.id then (s.floorMeal i).count c else 0
    by_cases hi : (s.floorMeal i).mealID = j.id
    · rw [if_pos hi, if_pos hi]
    · rw [if_neg hi, if_neg hi]
      exact hstale j i c hi
  mealCount j := toNat_mealSum_of_le (hF.total j)
  floor := hF.floor

/-- The loops of the confirm key make the tables agree. -/
lemma rebuild_consistent (hF : FloorsSound s.floorMeal) : s.rebuild.Consistent where
  position _ _ _ := rfl
  mealCount j := toNat_mealSum_of_le (hF.total j)
  floor := hF.floor

/-- In tables that agree `StatisticsTotal` changes nothing. -/
lemma statisticsTotal_eq_self (h : s.Consistent) : s.statisticsTotal = s := by
  have hdef : s.statisticsTotal.defineMeal = s.defineMeal := by
    funext j
    have hpos : (fun i c => if (s.floorMeal i).mealID = j.id then (s.floorMeal i).count c
        else (s.defineMeal j).position i c) = (s.defineMeal j).position := by
      funext i c
      split_ifs with hi
      · rw [h.position j i c, if_pos hi]
      · rfl
    have hcnt : mealSum s.floorMeal j = (s.defineMeal j).mealCount := by
      rw [← UInt8.toNat_inj, toNat_mealSum_of_le (h.total_le j), h.mealCount]
    change MealAttribute.mk _ _ = MealAttribute.mk _ _
    rw [hpos, hcnt]
  change { s with defineMeal := s.statisticsTotal.defineMeal } = s
  rw [hdef]

/-! ## A meal is taken -/

/-- A place with a meal of kind `k` is on a floor that holds the kind. -/
lemma Consistent.holds (h : s.Consistent) (hp : 0 < (s.defineMeal k).position l c) :
    (s.floorMeal l).mealID = k.id ∧ 0 < (s.floorMeal l).count c := by
  rw [h.position k l c] at hp
  split_ifs at hp with hl
  · exact ⟨hl, hp⟩
  · exact absurd hp (by decide)

lemma Consistent.count_pos (h : s.Consistent) (hp : 0 < (s.defineMeal k).position l c) :
    0 < (s.floorMeal l).mealCount := by
  have hc : 0 < ((s.floorMeal l).count c).toNat := (h.holds hp).2
  have hle := Lib.le_sum (fun c => ((s.floorMeal l).count c).toNat) c
  have hfloor := h.floor l
  unfold FloorAttribute.columns at hfloor
  rw [UInt8.lt_iff_toNat_lt]
  change 0 < _
  omega

/-- The kind is counted, too. -/
lemma Consistent.mealCount_pos (h : s.Consistent) (hp : 0 < (s.defineMeal k).position l c) :
    0 < (s.defineMeal k).mealCount := by
  have hle := Lib.le_sum (fun i =>
    if (s.floorMeal i).mealID = k.id then (s.floorMeal i).mealCount.toNat else 0) l
  rw [if_pos (h.holds hp).1] at hle
  have hpos : 0 < (s.floorMeal l).mealCount.toNat := h.count_pos hp
  rw [UInt8.lt_iff_toNat_lt, h.mealCount k]
  exact hpos.trans_le hle

section Take

variable (s : Stock) (m : Option Kind) (k : Kind) (l : Floor) (c : Column)

lemma takeMeal_floorMeal (i : Floor) : (s.takeMeal m l c).floorMeal i =
    if i = l then
      { s.floorMeal i with
        mealCount := (s.floorMeal i).mealCount - 1
        count := Function.update (s.floorMeal i).count c ((s.floorMeal i).count c - 1) }
    else s.floorMeal i := by
  change Function.update s.floorMeal l _ i = _
  split_ifs with hi
  · subst hi
    rw [Function.update_self]
  · rw [Function.update_of_ne hi]

lemma takeMeal_mealID (i : Floor) :
    ((s.takeMeal m l c).floorMeal i).mealID = (s.floorMeal i).mealID := by
  rw [takeMeal_floorMeal]
  split_ifs <;> rfl

/-- One column is lowered. -/
lemma takeMeal_count (i : Floor) (d : Column) : ((s.takeMeal m l c).floorMeal i).count d =
    if i = l ∧ d = c then (s.floorMeal i).count d - 1 else (s.floorMeal i).count d := by
  rw [takeMeal_floorMeal]
  by_cases hi : i = l
  · subst hi
    simp only [if_true, true_and, Function.update_apply]
    split_ifs with hd
    · rw [hd]
    · rfl
  · simp [hi]

/-- One position is lowered. -/
lemma takeMeal_position (j : Kind) (i : Floor) (d : Column) :
    ((s.takeMeal (some k) l c).defineMeal j).position i d =
      if j = k ∧ i = l ∧ d = c then (s.defineMeal j).position i d - 1
      else (s.defineMeal j).position i d := by
  change (Function.update s.defineMeal k _ j).position i d = _
  rcases eq_or_ne j k with rfl | hj
  · rw [Function.update_self]
    simp only [Function.update_apply]
    by_cases hi : i = l
    · subst hi
      by_cases hd : d = c
      · subst hd
        simp
      · simp [hd]
    · simp [hi]
  · rw [Function.update_of_ne hj]
    simp [hj]

/-- One total is lowered. -/
lemma takeMeal_mealCount (j : Kind) : ((s.takeMeal (some k) l c).defineMeal j).mealCount =
    if j = k then (s.defineMeal j).mealCount - 1 else (s.defineMeal j).mealCount := by
  change (Function.update s.defineMeal k _ j).mealCount = _
  rcases eq_or_ne j k with rfl | hj
  · rw [Function.update_self, if_pos rfl]
  · rw [Function.update_of_ne hj, if_neg hj]

end Take

/-- The total of the kind is lowered with the floor. -/
lemma Consistent.kindTotal_takeMeal (h : s.Consistent) (hp : 0 < (s.defineMeal k).position l c)
    (m : Option Kind) (j : Kind) :
    kindTotal (s.takeMeal m l c).floorMeal j =
      if j = k then kindTotal s.floorMeal j - 1 else kindTotal s.floorMeal j := by
  obtain ⟨hl, -⟩ := h.holds hp
  have hpos := h.count_pos hp
  rw [kindTotal]
  split_ifs with hj
  · subst hj
    refine Nat.eq_sub_of_add_eq (Lib.sum_add_eq_sum (i := l) ?_ ?_)
    · have hone : 0 < (s.floorMeal l).mealCount.toNat := hpos
      have hpred := UInt8.toNat_pred hpos
      rw [takeMeal_mealID, takeMeal_floorMeal, if_pos rfl, if_pos hl, if_pos hl]
      change ((s.floorMeal l).mealCount - 1).toNat + 1 = _
      omega
    · intro i hi
      rw [takeMeal_floorMeal, if_neg hi]
  · refine Finset.sum_congr rfl fun i _ => ?_
    rcases eq_or_ne i l with rfl | hi
    · -- the floor holds another kind
      have hne : (s.floorMeal i).mealID ≠ j.id := by
        rw [hl]
        exact fun heq => hj (Kind.id_injective heq).symm
      rw [takeMeal_mealID, if_neg hne, if_neg hne]
    · rw [takeMeal_floorMeal, if_neg hi]

/-- The decrements of case 1 of `WaitMeal` keep the tables in agreement. -/
lemma Consistent.takeMeal (h : s.Consistent) (hp : 0 < (s.defineMeal k).position l c) :
    (s.takeMeal (some k) l c).Consistent where
  position j i d := by
    obtain ⟨hl, -⟩ := h.holds hp
    rw [takeMeal_position, takeMeal_mealID, takeMeal_count, h.position j i d]
    by_cases hid : i = l ∧ d = c
    · obtain ⟨rfl, rfl⟩ := hid
      -- the floor holds kind `k` and no other
      rcases eq_or_ne j k with rfl | hj
      · simp [hl]
      · have hne : (s.floorMeal i).mealID ≠ j.id := by
          rw [hl]
          exact fun heq => hj (Kind.id_injective heq).symm
        simp [hj, hne]
    · simp [hid]
  mealCount j := by
    rw [takeMeal_mealCount, h.kindTotal_takeMeal hp]
    split_ifs with hj
    · subst hj
      rw [← h.mealCount j]
      exact UInt8.toNat_pred (h.mealCount_pos hp)
    · exact h.mealCount j
  floor i := by
    have hfloor := h.floor i
    rw [FloorAttribute.columns] at hfloor ⊢
    rcases eq_or_ne i l with rfl | hi
    · have hc : 0 < (s.floorMeal i).count c := (h.holds hp).2
      have hsum : ∑ d, (((s.takeMeal (some k) i c).floorMeal i).count d).toNat =
          ∑ d, ((s.floorMeal i).count d).toNat - 1 := by
        refine Nat.eq_sub_of_add_eq (Lib.sum_add_eq_sum (i := c) ?_ ?_)
        · have hone : 0 < ((s.floorMeal i).count c).toNat := hc
          have hpred := UInt8.toNat_pred hc
          rw [takeMeal_count, if_pos ⟨rfl, rfl⟩]
          omega
        · intro d hd
          rw [takeMeal_count, if_neg fun h => hd h.2]
      rw [hsum, ← hfloor, takeMeal_floorMeal, if_pos rfl]
      exact UInt8.toNat_pred (h.count_pos hp)
    · rw [takeMeal_floorMeal, if_neg hi]
      exact hfloor

end Stock

end MealVendor
