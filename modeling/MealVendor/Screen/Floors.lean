import MealVendor.Screen.Sync

/-!
# The menu and the floors

The menu shows the totals of `DefineMeal`.  Where these agree with the floor table, a customer reads
how many meals are in the columns.
-/

namespace MealVendor

namespace Shop

variable {low : UInt8 → UInt8} {s q : Shop} {e : Event}

/-- Nothing is entered into the menu or into the code, and the two tables are kept in agreement. -/
def FloorsKept (s : Shop) : Event → Prop
  | .touch a _ _ => Elsewhere a.toNat 2
  | .program x _ => StockKept s.machine x

instance (s : Shop) : ∀ e, Decidable (s.FloorsKept e)
  | .touch a _ _ => (inferInstance : Decidable (Elsewhere a.toNat 2))
  | .program x _ => (inferInstance : Decidable (StockKept s.machine x))

lemma FloorsKept.aside (h : s.FloorsKept e) : s.Aside e := by
  cases e with
  | touch a d0 d1 => exact h
  | program x v => trivial

lemma stockInv_step (h : s.machine.StockInv) (he : s.FloorsKept e) (hs : s.step low e = some q) :
    q.machine.StockInv := by
  cases e with
  | touch a d0 d1 =>
    cases hs
    exact h
  | program x v =>
    obtain ⟨t, ht, rfl⟩ := Option.map_eq_some_iff.mp hs
    exact h.step he (step_stock ht)

end Shop

/-- In every run from power-up with a sound floor table in which everything is cleared only when no
position is left and what is confirmed fits: from the end of the checks on, the menu shows of each
kind how many meals are at the positions in which `FindMeal` looks for them, which are those on the
floors of this kind. -/
theorem menuPage_floors (low : UInt8 → UInt8) {m : Machine} {t : Terminal} {b : Bool}
    {es : List Shop.Event} {p : Shop} (hm : SoundPowerUp m) (ht : t.rx = .idle)
    (hrun : Lib.Runs (Shop.step low) Shop.FloorsKept ⟨m, t, b⟩ es p)
    (hloop : p.machine.session.pc.booting = false) (k : Kind) :
    (p.terminal.display.word (Show.meat.toNat + k.val)).toNat = p.machine.stock.positions k ∧
      p.machine.stock.positions k = kindTotal p.machine.stock.floorMeal k := by
  have hright : p.Right :=
    Shop.right_run (Shop.right_powerUp hm.1 ht b) (hrun.mono fun _ _ h => h.aside)
  have hstock : p.machine.StockInv :=
    hrun.invariant (I := fun s => s.machine.StockInv)
      (fun _ _ _ h he hs => Shop.stockInv_step h he hs) (.powerUp hm)
  have hagree := hstock.consistent
  have hmenu : p.terminal.display.word (Show.meat.toNat + k.val) =
      (p.machine.stock.defineMeal k).mealCount.toUInt16 := congrFun (hright.menu hloop) k
  have htotal := hagree.positions_eq k
  rw [hmenu, UInt8.toNat_toUInt16, hagree.mealCount, htotal]
  exact ⟨rfl, rfl⟩

/-- A meal is sold, and then the second floor is filled with meals of the second kind. -/
theorem menuPage_floors_filled :
    ∃ p, Lib.checkedRun (Shop.step id) Shop.FloorsKept (Shop.start 3)
        ((List.flatten [payOne, payOutAndServe, fetchMeal, fillSecondFloor]).map
          (.program · .quiet)) = some p ∧
      (p.terminal.display.word (Show.meat.toNat + 1)).toNat = 9 := by
  have hrun : (Lib.checkedRun (Shop.step id) Shop.FloorsKept (Shop.start 3)
      ((List.flatten [payOne, payOutAndServe, fetchMeal, fillSecondFloor]).map
        (.program · .quiet))).any
          (fun p => p.machine.session.pc.booting = false ∧
            p.machine.stock.positions 1 = 9) = true := by
    decide +kernel
  obtain ⟨p, hp, hloop, hpositions⟩ := Lib.exists_of_any hrun
  obtain ⟨hmenu, -⟩ := menuPage_floors id stocked_sound rfl (.of_checkedRun hp) hloop 1
  exact ⟨p, hp, hmenu.trans hpositions⟩

end MealVendor
