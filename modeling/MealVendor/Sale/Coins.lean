import MealVendor.Model.Main

/-!
# The coins in the machine

`CoinTotoal` is raised by every second pulse of the coin acceptor, lowered by every pulse
of the hopper, and set from the screen.  `CoinsCount` remembers the first of two pulses; it
is not touched when the total is set, and is cleared when the cash system is opened or
closed.
-/

namespace MealVendor

/-- What can happen to the coins. -/
inductive CoinEvent
  /-- A pulse of the coin acceptor. -/
  | coinIn
  /-- A pulse of the hopper. -/
  | coinOut
  /-- The administrator sets the number of coins: the two bytes of the message. -/
  | coinsIn (d0 d1 : UInt8)
  /-- `OpenCashSystem` or `CloseCashSystem`. -/
  | cash

/-- The machine, the total that was set last, and the pulses since then. -/
structure CoinBook where
  machine : Machine
  set : ℕ
  ins : ℕ
  outs : ℕ

namespace CoinBook

/-- Nothing has happened since the total was read at power-up. -/
def init (s : Machine) : CoinBook := ⟨s, s.coinTotoal.toNat, 0, 0⟩

/-- One event.  Only `machine` belongs to the program. -/
def step (b : CoinBook) : CoinEvent → Option CoinBook
  | .coinIn => some { b with machine := b.machine.coinIn, ins := b.ins + 1 }
  | .coinOut => some { b with machine := b.machine.coinOut, outs := b.outs + 1 }
  | .coinsIn d0 d1 => some ⟨b.machine.coinsIn d0 d1, 256 * d0.toNat + d1.toNat, 0, 0⟩
  | .cash => some { b with machine := b.machine.resetCoinsCount }

/-- `CoinTotoal` is the total that was set, and a coin more for every two pulses of the
acceptor and one less for every pulse of the hopper. -/
def Exact (b : CoinBook) : Prop :=
  (b.machine.coinTotoal.toNat : ℤ) = b.set + b.ins / 2 - b.outs

instance (b : CoinBook) : Decidable b.Exact := inferInstanceAs (Decidable (_ = _))

/-- A pulse is counted as the half of the coin that it is, and the total does not wrap. -/
def Counts (b : CoinBook) : CoinEvent → Prop
  | .coinIn => b.machine.coinsCount = b.ins % 2 ∧
      (b.machine.coinsCount = 1 → b.machine.coinTotoal.toNat < 65535)
  | .coinOut => 0 < b.machine.coinTotoal.toNat
  | .coinsIn _ _ => True
  | .cash => True

instance (b : CoinBook) : ∀ e, Decidable (b.Counts e)
  | .coinIn => inferInstanceAs (Decidable (_ ∧ _))
  | .coinOut => inferInstanceAs (Decidable (_ < _))
  | .coinsIn _ _ => isTrue trivial
  | .cash => isTrue trivial

/-- The total is exact, and at most one half of a coin is counted. -/
structure Holds (b : CoinBook) : Prop where
  half : b.machine.coinsCount < 2
  total : b.Exact

/-- `PayForCoins` and `PayAlready` are raised by one together, or both stay. -/
def Paired (u v : UserSelection) : Prop :=
  v.payForCoins = u.payForCoins ∧ v.payAlready = u.payAlready ∨
    v.payForCoins = u.payForCoins + 1 ∧ v.payAlready = u.payAlready + 1

end CoinBook

namespace Machine

variable (s : Machine)

/-- The first pulse of a coin. -/
lemma coinIn_first (h : s.coinsCount ≠ 1) :
    s.coinIn.coinsCount = s.coinsCount + 1 ∧ s.coinIn.coinTotoal = s.coinTotoal ∧
      s.coinIn.session.userAct = s.session.userAct := by
  have h2 : ¬ s.coinsCount + 1 = 2 := by omega
  simp only [coinIn, h2, if_false]
  exact ⟨rfl, rfl, rfl⟩

/-- The second pulse of a coin. -/
lemma coinIn_second (h : s.coinsCount = 1) :
    s.coinIn.coinsCount = 0 ∧ s.coinIn.coinTotoal = s.coinTotoal + 1 ∧
      s.coinIn.session = s.session.addCoin := by
  have h2 : s.coinsCount + 1 = 2 := by omega
  simp only [coinIn, h2, if_true]
  exact ⟨rfl, rfl, rfl⟩

end Machine

namespace CoinBook

variable {b c : CoinBook} {e : CoinEvent}

/-- A pulse of the coin acceptor keeps the total exact if and only if it counts. -/
lemma Holds.coinIn (h : b.Holds) (hs : b.step .coinIn = some c) :
    (b.Counts .coinIn → c.Holds) ∧ (c.Exact → b.Counts .coinIn) := by
  cases hs
  obtain ⟨hhalf, htotal⟩ := h
  have hlt := b.machine.coinTotoal.toNat_lt
  rw [Exact] at htotal
  by_cases h1 : b.machine.coinsCount ≠ 1
  · -- the first pulse of a coin leaves the total
    obtain ⟨hc, ht, -⟩ := b.machine.coinIn_first h1
    constructor
    · rintro ⟨hpar, -⟩
      refine ⟨by show b.machine.coinIn.coinsCount < 2; omega, ?_⟩
      show (b.machine.coinIn.coinTotoal.toNat : ℤ) = b.set + ((b.ins + 1 : ℕ) : ℤ) / 2 - b.outs
      rw [ht]
      omega
    · intro hex
      change (b.machine.coinIn.coinTotoal.toNat : ℤ) = b.set + ((b.ins + 1 : ℕ) : ℤ) / 2 - b.outs
        at hex
      rw [ht] at hex
      exact ⟨by omega, by omega⟩
  · -- the second one raises it
    rw [not_not] at h1
    obtain ⟨hc, ht, -⟩ := b.machine.coinIn_second h1
    have hnat : (b.machine.coinTotoal + 1).toNat = (b.machine.coinTotoal.toNat + 1) % 65536 := by
      rw [UInt16.toNat_add, UInt16.toNat_one]
    constructor
    · rintro ⟨hpar, hwrap⟩
      have := hwrap h1
      refine ⟨by show b.machine.coinIn.coinsCount < 2; omega, ?_⟩
      show (b.machine.coinIn.coinTotoal.toNat : ℤ) = b.set + ((b.ins + 1 : ℕ) : ℤ) / 2 - b.outs
      rw [ht, hnat]
      omega
    · intro hex
      change (b.machine.coinIn.coinTotoal.toNat : ℤ) = b.set + ((b.ins + 1 : ℕ) : ℤ) / 2 - b.outs
        at hex
      rw [ht, hnat] at hex
      exact ⟨by omega, by omega⟩

/-- A pulse of the hopper keeps the total exact if and only if it is not 0. -/
lemma Holds.coinOut (h : b.Holds) (hs : b.step .coinOut = some c) :
    (b.Counts .coinOut → c.Holds) ∧ (c.Exact → b.Counts .coinOut) := by
  cases hs
  obtain ⟨hhalf, htotal⟩ := h
  rw [Exact] at htotal
  have hnat : b.machine.coinOut.coinTotoal.toNat =
      (b.machine.coinTotoal.toNat + 65535) % 65536 := by
    show (b.machine.coinTotoal - 1).toNat = _
    rw [UInt16.toNat_sub, UInt16.toNat_one]
    omega
  have hlt := b.machine.coinTotoal.toNat_lt
  constructor
  · intro hpos
    rw [Counts] at hpos
    refine ⟨hhalf, ?_⟩
    show (b.machine.coinOut.coinTotoal.toNat : ℤ) = b.set + (b.ins : ℤ) / 2 - ((b.outs + 1 : ℕ) : ℤ)
    rw [hnat]
    omega
  · intro hex
    change (b.machine.coinOut.coinTotoal.toNat : ℤ) =
      b.set + (b.ins : ℤ) / 2 - ((b.outs + 1 : ℕ) : ℤ) at hex
    rw [hnat] at hex
    rw [Counts]
    omega

/-- An event keeps the total exact if and only if it counts. -/
lemma Holds.step (h : b.Holds) (hs : b.step e = some c) :
    (b.Counts e → c.Holds) ∧ (c.Exact → b.Counts e) := by
  cases e with
  | coinIn => exact h.coinIn hs
  | coinOut => exact h.coinOut hs
  | coinsIn d0 d1 =>
    cases hs
    refine ⟨fun _ => ⟨h.half, ?_⟩, fun _ => trivial⟩
    have h0 := d0.toNat_lt
    have h1 := d1.toNat_lt
    show ((UInt16.ofNat (256 * d0.toNat + d1.toNat)).toNat : ℤ) =
      ((256 * d0.toNat + d1.toNat : ℕ) : ℤ) + (0 : ℤ) / 2 - 0
    rw [UInt16.toNat_ofNat']
    omega
  | cash =>
    cases hs
    exact ⟨fun _ => ⟨Nat.zero_lt_two, h.total⟩, fun _ => trivial⟩

/-- No event raises one of the two amounts without the other. -/
lemma step_paired (hs : b.step e = some c) :
    Paired b.machine.session.userAct c.machine.session.userAct := by
  cases e with
  | coinIn =>
    cases hs
    by_cases h1 : b.machine.coinsCount ≠ 1
    · obtain ⟨-, -, hu⟩ := b.machine.coinIn_first h1
      exact .inl ⟨congrArg _ hu, congrArg _ hu⟩
    · obtain ⟨-, -, hu⟩ := b.machine.coinIn_second (not_not.mp h1)
      exact .inr ⟨congrArg (·.userAct.payForCoins) hu, congrArg (·.userAct.payAlready) hu⟩
  | coinOut => cases hs; exact .inl ⟨rfl, rfl⟩
  | coinsIn d0 d1 => cases hs; exact .inl ⟨rfl, rfl⟩
  | cash => cases hs; exact .inl ⟨rfl, rfl⟩

/-- At power-up no half of a coin is counted. -/
lemma init_holds {s : Machine} (hs : IsPowerUp s) : (init s).Holds := by
  have hhalf := hs.counts.1
  refine ⟨by show s.coinsCount < 2; omega, ?_⟩
  show (s.coinTotoal.toNat : ℤ) = s.coinTotoal.toNat + ((0 : ℕ) : ℤ) / 2 - ((0 : ℕ) : ℤ)
  omega

/-- From power-up, the total is exact all the time if and only if every event of the run
counts: each pulse of the acceptor finds `CoinsCount` at the number of pulses since the total
was set, modulo 2, and the total does not wrap.  `PayForCoins` and `PayAlready` are always
raised together. -/
theorem exact_iff_counts {s : Machine} (hs : IsPowerUp s) {es : List CoinEvent} {t : CoinBook}
    (hrun : Lib.runFrom step (init s) es = some t) :
    ((∀ pre post u, es = pre ++ post → Lib.runFrom step (init s) pre = some u → u.Exact) ↔
      Lib.Runs step Counts (init s) es t) ∧
    ∀ b e c, step b e = some c → Paired b.machine.session.userAct c.machine.session.userAct := by
  refine ⟨(Lib.runs_iff_forall_prefix (I := Holds) ?_ ?_ (init_holds hs) hrun).symm, ?_⟩
  · intro b hb
    exact hb.total
  · intro b e c hb hstep
    exact hb.step hstep
  · intro b e c hstep
    exact step_paired hstep

/-- A hundred coins are set, one is put in, and one paid out. -/
theorem exact_iff_counts_hundred :
    ∃ t, Lib.runFrom step (init (stocked 3)) [.coinsIn 0 100, .coinIn, .coinIn, .coinOut] = some t ∧
      t.machine.coinTotoal = 100 ∧ t.Exact := by
  have hrun : ((Lib.checkedRun step Counts (init (stocked 3))
      [.coinsIn 0 100, .coinIn, .coinIn, .coinOut]).any fun t =>
        t.machine.coinTotoal = 100) = true := by
    decide +kernel
  obtain ⟨t, ht, htotal⟩ := Lib.exists_of_any hrun
  have hguard := Lib.Runs.of_checkedRun ht
  have hfree : Lib.runFrom step (init (stocked 3)) [.coinsIn 0 100, .coinIn, .coinIn, .coinOut] =
      some t := hguard.runFrom
  exact ⟨t, hfree, htotal, (exact_iff_counts (stocked_isPowerUp 3) hfree).1.mpr hguard _ [] t
    (List.append_nil _).symm hfree⟩

/-- Between the two pulses of a coin the total is set: the second pulse counts a whole coin. -/
theorem not_exact :
    ¬ ∀ s, IsPowerUp s → ∀ es t, Lib.runFrom step (init s) es = some t → t.Exact := by
  intro h
  have hrun : ((Lib.runFrom step (init (stocked 3)) [.coinIn, .coinsIn 0 100, .coinIn]).any
      fun t => ¬ t.Exact) = true := by
    decide +kernel
  obtain ⟨t, ht, hnot⟩ := Lib.exists_of_any hrun
  exact hnot (h _ (stocked_isPowerUp 3) _ _ ht)

end CoinBook

end MealVendor
