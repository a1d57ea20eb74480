import MealVendor.Lib.Bits
import MealVendor.Model.Clock
import MealVendor.Model.Hex
import MealVendor.Server.Request

/-!
# The time of the server

`EchoFuntion` asks the server for the time and sets the clock to it, and the serial number of a
request is read from the clock.  A field of the clock keeps the digits it has room for: hours up to
39 and months up to 19, but the months from 16 on are taken for something else.  The serial number
has the digits of the reply exactly if they are decimal and each fits its field.
-/

namespace MealVendor

open Lib

/-! ## Digits -/

lemma byteToBcd2From_eq (bcdhigh value : UInt8) :
    byteToBcd2From bcdhigh value = (bcdhigh + value / 10, value % 10) := by
  fun_induction byteToBcd2From bcdhigh value with
  | case1 bcdhigh value h ih =>
    have hv : 10 ≤ value.toNat := h
    have hsub : (value - 10).toNat = value.toNat - 10 := UInt8.toNat_sub_of_le _ _ h
    have hlt : value.toNat < 256 := value.toNat_lt
    rw [ih, Prod.mk.injEq]
    constructor
    · rw [UInt8.add_assoc]
      congr 1
      apply UInt8.toNat_inj.mp
      rw [UInt8.toNat_add, UInt8.toNat_div, UInt8.toNat_div, hsub]
      show (1 + (value.toNat - 10) / 10) % 256 = value.toNat / 10
      omega
    · apply UInt8.toNat_inj.mp
      rw [UInt8.toNat_mod, UInt8.toNat_mod, hsub]
      show (value.toNat - 10) % 10 = value.toNat % 10
      omega
  | case2 bcdhigh value h =>
    have hv : value.toNat < 10 := Nat.lt_of_not_le h
    rw [Prod.mk.injEq]
    constructor
    · have hdiv : value / 10 = 0 := by
        apply UInt8.toNat_inj.mp
        rw [UInt8.toNat_div]
        exact Nat.div_eq_of_lt hv
      rw [hdiv, UInt8.add_zero]
    · apply UInt8.toNat_inj.mp
      rw [UInt8.toNat_mod]
      exact (Nat.mod_eq_of_lt hv).symm

lemma byteToBcd2_eq (value : UInt8) : byteToBcd2 value = ((value / 10) <<< 4) ||| (value % 10) := by
  rw [byteToBcd2, byteToBcd2From_eq, UInt8.zero_add]

/-- What is stored for a byte with two digits, before it gets its place in a register. -/
def stored (b : UInt8) : UInt8 := byteToBcd2 (Net.digits b).toUInt8

lemma stored_eq (b : UInt8) : stored b =
    (((Net.digits b).toUInt8 / 10) <<< 4) ||| ((Net.digits b).toUInt8 % 10) := byteToBcd2_eq _

/-- The digits that are written out of what a field of a register holds. -/
def shown (b : UInt8) : UInt8 := bcdByte (bcd2ToByte b)

/-- Two decimal digits, the first of which is at most `hi`. -/
structure Decimal (hi : ℕ) (b : UInt8) : Prop where
  high : b.toNat / 16 ≤ hi
  low : b.toNat % 16 ≤ 9

instance (hi : ℕ) (b : UInt8) : Decidable (Decimal hi b) :=
  decidable_of_iff (b.toNat / 16 ≤ hi ∧ b.toNat % 16 ≤ 9)
    ⟨fun h => ⟨h.1, h.2⟩, fun h => ⟨h.high, h.low⟩⟩

/-- A field whose first digit has two bits. -/
lemma shown_two_iff (b : UInt8) : shown (stored b &&& 0x3f) = b ↔ Decimal 3 b := by
  rw [stored_eq]
  revert b
  refine forall_byte ?_
  decide +kernel

/-- A field whose first digit has three bits. -/
lemma shown_three_iff (b : UInt8) : shown (stored b &&& 0x7f) = b ↔ Decimal 7 b := by
  rw [stored_eq]
  revert b
  refine forall_byte ?_
  decide +kernel

/-- The months up to 15. -/
structure MonthByte (b : UInt8) : Prop extends Decimal 1 b where
  small : b.toNat < 0x16

instance (b : UInt8) : Decidable (MonthByte b) :=
  decidable_of_iff (Decimal 1 b ∧ b.toNat < 0x16) ⟨fun h => ⟨h.1, h.2⟩, fun h => ⟨h.1, h.2⟩⟩

/-- What is stored for a month. -/
def storedMonth (b : UInt8) : UInt8 := byteToBcd2 (Rtc.monthOf (Net.digits b).toUInt8)

lemma shown_month_iff (b : UInt8) : shown (storedMonth b &&& 0x1f) = b ↔ MonthByte b := by
  rw [storedMonth, byteToBcd2_eq]
  revert b
  refine forall_byte ?_
  decide +kernel

lemma stored_of_decimal (b : UInt8) : Decimal 15 b → stored b = b := by
  rw [stored_eq]
  revert b
  refine forall_byte ?_
  decide +kernel

lemma decimal_shown (b : UInt8) : Decimal 15 (shown b) := by
  revert b
  refine forall_byte ?_
  decide +kernel

lemma shown_of_decimal (b : UInt8) : Decimal 15 b → shown b = b := by
  revert b
  refine forall_byte ?_
  decide +kernel

/-- A carry out of the second digit would set a bit that is not set, or clear the highest ones. -/
lemma shown_of_and (b : UInt8) : shown b &&& b = shown b →
    shown b &&& 0xe0 = b &&& 0xe0 → shown b = b := by
  revert b
  refine forall_byte ?_
  decide +kernel

/-- The year has all bits of its field, but something that is small may be stored there as well. -/
lemma shown_or_iff (b e : UInt8) (he : ∀ i, 5 ≤ i → byteBit e i = false) :
    shown (stored b ||| e) = b ↔ Decimal 15 b ∧ b ||| e = b := by
  constructor
  · intro h
    have hb : Decimal 15 b := h ▸ decimal_shown _
    rw [stored_of_decimal b hb] at h
    have hand : shown (b ||| e) &&& (b ||| e) = shown (b ||| e) := by
      rw [h]
      apply byte_ext
      intro i _
      rw [byteBit_and, byteBit_or]
      cases byteBit b i <;> rfl
    have hhigh : shown (b ||| e) &&& 0xe0 = (b ||| e) &&& 0xe0 := by
      rw [h]
      apply byte_ext
      intro i hi
      rw [byteBit_and, byteBit_and, byteBit_or]
      rcases Nat.lt_or_ge i 5 with hlt | hge
      · have hmask : byteBit 0xe0 i = false := by
          interval_cases i <;> rfl
        rw [hmask, Bool.and_false, Bool.and_false]
      · rw [he i hge, Bool.or_false]
    exact ⟨hb, (shown_of_and _ hand hhigh).symm.trans h⟩
  · rintro ⟨hb, he⟩
    rw [stored_of_decimal b hb, he]
    exact shown_of_decimal b hb

/-! ## The registers -/

namespace Rtc

variable (r : Rtc) (w wTime wDate : Setting)

@[simp] lemma mark_tr (ok : Bool) : (r.mark ok).tr = r.tr := by
  rw [mark]
  split <;> rfl

@[simp] lemma mark_dr (ok : Bool) : (r.mark ok).dr = r.dr := by
  rw [mark]
  split <;> rfl

@[simp] lemma setTime_dr (hours minutes seconds : UInt8) :
    (r.setTime hours minutes seconds w).2.dr = r.dr := by
  simp only [setTime]
  split <;> rfl

@[simp] lemma setDate_tr (year month date weekDay : UInt8) :
    (r.setDate year month date weekDay w).2.tr = r.tr := by
  simp only [setDate]
  split <;> rfl

lemma getTime_congr {r r' : Rtc} (h : r.tr = r'.tr) : r.getTime = r'.getTime := by
  simp only [getTime, h]

lemma getDate_congr {r r' : Rtc} (h : r.dr = r'.dr) : r.getDate = r'.getDate := by
  simp only [getDate, h]

variable {w}

/-- Each field of the time keeps the bits that it has room for. -/
lemma getTime_setTime (hours minutes seconds : UInt8) (hw : w.init = true) :
    (r.setTime hours minutes seconds w).2.getTime =
      (bcd2ToByte (byteToBcd2 hours &&& 0x3f), bcd2ToByte (byteToBcd2 minutes &&& 0x7f),
        bcd2ToByte (byteToBcd2 seconds &&& 0x7f)) := by
  simp only [setTime, if_pos hw, getTime, Prod.mk.injEq]
  refine ⟨congrArg bcd2ToByte (byte_ext fun i hi => ?_),
    congrArg bcd2ToByte (byte_ext fun i hi => ?_), congrArg bcd2ToByte (byte_ext fun i hi => ?_)⟩
  · rw [byteBit_field _ _ (by decide) hi, byteBit_and]
    interval_cases i <;> simp [bit_shiftLeft, byteBit_of_le, bit_ofNat, byteBit_ofNat]
  · rw [byteBit_field _ _ (by decide) hi, byteBit_and]
    interval_cases i <;> simp [bit_shiftLeft, byteBit_of_le, bit_ofNat, byteBit_ofNat]
  · rw [byteBit_toUInt8 _ hi, byteBit_and]
    interval_cases i <;> simp [bit_shiftLeft, bit_ofNat, byteBit_ofNat]

/-- The day of the week has bits 13 to 20 of the word, of which the year has the last five and the
month the first three as well. -/
lemma getDate_setDate (year month date weekDay : UInt8) (hw : w.init = true) :
    (r.setDate year month date weekDay w).2.getDate =
      (bcd2ToByte (byteToBcd2 year ||| (weekDay >>> 3)),
        bcd2ToByte (byteToBcd2 (monthOf month) &&& 0x1f), bcd2ToByte (byteToBcd2 date &&& 0x3f),
        ((byteToBcd2 (monthOf month) >>> 5) ||| weekDay) &&& 0x07) := by
  simp only [setDate, if_pos hw, getDate, Prod.mk.injEq]
  refine ⟨congrArg bcd2ToByte (byte_ext fun i hi => ?_),
    congrArg bcd2ToByte (byte_ext fun i hi => ?_), congrArg bcd2ToByte (byte_ext fun i hi => ?_),
    byte_ext fun i hi => ?_⟩
  · rw [byteBit_field _ _ (by decide) hi, byteBit_or]
    interval_cases i <;> simp [bit_shiftLeft, byteBit_shiftRight, byteBit_of_le, bit_ofNat]
  · rw [byteBit_field _ _ (by decide) hi, byteBit_and]
    interval_cases i <;> simp [bit_shiftLeft, byteBit_of_le, bit_ofNat, byteBit_ofNat]
  · rw [byteBit_toUInt8 _ hi, byteBit_and]
    interval_cases i <;> simp [bit_shiftLeft, bit_ofNat, byteBit_ofNat]
  · rw [byteBit_field _ _ (by decide) hi, byteBit_and, byteBit_or]
    interval_cases i <;>
      simp [bit_shiftLeft, byteBit_shiftRight, byteBit_of_le, bit_ofNat, byteBit_ofNat]

end Rtc

/-! ## The serial number -/

/-- Behind the tag and the length stands the serial number. -/
lemma serial_getBRWN (now : StructTD) (n : Net) : ((n.getBRWN now).bytes .brwn).drop 3 =
    [0x20, bcdByte now.year, bcdByte now.month, bcdByte now.date, bcdByte now.hours,
      bcdByte now.minutes, bcdByte now.senconds] := by
  have hcell : ∀ j, 3 ≤ j ∧ j < 10 → (n.getBRWN now).cell .brwn j =
      [bcdByte 20, bcdByte now.year, bcdByte now.month, bcdByte now.date, bcdByte now.hours,
        bcdByte now.minutes, bcdByte now.senconds].getD (j - 3) 0 := by
    intro j hj
    rw [Net.getBRWN, Net.copy_cell_self]
    exact if_pos hj
  show [(n.getBRWN now).cell .brwn 3, (n.getBRWN now).cell .brwn 4, (n.getBRWN now).cell .brwn 5,
    (n.getBRWN now).cell .brwn 6, (n.getBRWN now).cell .brwn 7, (n.getBRWN now).cell .brwn 8,
    (n.getBRWN now).cell .brwn 9] = _
  rw [hcell 3 (by decide), hcell 4 (by decide), hcell 5 (by decide), hcell 6 (by decide),
    hcell 7 (by decide), hcell 8 (by decide), hcell 9 (by decide)]
  rfl

/-- A date and a time with two digits in each byte, and the day of the week. -/
structure Stamp where
  year : UInt8
  month : UInt8
  date : UInt8
  hours : UInt8
  minutes : UInt8
  senconds : UInt8
  weekDay : UInt8

/-- What a serial number with the digits of `x` looks like. -/
def Stamp.bytes (x : Stamp) : List UInt8 :=
  [0x20, x.year, x.month, x.date, x.hours, x.minutes, x.senconds]

/-- The digits are decimal, there is room for them, and the day of the week stays out of the
year. -/
structure Stamp.Fits (x : Stamp) : Prop where
  year : Decimal 15 x.year
  apart : x.year ||| (x.weekDay >>> 3) = x.year
  month : MonthByte x.month
  date : Decimal 3 x.date
  hours : Decimal 3 x.hours
  minutes : Decimal 7 x.minutes
  senconds : Decimal 7 x.senconds

/-- The numbers that the clock is set to are those of the digits. -/
structure Tmp.Of (t : Tmp) (x : Stamp) : Prop where
  yy : t.yy = Net.digits x.year
  m2 : t.m2 = Net.digits x.month
  dd : t.dd = Net.digits x.date
  ww : t.ww.toUInt8 = x.weekDay
  hh : t.hh = Net.digits x.hours
  mm : t.mm = Net.digits x.minutes
  ss : t.ss = Net.digits x.senconds

namespace Rtc

variable (r : Rtc) {wTime wDate : Setting} {t : Tmp} {x : Stamp}

/-- What the clock shows once it is set. -/
lemma timeShow_timeRegulate (hTime : wTime.init = true) (hDate : wDate.init = true)
    (h : t.Of x) : (r.timeRegulate wTime wDate t).timeShow =
      { hours := bcd2ToByte (stored x.hours &&& 0x3f)
        minutes := bcd2ToByte (stored x.minutes &&& 0x7f)
        senconds := bcd2ToByte (stored x.senconds &&& 0x7f)
        month := bcd2ToByte (storedMonth x.month &&& 0x1f)
        date := bcd2ToByte (stored x.date &&& 0x3f)
        year := bcd2ToByte (stored x.year ||| (x.weekDay >>> 3))
        weekDay := ((storedMonth x.month >>> 5) ||| x.weekDay) &&& 0x07 } := by
  have htime : (r.timeRegulate wTime wDate t).getTime =
      (r.setTime t.hh.toUInt8 t.mm.toUInt8 t.ss.toUInt8 wTime).2.getTime :=
    getTime_congr (by simp [timeRegulate])
  have hdate : (r.timeRegulate wTime wDate t).getDate =
      (((r.setTime t.hh.toUInt8 t.mm.toUInt8 t.ss.toUInt8 wTime).2.mark
        (r.setTime t.hh.toUInt8 t.mm.toUInt8 t.ss.toUInt8 wTime).1).setDate t.yy.toUInt8
          t.m2.toUInt8 t.dd.toUInt8 t.ww.toUInt8 wDate).2.getDate :=
    getDate_congr (by simp [timeRegulate])
  rw [getTime_setTime r _ _ _ hTime, h.hh, h.mm, h.ss] at htime
  rw [getDate_setDate _ _ _ _ _ hDate, h.yy, h.m2, h.dd, h.ww] at hdate
  simp only [timeShow, htime, hdate]
  rfl

/-- The serial number has the digits that the clock is set to exactly if they fit. -/
lemma serial_timeRegulate (hTime : wTime.init = true) (hDate : wDate.init = true)
    (h : t.Of x) (n : Net) :
    ((n.getBRWN (r.timeRegulate wTime wDate t).timeShow.toStructTD).bytes .brwn).drop 3 =
      x.bytes ↔ x.Fits := by
  rw [timeShow_timeRegulate r hTime hDate h, serial_getBRWN, Stamp.bytes]
  simp only [List.cons.injEq, true_and, and_true]
  have hyear : ∀ i, 5 ≤ i → byteBit (x.weekDay >>> 3) i = false := by
    intro i hi
    rw [byteBit_shiftRight _ (by decide)]
    exact byteBit_of_le _ (by show 8 ≤ i + 3; omega)
  constructor
  · rintro ⟨hy, hm, hd, hh, hmin, hs⟩
    obtain ⟨hdec, hapart⟩ := (shown_or_iff _ _ hyear).mp hy
    exact ⟨hdec, hapart, (shown_month_iff _).mp hm, (shown_two_iff _).mp hd,
      (shown_two_iff _).mp hh, (shown_three_iff _).mp hmin, (shown_three_iff _).mp hs⟩
  · intro hx
    exact ⟨(shown_or_iff _ _ hyear).mpr ⟨hx.year, hx.apart⟩, (shown_month_iff _).mpr hx.month,
      (shown_two_iff _).mpr hx.date, (shown_two_iff _).mpr hx.hours,
      (shown_three_iff _).mpr hx.minutes, (shown_three_iff _).mpr hx.senconds⟩

end Rtc

/-! ## The question for the time -/

namespace Net

variable {n n' : Net} {air : Air} {t t' : Tmp} {c : UInt8}

/-- The digits of a reply; the day of the week is not taken from it. -/
def stamp (rx : ℕ → UInt8) (t : Tmp) : Stamp where
  year := rx 8
  month := rx 9
  date := rx 10
  hours := rx 14
  minutes := rx 15
  senconds := rx 16
  weekDay := t.ww.toUInt8

lemma of_echoTmp (rx : ℕ → UInt8) (t : Tmp) : (echoTmp rx t).Of (stamp rx t) :=
  ⟨rfl, rfl, rfl, rfl, rfl, rfl, rfl⟩

/-- The frame that asks for the time. -/
def echoFrame (n : Net) : List UInt8 := mealFrame 0x0700 (packet n.echoItems)

lemma echoFrame_congr {m n : Net} (h : m.cell = n.cell) : m.echoFrame = n.echoFrame :=
  congrArg (fun p => mealFrame 0x0700 (packet p)) (payload_congr h .echo)

/-- A reply to the question for the time is in the receive buffer. -/
structure Answered (air : Air) (n : Net) (rx : ℕ → UInt8) : Prop where
  reply : ∃ m u, n.memSet00 air = some m ∧
    m.mealComparefunDemo 0x0700 (packet m.echoItems) air = some (0, u) ∧ u.uart.rx1Buf = rx
  command0 : rx 0 = 0x07
  command1 : rx 1 = 0x10

lemma wait_eq_zero_or_one {k : ℕ} {polls : List (List RxByte)} {s : Uart5} {r : UInt8 × Uart5}
    (h : s.wait k polls = some r) : r.1 = 0 ∨ r.1 = 1 := by
  induction k generalizing polls s with
  | zero =>
    cases h
    exact .inr rfl
  | succ k ih =>
    rw [Uart5.wait, Option.bind_eq_some_iff] at h
    obtain ⟨s', -, h⟩ := h
    split at h
    · cases h
      exact .inl rfl
    · exact ih h

/-- A try sends one frame, and changes the numbers only if it is answered. -/
lemma echoFun_cases (h : n.echoFun air t = some (c, t', n')) :
    n'.cell = n.cell ∧ n'.sent = n.sent ++ [n.echoFrame] ∧
      (c = 1 ∧ t' = t ∨ c = 0 ∧ ∃ rx, Answered air n rx ∧ t' = echoTmp rx t) := by
  rw [echoFun, Option.bind_eq_some_iff] at h
  obtain ⟨m, hm, h⟩ := h
  rw [Option.map_eq_some_iff] at h
  obtain ⟨⟨i, u⟩, hu, hr⟩ := h
  obtain ⟨hcell, hsent⟩ := memSet00_net hm
  obtain ⟨hcell', hsent'⟩ := mealComparefunDemo_net hu
  have hframe : mealFrame 0x0700 (packet m.echoItems) = n.echoFrame := echoFrame_congr hcell
  dsimp only at hcell' hsent' hr
  rw [hcell] at hcell'
  rw [hsent, hframe] at hsent'
  split_ifs at hr with hi hlen hcmd
  · cases hr
    exact ⟨hcell', hsent', .inl ⟨rfl, rfl⟩⟩
  · cases hr
    exact ⟨hcell', hsent', .inl ⟨rfl, rfl⟩⟩
  · -- answered: the frame of the wait says 0, as it does not say 1
    cases hr
    have hzero : i = 0 := by
      rw [mealComparefunDemo, Option.map_eq_some_iff] at hu
      obtain ⟨r, hr, hru⟩ := hu
      have hri : r.1 = i := congrArg Prod.fst hru
      exact hri ▸ (wait_eq_zero_or_one hr).resolve_right (hri ▸ hi)
    subst hzero
    exact ⟨hcell', hsent', .inr ⟨rfl, _, ⟨⟨m, u, hm, hu, rfl⟩, hcmd.1, hcmd.2⟩, rfl⟩⟩
  · cases hr
    exact ⟨hcell', hsent', .inl ⟨rfl, rfl⟩⟩

/-- Up to `i` tries: all of them are in vain, or one is answered behind others that are not. -/
lemma echoFuntion_cases {α : Type*} {fptr : Tmp → α → α} {i : ℕ} {airs : List Air} {a a' : α}
    {b : Bool} (h : n.echoFuntion fptr i airs t a = some (b, t', a', n')) :
    (b = false ∧ t' = t ∧ a' = a ∧ n'.sent = n.sent ++ List.replicate i n.echoFrame) ∨
      ∃ k < i, ∃ m rx, b = true ∧ m.cell = n.cell ∧
        m.sent = n.sent ++ List.replicate k n.echoFrame ∧
        Answered ((airs.drop k).headD ⟨[], []⟩) m rx ∧ t' = echoTmp rx t ∧
        a' = fptr t' a ∧ n'.sent = n.sent ++ List.replicate (k + 1) n.echoFrame := by
  -- on the number of tries that are left
  induction i generalizing airs n with
  | zero =>
    cases h
    exact .inl ⟨rfl, rfl, rfl, by rw [List.replicate_zero, List.append_nil]⟩
  | succ i ih =>
    rw [echoFuntion, Option.bind_eq_some_iff] at h
    obtain ⟨⟨c, t₁, n₁⟩, hecho, h⟩ := h
    obtain ⟨hcell, hsent, hcase⟩ := echoFun_cases hecho
    rcases hcase with ⟨rfl, rfl⟩ | ⟨rfl, rx, hrx, rfl⟩
    · -- in vain: the others are as many as are left
      rw [if_neg (show ¬ (1 : UInt8) = 0 by decide)] at h
      have hframe := echoFrame_congr hcell
      rcases ih h with ⟨rfl, ht, ha, hn⟩ | ⟨k, hk, m, rx, hb, hm, hms, hrx, ht, ha, hn⟩
      · refine .inl ⟨rfl, ht, ha, ?_⟩
        rw [hn, hsent, hframe, List.append_assoc, List.replicate_succ]
        rfl
      · refine .inr ⟨k + 1, Nat.succ_lt_succ hk, m, rx, hb, hm.trans hcell, ?_, ?_, ht, ha, ?_⟩
        · rw [hms, hsent, hframe, List.append_assoc, List.replicate_succ]
          rfl
        · cases airs with
          | nil => rwa [List.tail_nil, List.drop_nil] at hrx
          | cons air airs => exact hrx
        · rw [hn, hsent, hframe, List.append_assoc, List.replicate_succ (n := k + 1)]
          rfl
    · rw [if_pos rfl] at h
      cases h
      refine .inr ⟨0, Nat.succ_pos i, n, rx, rfl, rfl, by simp, ?_, rfl, rfl, by simpa using hsent⟩
      cases airs <;> exact hrx

end Net

/-- `EchoFuntion(RTC_TimeRegulate)` leaves the clock as it is after a hundred tries in vain.  Else
it sets it from the reply to the last of its tries, and the serial number of what is sent next has the
digits of this reply exactly if they fit. -/
theorem echoFuntion_clock (wTime wDate : Setting) (hTime : wTime.init = true)
    (hDate : wDate.init = true) (airs : List Air) (t t' : Tmp) (r r' : Rtc) (n n' : Net) (b : Bool)
    (h : n.echoFuntion (Rtc.timeRegulate wTime wDate) 100 airs t r = some (b, t', r', n')) :
    (b = false ∧ t' = t ∧ r' = r ∧ n'.sent = n.sent ++ List.replicate 100 n.echoFrame) ∨
      ∃ k < 100, ∃ m rx, b = true ∧ n'.sent = n.sent ++ List.replicate (k + 1) n.echoFrame ∧
        m.sent = n.sent ++ List.replicate k n.echoFrame ∧
        Net.Answered ((airs.drop k).headD ⟨[], []⟩) m rx ∧
        ∀ u : Net, ((u.getBRWN r'.timeShow.toStructTD).bytes .brwn).drop 3 =
          [0x20, rx 8, rx 9, rx 10, rx 14, rx 15, rx 16] ↔ (Net.stamp rx t).Fits := by
  rcases Net.echoFuntion_cases h with hfail | ⟨k, hk, m, rx, hb, -, hm, hrx, rfl, rfl, hn⟩
  · exact .inl hfail
  · exact .inr ⟨k, hk, m, rx, hb, hn, hm, hrx, fun u =>
      Rtc.serial_timeRegulate r hTime hDate (Net.of_echoTmp rx t) u⟩

/-- Nothing comes after the first question; the reply to the second one says 12:30:00 on 6 May. -/
def timeAirs : List Air :=
  [⟨[], []⟩, ⟨[], [(mealFrame 0x0710 (Net.packet [0xa9, 0x00, 0x04, 0x20, 0x14, 0x05, 0x06, 0xaa,
    0x00, 0x03, 0x12, 0x30, 0x00])).map fun b => ⟨b, some 1⟩]⟩]

theorem echoFuntion_clock_second : ∃ t' r' n',
    Net.start.echoFuntion (Rtc.timeRegulate ⟨true, true⟩ ⟨true, true⟩) 100 timeAirs .init
      ⟨0, 0, 0⟩ = some (true, t', r', n') ∧
    ∃ k < 100, ∃ m rx, n'.sent = List.replicate (k + 1) Net.start.echoFrame ∧
      Net.Answered ((timeAirs.drop k).headD ⟨[], []⟩) m rx ∧
      ∀ u : Net, ((u.getBRWN r'.timeShow.toStructTD).bytes .brwn).drop 3 =
        [0x20, rx 8, rx 9, rx 10, rx 14, rx 15, rx 16] ↔ (Net.stamp rx .init).Fits := by
  have hfst : (Net.start.echoFuntion (Rtc.timeRegulate ⟨true, true⟩ ⟨true, true⟩) 100 timeAirs
      .init ⟨0, 0, 0⟩).map Prod.fst = some true := by decide +kernel
  rw [Option.map_eq_some_iff] at hfst
  obtain ⟨⟨b, t', r', n'⟩, h, rfl⟩ := hfst
  rcases echoFuntion_clock ⟨true, true⟩ ⟨true, true⟩ rfl rfl timeAirs .init t' ⟨0, 0, 0⟩ r'
    Net.start n' _ h with ⟨hb, -⟩ | ⟨k, hk, m, rx, hb, hn, -, hrx, hserial⟩
  · cases hb
  · exact ⟨t', r', n', h, k, hk, m, rx, hn, hrx, hserial⟩

end MealVendor
