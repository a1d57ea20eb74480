import MealVendor.Sale.Line

/-!
# What confirms a command to the bill acceptor

`CloseCashSystem` and `OpenCashSystem` send their command and then look for the digits `00` of an
acknowledgement at the start of `RX4Buffer`.  Before it they clear `BillDataBuffer`, not
`RX4Buffer`: the line that was received last is still there, and the characters of a new line are
stored over it, one after the other.

Which characters stand in the first two columns depends only on what has been received.  Three
things can be taken for the acknowledgement: characters of which not all belong to a line that has
ended since the command, the beginning of a line that is still under way, and a line that begins
with `00` and is another one.
-/

namespace MealVendor

/-- What has been received when the command has been sent. -/
def CashAir.before (past : List UInt8) (air : CashAir) : List UInt8 :=
  past ++ air.delay ++ air.command

namespace Rx4

/-! ## What stands in a column -/

/-- What stands in column `i` behind the characters `w`, the first of which is stored in column
`c`: the last of them that was stored there, or what was there before.  The column is counted in a
byte. -/
def standing (i c : ℕ) (before : UInt8) (w : List UInt8) : UInt8 :=
  ((w.zipIdx c).filter fun x => x.2 % 256 == i).getLast?.elim before Prod.fst

lemma standing_snoc (i c : ℕ) (before : UInt8) (w : List UInt8) (b : UInt8) :
    standing i c before (w ++ [b]) =
      if (c + w.length) % 256 = i then b else standing i c before w := by
  rw [standing, List.zipIdx_append, List.filter_append, List.zipIdx_singleton]
  by_cases h : (c + w.length) % 256 = i
  · rw [if_pos h, List.filter_cons_of_pos (by simpa using h)]
    simp
  · rw [if_neg h, List.filter_cons_of_neg (by simpa using h)]
    simp [standing]

variable {r : Rx4} {air : List (List UInt8)}

/-- Characters that are stored one after the other. -/
lemma foldl_store (w : List UInt8) (r : Rx4) :
    (w.foldl (fun r b => r.store b) r).rx4DataLen.toNat = (r.rx4DataLen.toNat + w.length) % 256 ∧
      ∀ i < 256, (w.foldl (fun r b => r.store b) r).rx4Buffer i =
        standing i r.rx4DataLen.toNat (r.rx4Buffer i) w := by
  induction w using List.reverseRecOn with
  | nil => exact ⟨by simp, fun i _ => rfl⟩
  | append_singleton w b ih =>
    obtain ⟨hlen, hcell⟩ := ih
    rw [List.foldl_append, List.foldl_cons, List.foldl_nil]
    refine ⟨?_, fun i hi => ?_⟩
    · show (UInt8.toNat (_ + 1)) = _
      rw [UInt8.toNat_add, hlen, List.length_append, List.length_singleton]
      show (_ + 1) % 256 = _
      omega
    · rw [standing_snoc, store]
      dsimp only
      rw [hlen]
      by_cases h : (r.rx4DataLen.toNat + w.length) % 256 = i
      · rw [h, if_pos rfl, Function.update_self]
      · rw [if_neg h, Function.update_of_ne (Ne.symm h), hcell i hi]

/-- Without a line feed the characters are only stored. -/
lemma receive_of_not_mem {w : List UInt8} (h : 0x0A ∉ w) (r : Rx4) :
    r.receive w = w.foldl (fun r b => r.store b) r := by
  induction w generalizing r with
  | nil => rfl
  | cons b w ih =>
    rw [List.mem_cons, not_or] at h
    obtain ⟨hb, hw⟩ := h
    rw [receive, List.foldl_cons, List.foldl_cons, irq, if_neg (Ne.symm hb)]
    exact ih hw _

/-! ## What is heard during a call -/

/-- The characters that are received up to and with the `n`-th look. -/
def upTo (air : List (List UInt8)) (n : ℕ) : List UInt8 := (air.take (n + 1)).flatten

/-- The characters that `poll` lets pass before it returns. -/
def heard : ℕ → List (List UInt8) → Rx4 → List UInt8
  | 0, _, _ => []
  | cnt + 1, air, r =>
    let r := r.receive (air.headD [])
    air.headD [] ++ if r.isAck || r.isNack then [] else heard cnt air.tail r

/-- The looks before the `n`-th find no answer. -/
def Undecided (r : Rx4) (air : List (List UInt8)) (n : ℕ) : Prop :=
  ∀ m < n, (r.receive (upTo air m)).isAck = false ∧ (r.receive (upTo air m)).isNack = false

@[simp] lemma receive_nil (r : Rx4) : r.receive [] = r := rfl

@[simp] lemma receive_cons (r : Rx4) (b : UInt8) (bs : List UInt8) :
    r.receive (b :: bs) = (r.irq b).receive bs := rfl

lemma receive_append (r : Rx4) (as bs : List UInt8) :
    r.receive (as ++ bs) = (r.receive as).receive bs :=
  List.foldl_append

lemma upTo_zero (air : List (List UInt8)) : upTo air 0 = air.headD [] := by
  cases air <;> simp [upTo]

lemma upTo_succ (air : List (List UInt8)) (n : ℕ) :
    upTo air (n + 1) = air.headD [] ++ upTo air.tail n := by
  cases air <;> simp [upTo]

/-- Behind the first look, the others look at what it left. -/
lemma undecided_succ (n : ℕ) : r.Undecided air (n + 1) ↔
    (r.receive (air.headD [])).isAck = false ∧ (r.receive (air.headD [])).isNack = false ∧
      (r.receive (air.headD [])).Undecided air.tail n := by
  constructor
  · intro h
    have h0 := h 0 n.succ_pos
    rw [upTo_zero] at h0
    refine ⟨h0.1, h0.2, fun m hm => ?_⟩
    have hm' := h (m + 1) (Nat.succ_lt_succ hm)
    rwa [upTo_succ, receive_append] at hm'
  · rintro ⟨hack, hnack, h⟩ m hm
    cases m with
    | zero =>
      rw [upTo_zero]
      exact ⟨hack, hnack⟩
    | succ m =>
      rw [upTo_succ, receive_append]
      exact h m (Nat.succ_lt_succ_iff.mp hm)

/-- The first look, and the others where it finds no answer. -/
lemma forall_looks_succ (cnt : ℕ) (Q : List UInt8 → Prop) :
    (∀ n < cnt + 1, r.Undecided air n → (r.receive (upTo air n)).isAck = true → Q (upTo air n)) ↔
      ((r.receive (air.headD [])).isAck = true → Q (air.headD [])) ∧
      ((r.receive (air.headD [])).isAck = false → (r.receive (air.headD [])).isNack = false →
        ∀ n < cnt, (r.receive (air.headD [])).Undecided air.tail n →
          ((r.receive (air.headD [])).receive (upTo air.tail n)).isAck = true →
            Q (air.headD [] ++ upTo air.tail n)) := by
  rw [Nat.forall_lt_succ_left]
  refine and_congr ?_ ?_
  · have hfirst : r.Undecided air 0 := fun m hm => absurd hm m.not_lt_zero
    rw [upTo_zero]
    exact ⟨fun h => h hfirst, fun h _ => h⟩
  · simp only [undecided_succ, upTo_succ, receive_append]
    exact ⟨fun h hack hnack n hn hrest => h n hn ⟨hack, hnack, hrest⟩,
      fun h n hn hlooks => h hlooks.1 hlooks.2.1 n hn hlooks.2.2⟩

/-- The loop returns `true` with the first look that finds an answer, if it finds `00`. -/
lemma poll_true_iff (cnt : ℕ) (air : List (List UInt8)) (r : Rx4) (Q : List UInt8 → Prop) :
    ((poll cnt air r).1 = true → Q (heard cnt air r)) ↔
      ∀ n < cnt, r.Undecided air n → (r.receive (upTo air n)).isAck = true → Q (upTo air n) := by
  induction cnt generalizing air r Q with
  | zero => simp [poll]
  | succ cnt ih =>
    rw [forall_looks_succ]
    cases hack : (r.receive (air.headD [])).isAck with
    | true =>
      rw [poll, heard, hack, Bool.true_or, if_pos rfl, if_pos rfl, List.append_nil]
      simp
    | false =>
      cases hnack : (r.receive (air.headD [])).isNack with
      | true =>
        rw [poll, heard, hack, hnack, Bool.false_or, if_neg (by simp), if_pos rfl]
        simp
      | false =>
        -- the loop goes on with what the first look left
        rw [poll, heard, hack, hnack, Bool.false_or, if_neg (by simp), if_neg (by simp),
          if_neg (by simp)]
        refine (ih air.tail _ fun bs => Q (air.headD [] ++ bs)).trans ?_
        simp

/-! ## What is taken for an acknowledgement -/

/-- A line begins behind these characters. -/
def AtStart (bs : List UInt8) : Prop := bs = [] ∨ bs.getLast? = some 0x0A

/-- The line `00` is among the characters `since`, which come behind `before`. -/
def Acknowledged (before since : List UInt8) : Prop :=
  ∃ pre post, since = pre ++ [0x30, 0x30, 0x0D, 0x0A] ++ post ∧ AtStart (before ++ pre)

/-- With the characters `w` stored behind `before`, there is `00` in the first two columns. -/
def Fronts (before w : List UInt8) : Prop :=
  let r := start.receive before
  standing 0 r.rx4DataLen.toNat (r.rx4Buffer 0) w = 0x30 ∧
    standing 1 r.rx4DataLen.toNat (r.rx4Buffer 1) w = 0x30

/-- With a line feed behind these characters the line stays where it is: it can be converted, or
its length is counted to 0. -/
def Kept (bs : List UInt8) : Prop :=
  let r := (start.receive bs).store 0x0A
  (stringNumbers r.line).2 = true ∨ r.rx4DataLen = 0

/-- Characters behind `before` that are taken for an acknowledgement and are none. -/
inductive Misleads (before : List UInt8) : List UInt8 → Prop
  /-- No line has ended: what stands in the first two columns is an old `00`, a new line over an
  old one, or a line that is under way. -/
  | unended {w : List UInt8} (hw : 0x0A ∉ w) (hfront : Fronts before w) : Misleads before w
  /-- Behind other lines one is under way. -/
  | underWay {lines w : List UInt8} (hlines : lines.getLast? = some 0x0A) (hw : 0x0A ∉ w)
      (hne : w ≠ []) (hfront : Fronts (before ++ lines) w) (hno : ¬ Acknowledged before lines) :
      Misleads before (lines ++ w)
  /-- The line that has just ended is another one, or began before. -/
  | other {lines w : List UInt8} (hlines : AtStart lines) (hw : 0x0A ∉ w)
      (hfront : Fronts (before ++ lines) (w ++ [0x0A])) (hkept : Kept (before ++ lines ++ w))
      (hother : ¬ (AtStart (before ++ lines) ∧ w = [0x30, 0x30, 0x0D]))
      (hno : ¬ Acknowledged before lines) : Misleads before (lines ++ w ++ [0x0A])

/-- A look behind these characters ends the loop. -/
def Answers (bs : List UInt8) : Prop :=
  (start.receive bs).isAck = true ∨ (start.receive bs).isNack = true

/-- None of the looks comes at a time at which the characters mislead, unless an earlier look has
found an answer. -/
def Unmistaken (cnt : ℕ) (before : List UInt8) (air : List (List UInt8)) : Prop :=
  ∀ n < cnt, Misleads before (upTo air n) → ∃ m < n, Answers (before ++ upTo air m)

/-! ### The first two columns -/

section Columns

variable {before since lines w : List UInt8}

lemma isAck_iff_of_cells {r : Rx4} :
    r.isAck = true ↔ r.rx4Buffer 0 = 0x30 ∧ r.rx4Buffer 1 = 0x30 := by
  rw [isAck, Bool.and_eq_true, beq_iff_eq, beq_iff_eq]

/-- What is stored behind `before` is in the first two columns. -/
lemma isAck_foldl_store :
    (w.foldl (fun r b => r.store b) (start.receive before)).isAck = true ↔ Fronts before w := by
  obtain ⟨-, hcell⟩ := foldl_store w (start.receive before)
  rw [isAck_iff_of_cells, hcell 0 (by decide), hcell 1 (by decide)]
  rfl

/-- A look while a line is under way. -/
lemma isAck_of_not_mem (hw : 0x0A ∉ w) :
    (start.receive (before ++ w)).isAck = true ↔ Fronts before w := by
  rw [receive_append, receive_of_not_mem hw, isAck_foldl_store]

/-- A look behind the end of a line. -/
lemma isAck_lineEnd (hw : 0x0A ∉ w) :
    (start.receive (before ++ w ++ [0x0A])).isAck = true ↔
      Fronts before (w ++ [0x0A]) ∧ Kept (before ++ w) := by
  have hstore : (start.receive (before ++ w)).store 0x0A =
      (w ++ [0x0A]).foldl (fun r b => r.store b) (start.receive before) := by
    rw [receive_append, receive_of_not_mem hw, List.foldl_append]
    rfl
  have hend : start.receive (before ++ w ++ [0x0A]) =
      ((start.receive (before ++ w)).store 0x0A).lineEnd := by
    rw [receive_append]
    rfl
  rw [hend, ← isAck_foldl_store, ← hstore, Kept]
  generalize (start.receive (before ++ w)).store 0x0A = r
  rw [isAck_iff_of_cells, isAck_iff_of_cells, lineEnd, stringToHexGroup_eq]
  dsimp only
  by_cases hparsed : (stringNumbers r.line).2 = true
  · rw [if_pos hparsed]
    simp [hparsed]
  · rw [if_neg hparsed]
    by_cases hlen : r.rx4DataLen = 0
    · simp [hlen]
    · -- the first cell is cleared
      have hpos : 0 < r.rx4DataLen.toNat := Nat.pos_of_ne_zero fun h => hlen (UInt8.toNat.inj h)
      simp [hparsed, hlen, hpos]

end Columns

/-! ### What is taken for the acknowledgement, and is none -/

section Misleads

variable {before since lines w : List UInt8}

lemma Acknowledged.append (h : Acknowledged before since) (w : List UInt8) :
    Acknowledged before (since ++ w) := by
  obtain ⟨pre, post, rfl, hpre⟩ := h
  exact ⟨pre, post ++ w, by simp, hpre⟩

/-- Without a line feed behind the lines, an acknowledgement is among these. -/
lemma Acknowledged.of_append (hw : 0x0A ∉ w) (h : Acknowledged before (lines ++ w)) :
    Acknowledged before lines := by
  obtain ⟨pre, post, heq, hpre⟩ := h
  rw [List.append_assoc, List.append_eq_append_iff] at heq
  rcases heq with ⟨as, rfl, has⟩ | ⟨bs, rfl, hbs⟩
  · -- the line would be behind the last line feed
    exact absurd (has ▸ List.mem_append_right as (by simp)) hw
  · refine ⟨pre, ?_⟩
    rw [List.append_eq_append_iff] at hbs
    rcases hbs with ⟨cs, rfl, hcs⟩ | ⟨cs, hcs, rfl⟩
    · exact ⟨cs, by simp, hpre⟩
    · cases cs using List.reverseRecOn with
      | nil => exact ⟨[], by simpa using hcs.symm, hpre⟩
      | append_singleton cs c =>
        have hc : c = 0x0A := by
          have := congrArg List.getLast? hcs
          simpa [List.getLast?_append] using this.symm
        exact absurd (by simp [hc]) hw

/-- Where the lines end, if no line feed follows. -/
lemma eq_of_atStart {v : List UInt8} {pre : List UInt8} (hpre : AtStart (before ++ pre))
    (hlines : AtStart lines) (hv : 0x0A ∉ v) (hw : 0x0A ∉ w) (h : lines ++ w = pre ++ v) :
    pre = lines ∧ v = w := by
  rcases List.append_eq_append_iff.mp h with ⟨as, rfl, rfl⟩ | ⟨as, rfl, rfl⟩
  · cases as using List.reverseRecOn with
    | nil => exact ⟨by simp, rfl⟩
    | append_singleton as c =>
      have hc : c = 0x0A := by
        rcases hpre with hpre | hpre
        · simp at hpre
        · simpa [← List.append_assoc] using hpre
      exact absurd (by simp [hc]) hw
  · cases as using List.reverseRecOn with
    | nil => exact ⟨by simp, rfl⟩
    | append_singleton as c =>
      have hc : c = 0x0A := by
        rcases hlines with hlines | hlines
        · simp at hlines
        · simpa [← List.append_assoc] using hlines
      exact absurd (by simp [hc]) hv

/-- The lines that have ended, and what is behind them. -/
lemma exists_lines (bs : List UInt8) : ∃ lines w, bs = lines ++ w ∧ AtStart lines ∧ 0x0A ∉ w := by
  by_cases h : 0x0A ∈ bs
  · obtain ⟨a, c, rfl, hc⟩ := Lib.exists_last h
    exact ⟨a ++ [0x0A], c, by simp, .inr (by simp), hc⟩
  · exact ⟨[], bs, rfl, .inl rfl, h⟩

/-- Without a line feed nothing is acknowledged. -/
lemma not_acknowledged_of_not_mem (hw : 0x0A ∉ w) : ¬ Acknowledged before w := by
  rintro ⟨pre, post, rfl, -⟩
  exact hw (by simp)

/-- The line that ends last is the acknowledgement, or one before it is. -/
lemma Acknowledged.of_lineEnd (hlines : AtStart lines) (hw : 0x0A ∉ w)
    (h : Acknowledged before (lines ++ w ++ [0x0A])) :
    AtStart (before ++ lines) ∧ w = [0x30, 0x30, 0x0D] ∨ Acknowledged before lines := by
  obtain ⟨pre, post, heq, hpre⟩ := h
  cases post using List.reverseRecOn with
  | nil =>
    have heq' : lines ++ w = pre ++ [0x30, 0x30, 0x0D] := by
      refine (List.append_left_inj [0x0A]).mp ?_
      rw [heq]
      simp
    obtain ⟨rfl, rfl⟩ := eq_of_atStart hpre hlines (by decide) hw heq'
    exact .inl ⟨hpre, rfl⟩
  | append_singleton post c =>
    rw [← List.append_assoc] at heq
    exact .inr (.of_append hw ⟨pre, post, (List.append_inj' heq rfl).1, hpre⟩)

/-- What misleads is what holds `00` in the first two columns without an acknowledgement. -/
lemma misleads_iff : Misleads before since ↔
    (start.receive (before ++ since)).isAck = true ∧ ¬ Acknowledged before since := by
  constructor
  · intro h
    cases h with
    | unended hw hfront =>
      exact ⟨(isAck_of_not_mem hw).mpr hfront, not_acknowledged_of_not_mem hw⟩
    | underWay hlines hw hne hfront hno =>
      rw [← List.append_assoc]
      exact ⟨(isAck_of_not_mem hw).mpr hfront, fun h => hno (h.of_append hw)⟩
    | other hlines hw hfront hkept hother hno =>
      rw [← List.append_assoc, ← List.append_assoc]
      refine ⟨(isAck_lineEnd hw).mpr ⟨hfront, hkept⟩, fun h => ?_⟩
      exact (h.of_lineEnd hlines hw).elim hother hno
  · rintro ⟨hack, hno⟩
    obtain ⟨lines, w, rfl, hlines, hw⟩ := exists_lines since
    rcases hlines with rfl | hlines
    · rw [List.nil_append] at hack ⊢
      exact .unended hw ((isAck_of_not_mem hw).mp hack)
    · have hlines' : ¬ Acknowledged before lines := fun h => hno (h.append w)
      by_cases hne : w = []
      · -- a line has just ended
        subst hne
        obtain ⟨ended, rfl⟩ := List.getLast?_eq_some_iff.mp hlines
        obtain ⟨lines, w, rfl, hlines, hw⟩ := exists_lines ended
        rw [List.append_nil, ← List.append_assoc, ← List.append_assoc] at hack
        obtain ⟨hfront, hkept⟩ := (isAck_lineEnd hw).mp hack
        rw [List.append_nil]
        refine .other hlines hw hfront hkept ?_ ?_
        · rintro ⟨hstart, rfl⟩
          exact hlines' ⟨lines, [], by simp, hstart⟩
        · intro h
          exact hlines' (List.append_assoc lines w _ ▸ h.append _)
      · rw [← List.append_assoc] at hack
        exact .underWay hlines hw hne ((isAck_of_not_mem hw).mp hack) hlines'

end Misleads

/-! ## A call -/

/-- The two have received the same, whatever their numbers are. -/
def Alike (r r' : Rx4) : Prop := r'.rx4Buffer = r.rx4Buffer ∧ r'.rx4DataLen = r.rx4DataLen

lemma Alike.irq {r r' : Rx4} (h : Alike r r') (b : UInt8) : Alike (r.irq b) (r'.irq b) := by
  obtain ⟨buf, len, data⟩ := r
  obtain ⟨buf', len', data'⟩ := r'
  obtain ⟨rfl, rfl⟩ : buf' = buf ∧ len' = len := h
  rw [Rx4.irq, Rx4.irq]
  split_ifs
  · -- whether the line can be converted does not depend on the numbers
    simp [lineEnd, stringToHexGroup_eq, Alike, store, line]
  · exact ⟨rfl, rfl⟩

lemma Alike.receive {r r' : Rx4} (h : Alike r r') (bs : List UInt8) :
    Alike (r.receive bs) (r'.receive bs) := by
  induction bs generalizing r r' with
  | nil => exact h
  | cons b bs ih => exact ih (h.irq b)

/-- The command does not touch what has been received. -/
lemma alike_sendCash (past : List UInt8) (air : CashAir) :
    Alike (start.receive (air.before past)) ((start.receive past).sendCash air) := by
  rw [CashAir.before, receive_append, receive_append]
  have hset : Alike ((start.receive past).receive air.delay)
      (((start.receive past).receive air.delay).memset 0xFE) := ⟨rfl, rfl⟩
  exact hset.receive air.command

/-- Before the `cnt`-th look, `true` stands for an acknowledgement of the command exactly if no
look is misled. -/
lemma poll_acknowledged_iff (cnt : ℕ) (air : List (List UInt8)) {before : List UInt8} {r : Rx4}
    (hr : Alike (start.receive before) r) :
    ((poll cnt air r).1 = true → Acknowledged before (heard cnt air r)) ↔
      Unmistaken cnt before air := by
  have hack : ∀ n, (r.receive (upTo air n)).isAck =
      (start.receive (before ++ upTo air n)).isAck := by
    intro n
    rw [receive_append, isAck, isAck, (hr.receive _).1]
  have hundecided : ∀ n, r.Undecided air n ↔ ¬ ∃ m < n, Answers (before ++ upTo air m) := by
    intro n
    simp only [Undecided, Answers, receive_append, isAck, isNack, (hr.receive _).1]
    simp
  rw [poll_true_iff cnt air r (Acknowledged before)]
  refine forall₂_congr fun n hn => ?_
  rw [hundecided, hack, misleads_iff]
  constructor
  · rintro h ⟨hfound, hno⟩
    by_contra hfirst
    exact hno (h hfirst hfound)
  · intro h hfirst hfound
    by_contra hno
    exact hfirst (h ⟨hfound, hno⟩)

/-- `CloseCashSystem` and `OpenCashSystem` return `true` only behind an acknowledgement of their own
command exactly if no look is misled by an old line, by one that is under way or by another one
that begins with `00`. -/
theorem confirms_iff (past : List UInt8) (air : CashAir) :
    (((start.receive past).closeCashSystem air).1 = true →
        Acknowledged (air.before past) (heard 253 air.polls ((start.receive past).sendCash air)) ↔
      Unmistaken 253 (air.before past) air.polls) ∧
    (((start.receive past).openCashSystem air).1 = true →
        Acknowledged (air.before past) (heard 254 air.polls ((start.receive past).sendCash air)) ↔
      Unmistaken 254 (air.before past) air.polls) :=
  ⟨poll_acknowledged_iff 253 air.polls (alike_sendCash past air),
    poll_acknowledged_iff 254 air.polls (alike_sendCash past air)⟩

/-- Before the call the line `00` was received; during the call nothing is. -/
theorem confirms_without_answer : ¬ ∀ (past : List UInt8) (air : CashAir),
    ((start.receive past).closeCashSystem air).1 = true →
      Acknowledged (air.before past)
        (heard 253 air.polls ((start.receive past).sendCash air)) := by
  intro h
  obtain ⟨pre, post, hheard, -⟩ := h [0x30, 0x30, 0x0D, 0x0A] ⟨[], [], []⟩ (by decide +kernel)
  have hnothing : heard 253 [] ((start.receive [0x30, 0x30, 0x0D, 0x0A]).sendCash ⟨[], [], []⟩) =
      [] := by
    decide +kernel
  rw [hnothing] at hheard
  simp at hheard

end Rx4

end MealVendor
