import MealVendor.Delivery.Command

/-!
# What is received from the arm

The arm sends ACK, NACK and lines of six bytes.  `USART6_IRQHandler` looks at the last two bytes of
its buffer before it knows that there are two, so the first byte already makes it read in front of
the buffer.  A line is dispatched when it was complete before `manageusart6data` was called, and no
byte has come since; the digits of an error code are compared with numbers, so a line with digits
is dispatched to no error.
-/

namespace MealVendor

/-! ## The receiver and its reader -/

/-- The indices at which `USART6_IRQHandler` stores into `Usart6Buff` or reads it, when the byte
comes.  What stands in front of the buffer is not known. -/
def Arm.touches (b : UInt8) (a : Arm) : List ℤ :=
  let stored := a.store b
  let index := stored.acknowledge.usart6Index
  [(a.usart6Index : ℤ), 0] ++
    (if stored.usart6Buff 0 = 0x06 ∨ stored.usart6Buff 0 = 0x15 then [0] else []) ++
    [(index : ℤ) - 2] ++
    -- the last byte is only looked at behind a carriage return
    (if h : 2 ≤ index ∧ index - 2 < 6 then
      if stored.acknowledge.usart6Buff ⟨index - 2, h.2⟩ = 0x0d then [(index : ℤ) - 1] else []
    else [])

/-- What is received.  The rest only records what is done: the indices of `Usart6Buff` that the
interrupt touches, the lines that `manageusart6data` takes up, and the codes with which it calls
`AbnormalHandle`. -/
structure Usart6 where
  arm : Arm
  touched : List ℤ
  dispatched : List Line
  handled : List ℕ

/-- A byte comes, or `manageusart6data` is called. -/
inductive RxEvent
  | rx (b : UInt8)
  | manage
deriving DecidableEq

namespace Usart6

/-- Nothing has come. -/
def start (a : Arm) : Usart6 := ⟨a, [], [], []⟩

/-- `USART6_IRQHandler`. -/
def receive (b : UInt8) (u : Usart6) : Usart6 :=
  { u with arm := u.arm.receive b, touched := u.touched ++ u.arm.touches b }

/-- `manageusart6data`. -/
def manageusart6data (u : Usart6) : Usart6 :=
  if u.arm.usart6DataFlag then
    { u with
      arm := { u.arm with usart6DataFlag := false }.readLine.clearBuff
      dispatched := u.dispatched ++ [u.arm.usart6Buff]
      handled := u.handled ++ (armError u.arm.usart6Buff).toList }
  else u

def step (u : Usart6) : RxEvent → Usart6
  | .rx b => u.receive b
  | .manage => u.manageusart6data

def run (u : Usart6) (es : List RxEvent) : Usart6 := es.foldl step u

end Usart6

/-! ## What is sent -/

/-- What the arm sends. -/
inductive Msg
  | ack
  | nack
  | line (L : Line)

namespace Msg

def bytes : Msg → List UInt8
  | ack => [0x06]
  | nack => [0x15]
  | line L => List.ofFn L

/-- A line ends with a carriage return and a line feed, and does not begin like a reply. -/
def WellFormed : Msg → Prop
  | line L => L 0 ≠ 0x06 ∧ L 0 ≠ 0x15 ∧ L 4 = 0x0d ∧ L 5 = 0x0a
  | _ => True

/-- The line, if it is one. -/
def line? : Msg → Option Line
  | line L => some L
  | _ => none

end Msg

/-- The error code that a line with digits stands for. -/
def Line.error (L : Line) : Option ℕ :=
  if L 0 = 'E'.toUInt8 then armErrors.lookup (L 1 - 0x30, L 2 - 0x30, L 3 - 0x30) else none

/-- The bytes among the events. -/
def rxBytes (es : List RxEvent) : List UInt8 :=
  es.filterMap fun
    | .rx b => some b
    | .manage => none

/-- The bytes that have come are these messages. -/
def Sends (es : List RxEvent) (ms : List Msg) : Prop :=
  rxBytes es = ms.flatMap Msg.bytes ∧ ∀ m ∈ ms, m.WellFormed

/-- What reception is for: nothing outside of the buffer is touched, replies between lines set
their flags, and every line is dispatched once, to its error code if it has one. -/
structure Usart6.Receives (u : Usart6) (es : List RxEvent) : Prop where
  inside : ∀ i ∈ (u.run es).touched, 0 ≤ i ∧ i ≤ 5
  ack : ∀ pre ms, pre ++ [.rx 0x06] <+: es → Sends pre ms →
    (u.run (pre ++ [.rx 0x06])).arm.reack = true
  nack : ∀ pre ms, pre ++ [.rx 0x15] <+: es → Sends pre ms →
    (u.run (pre ++ [.rx 0x15])).arm.renack = true
  dispatched : ∀ pre ms, pre <+: es → Sends pre ms →
    (u.run (pre ++ [.manage])).dispatched = ms.filterMap Msg.line?
  handled : ∀ pre ms, pre <+: es → Sends pre ms →
    (u.run (pre ++ [.manage])).handled = (ms.filterMap Msg.line?).filterMap Line.error

namespace Usart6

variable {u : Usart6} {es : List RxEvent} {i : ℤ}

/-! ## The buffer -/

/-- What was touched stays so. -/
lemma touched_run (h : i ∈ u.touched) : i ∈ (u.run es).touched := by
  induction es generalizing u with
  | nil => exact h
  | cons e es ih =>
    refine ih (u := u.step e) ?_
    cases e with
    | rx b => exact List.mem_append_left _ h
    | manage =>
      change i ∈ u.manageusart6data.touched
      rw [manageusart6data]
      split_ifs <;> exact h

/-- The first byte of a line or a reply is looked at together with what stands in front of the
buffer. -/
lemma touches_before {a : Arm} (ha : a.usart6Index = 0) (b : UInt8) :
    ∃ i ∈ a.touches b, i < 0 := by
  have hindex : (a.store b).acknowledge.usart6Index ≤ 1 := by
    have hstore : (a.store b).usart6Index = 1 := by
      rw [Arm.store, ha]
    rw [Arm.acknowledge]
    split_ifs
    · exact Nat.zero_le 1
    · exact Nat.zero_le 1
    · rw [hstore]
  refine ⟨((a.store b).acknowledge.usart6Index : ℤ) - 2, ?_, by omega⟩
  rw [Arm.touches]
  refine List.mem_append_left _ (List.mem_append_right _ (List.mem_singleton_self _))

lemma manageusart6data_of_flag (h : u.arm.usart6DataFlag = false) : u.manageusart6data = u := by
  rw [manageusart6data]
  rw [h]
  rfl

/-- The first byte that comes makes the interrupt touch what is not the buffer. -/
lemma exists_touched_before (h : u.arm.Silent) {b : UInt8} (hb : .rx b ∈ es) :
    ∃ i ∈ (u.run es).touched, i < 0 := by
  induction es with
  | nil => exact absurd hb List.not_mem_nil
  | cons e es ih =>
    rw [run, List.foldl_cons]
    cases e with
    | rx b' =>
      obtain ⟨i, hi, hneg⟩ := touches_before h.1 b'
      exact ⟨i, touched_run (List.mem_append_right _ hi), hneg⟩
    | manage =>
      rw [show u.step .manage = u from manageusart6data_of_flag h.2]
      exact ih ((List.mem_cons.mp hb).resolve_left nofun)

/-- Without a byte nothing happens. -/
lemma run_of_no_rx (h : u.arm.Silent) (hes : ∀ b, .rx b ∉ es) : u.run es = u := by
  induction es with
  | nil => rfl
  | cons e es ih =>
    cases e with
    | rx b => exact absurd List.mem_cons_self (hes b)
    | manage =>
      rw [run, List.foldl_cons, show u.step .manage = u from manageusart6data_of_flag h.2]
      exact ih fun b hb => hes b (List.mem_cons_of_mem _ hb)

end Usart6

/-! ## Reception -/

lemma Msg.bytes_ne_nil (m : Msg) : m.bytes ≠ [] := by
  cases m <;> simp [Msg.bytes]

/-- Without a byte there is no message. -/
lemma Sends.eq_nil {es : List RxEvent} {ms : List Msg} (h : Sends es ms)
    (hes : ∀ b, .rx b ∉ es) : ms = [] := by
  have hbytes : rxBytes es = [] := by
    rw [rxBytes, List.filterMap_eq_nil_iff]
    intro e he
    cases e with
    | rx b => exact absurd he (hes b)
    | manage => rfl
  have hflat := h.1
  rw [hbytes] at hflat
  cases ms with
  | nil => rfl
  | cons m ms =>
    rw [List.flatMap_cons] at hflat
    exact absurd (List.append_eq_nil_iff.mp hflat.symm).1 m.bytes_ne_nil

/-- Reception is right exactly as long as nothing comes: the first byte already makes the interrupt
read in front of the buffer. -/
theorem reception_right_iff (es : List RxEvent) :
    Usart6.Receives (.start quietArm) es ↔ ∀ b, .rx b ∉ es := by
  have hsilent : (Usart6.start quietArm).arm.Silent := ⟨rfl, rfl⟩
  constructor
  · intro h b hb
    obtain ⟨i, hi, hneg⟩ := Usart6.exists_touched_before hsilent hb
    exact absurd (h.inside i hi).1 (not_le.mpr hneg)
  · intro hes
    have hrun : ∀ fs, (∀ b, RxEvent.rx b ∉ fs) →
        (Usart6.start quietArm).run fs = .start quietArm := fun fs =>
      Usart6.run_of_no_rx hsilent
    have hpre : ∀ pre, pre <+: es → ∀ b, RxEvent.rx b ∉ pre := fun pre hpre b hb =>
      hes b (hpre.subset hb)
    have hmanage : ∀ pre, pre <+: es → ∀ b, RxEvent.rx b ∉ pre ++ [.manage] := by
      intro pre hp b hb
      rcases List.mem_append.mp hb with hb | hb
      · exact hpre pre hp b hb
      · exact absurd (List.mem_singleton.mp hb) nofun
    refine ⟨?_, fun pre ms hp => ?_, fun pre ms hp => ?_, fun pre ms hp hs => ?_,
      fun pre ms hp hs => ?_⟩
    · rw [hrun es hes]
      exact nofun
    · exact absurd (List.mem_append_right _ (List.mem_singleton_self _)) (hpre _ hp 0x06)
    · exact absurd (List.mem_append_right _ (List.mem_singleton_self _)) (hpre _ hp 0x15)
    · rw [hs.eq_nil (hpre pre hp), hrun _ (hmanage pre hp)]
      rfl
    · rw [hs.eq_nil (hpre pre hp), hrun _ (hmanage pre hp)]
      rfl

/-- A single byte. -/
theorem first_byte_reads_before : ¬ ∀ es, Usart6.Receives (.start quietArm) es := by
  intro hall
  obtain ⟨i, hi, hneg⟩ := Usart6.exists_touched_before (u := .start quietArm)
    ⟨rfl, rfl⟩ (List.mem_singleton_self (RxEvent.rx 0x06))
  exact absurd ((hall [.rx 0x06]).inside i hi).1 (not_le.mpr hneg)

end MealVendor
