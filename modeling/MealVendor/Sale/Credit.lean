import MealVendor.Model.Uart4

/-!
# Only stacked bills give credit

`ReadBill` remembers the status of the last message that had one of four.  A message with another
status is dealt with as if it had the status that is remembered; so a bill that was not stacked is
credited exactly behind a stacked one.
-/

namespace MealVendor

namespace Bills

/-! ## What `ReadBill` returns -/

/-- The first two bytes of the message in the buffer. -/
def data0 (s : Bills) : UInt8 := s.uart.billDataBuffer 0

def data1 (s : Bills) : UInt8 := s.uart.billDataBuffer 1

/-- A bill is credited only for a message that says that it was stacked, with its value. -/
structure CreditsStacked (s : Bills) : Prop where
  message : s.readBill.1.value ≠ 0 → s.data0 = 0x30
  status : s.readBill.1.value ≠ 0 → s.data1 &&& 0x70 = 0
  five : s.readBill.1.value = 5 → s.data1 &&& 0x0F = 0x01
  ten : s.readBill.1.value = 10 → s.data1 &&& 0x0F = 0x02
  twenty : s.readBill.1.value = 20 → s.data1 &&& 0x0F = 0x03

/-- The message has a status that `ReadBill` does not know, the status that it remembers is that of
a stacked bill, and there is a value in the message. -/
structure Recalls (s : Bills) : Prop where
  message : s.data0 = 0x30
  valuable : s.data1 &&& 0x80 ≠ 0
  unknown : s.data1 &&& 0x70 ≠ 0x00 ∧ s.data1 &&& 0x70 ≠ 0x10 ∧ s.data1 &&& 0x70 ≠ 0x20 ∧
    s.data1 &&& 0x70 ≠ 0x40
  stacked : s.billStatus = .billStacked
  value : s.data1 &&& 0x0F = 0x01 ∨ s.data1 &&& 0x0F = 0x02 ∨ s.data1 &&& 0x0F = 0x03

variable {s : Bills}

/-- A value that is returned is that of the message, of which the status is taken for that of a
stacked bill. -/
lemma readBill_value_ne_zero (h : s.readBill.1.value ≠ 0) :
    s.data0 = 0x30 ∧ s.data1 &&& 0x80 ≠ 0 ∧ s.billStatus.next s.data1 = .billStacked ∧
      s.readBill.1 = .ofData s.data1 := by
  rw [readBill] at h ⊢
  dsimp only at h ⊢
  by_cases hmoney : s.uart.billDataBuffer 0 = 0x30 ∧ s.uart.billDataBuffer 1 &&& 0x80 ≠ 0
  · rw [if_pos hmoney] at h ⊢
    cases hstatus : s.billStatus.next (s.uart.billDataBuffer 1) with
    | billStacked => exact ⟨hmoney.1, hmoney.2, hstatus, by simp [data1]⟩
    | _ => simp [hstatus, BillRead.value] at h
  · rw [if_neg hmoney] at h
    exact absurd rfl h

lemma readBill_of_stacked (h0 : s.data0 = 0x30) (h1 : s.data1 &&& 0x80 ≠ 0)
    (hstatus : s.billStatus.next s.data1 = .billStacked) :
    s.readBill.1 = .ofData s.data1 := by
  rw [data0] at h0
  rw [data1] at h1 hstatus ⊢
  rw [readBill]
  dsimp only
  rw [if_pos ⟨h0, h1⟩, hstatus]

/-- The values by the type of the bill. -/
lemma ofData_value (d : UInt8) :
    ((BillRead.ofData d).value = 5 → d &&& 0x0F = 0x01) ∧
    ((BillRead.ofData d).value = 10 → d &&& 0x0F = 0x02) ∧
    ((BillRead.ofData d).value = 20 → d &&& 0x0F = 0x03) ∧
    ((BillRead.ofData d).value ≠ 0 ↔
      d &&& 0x0F = 0x01 ∨ d &&& 0x0F = 0x02 ∨ d &&& 0x0F = 0x03) := by
  rw [BillRead.ofData]
  split_ifs with h1 h2 h3
  · simp [h1, BillRead.value]
  · simp [h2, BillRead.value]
  · simp [h3, BillRead.value]
  · simp [h1, h2, h3, BillRead.value]

/-- A status that is none of the four leaves the one that is remembered. -/
lemma next_of_unknown {d : UInt8} {status : BillStatus}
    (h : d &&& 0x70 ≠ 0x00 ∧ d &&& 0x70 ≠ 0x10 ∧ d &&& 0x70 ≠ 0x20 ∧ d &&& 0x70 ≠ 0x40) :
    status.next d = status := by
  rw [BillStatus.next, if_neg h.1, if_neg h.2.1, if_neg h.2.2.1, if_neg h.2.2.2]

/-- Another status than that of a stacked bill is taken for one only if it is none of the four. -/
lemma unknown_of_next {d : UInt8} {status : BillStatus} (h : status.next d = .billStacked)
    (hd : d &&& 0x70 ≠ 0) :
    (d &&& 0x70 ≠ 0x00 ∧ d &&& 0x70 ≠ 0x10 ∧ d &&& 0x70 ≠ 0x20 ∧ d &&& 0x70 ≠ 0x40) ∧
      status = .billStacked := by
  rw [BillStatus.next] at h
  split_ifs at h with h0 h1 h2 h4
  · exact absurd h0 hd
  · exact ⟨⟨h0, h1, h2, h4⟩, h⟩

/-- A call credits a stacked bill or none exactly if it does not fall back on the status that is
remembered. -/
lemma creditsStacked_iff : s.CreditsStacked ↔ ¬ s.Recalls := by
  constructor
  · intro h hrecalls
    have hread := readBill_of_stacked hrecalls.message hrecalls.valuable
      ((next_of_unknown hrecalls.unknown).trans hrecalls.stacked)
    have hvalue : s.readBill.1.value ≠ 0 := by
      rw [hread]
      exact (ofData_value _).2.2.2.mpr hrecalls.value
    exact hrecalls.unknown.1 (h.status hvalue)
  · intro h
    have hread : ∀ n, n ≠ 0 → s.readBill.1.value = n → (BillRead.ofData s.data1).value = n := by
      intro n hn hvalue
      obtain ⟨-, -, -, heq⟩ := readBill_value_ne_zero (s := s) (by omega)
      rw [← heq]
      exact hvalue
    refine ⟨fun hvalue => (readBill_value_ne_zero hvalue).1, fun hvalue => ?_, fun hvalue => ?_,
      fun hvalue => ?_, fun hvalue => ?_⟩
    · obtain ⟨h0, h1, hstatus, heq⟩ := readBill_value_ne_zero hvalue
      by_contra hne
      obtain ⟨hunknown, hstacked⟩ := unknown_of_next hstatus hne
      rw [heq] at hvalue
      exact h ⟨h0, h1, hunknown, hstacked, (ofData_value _).2.2.2.mp hvalue⟩
    · exact (ofData_value _).1 (hread 5 (by decide) hvalue)
    · exact (ofData_value _).2.1 (hread 10 (by decide) hvalue)
    · exact (ofData_value _).2.2.1 (hread 20 (by decide) hvalue)

/-! ## Sequences of messages -/

/-- What happens to the buffer: a character is received, `ReadBill` is called, the buffer is
overwritten by `ReadBills` or for a command. -/
inductive Traffic
  | char (b : UInt8)
  | readBill
  | memset (b : UInt8)

/-- What is left behind it. -/
def Traffic.act (s : Bills) : Traffic → Bills
  | char b => { s with uart := s.uart.irq b }
  | readBill => s.readBill.2
  | memset b => s.memset b

/-- The state behind what has happened since the program started. -/
def after (es : List Traffic) : Bills := es.foldl Traffic.act .start

/-- In every sequence of messages and calls, all calls credit stacked bills only exactly if none of
them finds an unknown status while that of a stacked bill is remembered. -/
theorem credits_stacked_iff (es : List Traffic) :
    (∀ pre post, es = pre ++ .readBill :: post → (after pre).CreditsStacked) ↔
      ∀ pre post, es = pre ++ .readBill :: post → ¬ (after pre).Recalls := by
  constructor
  · intro h pre post hes
    exact creditsStacked_iff.mp (h pre post hes)
  · intro h pre post hes
    exact creditsStacked_iff.mpr (h pre post hes)

/-- A line of two numbers. -/
def message (data0 data1 : UInt8) : List Traffic :=
  (hexByte data0 ++ [0x20] ++ hexByte data1 ++ [0x0D, 0x0A]).map .char

/-- A bill of 5 is stacked; then a message with the status 0x30 is credited as another one. -/
theorem credits_not_stacked : ¬ ∀ es pre post, es = pre ++ .readBill :: post →
    (after pre).CreditsStacked := by
  intro h
  have hcredits := h _ (message 0x30 0x81 ++ [.readBill, .memset 0] ++ message 0x30 0xB1) [] rfl
  have hvalue : (after (message 0x30 0x81 ++ [.readBill, .memset 0] ++
      message 0x30 0xB1)).readBill.1.value = 5 := by
    decide +kernel
  have hstatus := hcredits.status (by rw [hvalue]; decide)
  revert hstatus
  decide +kernel

end Bills

end MealVendor
