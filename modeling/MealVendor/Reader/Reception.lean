import MealVendor.Lib.ByteSum
import MealVendor.Model.Uart2

/-!
# The reception of a reply

The buffer holds the bytes that have come, and `0xff` behind them; the flags are functions
of the number of bytes and of the length field.  From this the verdict of `ManageRxData` on
a complete reply is the one of its checksum.
-/

namespace MealVendor

namespace Uart2

variable {u : Uart2} {bs : List UInt8}

@[simp] lemma ackStatus_printIndex2 : u.ackStatus.printIndex2 = u.printIndex2 := by
  rw [ackStatus]
  split_ifs <;> rfl

@[simp] lemma ackStatus_printBuf2 : u.ackStatus.printBuf2 = u.printBuf2 := by
  rw [ackStatus]
  split_ifs <;> rfl

@[simp] lemma ackStatus_dataOver : u.ackStatus.dataOver = u.dataOver := by
  rw [ackStatus]
  split_ifs <;> rfl

lemma ackStatus_ackOver : u.ackStatus.ackOver =
    if u.printIndex2 < 6 then false else if u.printIndex2 = 6 then true else u.ackOver := by
  rw [ackStatus]
  split_ifs <;> rfl

@[simp] lemma dataStatus_printIndex2 : u.dataStatus.printIndex2 = u.printIndex2 := by
  rw [dataStatus]
  split_ifs <;> rfl

@[simp] lemma dataStatus_printBuf2 : u.dataStatus.printBuf2 = u.printBuf2 := by
  rw [dataStatus]
  split_ifs <;> rfl

@[simp] lemma dataStatus_ackOver : u.dataStatus.ackOver = u.ackOver := by
  rw [dataStatus]
  split_ifs <;> rfl

lemma dataStatus_dataOver : u.dataStatus.dataOver =
    if 11 ≤ u.printIndex2 then decide (u.rxLen + 13 ≤ u.printIndex2) else u.dataOver := by
  rw [dataStatus]
  split_ifs <;> rfl

@[simp] lemma irq_printIndex2 (b : UInt8) : (u.irq b).printIndex2 = u.printIndex2 + 1 := by
  rw [irq, dataStatus_printIndex2, ackStatus_printIndex2]
  rfl

@[simp] lemma irq_printBuf2 (b : UInt8) :
    (u.irq b).printBuf2 = Function.update u.printBuf2 u.printIndex2 b := by
  rw [irq, dataStatus_printBuf2, ackStatus_printBuf2]
  rfl

lemma irq_ackOver (b : UInt8) :
    (u.irq b).ackOver = if u.printIndex2 + 1 < 6 then false
      else if u.printIndex2 + 1 = 6 then true else u.ackOver := by
  rw [irq, dataStatus_ackOver, ackStatus_ackOver]
  rfl

lemma irq_dataOver (b : UInt8) :
    (u.irq b).dataOver = if 11 ≤ u.printIndex2 + 1 then
      decide ((u.irq b).rxLen + 13 ≤ u.printIndex2 + 1) else u.dataOver := by
  rw [irq, dataStatus_dataOver, ackStatus_dataOver, ackStatus_printIndex2, rxLen, rxLen,
    dataStatus_printBuf2]
  rfl

/-- What the receiver knows after the bytes `bs` since the reset. -/
structure Received (u : Uart2) (bs : List UInt8) (v : Uart2) : Prop where
  index : v.printIndex2 = bs.length
  cells : ∀ i, v.printBuf2 i = bs[i]?.getD (u.reset.printBuf2 i)
  ack : v.ackOver = decide (6 ≤ bs.length)
  data : v.dataOver = decide (11 ≤ bs.length ∧ v.rxLen + 13 ≤ bs.length)

/-- The bytes that come are stored one behind the other. -/
lemma received (u : Uart2) (bs : List UInt8) : u.Received bs (u.reset.receive bs) := by
  induction bs using List.reverseRecOn with
  | nil => exact ⟨rfl, fun i => rfl, rfl, rfl⟩
  | append_singleton bs b ih =>
    rw [receive, List.foldl_append, List.foldl_cons, List.foldl_nil, ← receive]
    refine ⟨?_, fun i => ?_, ?_, ?_⟩
    · rw [irq_printIndex2, ih.index, List.length_append, List.length_singleton]
    · rw [irq_printBuf2, ih.index]
      by_cases hi : i = bs.length
      · subst hi
        rw [Function.update_self, List.getElem?_concat_length]
        rfl
      · rw [Function.update_of_ne hi, ih.cells]
        rcases Nat.lt_or_gt_of_ne hi with hlt | hgt
        · rw [List.getElem?_append_left hlt]
        · rw [List.getElem?_eq_none hgt.le, List.getElem?_eq_none]
          rw [List.length_append, List.length_singleton]
          exact hgt
    · rw [irq_ackOver, ih.index, ih.ack, List.length_append, List.length_singleton]
      split_ifs <;> simp <;> omega
    · rw [irq_dataOver, ih.index, ih.data, List.length_append, List.length_singleton]
      split_ifs with h
      · simp [h]
      · simp [h]
        omega

end Uart2

/-- A reply of the reader behind its acknowledgement: the length field, and the data with
`Dcs` as the last byte. -/
structure Reply where
  lenH : UInt8
  lenL : UInt8
  payload : List UInt8
  length_payload : payload.length = 256 * lenH.toNat + lenL.toNat + 1

namespace Reply

variable (r : Reply)

/-- The number of data bytes. -/
def len : ℕ := 256 * r.lenH.toNat + r.lenL.toNat

/-- The acknowledgement, and the reply up to its length field. -/
def head : List UInt8 :=
  [0x00, 0x00, 0xff, 0x00, 0xff, 0x00] ++ [0x00, 0x00, 0xff, r.lenH, r.lenL]

/-- All bytes that the reader sends. -/
def stream : List UInt8 := r.head ++ (r.payload ++ [0x00])

/-- The data and `Dcs` sum to 0 mod 256. -/
def Intact : Prop := (r.payload.map UInt8.toNat).sum % 256 = 0

instance decidableIntact : Decidable r.Intact := Nat.decEq _ _

/-- One byte of the data or `Dcs` is altered. -/
def alter (i : ℕ) (b : UInt8) : Reply where
  lenH := r.lenH
  lenL := r.lenL
  payload := r.payload.set i b
  length_payload := by rw [List.length_set, r.length_payload]

lemma length_payload_eq : r.payload.length = r.len + 1 := r.length_payload

lemma length_stream : r.stream.length = r.len + 13 := by
  rw [stream, List.length_append, List.length_append, length_payload_eq]
  show 11 + (r.len + 1 + 1) = r.len + 13
  omega

lemma stream_head {i : ℕ} (h : i < 11) : r.stream[i]? = r.head[i]? :=
  List.getElem?_append_left h

lemma stream_payload {i : ℕ} (h : i ≤ r.len) : r.stream[11 + i]? = r.payload[i]? := by
  rw [stream, List.getElem?_append_right (Nat.le_add_right 11 i)]
  show (r.payload ++ [0x00])[11 + i - 11]? = r.payload[i]?
  rw [Nat.add_sub_cancel_left, List.getElem?_append_left]
  rw [length_payload_eq]
  omega

lemma stream_last : r.stream[r.len + 12]? = some 0x00 := by
  rw [stream, ← List.append_assoc, List.getElem?_append_right]
  · rw [List.length_append, length_payload_eq]
    show [0x00][r.len + 12 - (11 + (r.len + 1))]? = some 0x00
    rw [show r.len + 12 - (11 + (r.len + 1)) = 0 by omega]
    rfl
  · rw [List.length_append, length_payload_eq]
    show 11 + (r.len + 1) ≤ r.len + 12
    omega

lemma intact_iff : r.Intact ↔ r.payload.sum = 0 := by
  rw [Intact, ← Lib.toNat_sum, ← UInt8.toNat_inj]
  rfl

/-- A reply with one byte altered does not check. -/
lemma not_intact_alter (h : r.Intact) {i : ℕ} (hi : i < r.payload.length) {b : UInt8}
    (hb : b ≠ r.payload[i]) : ¬ (r.alter i b).Intact := by
  intro halter
  rw [intact_iff] at h halter
  exact hb ((Lib.sum_set_eq_iff hi b).mp (halter.trans h.symm))

end Reply

namespace Uart2

variable {u : Uart2} {r : Reply} {k : ℕ}

/-- The buffer after `k` bytes of a reply. -/
def after (u : Uart2) (r : Reply) (k : ℕ) : Uart2 := u.reset.receive (r.stream.take k)

lemma received_after (u : Uart2) (r : Reply) (k : ℕ) :
    u.Received (r.stream.take k) (u.after r k) :=
  received u _

lemma length_take (hk : k ≤ r.len + 13) : (r.stream.take k).length = k := by
  rw [List.length_take, r.length_stream, min_eq_left hk]

/-- A byte of the reply that has come. -/
lemma after_cell {i : ℕ} (hi : i < k) : (u.after r k).printBuf2 i =
    r.stream[i]?.getD (u.reset.printBuf2 i) := by
  rw [(received_after u r k).cells, List.getElem?_take_of_lt hi]

/-- The length field, once it has come. -/
lemma after_rxLen (hk : 11 ≤ k) : (u.after r k).rxLen = r.len := by
  rw [rxLen, after_cell (by omega), after_cell (by omega), r.stream_head (by decide),
    r.stream_head (by decide)]
  rfl

lemma after_printIndex2 (hk : k ≤ r.len + 13) : (u.after r k).printIndex2 = k := by
  rw [(received_after u r k).index, length_take hk]

/-- `AckOver` is set with the last byte of the acknowledgement. -/
lemma after_ackOver (hk : k ≤ r.len + 13) : (u.after r k).ackOver = true ↔ 6 ≤ k := by
  rw [(received_after u r k).ack, length_take hk, decide_eq_true_iff]

/-- `DataOver` is set with the last byte of the reply. -/
lemma after_dataOver (hk : k ≤ r.len + 13) :
    (u.after r k).dataOver = true ↔ k = r.len + 13 := by
  rw [(received_after u r k).data, length_take hk, decide_eq_true_iff]
  constructor
  · rintro ⟨h11, hlen⟩
    rw [after_rxLen h11] at hlen
    omega
  · rintro rfl
    rw [after_rxLen (by omega)]
    omega

/-- What is added up is the data and the last byte read is inside the buffer. -/
lemma after_reads (hlen : r.len + 13 ≤ 640) (h11 : 11 ≤ k) (hk : k ≤ r.len + 13) :
    ∀ i ∈ (u.after r k).reads, i < 640 := by
  intro i hi
  rw [reads, summed, after_rxLen h11, after_printIndex2 hk, List.mem_append,
    List.mem_range'_1] at hi
  rcases hi with hi | hi
  · omega
  · simp only [List.mem_cons, List.not_mem_nil, or_false] at hi
    omega

/-- The loop of `ManageRxData` adds up the data and `Dcs`. -/
lemma after_summed (h11 : r.len + 12 ≤ k) :
    (u.after r k).summed.map (u.after r k).printBuf2 = r.payload := by
  rw [summed, after_rxLen (by omega)]
  apply List.ext_getElem?
  intro i
  rw [List.getElem?_map]
  rcases Nat.lt_or_ge r.len i with hi | hi
  · rw [List.getElem?_eq_none, List.getElem?_eq_none]
    · rfl
    · rw [r.length_payload_eq]
      exact hi
    · rw [List.length_range']
      exact hi
  · have hpay : i < r.payload.length := by
      rw [r.length_payload_eq]
      omega
    rw [List.getElem?_range' (by omega), Option.map_some, Nat.one_mul, after_cell (by omega),
      r.stream_payload hi, List.getElem?_eq_getElem hpay]
    rfl

/-- `ManageRxData` on a complete reply judges its checksum. -/
lemma after_manageRxData (hlen : r.len + 13 ≤ 640) :
    (u.after r (r.len + 13)).manageRxData =
      some (if r.Intact then .dataReOk else .dataReErr) := by
  have hfront : ∀ i < 11, (u.after r (r.len + 13)).printBuf2 i =
      r.head[i]?.getD (u.reset.printBuf2 i) := by
    intro i hi
    rw [after_cell (by omega), r.stream_head hi]
  have hlast : (u.after r (r.len + 13)).printBuf2 (r.len + 12) = 0x00 := by
    rw [after_cell (by omega), r.stream_last]
    rfl
  rw [manageRxData, if_neg (by rw [after_rxLen (by omega)]; omega), after_summed (by omega),
    after_printIndex2 le_rfl, show r.len + 13 - 1 = r.len + 12 from rfl, hlast,
    hfront 6 (by decide), hfront 7 (by decide), hfront 8 (by decide)]
  refine congrArg some (if_congr (Iff.trans ?_ r.intact_iff.symm) rfl rfl)
  exact and_iff_left ⟨rfl, rfl, rfl, rfl⟩

/-- The acknowledgement is recognised. -/
lemma after_manageACK (hk : 6 ≤ k) : (u.after r k).manageACK = .isAck := by
  have hcell : ∀ i < 6, (u.after r k).printBuf2 i = r.head[i]?.getD (u.reset.printBuf2 i) := by
    intro i hi
    rw [after_cell (by omega), r.stream_head (by omega)]
  have hfront : (u.after r k).front 6 = [0x00, 0x00, 0xff, 0x00, 0xff, 0x00] := by
    rw [front]
    show [(u.after r k).printBuf2 0, (u.after r k).printBuf2 1, (u.after r k).printBuf2 2,
      (u.after r k).printBuf2 3, (u.after r k).printBuf2 4, (u.after r k).printBuf2 5] = _
    rw [hcell 0 (by decide), hcell 1 (by decide), hcell 2 (by decide), hcell 3 (by decide),
      hcell 4 (by decide), hcell 5 (by decide)]
    rfl
  rw [manageACK, if_pos hfront]

/-- The cells of the buffer since the reset. -/
lemma cell_receive (u : Uart2) (bs : List UInt8) {i : ℕ} (hi : i < 640) :
    (u.reset.receive bs).printBuf2 i = bs[i]?.getD 0xff := by
  rw [(received u bs).cells]
  exact congrArg _ (if_pos hi)

lemma manageACK_eq_isAck_iff (u : Uart2) (bs : List UInt8) :
    (u.reset.receive bs).manageACK = .isAck ↔
      bs.take 6 = [0x00, 0x00, 0xff, 0x00, 0xff, 0x00] := by
  have hfront : (u.reset.receive bs).front 6 = (List.range 6).map fun i => bs[i]?.getD 0xff :=
    List.map_congr_left fun i hi => cell_receive u bs (by have := List.mem_range.mp hi; omega)
  have hack : (u.reset.receive bs).manageACK = .isAck ↔
      (u.reset.receive bs).front 6 = [0x00, 0x00, 0xff, 0x00, 0xff, 0x00] := by
    rw [manageACK]
    split_ifs with h <;> simp [h]
  rw [hack, hfront]
  -- the last byte is not the one that an empty cell holds
  rcases bs with - | ⟨b₀, - | ⟨b₁, - | ⟨b₂, - | ⟨b₃, - | ⟨b₄, - | ⟨b₅, bs⟩⟩⟩⟩⟩⟩ <;>
    simp [List.range_succ]

/-- Everything has come before the first look at the buffer. -/
lemma early_eq (bs : List UInt8) : (Answer.early bs).manageReOrderType u =
    if (u.receive bs).manageACK = .isAck then
      (u.receive bs).manageRxData.map fun d =>
        if d = .dataReOk then (u.receive bs).printBuf2 22 else 0
    else some 0 :=
  rfl

/-- `ManageReOrderType` once the reply is there. -/
lemma manageReOrderType_early (hlen : r.len + 13 ≤ 640) :
    (Answer.early r.stream).manageReOrderType u.reset =
      some (if r.Intact then r.stream[22]?.getD 0xff else 0) := by
  have hall : u.reset.receive r.stream = u.after r (r.len + 13) := by
    rw [after, ← r.length_stream, List.take_length]
  have hcell : (u.after r (r.len + 13)).printBuf2 22 =
      r.stream[22]?.getD (u.reset.printBuf2 22) := by
    rw [(received_after u r _).cells, ← r.length_stream, List.take_length]
  rw [early_eq, hall, if_pos (after_manageACK (by omega)), after_manageRxData hlen,
    Option.map_some, hcell]
  by_cases hr : r.Intact
  · rw [if_pos hr, if_pos rfl, if_pos hr]
    rfl
  · rw [if_neg hr, if_neg hr, if_neg (by decide)]

/-- The reception of a reply, from its first byte to the type that is returned. -/
structure Receives (u : Uart2) (r : Reply) : Prop where
  ackOver : ∀ k ≤ r.len + 13, (u.after r k).ackOver = true ↔ 6 ≤ k
  dataOver : ∀ k ≤ r.len + 13, (u.after r k).dataOver = true ↔ k = r.len + 13
  stores : ∀ k < r.len + 13, (u.after r k).printIndex2 < 640
  reads : ∀ k, 11 ≤ k → k ≤ r.len + 13 → ∀ i ∈ (u.after r k).reads, i < 640
  dataReOk : (u.after r (r.len + 13)).manageRxData = some .dataReOk ↔ r.Intact
  dataReErr : (u.after r (r.len + 13)).manageRxData = some .dataReErr ↔ ¬ r.Intact
  intact : r.Intact →
    (Answer.early r.stream).manageReOrderType u.reset = some (r.stream[22]?.getD 0xff)
  altered : r.Intact → ∀ (i : Fin r.payload.length) b, b ≠ r.payload[i] →
    (Answer.early (r.alter i b).stream).manageReOrderType u.reset = some 0

/-- Every reply that fits into the buffer is received, whatever the receiver held before the
command. -/
theorem receives (u : Uart2) (r : Reply) (hlen : r.len + 13 ≤ 640) : u.Receives r := by
  refine ⟨fun k hk => after_ackOver hk, fun k hk => after_dataOver hk, fun k hk => ?_,
    fun k h11 hk => after_reads hlen h11 hk, ?_, ?_, fun hr => ?_, fun hr i b hb => ?_⟩
  · rw [after_printIndex2 hk.le]
    omega
  · rw [after_manageRxData hlen]
    by_cases hr : r.Intact <;> simp [hr]
  · rw [after_manageRxData hlen]
    by_cases hr : r.Intact <;> simp [hr]
  · rw [manageReOrderType_early hlen, if_pos hr]
  · rw [manageReOrderType_early (r := r.alter i b) hlen,
      if_neg (r.not_intact_alter hr i.isLt hb)]

/-- The receiver after power-up. -/
def blank : Uart2 := ⟨fun _ => 0, 0, false, false, .normalFlag⟩

/-- A short reply of type 0x43. -/
def short : Reply where
  lenH := 0
  lenL := 12
  payload := [0xd5, 0, 0, 0, 0, 0, 0, 0, 0, 0, 0, 0x43, 0xe8]
  length_payload := rfl

/-- The short reply gives its type, and nothing with another `Dcs`. -/
theorem receives_short : short.len + 13 ≤ 640 ∧ short.Intact ∧
    (Answer.early short.stream).manageReOrderType blank.reset = some 0x43 ∧
    (Answer.early (short.alter 12 0xe9).stream).manageReOrderType blank.reset = some 0 := by
  have hlen : short.len + 13 ≤ 640 := by decide
  have hintact : short.Intact := by decide
  have h := receives blank short hlen
  exact ⟨hlen, hintact, h.intact hintact, h.altered hintact ⟨12, by decide⟩ 0xe9 (by decide)⟩

end Uart2

namespace Answer

/-- The command is acknowledged, and the length of the reply is 0xffff, or has not come, when
`ManageRxData` looks at it. -/
def Endless (a : Answer) : Prop :=
  a.toAck.take 6 = [0x00, 0x00, 0xff, 0x00, 0xff, 0x00] ∧
    (a.toAck ++ a.toData)[9]?.getD 0xff = 0xff ∧ (a.toAck ++ a.toData)[10]?.getD 0xff = 0xff

/-- This is when the loop does not end. -/
lemma manageReOrderType_eq_none_iff (a : Answer) (u : Uart2) :
    a.manageReOrderType u.reset = none ↔ a.Endless := by
  have hdata : (u.reset.receive a.toAck).receive a.toData =
      u.reset.receive (a.toAck ++ a.toData) := List.foldl_append.symm
  have hlen : (u.reset.receive (a.toAck ++ a.toData)).rxLen = 0xffff ↔
      (a.toAck ++ a.toData)[9]?.getD 0xff = 0xff ∧
        (a.toAck ++ a.toData)[10]?.getD 0xff = 0xff := by
    rw [Uart2.rxLen, Uart2.cell_receive u _ (by decide), Uart2.cell_receive u _ (by decide),
      ← UInt8.toNat_inj, ← UInt8.toNat_inj]
    have h9 := ((a.toAck ++ a.toData)[9]?.getD 0xff).toNat_lt
    have h10 := ((a.toAck ++ a.toData)[10]?.getD 0xff).toNat_lt
    change 256 * _ + _ = 65535 ↔ _ = 255 ∧ _ = 255
    omega
  rw [Endless, ← hlen, ← Uart2.manageACK_eq_isAck_iff u, manageReOrderType, hdata]
  by_cases hack : (u.reset.receive a.toAck).manageACK = .isAck
  · rw [if_pos hack, Option.map_eq_none_iff, Uart2.manageRxData]
    split_ifs with h <;> simp [hack, h]
  · simp [hack]

end Answer

end MealVendor
