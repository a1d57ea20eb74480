import MealVendor.Model.SztOrder

/-!
# The frames of the commands to the card reader

The length counts the bytes from the source address up to the checksum, and with the checksum they
sum to 0.  Where an order fills in its payload and then sums up what the length says, both hold for
every payload.
-/

namespace MealVendor

/-- The length field counts the bytes between itself and the checksum, and these bytes and the
checksum sum to 0 mod 256. -/
def Framed (frame : List UInt8) : Prop :=
  ∃ lenH lenL body dcs dataend,
    frame = [0x00, 0x00, 0xff, lenH, lenL] ++ body ++ [dcs, dataend] ∧
    256 * lenH.toNat + lenL.toNat = body.length ∧ body.sum + dcs = 0

lemma framed_iff (lenH lenL : UInt8) (body : List UInt8) (dcs dataend : UInt8) :
    Framed ([0x00, 0x00, 0xff, lenH, lenL] ++ body ++ [dcs, dataend]) ↔
      256 * lenH.toNat + lenL.toNat = body.length ∧ body.sum + dcs = 0 := by
  constructor
  · rintro ⟨lenH', lenL', body', dcs', dataend', heq, hlen, hsum⟩
    simp only [List.cons_append, List.nil_append, List.cons.injEq, true_and] at heq
    obtain ⟨rfl, rfl, heq⟩ := heq
    obtain ⟨rfl, htail⟩ := List.append_inj' heq rfl
    simp only [List.cons.injEq, and_true] at htail
    obtain ⟨rfl, rfl⟩ := htail
    exact ⟨hlen, hsum⟩
  · rintro ⟨hlen, hsum⟩
    exact ⟨lenH, lenL, body, dcs, dataend, rfl, hlen, hsum⟩

/-! ## What is filled in -/

variable {data : ℕ → UInt8}

/-- The source address and what follows it, up to the payload. -/
def mustBody (samNum : Fin 4 → UInt8) (startNum orderNum : UInt8) : List UInt8 :=
  [0x06, 0xff, 0xff, 0xff, 0xff, 0x05] ++ List.ofFn samNum ++
    [startNum, orderNum, 0x00, 0x01, 0x00, 0x01]

lemma length_mustSendData (lenH lenL : UInt8) (samNum : Fin 4 → UInt8) (startNum orderNum : UInt8) :
    (mustSendData lenH lenL samNum startNum orderNum).length = 21 := by
  simp [mustSendData]

lemma map_range_must {must : List UInt8} (h : must.length = 21) :
    (List.range 21).map (overwrite data 0 must) = must := by
  have hmap := map_range_overwrite data 0 must
  rwa [h, Nat.zero_add, List.range_zero, List.map_nil, List.nil_append] at hmap

/-- The cells up to the end of the payload. -/
lemma map_range_payload {must payload : List UInt8} (h : must.length = 21) :
    (List.range (21 + payload.length)).map (overwrite (overwrite data 0 must) 21 payload) =
      must ++ payload := by
  rw [map_range_overwrite, map_range_must h]

/-- The sum over the cells from the source address on. -/
lemma checkSum_eq (data : ℕ → UInt8) (n : ℕ) :
    checkSum data n = (((List.range (5 + n)).map data).drop 5).sum := by
  rw [checkSum, List.range_add, List.map_append, List.drop_left' (by simp), List.map_map]
  rfl

namespace SztSend

variable {s : SztSend} {lenH lenL startNum orderNum : UInt8} {samNum : Fin 4 → UInt8}

/-- The frame with the checksum over `summed`, once all cells are filled in. -/
lemma map_range_frame {must payload : List UInt8} {dcs size : ℕ} (hmust : must.length = 21)
    (hdcs : dcs = 21 + payload.length) (hsize : size = 23 + payload.length) (temp dataend : UInt8) :
    (List.range size).map
        (overwrite (overwrite (overwrite data 0 must) 21 payload) dcs [temp, dataend]) =
      must ++ payload ++ [temp, dataend] := by
  have htail := map_range_overwrite (overwrite (overwrite data 0 must) 21 payload) dcs
    [temp, dataend]
  rw [hdcs, map_range_payload hmust] at htail
  rw [hsize, hdcs, ← htail, List.length_cons, List.length_singleton]
  congr 2
  omega

/-- An order that sums up its payload is framed. -/
lemma framed_orderData {payload : List UInt8} {n dcs size : ℕ}
    (hlen : 256 * lenH.toNat + lenL.toNat = 16 + payload.length)
    (hn : n = 16 + payload.length) (hdcs : dcs = 21 + payload.length)
    (hsize : size = 23 + payload.length) :
    Framed (orderData data payload n dcs size
      (mustSendData lenH lenL samNum startNum orderNum, s)).1 := by
  have hmust := length_mustSendData lenH lenL samNum startNum orderNum
  rw [orderData]
  dsimp only
  rw [map_range_frame hmust hdcs hsize, checkSum_eq, hn,
    show 5 + (16 + payload.length) = 21 + payload.length by omega, map_range_payload hmust]
  refine (framed_iff lenH lenL (mustBody samNum startNum orderNum ++ payload) _ _).mpr ⟨?_, ?_⟩
  · rw [hlen, List.length_append, mustBody]
    simp
  · show (mustBody samNum startNum orderNum ++ payload).sum +
      (0 - (mustBody samNum startNum orderNum ++ payload).sum) = 0
    rw [zero_sub, add_neg_cancel]

/-- The order that sums up before it fills in the time is framed exactly if the time sums to 0. -/
lemma framed_rechargeAgain (data : ℕ → UInt8) (s : SztSend) :
    Framed (s.orderSztRechargeAgain data).1 ↔ s.rechargeTime.sum = 0 := by
  have htime : s.rechargeTime.length = 7 := by simp [rechargeTime]
  have hmust := length_mustSendData 0x00 0x17 s.sztSamNum (s.startNum + 1) 0x94
  rw [orderSztRechargeAgain, sztFixData]
  dsimp only
  rw [map_range_frame hmust (by rw [htime]) (by rw [htime]), checkSum_eq, map_range_must hmust]
  refine (framed_iff 0x00 0x17 (mustBody s.sztSamNum (s.startNum + 1) 0x94 ++ s.rechargeTime)
    _ _).trans ?_
  have hlen : (mustBody s.sztSamNum (s.startNum + 1) 0x94 ++ s.rechargeTime).length = 23 := by
    rw [List.length_append, htime]
    simp [mustBody]
  rw [hlen]
  refine (and_iff_right rfl).trans ?_
  show (mustBody s.sztSamNum (s.startNum + 1) 0x94 ++ s.rechargeTime).sum +
    (0 - (mustBody s.sztSamNum (s.startNum + 1) 0x94).sum) = 0 ↔ _
  rw [List.sum_append, zero_sub, add_right_comm, add_neg_cancel, zero_add]

/-- Every command is framed, whatever is paid, set or shown by the clock, except the second one to
take back a recharge with a time that does not sum to 0. -/
theorem framed_order_iff (data : ℕ → UInt8) (s : SztSend) (o : SztOrder) :
    Framed (s.order data o).1 ↔ (o = .rechargeAgain → s.rechargeTime.sum = 0) := by
  have hrest : o ≠ .rechargeAgain → Framed (s.order data o).1 →
      (Framed (s.order data o).1 ↔ (o = .rechargeAgain → s.rechargeTime.sum = 0)) :=
    fun hne h => iff_of_true h fun heq => (hne heq).elim
  cases o with
  | queryStatus => exact hrest (by rintro ⟨⟩) (framed_orderData rfl rfl rfl rfl)
  | userLogin => exact hrest (by rintro ⟨⟩) (framed_orderData rfl rfl rfl rfl)
  | timeCheck now => exact hrest (by rintro ⟨⟩) (framed_orderData rfl rfl rfl rfl)
  | deductOnce money now => exact hrest (by rintro ⟨⟩) (framed_orderData rfl rfl rfl rfl)
  | deductAgain money now => exact hrest (by rintro ⟨⟩) (framed_orderData rfl rfl rfl rfl)
  | rechargeOnce => exact hrest (by rintro ⟨⟩) (framed_orderData rfl rfl rfl rfl)
  | rechargeAgain => exact (framed_rechargeAgain data s).trans (by simp)
  | gpbocInit => exact hrest (by rintro ⟨⟩) (framed_orderData rfl rfl rfl rfl)
  | gpbocReadCard => exact hrest (by rintro ⟨⟩) (framed_orderData rfl rfl rfl rfl)
  | gpbocDeduct submoney => exact hrest (by rintro ⟨⟩) (framed_orderData rfl rfl rfl rfl)

/-- With a time of 2013 the checksum of the second command to take back a recharge is wrong. -/
theorem order_not_framed : ¬ ∀ (data : ℕ → UInt8) (s : SztSend) (o : SztOrder),
    Framed (s.order data o).1 := by
  intro h
  have hframed := h (fun _ => 0)
    { sztSamNum := fun _ => 0, gpbocSamNum := fun _ => 0xff, startNum := 0, dataend := 0,
      userNo := ![0x00, 0x01, 0x23], newtime := ![0x20, 0x13, 0x08, 0x28, 0x12, 0x30, 0x00, 0x03],
      timeMode := 0, timeDate := ⟨StructTD.zero, 0⟩,
      gpbocInitPutInParameter := fun i => if i = 0 then 0x01 else 0x00 } .rechargeAgain
  have hsum := (framed_rechargeAgain _ _).mp hframed
  revert hsum
  decide +kernel

end SztSend

end MealVendor
