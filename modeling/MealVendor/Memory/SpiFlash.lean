import MealVendor.Model.SpiFlash

/-!
# The driver of the flash

`SPI_FLASH_BufferWrite` cuts a buffer at the ends of the pages.  So what it does to the cells is
what programming them one by one would do, for every address and every length.
-/

namespace MealVendor

namespace SpiFlash

/-! ## The cuts -/

@[simp] lemma length_bytesAt (p : ℕ → UInt8) (n : ℕ) : (bytesAt p n).length = n := by simp [bytesAt]

@[simp] lemma bytesAt_zero (p : ℕ → UInt8) : bytesAt p 0 = [] := rfl

lemma bytesAt_add (p : ℕ → UInt8) (m n : ℕ) :
    bytesAt p (m + n) = bytesAt p m ++ bytesAt (advance p m) n := by
  rw [bytesAt, List.range_add, List.map_append, List.map_map]
  rfl

lemma size_dvd (k : W25Q) : k.nor.size ∣ 2 ^ 24 := by
  change 0x800000 ∣ 2 ^ 24
  decide

/-- Where the bytes of a call go: of an address, three bytes are sent. -/
def PageWrite.piece (w : PageWrite) : Lib.Nor.Piece UInt8 := ⟨w.writeAddr.toNat % 2 ^ 24, w.data⟩

lemma PageWrite.data_eq {w : PageWrite} (h : w.numByteToWrite.toNat ≤ 256) :
    w.data = bytesAt w.pBuffer w.numByteToWrite.toNat := by
  rw [PageWrite.data, if_neg]
  exact fun hgt => absurd (UInt16.lt_iff_toNat_lt.mp hgt) (Nat.not_lt.mpr h)

/-- The calls write the `n` bytes behind a pointer from an address on: in this order, to addresses
that follow each other, and none of them leaves its page. -/
structure Splits (k : W25Q) (ws : List PageWrite) (p : ℕ → UInt8) (a n : ℕ) : Prop where
  paged : ∀ w ∈ ws, w.writeAddr.toNat % 256 + w.numByteToWrite.toNat ≤ 256
  addrs : k.nor.Consecutive a (ws.map PageWrite.piece)
  data : ws.flatMap PageWrite.data = bytesAt p n

variable {k : W25Q} {p : ℕ → UInt8} {a b : ℕ} {n : ℕ} {ws : List PageWrite}

lemma Splits.paged_pieces (h : Splits k ws p a n) : k.nor.Paged (ws.map PageWrite.piece) := by
  intro q hq
  obtain ⟨w, hw, rfl⟩ := List.mem_map.mp hq
  have hpage := h.paged w hw
  change w.writeAddr.toNat % 2 ^ 24 % 256 + w.data.length ≤ 256
  rw [PageWrite.data_eq (by omega), length_bytesAt]
  omega

lemma consecutive_congr {N : Lib.Nor UInt8} {ps : List (Lib.Nor.Piece UInt8)}
    (h : a ≡ b [MOD N.size]) (hps : N.Consecutive a ps) : N.Consecutive b ps := by
  cases ps with
  | nil => trivial
  | cons q ps => exact ⟨hps.1.trans h, hps.2⟩

lemma splits_nil (k : W25Q) (p : ℕ → UInt8) (a : ℕ) : Splits k [] p a 0 :=
  ⟨fun _ hw => absurd hw List.not_mem_nil, trivial, rfl⟩

/-- A call in front of the others. -/
lemma Splits.cons {w : PageWrite} (hp : w.pBuffer = p) (ha : w.writeAddr.toNat = a)
    (hpage : a % 256 + w.numByteToWrite.toNat ≤ 256)
    (hb : b ≡ a + w.numByteToWrite.toNat [MOD 2 ^ 32])
    (h : Splits k ws (advance p w.numByteToWrite.toNat) b n) :
    Splits k (w :: ws) p a (w.numByteToWrite.toNat + n) := by
  subst hp ha
  have hdata := PageWrite.data_eq (w := w) (by omega)
  have haddr : w.writeAddr.toNat % 2 ^ 24 ≡ w.writeAddr.toNat [MOD k.nor.size] :=
    (Nat.mod_modEq ..).of_dvd (size_dvd k)
  refine ⟨?_, ⟨haddr, ?_⟩, ?_⟩
  · intro v hv
    rcases List.mem_cons.mp hv with rfl | hv
    · exact hpage
    · exact h.paged v hv
  · refine consecutive_congr ?_ h.addrs
    rw [PageWrite.piece, hdata, length_bytesAt]
    exact (hb.of_dvd ((size_dvd k).trans (by decide))).trans (haddr.symm.add_right _)
  · rw [List.flatMap_cons, hdata, h.data, bytesAt_add]

lemma splits_single {w : PageWrite} (hp : w.pBuffer = p) (ha : w.writeAddr.toNat = a)
    (hpage : a % 256 + w.numByteToWrite.toNat ≤ 256) :
    Splits k [w] p a w.numByteToWrite.toNat :=
  .cons hp ha hpage rfl (splits_nil ..)

lemma toNat_add_256 (addr : UInt32) :
    (addr + 256).toNat ≡ addr.toNat + 256 [MOD 2 ^ 32] := by
  rw [UInt32.toNat_add]
  exact Nat.mod_modEq ..

/-- The loop over the whole pages, from the front of a page on. -/
lemma splits_wholePages {rest : (ℕ → UInt8) → UInt32 → List PageWrite} (numOfPage : ℕ)
    (writeAddr : UInt32) (haligned : writeAddr.toNat % 256 = 0)
    (hrest : ∀ p (b : UInt32), b.toNat % 256 = 0 → Splits k (rest p b) p b.toNat n) :
    Splits k (wholePages rest numOfPage p writeAddr) p writeAddr.toNat (256 * numOfPage + n) := by
  induction numOfPage generalizing p writeAddr with
  | zero =>
    rw [Nat.mul_zero, Nat.zero_add]
    exact hrest p writeAddr haligned
  | succ numOfPage ih =>
    have hnext : (writeAddr + 256).toNat % 256 = 0 := by
      rw [UInt32.toNat_add]
      simp only [UInt32.reduceToNat]
      omega
    have hsum : 256 * (numOfPage + 1) + n = 256 + (256 * numOfPage + n) := by omega
    rw [wholePages, hsum]
    exact .cons (w := ⟨p, writeAddr, 256⟩) rfl rfl (by simp [haligned]) (toNat_add_256 _)
      (ih (writeAddr + 256) hnext)

/-! The bytes that `SPI_FLASH_BufferWrite` counts with. -/

lemma toNat_addr (writeAddr : UInt32) :
    (writeAddr % 256).toUInt8.toNat = writeAddr.toNat % 256 := by simp

lemma toNat_count (addr : UInt8) (h : addr ≠ 0) :
    (256 - addr.toUInt16).toUInt8.toNat = 256 - addr.toNat := by
  have hpos : addr.toNat ≠ 0 := fun h0 => h (UInt8.toNat_inj.mp h0)
  have hlt := addr.toNat_lt
  rw [UInt16.toNat_toUInt8, UInt16.toNat_sub, UInt8.toNat_toUInt16]
  simp only [UInt16.reduceToNat]
  omega

lemma toNat_numOfPage (n : UInt16) : (n / 256).toUInt8.toNat = n.toNat / 256 := by
  have := n.toNat_lt
  rw [UInt16.toNat_toUInt8, UInt16.toNat_div]
  simp only [UInt16.reduceToNat]
  omega

lemma toNat_numOfSingle (n : UInt16) : (n % 256).toUInt8.toNat = n.toNat % 256 := by simp

/-- The last call, from the front of a page on. -/
lemma splits_last (k : W25Q) (m : UInt8) (p : ℕ → UInt8) (b : UInt32) (hb : b.toNat % 256 = 0) :
    Splits k [⟨p, b, m.toUInt16⟩] p b.toNat m.toNat := by
  have hlt := m.toNat_lt
  rw [← UInt8.toNat_toUInt16]
  refine splits_single rfl rfl ?_
  rw [UInt8.toNat_toUInt16]
  omega

/-- The call for what is left, if there is any. -/
lemma splits_left (k : W25Q) (m : UInt8) (p : ℕ → UInt8) (b : UInt32) (hb : b.toNat % 256 = 0) :
    Splits k (if m ≠ 0 then [⟨p, b, m.toUInt16⟩] else []) p b.toNat m.toNat := by
  split_ifs with h
  · exact splits_last k m p b hb
  · obtain rfl := not_not.mp h
    exact splits_nil k p b.toNat

lemma toNat_sub_count (n : UInt16) (count : UInt8) (h : count.toNat ≤ n.toNat) :
    (n - count.toUInt16).toNat = n.toNat - count.toNat := by
  rw [UInt16.toNat_sub_of_le _ _ (UInt16.le_iff_toNat_le.mpr (by simpa using h)),
    UInt8.toNat_toUInt16]

lemma toNat_add_count (addr : UInt32) (count : UInt8) :
    (addr + count.toUInt32).toNat ≡ addr.toNat + count.toNat [MOD 2 ^ 32] := by
  rw [UInt32.toNat_add, UInt8.toNat_toUInt32]
  exact Nat.mod_modEq ..

/-- Behind `count` bytes the next page begins. -/
lemma aligned_add_count {writeAddr : UInt32} {count : UInt8}
    (hadd : (writeAddr + count.toUInt32).toNat ≡ writeAddr.toNat + count.toNat [MOD 2 ^ 32])
    (h : writeAddr.toNat % 256 + count.toNat = 256) :
    (writeAddr + count.toUInt32).toNat % 256 = 0 := by
  have hmod := hadd.of_dvd (by decide : 256 ∣ 2 ^ 32)
  rw [Nat.ModEq] at hmod
  omega

/-- For every buffer, every address and every length. -/
lemma splits_pageWrites (k : W25Q) (pBuffer : ℕ → UInt8) (writeAddr : UInt32)
    (numByteToWrite : UInt16) :
    Splits k (pageWrites pBuffer writeAddr numByteToWrite) pBuffer writeAddr.toNat
      numByteToWrite.toNat := by
  have haddr := toNat_addr writeAddr
  have hpage := toNat_numOfPage numByteToWrite
  have hsingle := toNat_numOfSingle numByteToWrite
  have hn := Nat.div_add_mod numByteToWrite.toNat 256
  have hmod := Nat.mod_lt numByteToWrite.toNat (by decide : 256 > 0)
  rw [pageWrites]
  generalize (writeAddr % 256).toUInt8 = addr at haddr ⊢
  generalize (numByteToWrite / 256).toUInt8 = numOfPage at hpage ⊢
  generalize (numByteToWrite % 256).toUInt8 = numOfSingle at hsingle ⊢
  have hpage0 : numOfPage = 0 ↔ numByteToWrite.toNat / 256 = 0 := by
    rw [← hpage, ← UInt8.toNat_inj]
    rfl
  by_cases h0 : addr = 0
  · have haligned : writeAddr.toNat % 256 = 0 := by
      rw [← haddr, h0]
      rfl
    rw [if_pos h0]
    split_ifs with h1
    · rw [hpage0] at h1
      exact splits_single rfl rfl (by simp only; omega)
    · -- the pages, and a last call that may be for no byte at all
      have hsplit := splits_wholePages (k := k) (p := pBuffer) numOfPage.toNat writeAddr haligned
        fun p b hb => splits_last k numOfSingle p b hb
      rwa [hpage, hsingle, hn, ← hpage] at hsplit
  · have hcount := toNat_count addr h0
    have hadd := toNat_add_count writeAddr (256 - addr.toUInt16).toUInt8
    have hpos : addr.toNat ≠ 0 := fun h => h0 (UInt8.toNat_inj.mp h)
    rw [if_neg h0]
    generalize (256 - addr.toUInt16).toUInt8 = count at hcount hadd ⊢
    have hfirst : writeAddr.toNat % 256 + count.toNat ≤ 256 := by omega
    split_ifs with h1 h2
    · -- two calls, the second from the front of the next page on
      rw [hpage0] at h1
      have hlt : count.toNat < numOfSingle.toNat := UInt8.lt_iff_toNat_lt.mp h2
      have htemp : (numOfSingle - count).toNat = numOfSingle.toNat - count.toNat :=
        UInt8.toNat_sub_of_le _ _ (UInt8.le_iff_toNat_le.mpr hlt.le)
      have hsecond := splits_last k (numOfSingle - count) (advance pBuffer count.toNat)
        (writeAddr + count.toUInt32) ?_
      · have hsum : numByteToWrite.toNat = count.toNat + (numOfSingle - count).toNat := by omega
        rw [hsum, ← UInt8.toNat_toUInt16]
        refine .cons (b := (writeAddr + count.toUInt32).toNat) rfl rfl ?_ ?_ ?_ <;>
          simp only [UInt8.toNat_toUInt16]
        · exact hfirst
        · exact hadd
        · exact hsecond
      · exact aligned_add_count hadd (by omega)
    · rw [hpage0] at h1
      have hle : numOfSingle.toNat ≤ count.toNat := Nat.not_lt.mp fun h =>
        h2 (UInt8.lt_iff_toNat_lt.mpr h)
      exact splits_single rfl rfl (by simp only; omega)
    · -- up to the end of the first page, then the pages, then what is left
      rw [hpage0] at h1
      dsimp only
      have hrest := toNat_sub_count numByteToWrite count (by omega)
      have hpage' := toNat_numOfPage (numByteToWrite - count.toUInt16)
      have hsingle' := toNat_numOfSingle (numByteToWrite - count.toUInt16)
      have hn' := Nat.div_add_mod (numByteToWrite - count.toUInt16).toNat 256
      generalize ((numByteToWrite - count.toUInt16) / 256).toUInt8 = numOfPage' at hpage' ⊢
      generalize ((numByteToWrite - count.toUInt16) % 256).toUInt8 = numOfSingle' at hsingle' ⊢
      have haligned := aligned_add_count hadd (by omega)
      have hsplit := splits_wholePages (k := k) (p := advance pBuffer count.toNat)
        numOfPage'.toNat (writeAddr + count.toUInt32) haligned
        fun p b hb => splits_left k numOfSingle' p b hb
      rw [hpage', hsingle', hn', ← hpage', hrest] at hsplit
      have hsum : numByteToWrite.toNat = count.toNat + (numByteToWrite.toNat - count.toNat) := by
        omega
      rw [hsum, ← UInt8.toNat_toUInt16]
      refine .cons (b := (writeAddr + count.toUInt32).toNat) rfl rfl ?_ ?_ ?_ <;>
        simp only [UInt8.toNat_toUInt16]
      · exact hfirst
      · exact hadd
      · exact hsplit

/-! ## What the chip makes of it -/

/-- The chip waits for an instruction. -/
structure Ready (c : FlashChip) : Prop where
  idle : c.busy = 0
  deselected : c.received = none

lemma send_eq (c : FlashChip) (rx bytes : List UInt8) (h : c.received = some rx) :
    send k.bus c bytes =
      { c with busy := c.busy - bytes.length, received := some (rx ++ bytes) } := by
  induction bytes generalizing c rx with
  | nil =>
    rw [List.append_nil, ← h]
    rfl
  | cons byte bytes ih =>
    have hone : (sendByte k.bus byte c).2 =
        { c with busy := c.busy - 1, received := some (rx ++ [byte]) } := by
      simp only [sendByte, W25Q.bus, h]
    rw [send, List.foldl_cons, hone]
    change send k.bus _ bytes = _
    rw [ih _ _ rfl, List.append_assoc, List.singleton_append, List.length_cons,
      Nat.sub_sub, Nat.add_comm 1]

variable {c : FlashChip}

lemma writeEnable_eq (h : Ready c) : writeEnable k.bus c = { c with writeEnabled := true } := by
  have hsel : (k.bus.csLow c).received = some [] := rfl
  rw [writeEnable, send_eq _ _ _ hsel]
  simp [W25Q.bus, W25Q.execute, h.idle, ← h.deselected]

lemma status_and_one (c : FlashChip) : W25Q.status c &&& 0x01 = 0x01 ↔ c.busy ≠ 0 := by
  rw [W25Q.status]
  by_cases h : c.busy = 0
  · rw [if_pos h]
    refine iff_of_false ?_ (not_not.mpr h)
    cases c.writeEnabled <;> decide
  · rw [if_neg h]
    refine iff_of_true ?_ h
    cases c.writeEnabled <;> decide

/-- The chip is asked for its status until it is done. -/
lemma pollStatus_eq (fuel : ℕ) (c : FlashChip) (rx : List UInt8)
    (h : c.received = some (0x05 :: rx)) (hfuel : c.busy < fuel) :
    ∃ rx', pollStatus k.bus fuel c =
      some { c with busy := 0, received := some (0x05 :: rx') } := by
  induction fuel generalizing c rx with
  | zero => exact absurd hfuel (Nat.not_lt_zero _)
  | succ fuel ih =>
    have hbyte : sendByte k.bus dummyByte c =
        (W25Q.status c, { c with busy := c.busy - 1,
                                 received := some (0x05 :: (rx ++ [dummyByte])) }) := by
      simp [sendByte, W25Q.bus, h, W25Q.answer]
    simp only [pollStatus, hbyte]
    by_cases hbusy : c.busy = 0
    · rw [if_neg (by rw [status_and_one]; exact not_not.mpr hbusy), hbusy]
      exact ⟨_, rfl⟩
    · rw [if_pos ((status_and_one c).mpr hbusy)]
      exact ih _ (rx ++ [dummyByte]) rfl (by simp only; omega)

lemma waitForWriteEnd_eq {fuel : ℕ} (h : c.received = none) (hfuel : c.busy < fuel) :
    waitForWriteEnd k.bus fuel c = some { c with busy := 0 } := by
  have hsel : (k.bus.csLow c).received = some [] := rfl
  rw [waitForWriteEnd, send_eq _ _ _ hsel]
  obtain ⟨rx, hpoll⟩ := pollStatus_eq (k := k) fuel
    { k.bus.csLow c with busy := c.busy - 1, received := some [0x05] } [] rfl
    (lt_of_le_of_lt (Nat.sub_le ..) hfuel)
  change Option.map _ (pollStatus k.bus fuel
    { k.bus.csLow c with busy := c.busy - 1, received := some [0x05] }) = _
  rw [hpoll]
  simp [W25Q.bus, W25Q.execute, ← h]

/-! The three address bytes. -/

lemma and_byte_div (a n : ℕ) : (a &&& 255 <<< n) / 2 ^ n % 256 = a / 2 ^ n % 256 := by
  have hshift : (a &&& 255 <<< n) >>> n = a >>> n &&& 2 ^ 8 - 1 := by
    rw [Nat.shiftRight_and_distrib, Nat.shiftLeft_shiftRight]
    rfl
  rw [← Nat.shiftRight_eq_div_pow, ← Nat.shiftRight_eq_div_pow, hshift,
    Nat.and_two_pow_sub_one_eq_mod]
  exact Nat.mod_mod _ _

lemma address_addressBytes (a : UInt32) :
    ∃ high medium low, addressBytes a = [high, medium, low] ∧
      W25Q.address high medium low = a.toNat % 2 ^ 24 := by
  refine ⟨_, _, _, rfl, ?_⟩
  have hhigh : ((a &&& 0xFF0000) >>> 16).toUInt8.toNat = a.toNat / 65536 % 256 := by
    simpa [Nat.shiftRight_eq_div_pow] using and_byte_div a.toNat 16
  have hmedium : ((a &&& 0xFF00) >>> 8).toUInt8.toNat = a.toNat / 256 % 256 := by
    simpa [Nat.shiftRight_eq_div_pow] using and_byte_div a.toNat 8
  have hlow : (a &&& 0xFF).toUInt8.toNat = a.toNat % 256 := by
    rw [UInt32.toNat_toUInt8, UInt32.toNat_and]
    simpa using and_byte_div a.toNat 0
  rw [W25Q.address, hhigh, hmedium, hlow]
  omega

/-- An instruction, with the write access enabled before and the waiting behind. -/
lemma instruction_eq {fuel : ℕ} (h : Ready c) (bytes : List UInt8)
    (hfuel : (k.execute ⟨c.mem, true, 0, some bytes⟩ bytes).busy < fuel) :
    waitForWriteEnd k.bus fuel
        (k.bus.csHigh (send k.bus (k.bus.csLow (writeEnable k.bus c)) bytes)) =
      some { k.execute ⟨c.mem, true, 0, some bytes⟩ bytes with busy := 0, received := none } := by
  have hsel : (k.bus.csLow (writeEnable k.bus c)).received = some [] := rfl
  have hsent : send k.bus (k.bus.csLow (writeEnable k.bus c)) bytes =
      ⟨c.mem, true, 0, some bytes⟩ := by
    rw [send_eq _ _ _ hsel, writeEnable_eq h]
    simp [W25Q.bus, h.idle]
  rw [hsent]
  exact waitForWriteEnd_eq (c := k.bus.csHigh ⟨c.mem, true, 0, some bytes⟩) rfl hfuel

/-- `SPI_FLASH_SectorErase`. -/
lemma sectorErase_eq {fuel : ℕ} (htime : ∀ m i, k.time m i < fuel) (h : Ready c) (a : UInt32) :
    ∃ c', sectorErase k.bus fuel a c = some c' ∧ Ready c' ∧
      c'.mem = k.nor.eraseSector c.mem a.toNat := by
  obtain ⟨high, medium, low, hbytes, haddr⟩ := address_addressBytes a
  have hcell : k.nor.eraseSector c.mem (W25Q.address high medium low) =
      k.nor.eraseSector c.mem a.toNat := by
    rw [haddr]
    exact Lib.Nor.eraseSector_congr ((Nat.mod_modEq ..).of_dvd (size_dvd k)) _
  rw [sectorErase, hbytes, instruction_eq h _ (htime _ _)]
  exact ⟨_, rfl, ⟨rfl, rfl⟩, hcell⟩

/-- `SPI_FLASH_PageWrite`. -/
lemma pageWrite_eq {fuel : ℕ} (htime : ∀ m i, k.time m i < fuel) (h : Ready c) (w : PageWrite) :
    ∃ c', pageWrite k.bus fuel c w = some c' ∧ Ready c' ∧
      c'.mem = k.nor.programPage c.mem w.piece.addr w.piece.data := by
  obtain ⟨high, medium, low, hbytes, haddr⟩ := address_addressBytes w.writeAddr
  rw [PageWrite.piece, pageWrite, hbytes, ← haddr]
  cases hdata : w.data with
  | nil =>
    rw [instruction_eq h _ (lt_of_le_of_lt (Nat.zero_le _) (htime c.mem []))]
    exact ⟨_, rfl, ⟨rfl, rfl⟩, rfl⟩
  | cons d ds =>
    rw [instruction_eq h _ (htime _ _)]
    exact ⟨_, rfl, ⟨rfl, rfl⟩, rfl⟩

/-- `SPI_FLASH_BufferWrite` does to the cells what programming them one by one would do. -/
lemma bufferWrite_eq {fuel : ℕ} (htime : ∀ m i, k.time m i < fuel) (h : Ready c)
    (pBuffer : ℕ → UInt8) (writeAddr : UInt32) (numByteToWrite : UInt16) :
    ∃ c', bufferWrite k.bus fuel pBuffer writeAddr numByteToWrite c = some c' ∧ Ready c' ∧
      c'.mem = k.nor.program c.mem writeAddr.toNat (bytesAt pBuffer numByteToWrite.toNat) := by
  have hcalls : ∀ (ws : List PageWrite) (c : FlashChip), Ready c →
      ∃ c', ws.foldlM (pageWrite k.bus fuel) c = some c' ∧ Ready c' ∧
        c'.mem = (ws.map PageWrite.piece).foldl
          (fun m p => k.nor.programPage m p.addr p.data) c.mem := by
    intro ws
    induction ws with
    | nil => exact fun c h => ⟨c, rfl, h, rfl⟩
    | cons w ws ih =>
      intro c h
      obtain ⟨c₁, hc₁, h₁, hm₁⟩ := pageWrite_eq htime h w
      obtain ⟨c₂, hc₂, h₂, hm₂⟩ := ih c₁ h₁
      refine ⟨c₂, ?_, h₂, ?_⟩
      · rw [List.foldlM_cons, hc₁]
        exact hc₂
      · rw [hm₂, hm₁]
        rfl
  obtain ⟨c', hc', hready, hmem⟩ := hcalls (pageWrites pBuffer writeAddr numByteToWrite) c h
  have hsplit := splits_pageWrites k pBuffer writeAddr numByteToWrite
  refine ⟨c', hc', hready, ?_⟩
  rw [hmem, Lib.Nor.foldl_programPage hsplit.paged_pieces hsplit.addrs, List.flatMap_map,
    ← hsplit.data]
  rfl

/-! ## Reading -/

/-- The chip when it is read from an address on, and `rest` was read. -/
lemma receive_eq (n : ℕ) (c : FlashChip) (high medium low : UInt8) (rest : List UInt8)
    (h : c.received = some (0x03 :: high :: medium :: low :: rest)) (hidle : c.busy = 0) :
    receive k.bus n c =
      (k.nor.read c.mem (W25Q.address high medium low + rest.length) n,
        { c with
          received :=
            some (0x03 :: high :: medium :: low :: (rest ++ List.replicate n dummyByte)) }) := by
  induction n generalizing c rest with
  | zero => simp [receive, Lib.Nor.read, ← h]
  | succ n ih =>
    have hbyte : sendByte k.bus dummyByte c =
        (c.mem (k.nor.cell (W25Q.address high medium low + rest.length)),
          { c with
            received := some (0x03 :: high :: medium :: low :: (rest ++ [dummyByte])) }) := by
      simp [sendByte, W25Q.bus, W25Q.answer, h, hidle]
    have hrest := ih { c with received := some (0x03 :: high :: medium :: low ::
      (rest ++ [dummyByte])) } (rest ++ [dummyByte]) rfl hidle
    simp only [receive, hbyte, hrest]
    simp [Lib.Nor.read, List.range_succ_eq_map, List.replicate_succ, Function.comp_def,
      Nat.add_assoc, Nat.add_comm 1]

/-- `SPI_FLASH_BufferRead`. -/
lemma bufferRead_eq (h : Ready c) (readAddr : UInt32) (numByteToRead : UInt16) :
    bufferRead k.bus readAddr numByteToRead c =
      (k.nor.read c.mem readAddr.toNat numByteToRead.toNat, c) := by
  obtain ⟨high, medium, low, hbytes, haddr⟩ := address_addressBytes readAddr
  have hsel : (k.bus.csLow c).received = some [] := rfl
  have hsent : send k.bus (k.bus.csLow c) [0x03, high, medium, low] =
      ⟨c.mem, c.writeEnabled, 0, some [0x03, high, medium, low]⟩ := by
    rw [send_eq _ _ _ hsel]
    simp [W25Q.bus, h.idle]
  have hread : k.nor.read c.mem (W25Q.address high medium low) numByteToRead.toNat =
      k.nor.read c.mem readAddr.toNat numByteToRead.toNat := by
    rw [haddr]
    exact Lib.Nor.read_congr ((Nat.mod_modEq ..).of_dvd (size_dvd k)) ..
  simp only [bufferRead, hbytes, hsent]
  rw [receive_eq _ _ high medium low [] rfl rfl]
  refine Prod.ext hread ?_
  simp [W25Q.bus, W25Q.execute, ← h.idle, ← h.deselected]

/-! The questions for the name of the chip. -/

lemma readDeviceID_eq (h : Ready c) : (readDeviceID k.bus c).2 = c := by
  obtain ⟨mem, writeEnabled, busy, received⟩ := c
  obtain ⟨rfl, rfl⟩ := h
  simp [readDeviceID, sendByte, send, W25Q.bus, W25Q.execute]

lemma readID_eq (h : Ready c) : (readID k.bus c).2 = c := by
  obtain ⟨mem, writeEnabled, busy, received⟩ := c
  obtain ⟨rfl, rfl⟩ := h
  simp [readID, sendByte, send, W25Q.bus, W25Q.execute]

/-! ## Writing a buffer -/

/-- A chip that does what its data sheet says: erasing sets all bits of a cell, programming clears
those that are clear in the byte. -/
structure Works (k : W25Q) : Prop where
  prog : ∀ x old d, k.prog x old d = old &&& d
  erase : ∀ x old, k.erase x old = 0xFF

/-- A chip that works, and is busy for three bytes. -/
def w25q64 : W25Q where
  prog _ old d := old &&& d
  erase _ _ := 0xFF
  time _ _ := 3
  jedecID i := [0xEF, 0x40, 0x17].getD i 0xFF
  deviceID := 0x16

lemma works_w25q64 : Works w25q64 := ⟨fun _ _ _ => rfl, fun _ _ => rfl⟩

lemma time_w25q64 (m : ℕ → UInt8) (i : List UInt8) : w25q64.time m i < 4 := by
  change 3 < 4
  decide

lemma length_le_size (p : ℕ → UInt8) (n : UInt16) : (bytesAt p n.toNat).length ≤ k.nor.size := by
  have hlt := n.toNat_lt
  have hsize : k.nor.size = 0x800000 := rfl
  rw [length_bytesAt, hsize]
  omega

/-- For every chip, every buffer, every address and every length, `SPI_FLASH_BufferWrite` comes to
an end: each cell of the range was programmed once, with its byte of the buffer, and no other cell
was touched.  No call of `SPI_FLASH_PageWrite` leaves its page. -/
theorem bufferWrite_cells (k : W25Q) (fuel : ℕ) (htime : ∀ m i, k.time m i < fuel)
    (c : FlashChip) (hc : Ready c) (pBuffer : ℕ → UInt8) (writeAddr : UInt32)
    (numByteToWrite : UInt16) :
    (∀ w ∈ pageWrites pBuffer writeAddr numByteToWrite,
      w.writeAddr.toNat % 256 + w.numByteToWrite.toNat ≤ 256) ∧
    ∃ c', bufferWrite k.bus fuel pBuffer writeAddr numByteToWrite c = some c' ∧ Ready c' ∧
      (∀ i < numByteToWrite.toNat, let x := k.nor.cell (writeAddr.toNat + i)
        c'.mem x = k.prog x (c.mem x) (pBuffer i)) ∧
      ∀ x, (∀ i < numByteToWrite.toNat, x ≠ k.nor.cell (writeAddr.toNat + i)) →
        c'.mem x = c.mem x := by
  refine ⟨(splits_pageWrites k pBuffer writeAddr numByteToWrite).paged, ?_⟩
  obtain ⟨c', hc', hready, hmem⟩ := bufferWrite_eq htime hc pBuffer writeAddr numByteToWrite
  refine ⟨c', hc', hready, fun i hi => ?_, fun x hx => ?_⟩
  · have hi' : i < (bytesAt pBuffer numByteToWrite.toNat).length := by simpa using hi
    simp only
    rw [hmem, Lib.Nor.program_add (length_le_size ..) hi']
    simp [bytesAt, W25Q.nor]
  · rw [hmem]
    exact Lib.Nor.program_of_ne (by simpa using hx)

theorem bufferWrite_cells_w25q64 :
    ∃ c', bufferWrite w25q64.bus 4 (fun i => i.toUInt8) 250 300 ⟨fun _ => 0xFF, false, 0, none⟩ =
      some c' ∧ c'.mem 549 = 43 ∧ c'.mem 550 = 0xFF := by
  obtain ⟨-, c', hc', -, hin, hout⟩ := bufferWrite_cells w25q64 4 time_w25q64
    ⟨fun _ => 0xFF, false, 0, none⟩ ⟨rfl, rfl⟩ (fun i => i.toUInt8) 250 300
  refine ⟨c', hc', hin 299 (by decide), hout 550 fun i hi => ?_⟩
  change i < 300 at hi
  have hcell : w25q64.nor.cell (250 + i) = 250 + i := Nat.mod_eq_of_lt (by
    change 250 + i < 0x800000
    omega)
  change 550 ≠ w25q64.nor.cell (250 + i)
  rw [hcell]
  omega

/-! ## Saving and reading back -/

lemma cell_eq (k : W25Q) (a : ℕ) : k.nor.cell a = a % 0x800000 := rfl

/-- What stays in a sector is not parted by the end of the memory. -/
lemma cell_add_div {a i n : ℕ} (hfit : a % 4096 + n ≤ 4096) (hi : i < n) :
    k.nor.cell (a + i) / 4096 = k.nor.cell a / 4096 := by
  rw [cell_eq, cell_eq]
  omega

/-- On a chip that works, for every address and every length that stays in the sector: what is
written to the erased sector is read, and the other sectors are as they were. -/
theorem bufferRead_bufferWrite (k : W25Q) (hk : Works k) (fuel : ℕ)
    (htime : ∀ m i, k.time m i < fuel) (c : FlashChip) (hc : Ready c) (pBuffer : ℕ → UInt8)
    (addr : UInt32) (n : UInt16) (hfit : addr.toNat % 4096 + n.toNat ≤ 4096) :
    ∃ c', (sectorErase k.bus fuel addr c).bind (bufferWrite k.bus fuel pBuffer addr n) = some c' ∧
      Ready c' ∧ bufferRead k.bus addr n c' = (bytesAt pBuffer n.toNat, c') ∧
      ∀ x, x / 4096 ≠ k.nor.cell addr.toNat / 4096 → c'.mem x = c.mem x := by
  obtain ⟨c₁, hc₁, hready₁, hmem₁⟩ := sectorErase_eq htime hc addr
  obtain ⟨c₂, hc₂, hready₂, hmem₂⟩ := bufferWrite_eq htime hready₁ pBuffer addr n
  refine ⟨c₂, by rw [hc₁, Option.bind_some, hc₂], hready₂, ?_, fun x hx => ?_⟩
  · rw [bufferRead_eq hready₂, hmem₂]
    refine Prod.ext ?_ rfl
    have hread := Lib.Nor.read_program (N := k.nor) (m := c₁.mem) (a := addr.toNat)
      (length_le_size pBuffer n) fun i hi => ?_
    · rwa [length_bytesAt] at hread
    · -- the cell is erased
      rw [length_bytesAt] at hi
      rw [hmem₁, Lib.Nor.eraseSector_of_eq (cell_add_div hfit hi)]
      change k.prog _ (k.erase _ _) _ = _
      rw [hk.prog, hk.erase]
      exact UInt8.neg_one_and
  · rw [hmem₂, Lib.Nor.program_of_ne, hmem₁]
    · exact Lib.Nor.eraseSector_of_ne hx
    · rintro i hi rfl
      rw [length_bytesAt] at hi
      exact hx (cell_add_div hfit hi)

theorem bufferRead_bufferWrite_w25q64 :
    ∃ c', (sectorErase w25q64.bus 4 8000 ⟨fun _ => 0, false, 0, none⟩).bind
        (bufferWrite w25q64.bus 4 (fun i => i.toUInt8) 8000 192) = some c' ∧
      (bufferRead w25q64.bus 8000 192 c').1 = bytesAt (fun i => i.toUInt8) 192 := by
  obtain ⟨c', hc', -, hread, -⟩ := bufferRead_bufferWrite w25q64 works_w25q64 4 time_w25q64
    ⟨fun _ => 0, false, 0, none⟩ ⟨rfl, rfl⟩ (fun i => i.toUInt8) 8000 192 (by decide)
  exact ⟨c', hc', by rw [hread]; rfl⟩

end SpiFlash

end MealVendor
