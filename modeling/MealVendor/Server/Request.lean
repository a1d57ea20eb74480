import MealVendor.Lib.Tlv
import MealVendor.Model.Request
import MealVendor.Server.Lookup
import MealVendor.Server.Reply

/-!
# Requests that can be read

The server takes a request apart by the lengths of its items.  It finds in it what was meant exactly
if the arrays that the request is made of still begin with their tags and lengths.  `SignInFun`
writes there: it takes these bytes, too, from the reply.  So may `StatusUploadingFun`, whose loop
stores one byte behind its array.
-/

namespace MealVendor

/-! ## Reading a request -/

/-- A tag in one byte, a length in two. -/
def byteHeader : Lib.Header UInt8 UInt8 where
  write t n := t :: hlIntToBuffer (UInt16.ofNat n)
  read
    | t :: b₀ :: b₁ :: rest => some (t, word b₀ b₁, rest)
    | _ => none
  limit := 65536
  write_ne_nil _ _ := List.cons_ne_nil _ _
  read_write t n rest h := by
    simp only [hlIntToBuffer, List.cons_append, List.nil_append]
    rw [TlvReply.word_length h]
  write_read := by
    intro bs t n rest h
    match bs, h with
    | b :: b₀ :: b₁ :: bs, h =>
      simp only [Option.some.injEq, Prod.mk.injEq] at h
      obtain ⟨rfl, rfl, rfl⟩ := h
      refine ⟨by rw [hlIntToBuffer_word]; rfl, ?_⟩
      have h₀ := b₀.toNat_lt
      have h₁ := b₁.toNat_lt
      rw [word]
      omega

/-- An item of a request. -/
abbrev ReqItem := Lib.Item UInt8 UInt8

/-- The command and the items of a frame, for who knows nothing but the format. -/
def readRequest : List UInt8 → Option (UInt16 × List ReqItem)
  | [] => none
  | h :: f =>
    if h = 0x02 ∧ Closes f then
      (byteHeader.decode ((f.drop 4).take (lengthField f))).map fun its =>
        (hlBufferToInit (f.getD 0 0) (f.getD 1 0), its)
    else none

lemma readRequest_packet {cmd : UInt16} {payload : List UInt8} (hpos : 1 ≤ payload.length)
    (hlt : payload.length < 65536) :
    readRequest (mealFrame cmd (Net.packet payload)) =
      (byteHeader.decode payload).map fun its => (cmd, its) := by
  have hpacket : Net.packet payload =
      0x02 :: 0x00 :: 0x00 :: 0x00 :: 0x00 :: (payload ++ [0x03, 0x00, 0x00]) := rfl
  have hclose : Closes (frameBody cmd payload ++
      0x03 :: hlIntToBuffer (getCrc16 (frameBody cmd payload)).toUInt16) :=
    closes_frameBody hpos hlt
  rw [hpacket, mealFrame_eq, readRequest, if_pos ⟨rfl, hclose⟩]
  have hcmd : hlBufferToInit (cmd >>> 8).toUInt8 (cmd &&& 0xff).toUInt8 = cmd := by
    rw [← UInt16.toNat_inj, hlBufferToInit_toNat, word_hlIntToBuffer]
  have hfield : lengthField (frameBody cmd payload ++
      0x03 :: hlIntToBuffer (getCrc16 (frameBody cmd payload)).toUInt16) = payload.length :=
    TlvReply.word_length hlt
  rw [hfield]
  simp only [frameBody, hlIntToBuffer, List.cons_append, List.nil_append, List.drop_succ_cons,
    List.drop_zero, List.getD_cons_zero, List.getD_cons_succ, hcmd, List.take_left']

/-! ## The arrays -/

/-- The tag with which an array is declared. -/
def Glob.tag (g : Glob) : UInt8 := g.init.getD 0 0

namespace Net

/-- An array as an item. -/
def item (n : Net) (g : Glob) : ReqItem := ⟨g.tag, (n.bytes g).drop 3⟩

/-- The array begins with its tag and its length. -/
structure Headed (n : Net) (g : Glob) : Prop where
  tag : n.cell g 0 = g.tag
  high : n.cell g 1 = 0x00
  low : n.cell g 2 = UInt8.ofNat (g.size - 3)

instance (n : Net) (g : Glob) : Decidable (n.Headed g) :=
  decidable_of_iff (n.cell g 0 = g.tag ∧ n.cell g 1 = 0x00 ∧ n.cell g 2 = UInt8.ofNat (g.size - 3))
    ⟨fun h => ⟨h.1, h.2.1, h.2.2⟩, fun h => ⟨h.tag, h.high, h.low⟩⟩

variable {n : Net} {g : Glob}

lemma length_bytes (n : Net) (g : Glob) : (n.bytes g).length = g.size := by simp [bytes]

lemma bytes_eq_cons (n : Net) (hpos : 3 ≤ g.size) :
    n.bytes g = n.cell g 0 :: n.cell g 1 :: n.cell g 2 :: (n.bytes g).drop 3 := by
  obtain ⟨k, hk⟩ := Nat.exists_eq_add_of_le' hpos
  simp [bytes, hk, List.range_succ_eq_map]

lemma hlIntToBuffer_of_lt {k : ℕ} (hk : k < 256) :
    hlIntToBuffer (UInt16.ofNat k) = [0x00, UInt8.ofNat k] := by
  have h := hlIntToBuffer_word 0x00 (UInt8.ofNat k)
  rwa [word, UInt8.toNat_ofNat_of_lt' hk, UInt8.toNat_zero, Nat.zero_mul, Nat.zero_add] at h

lemma byteHeader_item (t : UInt8) (v : List UInt8) (h : v.length < 256) :
    byteHeader.item ⟨t, v⟩ = t :: 0x00 :: UInt8.ofNat v.length :: v := by
  change (t :: hlIntToBuffer (UInt16.ofNat v.length)) ++ v = _
  rw [hlIntToBuffer_of_lt h]
  rfl

/-- An array that holds an item has room for tag and length, and its length fits in a byte. -/
structure Holds (g : Glob) : Prop where
  pos : 3 ≤ g.size
  lt : g.size < 259

lemma item_eq (n : Net) (h : Holds g) : byteHeader.item (n.item g) =
    g.tag :: 0x00 :: UInt8.ofNat (g.size - 3) :: (n.bytes g).drop 3 := by
  have hlen : ((n.bytes g).drop 3).length = g.size - 3 := by rw [List.length_drop, length_bytes]
  have hlt := h.lt
  rw [item, byteHeader_item _ _ (by omega), hlen]

lemma length_item (n : Net) (h : Holds g) :
    (byteHeader.item (n.item g)).length = (n.bytes g).length := by
  have hpos := h.pos
  rw [item_eq n h, length_bytes]
  simp only [List.length_cons, List.length_drop, length_bytes]
  omega

lemma bytes_eq_item_iff (h : Holds g) : n.bytes g = byteHeader.item (n.item g) ↔ n.Headed g := by
  rw [item_eq n h, bytes_eq_cons n h.pos]
  constructor
  · intro h
    simp only [List.cons.injEq] at h
    exact ⟨h.1, h.2.1, h.2.2.1⟩
  · rintro ⟨htag, hhigh, hlow⟩
    rw [htag, hhigh, hlow]
    rfl

end Net

/-! ## The requests -/

/-- What the program asks the server. -/
inductive Request
  | signIn
  | compare (mealCount : Kind → UInt8)
  | signOut
  | status (erroStatus : UInt16) (behind : UInt8)
  | echo
  | takeMeals (sel : CustomerSel) (takeoutFlag : UInt8)
  | mealUploading
  | clearing

namespace Request

/-- The command of the packet. -/
def command : Request → UInt16
  | signIn => 0x0100
  | compare _ => 0x0200
  | signOut => 0x0300
  | status .. => 0x0400
  | echo => 0x0700
  | takeMeals .. => 0x0800
  | mealUploading => 0x0400
  | clearing => 0x0500

/-- The arrays that are sent. -/
def globs : Request → List Glob
  | signIn => [.tid, .mid, .mName, .brwn, .bno, .deviceArea, .deviceAreaNO, .appVersion,
      .paraFileVersion, .bDataFileVersion, .chechStatus]
  | compare _ => [.tid, .brwn, .bno, .deviceArea, .deviceAreaNO]
  | signOut => [.tid, .brwn, .bno]
  | status .. => [.tid, .brwn, .bno, .deviceStatus]
  | echo => [.tid, .dealData, .dealTime]
  | takeMeals .. => [.tid, .brwn, .bno, .deviceArea, .deviceAreaNO, .dealBalance, .mealID, .mealNO,
      .mealName, .mealPrice, .payType, .change, .remainMealNum, .takeMealFlag, .mac]
  | mealUploading => [.tid, .brwn, .bno, .deviceArea, .deviceAreaNO, .mac]
  | clearing => [.tid, .brwn, .bno, .mac]

/-- The items behind the arrays. -/
def extra : Request → List ReqItem
  | compare mealCount => [⟨0xbc, Net.structCopyToBuffer mealCount⟩]
  | _ => []

/-- What is sent between the head and the end. -/
def payload (n : Net) : Request → List UInt8
  | signIn => n.signInItems
  | compare mealCount => n.compareItems mealCount
  | signOut => n.signOutItems
  | status .. => n.statusItems
  | echo => n.echoItems
  | takeMeals .. => n.mealItems
  | mealUploading => n.mealUploadingItems
  | clearing => n.clearingItems

/-- What is meant by it. -/
def items (n : Net) (r : Request) : List ReqItem := r.globs.map n.item ++ r.extra

variable {n : Net}

lemma length_mealRecord (k : Kind) (mealCount : UInt8) :
    (Net.mealRecord k mealCount).length = 34 := by
  have hname : (maelName k).length = 20 := by
    fin_cases k <;> rfl
  simp [Net.mealRecord, hname]

lemma length_structCopyToBuffer (mealCount : Kind → UInt8) :
    (Net.structCopyToBuffer mealCount).length = 306 := by
  simp only [Net.structCopyToBuffer, List.length_append, length_mealRecord, List.length_replicate]

lemma payload_eq (n : Net) (r : Request) :
    r.payload n = r.globs.flatMap n.bytes ++ byteHeader.encode r.extra := by
  have hcompare : ∀ mealCount, byteHeader.item ⟨0xbc, Net.structCopyToBuffer mealCount⟩ =
      [0xbc, 0x01, 0x32] ++ Net.structCopyToBuffer mealCount := by
    intro mealCount
    change (0xbc :: hlIntToBuffer (UInt16.ofNat (Net.structCopyToBuffer mealCount).length)) ++ _ = _
    rw [length_structCopyToBuffer]
    rfl
  cases r with
  | compare mealCount =>
    simp [payload, globs, extra, Net.compareItems, Lib.Header.encode, hcompare]
  | _ => simp [payload, globs, extra, Net.signInItems, Net.signOutItems, Net.statusItems,
      Net.echoItems, Net.mealItems, Net.mealUploadingItems, Net.clearingItems]

lemma holds_of_mem {r : Request} {g : Glob} (hg : g ∈ r.globs) : Net.Holds g := by
  have hne : g ≠ .readSdBuff := by
    rintro rfl
    cases r <;> simp [globs] at hg
  cases g with
  | readSdBuff => exact absurd rfl hne
  | _ => exact ⟨by decide, by decide⟩

/-- Pieces of the same lengths one after the other are equal piece by piece. -/
lemma flatMap_eq_flatMap_iff {α β : Type*} {l : List α} {f h : α → List β}
    (hlen : ∀ a ∈ l, (h a).length = (f a).length) :
    l.flatMap f = l.flatMap h ↔ ∀ a ∈ l, f a = h a := by
  induction l with
  | nil => simp
  | cons a l ih =>
    rw [List.flatMap_cons, List.flatMap_cons, List.forall_mem_cons,
      ← ih fun b hb => hlen b (List.mem_cons_of_mem _ hb)]
    constructor
    · exact fun heq => List.append_inj heq (hlen a List.mem_cons_self).symm
    · rintro ⟨ha, hl⟩
      rw [ha, hl]

lemma encode_items (n : Net) (r : Request) : byteHeader.encode (r.items n) =
    r.globs.flatMap (fun g => byteHeader.item (n.item g)) ++ byteHeader.encode r.extra := by
  rw [items, Lib.Header.encode_append, Lib.Header.encode, List.flatMap_map]

lemma length_payload (n : Net) (r : Request) :
    1 ≤ (r.payload n).length ∧ (r.payload n).length < 65536 := by
  cases r <;> simp [payload, Net.signInItems, Net.compareItems, Net.signOutItems, Net.statusItems,
    Net.echoItems, Net.mealItems, Net.mealUploadingItems, Net.clearingItems, Net.length_bytes,
    length_structCopyToBuffer, Glob.size]

lemma items_fit (n : Net) (r : Request) : ∀ it ∈ r.items n, it.value.length < byteHeader.limit := by
  intro it hit
  change it.value.length < 65536
  rcases List.mem_append.mp hit with hit | hit
  · obtain ⟨g, hg, rfl⟩ := List.mem_map.mp hit
    have hlt := (holds_of_mem hg).lt
    rw [Net.item, List.length_drop, Net.length_bytes]
    omega
  · cases r with
    | compare mealCount =>
      obtain rfl := List.mem_singleton.mp hit
      rw [length_structCopyToBuffer]
      decide
    | _ => exact absurd hit List.not_mem_nil

/-- A request is read as it is meant exactly if its arrays begin with their tags and lengths. -/
lemma readRequest_iff (n : Net) (r : Request) :
    readRequest (mealFrame r.command (Net.packet (r.payload n))) = some (r.command, r.items n) ↔
      ∀ g ∈ r.globs, n.Headed g := by
  obtain ⟨hpos, hlt⟩ := length_payload n r
  have hdecode : byteHeader.decode (r.payload n) = some (r.items n) ↔
      byteHeader.encode (r.items n) = r.payload n := by
    constructor
    · exact fun h => (Lib.Header.encode_of_decodeUpTo h).1
    · intro h
      rw [← h]
      exact Lib.Header.decode_encode (items_fit n r)
  have hpieces : byteHeader.encode (r.items n) = r.payload n ↔ ∀ g ∈ r.globs, n.Headed g := by
    rw [encode_items, payload_eq, List.append_left_inj, eq_comm,
      flatMap_eq_flatMap_iff fun g hg => Net.length_item n (holds_of_mem hg)]
    exact forall₂_congr fun g hg => Net.bytes_eq_item_iff (holds_of_mem hg)
  rw [readRequest_packet hpos hlt, ← hpieces, ← hdecode]
  cases byteHeader.decode (r.payload n) <;> simp

end Request

/-! ## What is left of the arrays -/

namespace Net

variable {n m : Net} {g g' : Glob} {i : ℕ} {bs : List UInt8}

/-- The arrays that hold an item. -/
def itemGlobs : List Glob :=
  [.tid, .brwn, .bno, .deviceArea, .deviceAreaNO, .deviceStatus, .dealData, .dealTime,
    .dealBalance, .mealID, .mealNO, .mealName, .mealPrice, .payType, .change, .remainMealNum,
    .takeMealFlag, .mac, .mName, .mid, .appVersion, .paraFileVersion, .bDataFileVersion,
    .chechStatus]

/-- Every array that holds an item begins with its tag and its length. -/
def AllHeaded (n : Net) : Prop := ∀ g ∈ itemGlobs, n.Headed g

instance (n : Net) : Decidable n.AllHeaded := inferInstanceAs (Decidable (∀ g ∈ itemGlobs, _))

lemma mem_itemGlobs {r : Request} (hg : g ∈ r.globs) : g ∈ itemGlobs := by
  cases r <;> simp only [Request.globs] at hg <;> revert g <;> decide

lemma headed_congr (h : n.cell g = m.cell g) : n.Headed g ↔ m.Headed g := by
  constructor
  · exact fun hn => ⟨h ▸ hn.tag, h ▸ hn.high, h ▸ hn.low⟩
  · exact fun hm => ⟨h ▸ hm.tag, h ▸ hm.high, h ▸ hm.low⟩

/-- Behind the length everything may be stored. -/
lemma headed_copy (hi : 3 ≤ i) : (n.copy g i bs).Headed g' ↔ n.Headed g' := by
  by_cases hg : g' = g
  · subst hg
    have hcell : ∀ j < 3, (n.copy g' i bs).cell g' j = n.cell g' j := by
      intro j hj
      rw [copy_cell_self, if_neg (by omega)]
    constructor
    · rintro ⟨htag, hhigh, hlow⟩
      rw [hcell _ (by decide)] at htag hhigh hlow
      exact ⟨htag, hhigh, hlow⟩
    · rintro ⟨htag, hhigh, hlow⟩
      refine ⟨?_, ?_, ?_⟩ <;> rw [hcell _ (by decide)] <;> assumption
  · exact headed_congr (copy_cell_of_ne _ _ _ hg)

lemma headed_put (hi : 3 ≤ i) (v : UInt8) : (n.put g i v).Headed g' ↔ n.Headed g' := by
  have hcopy : (n.copy g i [v]).Headed g' ↔ n.Headed g' := headed_copy hi
  exact hcopy

lemma headed_getBRWN (now : StructTD) : (n.getBRWN now).Headed g ↔ n.Headed g :=
  headed_copy le_rfl

lemma headed_fillMeal (sel : CustomerSel) (flag : UInt8) :
    (n.fillMeal sel flag).Headed g ↔ n.Headed g := by
  rw [fillMeal]
  cases Kind.ofID sel.mealName <;>
    simp only [headed_put, headed_copy, le_refl, Nat.reduceLeDiff]

/-- Only `DealData` may begin with another tag. -/
lemma headed_fillStatus_of_ne {next : Bool} (h : g ≠ .dealData) (e : UInt16) (b : UInt8) :
    (n.fillStatus next e b).Headed g ↔ n.Headed g := by
  rw [fillStatus]
  cases next with
  | false => exact headed_copy le_rfl
  | true => exact (headed_congr (put_cell_of_ne _ _ _ h)).trans (headed_copy le_rfl)

lemma headed_fillStatus_dealData {next : Bool} (hn : n.Headed .dealData) (e : UInt16) (b : UInt8) :
    (n.fillStatus next e b).Headed .dealData ↔ (next = true → b = Glob.dealData.tag) := by
  rw [fillStatus]
  cases next with
  | false => exact iff_of_true ((headed_copy le_rfl).mpr hn) fun h => absurd h (by decide)
  | true =>
    rw [if_pos rfl, forall_prop_of_true rfl]
    have hcell : ∀ i, ((n.copy .deviceStatus 3 [((e >>> 8) &&& 0x00ff).toUInt8,
        (e &&& 0x00ff).toUInt8, b]).copy .dealData 0 [b]).cell .dealData i =
        if i = 0 then b else n.cell .dealData i := by
      intro i
      rw [copy_cell_self, copy_cell_of_ne _ _ _ (by decide)]
      by_cases hi : i = 0
      · rw [hi]
        rfl
      · rw [if_neg (by rw [List.length_singleton]; omega), if_neg hi]
    constructor
    · intro h
      exact (hcell 0).symm.trans h.tag
    · intro hb
      exact ⟨(hcell 0).trans hb, (hcell 1).trans hn.high, (hcell 2).trans hn.low⟩

/-- The state is told as it is. -/
lemma item_fillStatus (n : Net) (next : Bool) (e : UInt16) (b : UInt8) :
    (n.fillStatus next e b).item .deviceStatus = ⟨0xae, hlIntToBuffer e⟩ := by
  have hcell : (n.fillStatus next e b).cell .deviceStatus =
      (n.copy .deviceStatus 3 [((e >>> 8) &&& 0x00ff).toUInt8, (e &&& 0x00ff).toUInt8,
        b]).cell .deviceStatus := by
    rw [fillStatus]
    cases next with
    | false => rfl
    | true => exact put_cell_of_ne _ _ _ (by decide)
  have hbytes : ((n.fillStatus next e b).bytes .deviceStatus).drop 3 =
      [((e >>> 8) &&& 0x00ff).toUInt8, (e &&& 0x00ff).toUInt8] := by
    rw [bytes, hcell]
    simp [Glob.size, List.range_succ, copy_cell_self]
  have hhigh : ((e >>> 8) &&& 0x00ff).toUInt8 = (e >>> 8).toUInt8 := by
    rw [UInt16.toUInt8_and]
    exact UInt8.and_neg_one
  rw [item, hbytes, hhigh]
  rfl

lemma headed_iff_of_cell_eq (h : n.cell = m.cell) : n.Headed g ↔ m.Headed g :=
  headed_congr (congrFun h g)

/-! What is sent does not depend on the receiver. -/

lemma put_cell_congr (h : n.cell = m.cell) (g : Glob) (i : ℕ) (v : UInt8) :
    (n.put g i v).cell = (m.put g i v).cell := by
  simp only [put, h]

lemma copy_cell_congr (h : n.cell = m.cell) (g : Glob) (i : ℕ) (bs : List UInt8) :
    (n.copy g i bs).cell = (m.copy g i bs).cell := by
  induction bs generalizing i n m with
  | nil => exact h
  | cons b bs ih => exact ih (put_cell_congr h g i b) (i + 1)

lemma getBRWN_cell_congr (h : n.cell = m.cell) (now : StructTD) :
    (n.getBRWN now).cell = (m.getBRWN now).cell := copy_cell_congr h ..

lemma fillMeal_cell_congr (h : n.cell = m.cell) (sel : CustomerSel) (flag : UInt8) :
    (n.fillMeal sel flag).cell = (m.fillMeal sel flag).cell := by
  rw [fillMeal, fillMeal]
  cases Kind.ofID sel.mealName <;> dsimp only
  all_goals
    repeat first | apply put_cell_congr | apply copy_cell_congr
    exact h

lemma fillStatus_cell_congr (h : n.cell = m.cell) (next : Bool) (e : UInt16) (b : UInt8) :
    (n.fillStatus next e b).cell = (m.fillStatus next e b).cell := by
  rw [fillStatus, fillStatus]
  cases next with
  | false => exact copy_cell_congr h ..
  | true => exact put_cell_congr (copy_cell_congr h ..) ..

lemma payload_congr (h : n.cell = m.cell) (r : Request) : r.payload n = r.payload m := by
  have hbytes : n.bytes = m.bytes := by
    funext g
    rw [bytes, bytes, h]
  rw [Request.payload_eq, Request.payload_eq, hbytes]

/-! What the functions leave. -/

lemma memSet00_net {air : Air} (h : n.memSet00 air = some m) :
    m.cell = n.cell ∧ m.sent = n.sent := by
  rw [memSet00, Option.map_eq_some_iff] at h
  obtain ⟨s, -, rfl⟩ := h
  exact ⟨rfl, rfl⟩

lemma mealComparefunDemo_net {cmd : UInt16} {p : List UInt8} {air : Air} {r : UInt8 × Net}
    (h : n.mealComparefunDemo cmd p air = some r) :
    r.2.cell = n.cell ∧ r.2.sent = n.sent ++ [mealFrame cmd p] := by
  rw [mealComparefunDemo, Option.map_eq_some_iff] at h
  obtain ⟨s, -, rfl⟩ := h
  exact ⟨rfl, rfl⟩

@[simp] lemma fillMeal_sent (sel : CustomerSel) (flag : UInt8) (n : Net) :
    (n.fillMeal sel flag).sent = n.sent := by
  rw [fillMeal]
  cases Kind.ofID sel.mealName <;> simp

@[simp] lemma fillStatus_sent (next : Bool) (e : UInt16) (b : UInt8) (n : Net) :
    (n.fillStatus next e b).sent = n.sent := by
  rw [fillStatus]
  cases next <;> simp

@[simp] lemma getBRWN_sent (now : StructTD) (n : Net) : (n.getBRWN now).sent = n.sent :=
  copy_sent ..

/-- A request leaves the arrays as it sends them. -/
lemma request_net {now : StructTD} {air : Air} {q : Request} {items : Net → List UInt8}
    {r : UInt8 × Net} (hitems : ∀ n, items n = q.payload n)
    (h : n.request q.command items now air = some r) :
    r.2.cell = (n.getBRWN now).cell ∧
      r.2.sent = n.sent ++ [mealFrame q.command (packet (q.payload (n.getBRWN now)))] := by
  rw [request, Option.bind_eq_some_iff] at h
  obtain ⟨m, hm, h⟩ := h
  obtain ⟨hcell, hsent⟩ := memSet00_net hm
  have hbrwn := getBRWN_cell_congr hcell now
  obtain ⟨hcell', hsent'⟩ := mealComparefunDemo_net h
  refine ⟨hcell'.trans hbrwn, ?_⟩
  rw [hsent', getBRWN_sent, hsent, hitems, payload_congr hbrwn]

end Net

/-! ## Calls -/

/-- A request at its time, and what arrives meanwhile. -/
structure Exchange where
  request : Request
  now : StructTD
  air : Air

namespace Exchange

/-- The function that sends the request.  The two that keep something of a reply besides the arrays
are started without it. -/
def run (next : Bool) (n : Net) (c : Exchange) : Option Net :=
  match c.request with
  | .signIn => (n.signInFun c.now c.air).map Prod.snd
  | .compare mealCount => (n.mealDataCompareFun mealCount 0 c.now c.air).map fun r => r.2.2
  | .signOut => (n.signOutFun c.now c.air).map Prod.snd
  | .status erroStatus behind =>
    (n.statusUploadingFun next erroStatus behind c.now c.air).map Prod.snd
  | .echo => (n.echoFun c.air ⟨0, 0, 0, 0, 0, 0, 0⟩).map fun r => r.2.2
  | .takeMeals sel takeoutFlag =>
    (n.takeMealsFun .recordBuffer takeoutFlag sel c.now c.air).map Prod.snd
  | .mealUploading => (n.mealUploadingFun c.now c.air).map Prod.snd
  | .clearing => (n.clearingFun c.now c.air).map Prod.snd

/-- The arrays as they are sent. -/
def filled (next : Bool) (n : Net) (c : Exchange) : Net :=
  match c.request with
  | .echo => n
  | .status erroStatus behind => (n.getBRWN c.now).fillStatus next erroStatus behind
  | .takeMeals sel takeoutFlag => (n.getBRWN c.now).fillMeal sel takeoutFlag
  | _ => n.getBRWN c.now

/-- The reply from which `SignInFun` takes values, if it takes any. -/
def taken (n : Net) (c : Exchange) : Option Uart5 :=
  match c.request with
  | .signIn => (n.request 0x0100 Net.signInItems c.now c.air).bind fun r =>
    if r.1 = 0x01 then none
    else if hlBufferToInit (r.2.uart.rx1Buf 2) (r.2.uart.rx1Buf 3) = 0x00 then none
    else some r.2.uart
  | _ => none

/-- The frame of a call. -/
def frame (next : Bool) (n : Net) (c : Exchange) : List UInt8 :=
  mealFrame c.request.command (Net.packet (c.request.payload (c.filled next n)))

/-- What is meant by a call. -/
def items (next : Bool) (n : Net) (c : Exchange) : List ReqItem :=
  match c.request with
  | .status erroStatus _ =>
    [.tid, .brwn, .bno].map (c.filled next n).item ++ [⟨0xae, hlIntToBuffer erroStatus⟩]
  | r => r.items (c.filled next n)

variable {next : Bool} {n n' : Net} {c : Exchange}

lemma items_filled (next : Bool) (n : Net) (c : Exchange) :
    c.request.items (c.filled next n) = c.items next n := by
  rw [items]
  split
  · rename_i erroStatus behind hq
    have hfilled : c.filled next n = (n.getBRWN c.now).fillStatus next erroStatus behind := by
      simp only [filled, hq]
    have hitem : (c.filled next n).item .deviceStatus = ⟨0xae, hlIntToBuffer erroStatus⟩ := by
      rw [hfilled, Net.item_fillStatus]
    simp only [hq, Request.items, Request.globs, Request.extra, List.map_cons, List.map_nil, hitem,
      List.append_nil, List.cons_append, List.nil_append]
  · rfl

lemma signInFun_eq (n : Net) (now : StructTD) (air : Air) : n.signInFun now air =
    (n.request 0x0100 Net.signInItems now air).map fun r =>
      if r.1 = 0x01 then (1, r.2)
      else if hlBufferToInit (r.2.uart.rx1Buf 2) (r.2.uart.rx1Buf 3) = 0x00 then (1, r.2)
      else
        let n := r.2.signInReply r.2.uart
        (if n.cell .ack 3 = 0x24 then 1 else 0, n) := by
  rw [Net.signInFun, Net.request, Option.map_bind]
  refine congrArg _ (funext fun m => ?_)
  simp only [Function.comp_apply, Net.packet, Net.signInItems, List.append_assoc]

@[simp] lemma signInReply_sent (s : Uart5) (n : Net) : (n.signInReply s).sent = n.sent := by
  simp only [Net.signInReply, Net.copy_sent]

/-- A request that leaves the arrays as it sends them. -/
lemma request_run {q : Request} {items : Net → List UInt8} {r : UInt8 × Net}
    (hitems : ∀ n, items n = q.payload n) (hq : c.request = q)
    (hfilled : c.filled next n = n.getBRWN c.now)
    (h : n.request q.command items c.now c.air = some r) :
    r.2.sent = n.sent ++ [c.frame next n] ∧
      ∀ g ∈ Net.itemGlobs, r.2.cell g = (c.filled next n).cell g := by
  obtain ⟨hcell, hsent⟩ := Net.request_net hitems h
  rw [frame, hq, hfilled]
  exact ⟨hsent, fun g _ => congrFun hcell g⟩

lemma echo_run {t : Tmp} {r : UInt8 × Tmp × Net} (hq : c.request = .echo)
    (h : n.echoFun c.air t = some r) :
    r.2.2.sent = n.sent ++ [c.frame next n] ∧
      ∀ g ∈ Net.itemGlobs, r.2.2.cell g = (c.filled next n).cell g := by
  rw [Net.echoFun, Option.bind_eq_some_iff] at h
  obtain ⟨m, hm, h⟩ := h
  rw [Option.map_eq_some_iff] at h
  obtain ⟨⟨i, u⟩, hu, hr⟩ := h
  obtain ⟨hcell, hsent⟩ := Net.memSet00_net hm
  obtain ⟨hcell', hsent'⟩ := Net.mealComparefunDemo_net hu
  have hfilled : c.filled next n = n := by simp only [filled, hq]
  have hnet : r.2.2.sent = u.sent ∧ r.2.2.cell = u.cell := by
    subst hr
    dsimp only
    split_ifs <;> exact ⟨rfl, rfl⟩
  refine ⟨?_, fun g _ => ?_⟩
  · rw [hnet.1, hsent', hsent, frame, hq, hfilled]
    exact congrArg (fun p => n.sent ++ [mealFrame 0x0700 (Net.packet p)])
      (Net.payload_congr hcell .echo)
  · rw [hnet.2, hcell', hcell, hfilled]

lemma status_run {e : UInt16} {b : UInt8} {r : UInt8 × Net} (hq : c.request = .status e b)
    (h : n.statusUploadingFun next e b c.now c.air = some r) :
    r.2.sent = n.sent ++ [c.frame next n] ∧
      ∀ g ∈ Net.itemGlobs, r.2.cell g = (c.filled next n).cell g := by
  rw [Net.statusUploadingFun, Option.bind_eq_some_iff] at h
  obtain ⟨m, hm, h⟩ := h
  obtain ⟨hcell, hsent⟩ := Net.memSet00_net hm
  obtain ⟨hcell', hsent'⟩ := Net.mealComparefunDemo_net h
  have hfilled : c.filled next n = (n.getBRWN c.now).fillStatus next e b := by
    simp only [filled, hq]
  have hfill := Net.fillStatus_cell_congr (Net.getBRWN_cell_congr hcell c.now) next e b
  refine ⟨?_, fun g _ => ?_⟩
  · rw [hsent', Net.fillStatus_sent, Net.getBRWN_sent, hsent, frame, hq, hfilled]
    exact congrArg (fun p => n.sent ++ [mealFrame 0x0400 (Net.packet p)])
      (Net.payload_congr hfill (.status e b))
  · rw [hcell', hfill, hfilled]

lemma takeMeals_run {sel : CustomerSel} {flag : UInt8} {r : UInt8 × Net}
    (hq : c.request = .takeMeals sel flag)
    (h : n.takeMealsFun .recordBuffer flag sel c.now c.air = some r) :
    r.2.sent = n.sent ++ [c.frame next n] ∧
      ∀ g ∈ Net.itemGlobs, r.2.cell g = (c.filled next n).cell g := by
  rw [Net.takeMealsFun, Option.bind_eq_some_iff] at h
  obtain ⟨m, hm, h⟩ := h
  rw [Option.map_eq_some_iff] at h
  obtain ⟨⟨i, u⟩, hu, rfl⟩ := h
  obtain ⟨hcell, hsent⟩ := Net.memSet00_net hm
  obtain ⟨hcell', hsent'⟩ := Net.mealComparefunDemo_net hu
  have hfilled : c.filled next n = (n.getBRWN c.now).fillMeal sel flag := by
    simp only [filled, hq]
  have hfill := Net.fillMeal_cell_congr (Net.getBRWN_cell_congr hcell c.now) sel flag
  refine ⟨?_, fun g hg => ?_⟩
  · dsimp only
    rw [Net.storeLenght, Net.copy_sent, Net.copy_sent, hsent', Net.fillMeal_sent, Net.getBRWN_sent,
      hsent, frame, hq, hfilled]
    exact congrArg (fun p => n.sent ++ [mealFrame 0x0800 (Net.packet p)])
      (Net.payload_congr hfill (.takeMeals sel flag))
  · have hne : g ≠ .recordBuffer := by
      rintro rfl
      exact absurd hg (by decide)
    dsimp only
    rw [Net.storeLenght, Net.copy_cell_of_ne _ _ _ hne, Net.copy_cell_of_ne _ _ _ hne, hcell',
      hfill, hfilled]

/-- A call sends one frame, and leaves the arrays as it sends them but for those that `SignInFun`
takes from a reply, and for the buffer. -/
lemma run_net (h : c.run next n = some n') :
    n'.sent = n.sent ++ [c.frame next n] ∧
      (c.taken n = none → ∀ g ∈ Net.itemGlobs, n'.cell g = (c.filled next n).cell g) ∧
      ∀ s, c.taken n = some s →
        ∃ m : Net, m.cell = (c.filled next n).cell ∧ n' = m.signInReply s := by
  -- all but signing in leave what they send
  have hplain : ∀ m : Net, m = n' → c.request ≠ .signIn →
      (m.sent = n.sent ++ [c.frame next n] ∧
        ∀ g ∈ Net.itemGlobs, m.cell g = (c.filled next n).cell g) →
      n'.sent = n.sent ++ [c.frame next n] ∧
        (c.taken n = none → ∀ g ∈ Net.itemGlobs, n'.cell g = (c.filled next n).cell g) ∧
        ∀ s, c.taken n = some s →
          ∃ m : Net, m.cell = (c.filled next n).cell ∧ n' = m.signInReply s := by
    rintro m rfl hq ⟨hsent, hcell⟩
    refine ⟨hsent, fun _ => hcell, fun s hs => ?_⟩
    rw [taken] at hs
    split at hs
    · exact absurd ‹_› hq
    · cases hs
  rw [run] at h
  cases hq : c.request with
  | signIn =>
    simp only [hq, signInFun_eq, Option.map_map, Option.map_eq_some_iff] at h
    obtain ⟨r, hr, h⟩ := h
    obtain ⟨hcell, hsent⟩ := Net.request_net (q := .signIn) (fun _ => rfl) hr
    have hfilled : c.filled next n = n.getBRWN c.now := by simp only [filled, hq]
    have htaken : c.taken n = if r.1 = 0x01 then none
        else if hlBufferToInit (r.2.uart.rx1Buf 2) (r.2.uart.rx1Buf 3) = 0x00 then none
        else some r.2.uart := by
      simp only [taken, hq, hr, Option.bind_some]
    have hframe : r.2.sent = n.sent ++ [c.frame next n] := by rw [hsent, frame, hq, hfilled]
    rw [htaken, hfilled]
    rw [Function.comp_apply] at h
    split_ifs at h ⊢
    · subst h
      exact ⟨hframe, fun _ g _ => congrFun hcell g, nofun⟩
    · subst h
      exact ⟨hframe, fun _ g _ => congrFun hcell g, nofun⟩
    -- whether the reply is accepted or not
    all_goals
      subst h
      refine ⟨?_, nofun, ?_⟩
      · rw [signInReply_sent, hframe]
      · rintro s ⟨⟩
        exact ⟨r.2, hcell, rfl⟩
  | compare mealCount =>
    simp only [hq, Option.map_eq_some_iff] at h
    obtain ⟨r, hr, h⟩ := h
    rw [Net.mealDataCompareFun, Option.map_eq_some_iff] at hr
    obtain ⟨u, hu, rfl⟩ := hr
    have hu' : u.2.sent = n.sent ++ [c.frame next n] ∧
        ∀ g ∈ Net.itemGlobs, u.2.cell g = (c.filled next n).cell g :=
      request_run (q := .compare mealCount) (fun _ => rfl) hq (by simp only [filled, hq]) hu
    refine hplain u.2 ?_ (by simp [hq]) hu'
    split_ifs at h <;> exact h
  | signOut =>
    simp only [hq, Option.map_eq_some_iff] at h
    obtain ⟨r, hr, h⟩ := h
    exact hplain _ h (by simp [hq]) (request_run (fun _ => rfl) hq (by simp only [filled, hq]) hr)
  | status erroStatus behind =>
    simp only [hq, Option.map_eq_some_iff] at h
    obtain ⟨r, hr, h⟩ := h
    exact hplain _ h (by simp [hq]) (status_run hq hr)
  | echo =>
    simp only [hq, Option.map_eq_some_iff] at h
    obtain ⟨r, hr, h⟩ := h
    exact hplain _ h (by simp [hq]) (echo_run hq hr)
  | takeMeals sel flag =>
    simp only [hq, Option.map_eq_some_iff] at h
    obtain ⟨r, hr, h⟩ := h
    exact hplain _ h (by simp [hq]) (takeMeals_run hq hr)
  | mealUploading =>
    simp only [hq, Option.map_eq_some_iff] at h
    obtain ⟨r, hr, h⟩ := h
    exact hplain _ h (by simp [hq]) (request_run (fun _ => rfl) hq (by simp only [filled, hq]) hr)
  | clearing =>
    simp only [hq, Option.map_eq_some_iff] at h
    obtain ⟨r, hr, h⟩ := h
    exact hplain _ h (by simp [hq]) (request_run (fun _ => rfl) hq (by simp only [filled, hq]) hr)

end Exchange

/-! ## Runs -/

/-- Where `SignInFun` looks in the reply for the arrays that it takes whole. -/
def replyHeaders : List (Glob × ℕ) :=
  [(.mName, 0x04), (.appVersion, 0x21), (.paraFileVersion, 0x2c), (.bDataFileVersion, 0x37),
    (.mac, 0x55)]

/-- The tag and the length of an array stand in the reply. -/
structure Uart5.HasHeader (s : Uart5) (g : Glob) (i : ℕ) : Prop where
  tag : s.rx1Buf i = g.tag
  high : s.rx1Buf (i + 1) = 0x00
  low : s.rx1Buf (i + 2) = UInt8.ofNat (g.size - 3)

/-- The reply has each of its items where `SignInFun` looks for it. -/
def Uart5.HasHeaders (s : Uart5) : Prop := ∀ p ∈ replyHeaders, s.HasHeader p.1 p.2

namespace Net

variable {n m : Net} {g : Glob} {s : Uart5}

/-- The arrays that `SignInFun` takes whole begin with what the reply has there. -/
lemma headed_signInReply_of_mem {p : Glob × ℕ} (hp : p ∈ replyHeaders) :
    (m.signInReply s).Headed p.1 ↔ s.HasHeader p.1 p.2 := by
  have hcell : ∀ j < 3, (m.signInReply s).cell p.1 j = s.rx1Buf (p.2 + j) := by
    intro j hj
    simp only [replyHeaders, List.mem_cons, List.not_mem_nil, or_false] at hp
    rcases hp with rfl | rfl | rfl | rfl | rfl <;> interval_cases j <;>
      simp [signInReply, copy_cell_of_ne, copy_cell_self]
  constructor
  · rintro ⟨htag, hhigh, hlow⟩
    rw [hcell _ (by decide)] at htag hhigh hlow
    exact ⟨htag, hhigh, hlow⟩
  · rintro ⟨htag, hhigh, hlow⟩
    refine ⟨?_, ?_, ?_⟩ <;> rw [hcell _ (by decide)] <;> assumption

/-- The others keep what they begin with. -/
lemma headed_signInReply_of_not_mem (hg : g ∈ itemGlobs) (hp : ∀ i, (g, i) ∉ replyHeaders) :
    (m.signInReply s).Headed g ↔ m.Headed g := by
  have hcopy : ∀ {g' : Glob} {n : Net} {i : ℕ} {bs : List UInt8}, g ≠ g' →
      ((n.copy g' i bs).Headed g ↔ n.Headed g) :=
    fun hne => headed_congr (copy_cell_of_ne _ _ _ hne)
  have hne : ∀ p ∈ replyHeaders, g ≠ p.1 := by
    rintro ⟨g', i⟩ hmem rfl
    exact hp i hmem
  have hflags : g ≠ .updataFlag ∧ g ≠ .ack ∧ g ≠ .wordKeyCipher :=
    (by decide : ∀ g ∈ itemGlobs, g ≠ .updataFlag ∧ g ≠ .ack ∧ g ≠ .wordKeyCipher) g hg
  rw [signInReply, hcopy (hne (.mac, 0x55) (by decide)), hcopy hflags.2.2, hcopy hflags.2.1,
    hcopy hflags.1, hcopy (hne (.bDataFileVersion, 0x37) (by decide)),
    hcopy (hne (.paraFileVersion, 0x2c) (by decide)), hcopy (hne (.appVersion, 0x21) (by decide)),
    headed_copy le_rfl, hcopy (hne (.mName, 0x04) (by decide))]

/-- Once the values are taken from a reply, everything can be read if the reply has its items where
they are looked for. -/
lemma allHeaded_signInReply (hm : m.AllHeaded) : (m.signInReply s).AllHeaded ↔ s.HasHeaders := by
  constructor
  · intro h p hp
    have hmem : p.1 ∈ itemGlobs := by
      revert p
      decide
    exact (headed_signInReply_of_mem hp).mp (h p.1 hmem)
  · intro h g hg
    by_cases hp : ∃ i, (g, i) ∈ replyHeaders
    · obtain ⟨i, hi⟩ := hp
      exact (headed_signInReply_of_mem (p := (g, i)) hi).mpr (h _ hi)
    · exact (headed_signInReply_of_not_mem hg fun i hi => hp ⟨i, hi⟩).mpr (hm g hg)

/-- Every array belongs to one of these requests. -/
lemma allHeaded_iff : n.AllHeaded ↔ ∀ r : Request,
    readRequest (mealFrame r.command (packet (r.payload n))) = some (r.command, r.items n) := by
  simp only [Request.readRequest_iff]
  constructor
  · exact fun h r g hg => h g (mem_itemGlobs hg)
  · intro h g hg
    have hsplit : g ∈ Request.signIn.globs ∨ g ∈ (Request.takeMeals .zero 0).globs ∨
        g ∈ (Request.status 0 0).globs ∨ g ∈ Request.echo.globs := by
      revert g
      decide
    rcases hsplit with hg | hg | hg | hg
    · exact h .signIn g hg
    · exact h (.takeMeals .zero 0) g hg
    · exact h (.status 0 0) g hg
    · exact h .echo g hg

end Net

namespace Exchange

variable {n n' : Net} {c : Exchange}

/-- If `SignInFun` takes values from a reply, the reply has its items where they are looked for; and
what `StatusUploadingFun` stores in `DealData`, if that is next, is the tag that stands there. -/
structure Fits (next : Bool) (n : Net) (c : Exchange) : Prop where
  headers : ∀ s, c.taken n = some s → s.HasHeaders
  tag : next = true → ∀ e b, c.request = .status e b → b = Glob.dealData.tag

/-- What is sent begins with its tags and lengths. -/
lemma headed_filled (hn : n.AllHeaded) (next : Bool) (c : Exchange) :
    ∀ g ∈ c.request.globs, (c.filled next n).Headed g := by
  intro g hg
  have hg' := hn g (Net.mem_itemGlobs hg)
  rw [filled]
  split
  · exact hg'
  · rename_i e b hq
    have hne : g ≠ .dealData := by
      rintro rfl
      rw [hq] at hg
      exact absurd hg (by decide : Glob.dealData ∉ [.tid, .brwn, .bno, .deviceStatus])
    exact (Net.headed_fillStatus_of_ne hne e b).mpr ((Net.headed_getBRWN ..).mpr hg')
  · exact (Net.headed_fillMeal ..).mpr ((Net.headed_getBRWN ..).mpr hg')
  · exact (Net.headed_getBRWN ..).mpr hg'

/-- What is left begins with its tags and lengths but for what was stored behind an array. -/
lemma allHeaded_filled (hn : n.AllHeaded) (next : Bool) (c : Exchange) :
    (c.filled next n).AllHeaded ↔
      (next = true → ∀ e b, c.request = .status e b → b = Glob.dealData.tag) := by
  rw [filled]
  split
  · rename_i hq
    exact iff_of_true hn fun _ e b h => by rw [hq] at h; cases h
  · rename_i e b hq
    have hbrwn : (n.getBRWN c.now).AllHeaded := fun g hg => (Net.headed_getBRWN ..).mpr (hn g hg)
    have hdata : ((n.getBRWN c.now).fillStatus next e b).Headed .dealData ↔
        (next = true → b = Glob.dealData.tag) :=
      Net.headed_fillStatus_dealData (hbrwn .dealData (by decide)) e b
    constructor
    · intro h hnext e' b' hq'
      rw [hq] at hq'
      cases hq'
      exact hdata.mp (h .dealData (by decide)) hnext
    · intro h g hg
      by_cases hne : g = .dealData
      · rw [hne]
        exact hdata.mpr fun hnext => h hnext e b hq
      · exact (Net.headed_fillStatus_of_ne hne e b).mpr (hbrwn g hg)
  · rename_i hq
    exact iff_of_true
      (fun g hg => (Net.headed_fillMeal ..).mpr ((Net.headed_getBRWN ..).mpr (hn g hg)))
      fun _ e b h => by rw [hq] at h; cases h
  · rename_i _ hq _
    exact iff_of_true (fun g hg => (Net.headed_getBRWN ..).mpr (hn g hg))
      fun _ e b h => absurd h (hq e b)

/-- One exchange keeps the requests readable exactly if it fits. -/
lemma allHeaded_run (hn : n.AllHeaded) (h : c.run next n = some n') :
    n'.AllHeaded ↔ c.Fits next n := by
  obtain ⟨-, hnone, hsome⟩ := run_net h
  have hfilled := allHeaded_filled hn next c
  cases htaken : c.taken n with
  | none =>
    have hkept : n'.AllHeaded ↔ (c.filled next n).AllHeaded :=
      forall₂_congr fun g hg => Net.headed_congr (hnone htaken g hg)
    rw [hkept, hfilled]
    refine ⟨fun h => ⟨fun s hs => ?_, h⟩, Fits.tag⟩
    rw [htaken] at hs
    cases hs
  | some s =>
    have hsignIn : ∀ e b, c.request ≠ .status e b := by
      intro e b hq
      simp only [taken, hq] at htaken
      cases htaken
    obtain ⟨m, hm, rfl⟩ := hsome s htaken
    have hall : m.AllHeaded := fun g hg =>
      (Net.headed_iff_of_cell_eq hm).mpr (hfilled.mpr (fun _ e b h => absurd h (hsignIn e b)) g hg)
    rw [Net.allHeaded_signInReply hall]
    constructor
    · intro hs
      refine ⟨fun t ht => ?_, fun _ e b h => absurd h (hsignIn e b)⟩
      rw [htaken] at ht
      cases ht
      exact hs
    · exact fun hfits => hfits.headers s htaken

/-- What an exchange sends is read as it is meant. -/
lemma readRequest_frame (hn : n.AllHeaded) (next : Bool) (c : Exchange) :
    readRequest (c.frame next n) = some (c.request.command, c.items next n) := by
  rw [← items_filled]
  exact (Request.readRequest_iff _ _).mpr (headed_filled hn next c)

end Exchange

end MealVendor
