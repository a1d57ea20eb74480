import MealVendor.Lib.Retry
import MealVendor.Lib.Stages
import MealVendor.Model.CheckIn
import MealVendor.Reader.Framing
import MealVendor.Reader.Reception
import MealVendor.Server.Clock

/-!
# Signing in at the card reader

A round of signing in is a dialogue in stages, whose commands are numbered one after the other.
`Szt_GpbocAutoCheckIn` succeeds exactly if one of up to 1001 rounds is accepted as a whole for both
kinds of cards, and then the clock and the addresses are those of the reader.  A sign-in for bank
cards that is refused at its very end is not tried again.  All this comes to an end unless a command
is acknowledged and the length of its reply is 0xffff or does not come.
-/

namespace MealVendor

open Lib

/-! ## What is said -/

namespace Said

/-- What the `Manage…` function returns, or 0 if the reply is not the right one. -/
def flag (e : Said) : UInt8 := (e.reply.map fun b => b 27 + 1).getD 0

/-- The number of the command, as it is sent. -/
def order (e : Said) : UInt8 := e.frame.getD 16 0

def Accepted (e : Said) : Prop := e.flag = 1

instance (e : Said) : Decidable e.Accepted := inferInstanceAs (Decidable (e.flag = 1))

end Said

namespace Reader

variable {s s' t u : Reader} {d d' : List Said}

/-- The commands of `d` are sent between `s` and `s'`, each in its frame and under the number that
follows. -/
structure Spoken (s s' : Reader) (d : List Said) : Prop where
  said : s'.said = s.said ++ d
  startNum : s'.send.startNum = s.send.startNum + UInt8.ofNat d.length
  frames : ∀ i, (h : i < d.length) → Framed d[i].frame ∧
    d[i].frame.getD 15 0 = s.send.startNum + UInt8.ofNat (i + 1)

namespace Spoken

lemma nil (s : Reader) : Spoken s s [] :=
  ⟨(List.append_nil _).symm, (UInt8.add_zero _).symm, fun _ h => absurd h (Nat.not_lt_zero _)⟩

lemma append (h : Spoken s t d) (h' : Spoken t u d') : Spoken s u (d ++ d') := by
  constructor
  · rw [h'.said, h.said, List.append_assoc]
  · rw [h'.startNum, h.startNum, List.length_append, UInt8.ofNat_add, UInt8.add_assoc]
  · intro i hi
    rcases Nat.lt_or_ge i d.length with hlt | hge
    · rw [List.getElem_append_left hlt]
      exact h.frames i hlt
    · have hsub : i - d.length < d'.length := by
        rw [List.length_append] at hi
        omega
      rw [List.getElem_append_right hge]
      refine ⟨(h'.frames _ hsub).1, ?_⟩
      rw [(h'.frames _ hsub).2, h.startNum, UInt8.add_assoc, ← UInt8.ofNat_add]
      congr 2
      omega

end Spoken

/-! ## A command -/

/-- The frames of a command `num`. -/
structure Sends (order : (ℕ → UInt8) → Reader → List UInt8 × SztSend) (num : UInt8) : Prop where
  framed : ∀ data s, Framed (order data s).1
  number : ∀ data s, (order data s).1.getD 15 0 = s.send.startNum + 1
  command : ∀ data s, (order data s).1.getD 16 0 = num
  startNum : ∀ data s, (order data s).2.startNum = s.send.startNum + 1

/-- A `Manage…` function looks at the status, and leaves what is said. -/
structure Handles (manage : Turn → Reader → UInt8 × Reader) : Prop where
  flag : ∀ t s, (manage t s).1 = s.uart.printBuf2 27 + 1
  said : ∀ t s, (manage t s).2.said = s.said
  startNum : ∀ t s, (manage t s).2.send.startNum = s.send.startNum

variable {v : ℕ → Turn} {order : (ℕ → UInt8) → Reader → List UInt8 × SztSend} {type num c : UInt8}
  {manage : Turn → Reader → UInt8 × Reader}

/-- The state when the reply is looked at. -/
def heard (v : ℕ → Turn) (order : (ℕ → UInt8) → Reader → List UInt8 × SztSend) (s : Reader)
    (uart : Uart2) (reply : Option (ℕ → UInt8)) : Reader :=
  { s with
    uart := uart
    send := (order (v s.said.length).data s).2
    said := s.said ++ [⟨(order (v s.said.length).data s).1, reply⟩] }

/-- The reply is handled, or it is not the right one. -/
lemma exchange_cases (h : s.exchange v order type manage = some (c, s')) : ∃ uart,
    (c, s') = manage (v s.said.length) (heard v order s uart (some uart.printBuf2)) ∨
      c = 0 ∧ s' = heard v order s uart none := by
  simp only [exchange, Option.map_eq_some_iff] at h
  obtain ⟨temp, -, h⟩ := h
  split_ifs at h with htype
  · exact ⟨_, .inl h.symm⟩
  · cases h
    exact ⟨_, .inr ⟨rfl, rfl⟩⟩

/-- A command says one thing. -/
lemma exchange_spoken (horder : Sends order num) (hmanage : Handles manage)
    (h : s.exchange v order type manage = some (c, s')) :
    ∃ e : Said, Spoken s s' [e] ∧ e.order = num ∧ c = e.flag := by
  have hone : ∀ uart reply, Spoken s (heard v order s uart reply)
      [⟨(order (v s.said.length).data s).1, reply⟩] := by
    intro uart reply
    refine ⟨rfl, horder.startNum _ _, fun i hi => ?_⟩
    obtain rfl : i = 0 := by simpa using hi
    exact ⟨horder.framed _ _, horder.number _ _⟩
  obtain ⟨uart, h | ⟨rfl, rfl⟩⟩ := exchange_cases h
  · have hs' : s' = (manage (v s.said.length) (heard v order s uart (some uart.printBuf2))).2 :=
      congrArg Prod.snd h
    have hc : c = (manage (v s.said.length) (heard v order s uart (some uart.printBuf2))).1 :=
      congrArg Prod.fst h
    obtain ⟨hsaid, hstart, hframes⟩ := hone uart (some uart.printBuf2)
    refine ⟨_, ⟨?_, ?_, hframes⟩, horder.command _ _, ?_⟩
    · rw [hs', hmanage.said, hsaid]
    · rw [hs', hmanage.startNum, hstart]
    · rw [hc, hmanage.flag]
      rfl
  · exact ⟨_, hone uart none, horder.command _ _, rfl⟩

/-! ## Coming to an end -/

/-- Up to the end, or to a reply for which it does not come to an end, what is said is in its
frames. -/
def Talks {α : Type*} (v : ℕ → Turn) (s : Reader) (f : Option (α × Reader)) : Prop :=
  ∃ t d, Spoken s t d ∧
    (∀ k, s.said.length ≤ k → k < t.said.length → ¬ (v k).answer.Endless) ∧
    ((∃ a, f = some (a, t)) ∨ f = none ∧ (v t.said.length).answer.Endless)

lemma exchange_eq_none_iff :
    s.exchange v order type manage = none ↔ (v s.said.length).answer.Endless :=
  Option.map_eq_none_iff.trans (Answer.manageReOrderType_eq_none_iff _ _)

namespace Talks

variable {α β : Type*} {f : Option (α × Reader)}

lemma pure (a : α) : Talks v s (some (a, s)) :=
  ⟨s, [], .nil s, fun _ hle hlt => absurd hle (Nat.not_le.mpr hlt), .inl ⟨a, rfl⟩⟩

/-- A command comes to an end or not. -/
lemma command {f : Option (UInt8 × Reader)} (hnone : f = none ↔ (v s.said.length).answer.Endless)
    (hsome : ∀ c t, f = some (c, t) → ∃ e : Said, Spoken s t [e] ∧ e.order = num ∧ c = e.flag) :
    Talks v s f := by
  cases hf : f with
  | none =>
    exact ⟨s, [], .nil s, fun _ hle hlt => absurd hle (Nat.not_le.mpr hlt),
      .inr ⟨rfl, hnone.mp hf⟩⟩
  | some r =>
    obtain ⟨c, t⟩ := r
    obtain ⟨e, he, -⟩ := hsome c t hf
    refine ⟨t, [e], he, fun k hle hlt hend => ?_, .inl ⟨c, rfl⟩⟩
    rw [he.said, List.length_append, List.length_singleton] at hlt
    obtain rfl : k = s.said.length := by omega
    rw [hnone.mpr hend] at hf
    cases hf

lemma bind {g : α × Reader → Option (β × Reader)} (h : Talks v s f)
    (hg : ∀ a t, f = some (a, t) → Talks v t (g (a, t))) : Talks v s (f.bind g) := by
  obtain ⟨t, d, hd, hbefore, ⟨a, rfl⟩ | ⟨rfl, hend⟩⟩ := h
  · obtain ⟨u, d', hd', hbefore', hu⟩ := hg a t rfl
    refine ⟨u, d ++ d', hd.append hd', fun k hle hlt => ?_, hu⟩
    rcases Nat.lt_or_ge k t.said.length with hk | hk
    · exact hbefore k hle hk
    · exact hbefore' k hk hlt
  · exact ⟨t, d, hd, hbefore, .inr ⟨rfl, hend⟩⟩

lemma map {g : α × Reader → β × Reader} (h : Talks v s f) (hg : ∀ r, (g r).2 = r.2) :
    Talks v s (f.map g) := by
  rw [Option.map_eq_bind]
  refine h.bind fun a t _ => ?_
  rw [Function.comp_apply, ← Prod.mk.eta (p := g (a, t)), hg]
  exact .pure _

end Talks

/-! ## The commands -/

section Sends

variable {k : ℕ} {lenL : UInt8}

/-- An order with a payload of `k` bytes and a checksum over it. -/
lemma sends_of_eq (payload : Reader → List UInt8) (samNum : Reader → Fin 4 → UInt8)
    (send : Reader → SztSend)
    (horder : ∀ data s, order data s = SztSend.orderData data (payload s) (16 + k) (21 + k) (23 + k)
      (mustSendData 0x00 lenL (samNum s) (s.send.startNum + 1) num, send s))
    (hlen : lenL.toNat = 16 + k) (hpayload : ∀ s, (payload s).length = k)
    (hsend : ∀ s, (send s).startNum = s.send.startNum + 1) : Sends order num := by
  have hframe : ∀ data s, ∃ temp, (order data s).1 =
      mustSendData 0x00 lenL (samNum s) (s.send.startNum + 1) num ++ payload s ++
        [temp, (send s).dataend] := by
    intro data s
    rw [horder]
    exact ⟨_, SztSend.map_range_frame (length_mustSendData ..) (by rw [hpayload])
      (by rw [hpayload]) _ _⟩
  constructor
  · intro data s
    have hlen' : 256 * (0x00 : UInt8).toNat + lenL.toNat = 16 + (payload s).length := by
      rw [hlen, hpayload]
      exact Nat.zero_add _
    rw [horder]
    exact SztSend.framed_orderData hlen' (by rw [hpayload]) (by rw [hpayload]) (by rw [hpayload])
  · intro data s
    obtain ⟨temp, h⟩ := hframe data s
    rw [h]
    rfl
  · intro data s
    obtain ⟨temp, h⟩ := hframe data s
    rw [h]
    rfl
  · intro data s
    rw [horder]
    exact hsend s

lemma sends_sztFixData (payload : Reader → List UInt8)
    (horder : ∀ data s, order data s = SztSend.orderData data (payload s) (16 + k) (21 + k) (23 + k)
      (s.send.sztFixData 0x00 lenL num))
    (hlen : lenL.toNat = 16 + k) (hpayload : ∀ s, (payload s).length = k) : Sends order num :=
  sends_of_eq payload (fun s => s.send.sztSamNum) (fun s => (s.send.sztFixData 0x00 lenL num).2)
    horder hlen hpayload fun _ => rfl

lemma sends_gpbocFixData (payload : Reader → List UInt8)
    (horder : ∀ data s, order data s = SztSend.orderData data (payload s) (16 + k) (21 + k) (23 + k)
      (s.send.gpbocFixData 0x00 lenL num))
    (hlen : lenL.toNat = 16 + k) (hpayload : ∀ s, (payload s).length = k) : Sends order num :=
  sends_of_eq payload (fun s => s.send.gpbocSamNum) (fun s => (s.send.gpbocFixData 0x00 lenL num).2)
    horder hlen hpayload fun _ => rfl

/-- What all `Manage…` functions have in common. -/
lemma handles_manageStatus {keep : Turn → Reader → Reader}
    (hsaid : ∀ t s, (keep t s).said = s.said)
    (hstart : ∀ t s, (keep t s).send.startNum = s.send.startNum) :
    Handles fun t => manageStatus (keep t) := by
  constructor
  · exact fun t s => rfl
  · intro t s
    rw [manageStatus]
    split
    · exact hsaid t s
    · rfl
  · intro t s
    rw [manageStatus]
    split
    · exact hstart t s
    · rfl

/-- A reply of which nothing is kept. -/
lemma handles_id : Handles fun _ => manageStatus id :=
  handles_manageStatus (fun _ _ => rfl) fun _ _ => rfl

end Sends

lemma queryStatus_spoken (h : s.queryStatus v = some (c, s')) :
    ∃ e : Said, Spoken s s' [e] ∧ e.order = 0x20 ∧ c = e.flag := by
  have horder : Sends (fun data s => s.send.orderIfnQueryStatus data) 0x20 :=
    sends_of_eq (fun _ => []) (fun _ _ => 0)
      (fun s => ({ s.send with sztSamNum := fun _ => 0 }.sztFixData 0x00 0x10 0x20).2) (k := 0)
      (fun data s => by rw [SztSend.orderIfnQueryStatus, SztSend.sztFixData]) rfl (fun _ => rfl)
      fun _ => rfl
  have hmanage : Handles fun _ => manageQueryStatus :=
    handles_manageStatus (fun _ _ => rfl) fun _ _ => rfl
  rw [queryStatus] at h
  exact exchange_spoken horder hmanage h

lemma timeCheck_spoken (h : s.timeCheck v = some (c, s')) :
    ∃ e : Said, Spoken s s' [e] ∧ e.order = 0x24 ∧ c = e.flag := by
  have horder : Sends (fun data s => s.send.orderSztTimeCheck data s.rtc.timeShow) 0x24 :=
    sends_of_eq
      (fun s => SztSend.dateTime s.rtc.timeShow ++
        [dectoBCD s.rtc.timeShow.weekDay, s.send.timeMode])
      (fun s => s.send.sztSamNum)
      (fun s => { (s.send.sztFixData 0x00 0x19 0x24).2 with timeDate := s.rtc.timeShow }) (k := 9)
      (fun _ _ => rfl) rfl (fun _ => rfl) fun _ => rfl
  have hmanage : Handles fun t => manageSztTimeCheck t.time t.date :=
    handles_manageStatus (fun _ _ => rfl) fun _ _ => rfl
  rw [timeCheck] at h
  exact exchange_spoken horder hmanage h

lemma userLogin_spoken (h : s.userLogin v = some (c, s')) :
    ∃ e : Said, Spoken s s' [e] ∧ e.order = 0x40 ∧ c = e.flag := by
  have horder : Sends (fun data s => s.send.orderSztUserLogin data) 0x40 :=
    sends_sztFixData (fun s => List.ofFn s.send.userNo) (k := 3) (fun _ _ => rfl) rfl
      fun _ => List.length_ofFn
  rw [userLogin] at h
  exact exchange_spoken horder handles_id h

lemma autoCheckIn_spoken (h : s.autoCheckIn v = some (c, s')) :
    ∃ e : Said, Spoken s s' [e] ∧ e.order = 0x78 ∧ c = e.flag := by
  have horder : Sends (fun data s => s.send.orderSztAutoCheckIn data) 0x78 :=
    sends_sztFixData (fun _ => [0x03]) (k := 1) (fun _ _ => rfl) rfl fun _ => rfl
  rw [autoCheckIn] at h
  exact exchange_spoken horder handles_id h

lemma autoDownload_spoken (h : s.autoDownload v = some (c, s')) :
    ∃ e : Said, Spoken s s' [e] ∧ e.order = 0x78 ∧ c = e.flag := by
  have horder : Sends (fun data s => s.send.orderSztAutoDownload data) 0x78 :=
    sends_sztFixData (fun _ => [0x01]) (k := 1) (fun _ _ => rfl) rfl fun _ => rfl
  rw [autoDownload] at h
  exact exchange_spoken horder handles_id h

lemma autoSendData_spoken (h : s.autoSendData v = some (c, s')) :
    ∃ e : Said, Spoken s s' [e] ∧ e.order = 0x78 ∧ c = e.flag := by
  have horder : Sends (fun data s => s.send.orderSztAutoSendData data) 0x78 :=
    sends_sztFixData (fun _ => [0x02]) (k := 1) (fun _ _ => rfl) rfl fun _ => rfl
  rw [autoSendData] at h
  exact exchange_spoken horder handles_id h

lemma gpbocInit_spoken (h : s.gpbocInit v = some (c, s')) :
    ∃ e : Said, Spoken s s' [e] ∧ e.order = 0xc2 ∧ c = e.flag := by
  have horder : Sends (fun data s => s.send.orderGpbocInit data) 0xc2 :=
    sends_of_eq (fun s => List.ofFn s.send.gpbocInitPutInParameter) (fun _ _ => 0xff)
      (fun s => ({ s.send with gpbocSamNum := fun _ => 0xff }.gpbocFixData 0x00 0x30 0xc2).2)
      (k := 32) (fun data s => by rw [SztSend.orderGpbocInit, SztSend.gpbocFixData]) rfl
      (fun _ => List.length_ofFn) fun _ => rfl
  have hmanage : Handles fun _ => manageGpbocInit :=
    handles_manageStatus (fun _ _ => rfl) fun _ _ => rfl
  rw [gpbocInit] at h
  exact exchange_spoken horder hmanage h

lemma gpbocSendData_spoken (h : s.gpbocSendData v = some (c, s')) :
    ∃ e : Said, Spoken s s' [e] ∧ e.order = 0xca ∧ c = e.flag := by
  have horder :
      Sends (fun data s => s.send.orderGpbocSendData data s.gpbocSendDataParameter) 0xca :=
    sends_gpbocFixData (fun s => List.ofFn s.gpbocSendDataParameter) (k := 32) (fun _ _ => rfl) rfl
      fun _ => List.length_ofFn
  rw [gpbocSendData] at h
  exact exchange_spoken horder handles_id h

lemma gpbocCheckOut_spoken (h : s.gpbocCheckOut v = some (c, s')) :
    ∃ e : Said, Spoken s s' [e] ∧ e.order = 0xcc ∧ c = e.flag := by
  have horder :
      Sends (fun data s => s.send.orderGpbocCheckOut data s.gpbocCheckOutParameter) 0xcc :=
    sends_gpbocFixData (fun s => List.ofFn s.gpbocCheckOutParameter) (k := 32) (fun _ _ => rfl) rfl
      fun _ => List.length_ofFn
  rw [gpbocCheckOut] at h
  exact exchange_spoken horder handles_id h

/-! ## What stays -/

/-- An order and its `Manage…` function leave the clock and the address of the reader. -/
structure Keeps (order : (ℕ → UInt8) → Reader → List UInt8 × SztSend)
    (manage : Turn → Reader → UInt8 × Reader) : Prop where
  order : ∀ data s, (order data s).2.sztSamNum = s.send.sztSamNum
  rtc : ∀ t s, (manage t s).2.rtc = s.rtc
  manage : ∀ t s, (manage t s).2.send.sztSamNum = s.send.sztSamNum

lemma exchange_keeps (hkeeps : Keeps order manage)
    (h : s.exchange v order type manage = some (c, s')) :
    s'.rtc = s.rtc ∧ s'.send.sztSamNum = s.send.sztSamNum := by
  obtain ⟨uart, h | ⟨-, rfl⟩⟩ := exchange_cases h
  · have hs' : s' = (manage (v s.said.length) (heard v order s uart (some uart.printBuf2))).2 :=
      congrArg Prod.snd h
    refine ⟨?_, ?_⟩
    · rw [hs', hkeeps.rtc]
      rfl
    · rw [hs', hkeeps.manage]
      exact hkeeps.order _ _
  · exact ⟨rfl, hkeeps.order _ _⟩

/-- Nothing of the reply is kept. -/
lemma keeps_id (horder : ∀ data s, (order data s).2.sztSamNum = s.send.sztSamNum) :
    Keeps order fun _ => manageStatus id := by
  refine ⟨horder, fun t s => ?_, fun t s => ?_⟩
  · simp only [manageStatus, id, ite_self]
  · simp only [manageStatus, id, ite_self]

/-- An accepted command has a reply with status 0, of which something is kept. -/
lemma exchange_accepted (keep : Turn → Reader → Reader)
    (h : s.exchange v order type (fun t => manageStatus (keep t)) = some (1, s')) :
    ∃ uart, s' = keep (v s.said.length) (heard v order s uart (some uart.printBuf2)) := by
  obtain ⟨uart, h | ⟨hc, -⟩⟩ := exchange_cases h
  · have hflag : uart.printBuf2 27 + 1 = 0 + 1 := (congrArg Prod.fst h).symm
    have hzero : uart.printBuf2 27 = 0 := (UInt8.add_left_inj _).mp hflag
    exact ⟨uart, (congrArg Prod.snd h).trans (if_pos hzero)⟩
  · exact absurd hc (by decide)

/-- The reader that replies is the one that is addressed from then on. -/
lemma queryStatus_accepted (h : s.queryStatus v = some (1, s')) : ∃ e buf,
    s'.said = s.said ++ [e] ∧ e.reply = some buf ∧
      ∀ i : Fin 4, s'.send.sztSamNum i = buf (12 + i) := by
  obtain ⟨uart, rfl⟩ := exchange_accepted (fun _ s =>
    { s with send := { s.send with sztSamNum := fun i => s.uart.printBuf2 (12 + i) } }) h
  exact ⟨_, uart.printBuf2, rfl, rfl, fun _ => rfl⟩

/-- The clock is set from the reply. -/
lemma timeCheck_accepted (h : s.timeCheck v = some (1, s')) : ∃ e buf,
    s'.said = s.said ++ [e] ∧ e.reply = some buf ∧
      s'.rtc = s.rtc.timeRegulate (v s.said.length).time (v s.said.length).date (timeCheckTmp buf) ∧
      s'.send.sztSamNum = s.send.sztSamNum := by
  obtain ⟨uart, rfl⟩ := exchange_accepted (fun t s =>
    { s with
      tmp := timeCheckTmp s.uart.printBuf2
      rtc := s.rtc.timeRegulate t.time t.date (timeCheckTmp s.uart.printBuf2) }) h
  exact ⟨_, uart.printBuf2, rfl, rfl, rfl, rfl⟩

/-! ## Rounds -/

/-- The stages of `Gpboc_CheckIn`. -/
def gpbocStages : List (List UInt8) := [[0x20], [0xc2], [0xca], [0xcc], [0xc2]]

/-- The stages of `Szt_CheckIn`. -/
def sztStages : List (List UInt8) := [[0x20], [0x24, 0x40], [0x78], [0x78, 0x78]]

/-- What is said in a round with these stages. -/
def Round (stages : List (List UInt8)) (d : List Said) : Prop :=
  Dialogue Said.order Said.Accepted stages d

variable {e : Said} {n : UInt8} {stages : List (List UInt8)}

lemma Round.go_on {stage : List UInt8} (hstage : d.map Said.order = stage)
    (hok : ∀ e ∈ d, e.Accepted) (h : Round stages d') : Round (stage :: stages) (d ++ d') :=
  Dialogue.go_on hstage hok h

lemma Round.stop {stage : List UInt8} (hstage : d.map Said.order = stage) (he : e ∈ d)
    (hok : ¬ e.Accepted) : Round (stage :: stages) d :=
  Dialogue.stop hstage he hok

lemma Round.cons (he : e.order = n) (hok : e.Accepted) (h : Round stages d) :
    Round ([n] :: stages) (e :: d) :=
  .go_on (d := [e]) (by rw [List.map_singleton, he]) (by simpa using hok) h

lemma Round.single (he : e.order = n) (hok : ¬ e.Accepted) : Round ([n] :: stages) [e] :=
  .stop (by rw [List.map_singleton, he]) (List.mem_singleton_self e) hok

/-- A round in which a command is not accepted. -/
structure Vain (stages : List (List UInt8)) (d : List Said) : Prop where
  round : Round stages d
  refused : ∃ e ∈ d, ¬ e.Accepted

lemma Vain.cons (he : e.order = n) (hok : e.Accepted) (h : Vain stages d) :
    Vain ([n] :: stages) (e :: d) := by
  obtain ⟨e', he', hne⟩ := h.refused
  exact ⟨.cons he hok h.round, e', List.mem_cons_of_mem e he', hne⟩

lemma Vain.single (he : e.order = n) (hok : ¬ e.Accepted) : Vain ([n] :: stages) [e] :=
  ⟨.single he hok, e, List.mem_singleton_self e, hok⟩

/-- A round for bank cards.  The flag of its last command is that of the round, if it comes so
far. -/
lemma gpbocCheckIn_spoken (h : s.gpbocCheckIn v = some (c, s')) : ∃ d, Spoken s s' d ∧
    (c = 0 ∧ d.length < 5 ∧ Vain gpbocStages d ∨
      ∃ before e, d = before ++ [e] ∧ before.length = 4 ∧ Round gpbocStages d ∧
        (∀ e' ∈ before, e'.Accepted) ∧ c = e.flag) := by
  rw [gpbocCheckIn, Option.bind_eq_some_iff] at h
  obtain ⟨⟨flag1, s₁⟩, h₁, h⟩ := h
  obtain ⟨e₁, hs₁, ho₁, rfl⟩ := queryStatus_spoken h₁
  dsimp only at h
  split_ifs at h with hf₁
  · rw [Option.bind_eq_some_iff] at h
    obtain ⟨⟨flag2, s₂⟩, h₂, h⟩ := h
    obtain ⟨e₂, hs₂, ho₂, rfl⟩ := gpbocInit_spoken h₂
    dsimp only at h
    split_ifs at h with hf₂
    · rw [Option.bind_eq_some_iff] at h
      obtain ⟨⟨flag3, s₃⟩, h₃, h⟩ := h
      obtain ⟨e₃, hs₃, ho₃, rfl⟩ := gpbocSendData_spoken h₃
      dsimp only at h
      split_ifs at h with hf₃
      · rw [Option.bind_eq_some_iff] at h
        obtain ⟨⟨flag4, s₄⟩, h₄, h⟩ := h
        obtain ⟨e₄, hs₄, ho₄, rfl⟩ := gpbocCheckOut_spoken h₄
        dsimp only at h
        split_ifs at h with hf₄
        · obtain ⟨e₅, hs₅, ho₅, rfl⟩ := gpbocInit_spoken h
          have hok : ∀ e ∈ [e₁, e₂, e₃, e₄], e.Accepted := by
            simp only [List.forall_mem_cons]
            exact ⟨hf₁, hf₂, hf₃, hf₄, by simp⟩
          have hlast : Round [[0xc2]] [e₅] := by
            by_cases hf₅ : e₅.Accepted
            · exact .cons ho₅ hf₅ rfl
            · exact .single ho₅ hf₅
          exact ⟨[e₁, e₂, e₃, e₄, e₅], hs₁.append (hs₂.append (hs₃.append (hs₄.append hs₅))),
            .inr ⟨[e₁, e₂, e₃, e₄], e₅, rfl, rfl,
              .cons ho₁ hf₁ (.cons ho₂ hf₂ (.cons ho₃ hf₃ (.cons ho₄ hf₄ hlast))), hok, rfl⟩⟩
        · cases h
          exact ⟨[e₁, e₂, e₃, e₄], hs₁.append (hs₂.append (hs₃.append hs₄)), .inl ⟨rfl, by simp,
            .cons ho₁ hf₁ (.cons ho₂ hf₂ (.cons ho₃ hf₃ (.single ho₄ hf₄)))⟩⟩
      · cases h
        exact ⟨[e₁, e₂, e₃], hs₁.append (hs₂.append hs₃),
          .inl ⟨rfl, by simp, .cons ho₁ hf₁ (.cons ho₂ hf₂ (.single ho₃ hf₃))⟩⟩
    · cases h
      exact ⟨[e₁, e₂], hs₁.append hs₂, .inl ⟨rfl, by simp, .cons ho₁ hf₁ (.single ho₂ hf₂)⟩⟩
  · cases h
    exact ⟨[e₁], hs₁, .inl ⟨rfl, by simp, .single ho₁ hf₁⟩⟩

/-- What a round leaves in which everything was accepted: the reader that is addressed and the clock
are those of the replies. -/
structure SignedIn (v : ℕ → Turn) (s' : Reader) (d : List Said) : Prop where
  accepted : ∀ e ∈ d, e.Accepted
  address : ∃ e ∈ d, ∃ buf, e.order = 0x20 ∧ e.reply = some buf ∧
    ∀ i : Fin 4, s'.send.sztSamNum i = buf (12 + i)
  clock : ∃ e ∈ d, ∃ buf k r, e.order = 0x24 ∧ e.reply = some buf ∧
    s'.rtc = Rtc.timeRegulate (v k).time (v k).date (timeCheckTmp buf) r

/-- Behind the time check the clock and the address stay. -/
lemma userLogin_keeps (h : s.userLogin v = some (c, s')) :
    s'.rtc = s.rtc ∧ s'.send.sztSamNum = s.send.sztSamNum :=
  exchange_keeps (keeps_id fun _ _ => rfl) h

lemma autoCheckIn_keeps (h : s.autoCheckIn v = some (c, s')) :
    s'.rtc = s.rtc ∧ s'.send.sztSamNum = s.send.sztSamNum :=
  exchange_keeps (keeps_id fun _ _ => rfl) h

lemma autoDownload_keeps (h : s.autoDownload v = some (c, s')) :
    s'.rtc = s.rtc ∧ s'.send.sztSamNum = s.send.sztSamNum :=
  exchange_keeps (keeps_id fun _ _ => rfl) h

lemma autoSendData_keeps (h : s.autoSendData v = some (c, s')) :
    s'.rtc = s.rtc ∧ s'.send.sztSamNum = s.send.sztSamNum :=
  exchange_keeps (keeps_id fun _ _ => rfl) h

/-- The only entry behind what was said before. -/
lemma Spoken.unique {e₁ e₂ : Said} (h₁ : Spoken s s' [e₁]) (h₂ : s'.said = s.said ++ [e₂]) :
    e₂ = e₁ :=
  List.singleton_inj.mp (List.append_cancel_left (h₂.symm.trans h₁.said))

/-- The address is from the first command and the clock from the second; the others keep both. -/
lemma signedIn_of_steps {s₁ s₂ s₃ s₄ s₅ s₆ : Reader} {c₃ c₄ c₅ c₆ : UInt8} {e₁ e₂ : Said}
    (h₁ : s.queryStatus v = some (1, s₁)) (h₂ : s₁.timeCheck v = some (1, s₂))
    (h₃ : s₂.userLogin v = some (c₃, s₃)) (h₄ : s₃.autoCheckIn v = some (c₄, s₄))
    (h₅ : s₄.autoDownload v = some (c₅, s₅)) (h₆ : s₅.autoSendData v = some (c₆, s₆))
    (hs₁ : Spoken s s₁ [e₁]) (hs₂ : Spoken s₁ s₂ [e₂]) (ho₁ : e₁.order = 0x20)
    (ho₂ : e₂.order = 0x24) (he₁ : e₁ ∈ d) (he₂ : e₂ ∈ d) (hok : ∀ e ∈ d, e.Accepted) :
    SignedIn v s₆ d := by
  obtain ⟨hr₃, ha₃⟩ := userLogin_keeps h₃
  obtain ⟨hr₄, ha₄⟩ := autoCheckIn_keeps h₄
  obtain ⟨hr₅, ha₅⟩ := autoDownload_keeps h₅
  obtain ⟨hr₆, ha₆⟩ := autoSendData_keeps h₆
  obtain ⟨e, buf, he, hbuf, haddress⟩ := queryStatus_accepted h₁
  obtain ⟨e', buf', he', hbuf', hclock, ha₂⟩ := timeCheck_accepted h₂
  obtain rfl := hs₁.unique he
  obtain rfl := hs₂.unique he'
  refine ⟨hok, ⟨e, he₁, buf, ho₁, hbuf, fun i => ?_⟩,
    ⟨e', he₂, buf', s₁.said.length, s₁.rtc, ho₂, hbuf', ?_⟩⟩
  · rw [ha₆, ha₅, ha₄, ha₃, ha₂]
    exact haddress i
  · rw [hr₆, hr₅, hr₄, hr₃]
    exact hclock

/-- A round for the other cards. -/
lemma sztCheckIn_spoken (h : s.sztCheckIn v = some (c, s')) : ∃ d, Spoken s s' d ∧
    (c = 1 ∧ Round sztStages d ∧ SignedIn v s' d ∨ c = 0 ∧ Vain sztStages d) := by
  rw [sztCheckIn, Option.bind_eq_some_iff] at h
  obtain ⟨⟨flag1, s₁⟩, h₁, h⟩ := h
  obtain ⟨e₁, hs₁, ho₁, rfl⟩ := queryStatus_spoken h₁
  dsimp only at h
  split_ifs at h with hf₁
  · rw [Option.bind_eq_some_iff] at h
    obtain ⟨⟨flag2, s₂⟩, h₂, h⟩ := h
    obtain ⟨e₂, hs₂, ho₂, rfl⟩ := timeCheck_spoken h₂
    dsimp only at h
    rw [Option.bind_eq_some_iff] at h
    obtain ⟨⟨flag3, s₃⟩, h₃, h⟩ := h
    obtain ⟨e₃, hs₃, ho₃, rfl⟩ := userLogin_spoken h₃
    dsimp only at h
    have hboth : [e₂, e₃].map Said.order = [0x24, 0x40] := by
      rw [List.map_cons, List.map_singleton, ho₂, ho₃]
    split_ifs at h with hf₂₃
    · rw [Option.bind_eq_some_iff] at h
      obtain ⟨⟨flag4, s₄⟩, h₄, h⟩ := h
      obtain ⟨e₄, hs₄, ho₄, rfl⟩ := autoCheckIn_spoken h₄
      have hok₂₃ : ∀ e ∈ [e₂, e₃], e.Accepted :=
        List.forall_mem_cons.mpr ⟨hf₂₃.1, List.forall_mem_singleton.mpr hf₂₃.2⟩
      dsimp only at h
      split_ifs at h with hf₄
      · rw [Option.bind_eq_some_iff] at h
        obtain ⟨⟨flag5, s₅⟩, h₅, h⟩ := h
        obtain ⟨e₅, hs₅, ho₅, rfl⟩ := autoDownload_spoken h₅
        rw [Option.map_eq_some_iff] at h
        obtain ⟨⟨flag6, s₆⟩, h₆, h⟩ := h
        obtain ⟨e₆, hs₆, ho₆, rfl⟩ := autoSendData_spoken h₆
        have hlast : [e₅, e₆].map Said.order = [0x78, 0x78] := by
          rw [List.map_cons, List.map_singleton, ho₅, ho₆]
        have hspoken : Spoken s s₆ [e₁, e₂, e₃, e₄, e₅, e₆] :=
          hs₁.append (hs₂.append (hs₃.append (hs₄.append (hs₅.append hs₆))))
        dsimp only at h
        split_ifs at h with hf₅₆
        · cases h
          have hok₅₆ : ∀ e ∈ [e₅, e₆], e.Accepted :=
            List.forall_mem_cons.mpr ⟨hf₅₆.1, List.forall_mem_singleton.mpr hf₅₆.2⟩
          have hnil : Round [] [] := rfl
          refine ⟨_, hspoken, .inl ⟨rfl, .cons ho₁ hf₁ (.go_on (d := [e₂, e₃]) hboth hok₂₃
            (.cons ho₄ hf₄ (.go_on (d := [e₅, e₆]) hlast hok₅₆ hnil))), ?_⟩⟩
          rw [hf₁] at h₁
          rw [hf₂₃.1] at h₂
          refine signedIn_of_steps h₁ h₂ h₃ h₄ h₅ h₆ hs₁ hs₂ ho₁ ho₂ (by simp) (by simp) ?_
          intro e he
          simp only [List.mem_cons, List.not_mem_nil, or_false] at he
          rcases he with rfl | rfl | rfl | rfl | rfl | rfl
          exacts [hf₁, hf₂₃.1, hf₂₃.2, hf₄, hf₅₆.1, hf₅₆.2]
        · cases h
          have hnot : ∃ e ∈ [e₅, e₆], ¬ e.Accepted := by
            rcases not_and_or.mp hf₅₆ with hne | hne
            · exact ⟨e₅, by simp, hne⟩
            · exact ⟨e₆, by simp, hne⟩
          obtain ⟨e, he, hne⟩ := hnot
          exact ⟨_, hspoken, .inr ⟨rfl, .cons ho₁ hf₁ (.go_on (d := [e₂, e₃]) hboth hok₂₃
            (.cons ho₄ hf₄ (.stop hlast he hne))), e, List.mem_append_right [e₁, e₂, e₃, e₄] he,
              hne⟩⟩
      · cases h
        exact ⟨_, hs₁.append (hs₂.append (hs₃.append hs₄)), .inr ⟨rfl,
          .cons ho₁ hf₁ (.go_on (d := [e₂, e₃]) hboth hok₂₃ (.single ho₄ hf₄)), e₄, by simp, hf₄⟩⟩
    · cases h
      have hnot : ∃ e ∈ [e₂, e₃], ¬ e.Accepted := by
        rcases not_and_or.mp hf₂₃ with hne | hne
        · exact ⟨e₂, by simp, hne⟩
        · exact ⟨e₃, by simp, hne⟩
      obtain ⟨e, he, hne⟩ := hnot
      exact ⟨_, hs₁.append (hs₂.append hs₃), .inr ⟨rfl, .cons ho₁ hf₁ (.stop hboth he hne), e,
        List.mem_cons_of_mem _ he, hne⟩⟩
  · cases h
    exact ⟨[e₁], hs₁, .inr ⟨rfl, .single ho₁ hf₁⟩⟩

/-! ## The loops -/

/-- A round that has to be tried again has the flag 0. -/
def again (checkIn : Reader → Option (UInt8 × Reader)) (_ : ℕ) (s : Reader) :
    Reader ⊕ Option (UInt8 × Reader) :=
  match checkIn s with
  | none => .inr none
  | some r => if r.1 = 0 then .inl r.2 else .inr (some r)

variable {checkIn : Reader → Option (UInt8 × Reader)} {k : ℕ} {b : Bool}

lemma again_eq_inl_iff {i : ℕ} : again checkIn i s = .inl t ↔ checkIn s = some (0, t) := by
  rw [again]
  cases checkIn s with
  | none => simp
  | some r =>
    obtain ⟨c, u⟩ := r
    by_cases hc : c = 0 <;> simp [hc]

/-- A flag that is neither 0 nor 1 stays to the end. -/
lemma checkInLoop_of_ne (hzero : c ≠ 0) (hone : c ≠ 1) :
    checkInLoop checkIn k c s = some (false, s) := by
  induction k with
  | zero => rfl
  | succ k ih =>
    rw [checkInLoop, if_neg hzero, Option.bind_some]
    exact (if_neg hone).trans ih

/-- The rounds that are tried again, up to the end or to another round. -/
lemma checkInLoop_cases (h : checkInLoop checkIn k 0 s = some (b, s')) :
    (b = false ∧ Tried (again checkIn) 0 s k s') ∨
      ∃ j < k, ∃ t c, Tried (again checkIn) 0 s j t ∧ checkIn t = some (c, s') ∧ c ≠ 0 ∧
        b = decide (c = 1) := by
  -- the loop is a loop of attempts, whichever number the first of them has
  have hloop : ∀ i s, checkInLoop checkIn k 0 s =
      match attempts (again checkIn) k i s with
      | .inl t => some (false, t)
      | .inr r => r.map fun r => (decide (r.1 = 1), r.2) := by
    clear h
    induction k with
    | zero => exact fun i s => rfl
    | succ k ih =>
      intro i s
      rw [checkInLoop, if_pos rfl, attempts, again]
      cases checkIn s with
      | none => rfl
      | some r =>
        obtain ⟨c, u⟩ := r
        rw [Option.bind_some]
        dsimp only
        by_cases hzero : c = 0
        · subst hzero
          rw [if_neg (by decide), if_pos rfl]
          exact ih (i + 1) u
        · rw [if_neg hzero]
          by_cases hone : c = 1
          · rw [if_pos hone]
            simp [hone]
          · rw [if_neg hone, checkInLoop_of_ne hzero hone]
            simp [hone]
  rw [hloop 0 s] at h
  cases hatt : attempts (again checkIn) k 0 s with
  | inl t =>
    rw [hatt] at h
    cases h
    have htried := attempts_eq_inl_iff.mp hatt
    rw [Nat.zero_add] at htried
    exact .inl ⟨rfl, htried⟩
  | inr r =>
    rw [hatt] at h
    cases r with
    | none => cases h
    | some r =>
      obtain ⟨c, u⟩ := r
      cases h
      obtain ⟨j, hj, t, htried, hagain⟩ := attempts_eq_inr_iff.mp hatt
      rw [again] at hagain
      refine .inr ⟨j, by omega, t, c, htried, ?_⟩
      cases hcheck : checkIn t with
      | none => rw [hcheck] at hagain; cases hagain
      | some r =>
        rw [hcheck] at hagain
        dsimp only at hagain
        split_ifs at hagain with hzero
        cases hagain
        exact ⟨rfl, hzero, rfl⟩

/-- What is said in the rounds that are tried again. -/
lemma tried_spoken {P : List Said → Prop} {i j : ℕ}
    (hround : ∀ s s', checkIn s = some (0, s') → ∃ d, Spoken s s' d ∧ P d)
    (h : Tried (again checkIn) i s j t) :
    ∃ ds : List (List Said), ds.length = j - i ∧ Spoken s t ds.flatten ∧ ∀ d ∈ ds, P d := by
  induction h with
  | @refl i s => exact ⟨[], (Nat.sub_self i).symm, .nil s, by simp⟩
  | @cons i j s s' t hs htried ih =>
    obtain ⟨ds, hlen, hspoken, hall⟩ := ih
    obtain ⟨d, hd, hp⟩ := hround s s' (again_eq_inl_iff.mp hs)
    have hle := htried.le
    refine ⟨d :: ds, ?_, hd.append hspoken, List.forall_mem_cons.mpr ⟨hp, hall⟩⟩
    rw [List.length_cons, hlen]
    omega

/-! ## Every round comes to an end or not -/

lemma gpbocCheckIn_talks (v : ℕ → Turn) (s : Reader) : Talks v s (s.gpbocCheckIn v) := by
  rw [gpbocCheckIn]
  refine (Talks.command exchange_eq_none_iff fun _ _ => queryStatus_spoken).bind fun c₁ s₁ _ => ?_
  dsimp only
  split_ifs
  · refine (Talks.command exchange_eq_none_iff fun _ _ => gpbocInit_spoken).bind fun c₂ s₂ _ => ?_
    dsimp only
    split_ifs
    · refine (Talks.command exchange_eq_none_iff fun _ _ => gpbocSendData_spoken).bind
        fun c₃ s₃ _ => ?_
      dsimp only
      split_ifs
      · refine (Talks.command exchange_eq_none_iff fun _ _ => gpbocCheckOut_spoken).bind
          fun c₄ s₄ _ => ?_
        dsimp only
        split_ifs
        · exact .command exchange_eq_none_iff fun _ _ => gpbocInit_spoken
        · exact .pure 0
      · exact .pure 0
    · exact .pure 0
  · exact .pure 0

lemma sztCheckIn_talks (v : ℕ → Turn) (s : Reader) : Talks v s (s.sztCheckIn v) := by
  rw [sztCheckIn]
  refine (Talks.command exchange_eq_none_iff fun _ _ => queryStatus_spoken).bind fun c₁ s₁ _ => ?_
  dsimp only
  split_ifs
  · refine (Talks.command exchange_eq_none_iff fun _ _ => timeCheck_spoken).bind fun c₂ s₂ _ => ?_
    refine (Talks.command exchange_eq_none_iff fun _ _ => userLogin_spoken).bind fun c₃ s₃ _ => ?_
    dsimp only
    split_ifs
    · refine (Talks.command exchange_eq_none_iff fun _ _ => autoCheckIn_spoken).bind
        fun c₄ s₄ _ => ?_
      dsimp only
      split_ifs
      · refine (Talks.command exchange_eq_none_iff fun _ _ => autoDownload_spoken).bind
          fun c₅ s₅ _ => ?_
        exact (Talks.command exchange_eq_none_iff fun _ _ => autoSendData_spoken).map fun _ => rfl
      · exact .pure 0
    · exact .pure 0
  · exact .pure 0

lemma checkInLoop_talks (hround : ∀ s, Talks v s (checkIn s)) (k : ℕ) (c : UInt8) (s : Reader) :
    Talks v s (checkInLoop checkIn k c s) := by
  induction k generalizing c s with
  | zero => exact .pure false
  | succ k ih =>
    rw [checkInLoop]
    refine Talks.bind ?_ fun c t _ => ?_
    · split_ifs
      · exact hround s
      · exact .pure c
    · dsimp only
      split_ifs
      · exact .pure true
      · exact ih c t

/-! ## The whole dialogue -/

/-- A round for bank cards that is tried again: it stops early, or its last reply is missing or has
status 0xff. -/
structure GpbocVain (d : List Said) : Prop extends Vain gpbocStages d where
  last : ∀ e, d[4]? = some e → e.flag = 0

/-- A round whose commands are all sent and accepted. -/
structure Whole (stages : List (List UInt8)) (d : List Said) : Prop where
  round : Round stages d
  accepted : ∀ e ∈ d, e.Accepted

/-- How `Szt_GpbocAutoCheckIn` ends, by the rounds `g` for bank cards and `z` for the others: behind
rounds in vain, a whole round for each; or 1001 rounds in vain; or a round for bank cards that is
refused at its end, with which nothing is said any more. -/
inductive Outcome (v : ℕ → Turn) (s' : Reader) :
    Bool → List (List Said) → List (List Said) → Prop
  | signedIn (gs : List (List Said)) (g : List Said) (zs : List (List Said)) (z : List Said)
      (gpboc : gs.length ≤ 1000) (gpbocVain : ∀ d ∈ gs, GpbocVain d) (whole : Whole gpbocStages g)
      (szt : zs.length ≤ 1000) (sztVain : ∀ d ∈ zs, Vain sztStages d) (round : Round sztStages z)
      (signed : SignedIn v s' z) : Outcome v s' true (gs ++ [g]) (zs ++ [z])
  | gpbocVain (gs : List (List Said)) (length : gs.length = 1001)
      (vain : ∀ d ∈ gs, GpbocVain d) : Outcome v s' false gs []
  | gpbocRefused (gs : List (List Said)) (g : List Said) (e : Said) (gpboc : gs.length ≤ 1000)
      (vain : ∀ d ∈ gs, GpbocVain d) (round : Round gpbocStages g) (last : g[4]? = some e)
      (zero : e.flag ≠ 0) (refused : ¬ e.Accepted) : Outcome v s' false (gs ++ [g]) []
  | sztVain (gs : List (List Said)) (g : List Said) (zs : List (List Said))
      (gpboc : gs.length ≤ 1000) (gpbocVain : ∀ d ∈ gs, GpbocVain d) (whole : Whole gpbocStages g)
      (length : zs.length = 1001) (vain : ∀ d ∈ zs, Vain sztStages d) :
      Outcome v s' false (gs ++ [g]) zs

lemma gpbocCheckIn_vain (h : s.gpbocCheckIn v = some (0, s')) :
    ∃ d, Spoken s s' d ∧ GpbocVain d := by
  obtain ⟨d, hd, ⟨-, hlt, hvain⟩ | ⟨before, e, rfl, hlen, hround, hok, hc⟩⟩ := gpbocCheckIn_spoken h
  · refine ⟨d, hd, hvain, fun e he => ?_⟩
    rw [List.getElem?_eq_none (Nat.le_of_lt_succ hlt)] at he
    cases he
  · have hget : (before ++ [e])[4]? = some e := by
      rw [List.getElem?_append_right (Nat.le_of_eq hlen), hlen]
      rfl
    have hne : ¬ e.Accepted := by
      rw [Said.Accepted, ← hc]
      decide
    refine ⟨_, hd, ⟨hround, e, List.mem_append_right _ (List.mem_singleton_self e), hne⟩, ?_⟩
    intro e' he'
    rw [hget] at he'
    cases he'
    exact hc.symm

/-- The rounds for bank cards. -/
lemma gpboc_loop (h : checkInLoop (gpbocCheckIn v) 1001 0 s = some (b, s')) :
    ∃ g : List (List Said), Spoken s s' g.flatten ∧
      (b = true ∧ (∃ gs d, g = gs ++ [d] ∧ gs.length ≤ 1000 ∧ (∀ d ∈ gs, GpbocVain d) ∧
          Whole gpbocStages d) ∨
        b = false ∧ Outcome v s' false g []) := by
  rcases checkInLoop_cases h with ⟨rfl, htried⟩ | ⟨j, hj, t, c, htried, hlast, hzero, rfl⟩
  · obtain ⟨gs, hlen, hspoken, hvain⟩ := tried_spoken (fun s s' => gpbocCheckIn_vain) htried
    exact ⟨gs, hspoken, .inr ⟨rfl, .gpbocVain gs hlen hvain⟩⟩
  · obtain ⟨gs, hlen, hspoken, hvain⟩ := tried_spoken (fun s s' => gpbocCheckIn_vain) htried
    obtain ⟨d, hd, ⟨hc, -⟩ | ⟨before, e, rfl, hlen', hround, hok, rfl⟩⟩ := gpbocCheckIn_spoken hlast
    · exact absurd hc hzero
    · have hflat : Spoken s s' (gs ++ [before ++ [e]]).flatten := by
        rw [List.flatten_append, List.flatten_singleton]
        exact hspoken.append hd
      refine ⟨_, hflat, ?_⟩
      by_cases hone : e.flag = 1
      · refine .inl ⟨decide_eq_true hone, gs, _, rfl, by omega, hvain, hround, fun e' he' => ?_⟩
        rcases List.mem_append.mp he' with he' | he'
        · exact hok e' he'
        · exact List.mem_singleton.mp he' ▸ hone
      · refine .inr ⟨decide_eq_false hone, .gpbocRefused gs _ e (by omega) hvain hround ?_ hzero
          hone⟩
        rw [List.getElem?_append_right (Nat.le_of_eq hlen'), hlen']
        rfl

/-- The rounds for the other cards. -/
lemma szt_loop (h : checkInLoop (sztCheckIn v) 1001 0 s = some (b, s')) :
    ∃ z : List (List Said), Spoken s s' z.flatten ∧
      (b = true ∧ (∃ zs d, z = zs ++ [d] ∧ zs.length ≤ 1000 ∧ (∀ d ∈ zs, Vain sztStages d) ∧
          Round sztStages d ∧ SignedIn v s' d) ∨
        b = false ∧ z.length = 1001 ∧ ∀ d ∈ z, Vain sztStages d) := by
  have hvain : ∀ s s', sztCheckIn v s = some (0, s') → ∃ d, Spoken s s' d ∧ Vain sztStages d := by
    intro s s' h
    obtain ⟨d, hd, ⟨hc, -⟩ | ⟨-, hd'⟩⟩ := sztCheckIn_spoken h
    · exact absurd hc (by decide)
    · exact ⟨d, hd, hd'⟩
  rcases checkInLoop_cases h with ⟨rfl, htried⟩ | ⟨j, hj, t, c, htried, hlast, hzero, rfl⟩
  · obtain ⟨zs, hlen, hspoken, hall⟩ := tried_spoken hvain htried
    exact ⟨zs, hspoken, .inr ⟨rfl, hlen, hall⟩⟩
  · obtain ⟨zs, hlen, hspoken, hall⟩ := tried_spoken hvain htried
    obtain ⟨d, hd, ⟨rfl, hround, hsigned⟩ | ⟨rfl, -⟩⟩ := sztCheckIn_spoken hlast
    · refine ⟨zs ++ [d], ?_, .inl ⟨rfl, zs, d, rfl, by omega, hall, hround, hsigned⟩⟩
      rw [List.flatten_append, List.flatten_singleton]
      exact hspoken.append hd
    · exact absurd rfl hzero

end Reader

/-- Signing in comes to an end or not. -/
lemma Reader.sztGpbocAutoCheckIn_talks (v : ℕ → Turn) (s : Reader) :
    Talks v s (s.sztGpbocAutoCheckIn v) := by
  refine (checkInLoop_talks (gpbocCheckIn_talks v) 1001 0 s).bind fun done t _ => ?_
  dsimp only
  split_ifs
  · exact checkInLoop_talks (sztCheckIn_talks v) 1001 0 t
  · exact .pure false

/-- What is said is rounds, if signing in comes to an end. -/
lemma Reader.sztGpbocAutoCheckIn_rounds {v : ℕ → Turn} {s s' : Reader} {b : Bool}
    (h : s.sztGpbocAutoCheckIn v = some (b, s')) :
    ∃ g z, Spoken s s' (g.flatten ++ z.flatten) ∧ Outcome v s' b g z := by
  rw [sztGpbocAutoCheckIn, Option.bind_eq_some_iff] at h
  obtain ⟨⟨done, t⟩, hgpboc, h⟩ := h
  obtain ⟨g, hg, ⟨rfl, gs, d, rfl, hlen, hvain, hwhole⟩ | ⟨rfl, hout⟩⟩ := gpboc_loop hgpboc
  · obtain ⟨z, hz, ⟨rfl, zs, d', rfl, hlen', hvain', hround, hsigned⟩ | ⟨rfl, hlen', hvain'⟩⟩ :=
      szt_loop h
    · exact ⟨_, _, hg.append hz,
        .signedIn gs d zs d' hlen hvain hwhole hlen' hvain' hround hsigned⟩
    · exact ⟨_, z, hg.append hz, .sztVain gs d z hlen hvain hwhole hlen' hvain'⟩
  · cases h
    refine ⟨g, [], ?_, hout⟩
    rwa [List.flatten_nil, List.append_nil]

/-- A reply of the type `type` with status 0. -/
def accepting (type : UInt8) (payload : List UInt8) : Turn :=
  let data := [0x05, 0x01, 0x02, 0x03, 0x04, 0x06, 0xff, 0xff, 0xff, 0xff, 0x01, type, 0x00, 0x01,
    0x00, 0x01, 0x00] ++ payload
  { data := fun _ => 0
    answer := .early ([0x00, 0x00, 0xff, 0x00, 0xff, 0x00, 0x00, 0x00, 0xff, 0x00,
      UInt8.ofNat data.length] ++ data ++ [0 - data.sum, 0x00])
    time := ⟨true, true⟩
    date := ⟨true, true⟩ }

/-- Everything is accepted; the clock of the reader says 12:30:00 on Tuesday, 6 May. -/
def acceptingAll (k : ℕ) : Turn :=
  match k with
  | 0 | 5 => accepting 0x21 []
  | 1 | 4 => accepting 0xc3 []
  | 2 => accepting 0xcb []
  | 3 => accepting 0xcd []
  | 6 => accepting 0x25 [0x20, 0x14, 0x05, 0x06, 0x12, 0x30, 0x00, 0x02]
  | 7 => accepting 0x41 []
  | _ => accepting 0x79 []

/-- The program before it signs in. -/
def Reader.start : Reader where
  uart := ⟨fun _ => 0, 0, false, false, .normalFlag⟩
  send := ⟨fun _ => 0, fun _ => 0, 0, 0, ![0x00, 0x01, 0x23], fun _ => 0, 0, ⟨.zero, 0⟩, fun _ => 0⟩
  gpbocSendDataParameter := fun _ => 0
  gpbocCheckOutParameter := fun _ => 0
  tmp := .init
  rtc := ⟨0, 0, 0⟩
  said := []

namespace Reader

/-- The digits of a reply to the time check. -/
def stamp (printBuf2 : ℕ → UInt8) : Stamp where
  year := printBuf2 29
  month := printBuf2 30
  date := printBuf2 31
  hours := printBuf2 32
  minutes := printBuf2 33
  senconds := printBuf2 34
  weekDay := bcdToDec (printBuf2 35)

lemma bcdToDec_eq (b : UInt8) : (bcdToDec b).toUInt32 = Net.digits b := by
  revert b
  refine forall_byte ?_
  decide +kernel

lemma of_timeCheckTmp (buf : ℕ → UInt8) : (timeCheckTmp buf).Of (stamp buf) where
  yy := bcdToDec_eq _
  m2 := bcdToDec_eq _
  dd := bcdToDec_eq _
  ww := by
    rw [timeCheckTmp, UInt8.toUInt8_toUInt32]
    rfl
  hh := bcdToDec_eq _
  mm := bcdToDec_eq _
  ss := bcdToDec_eq _

/-- The commands of a whole round. -/
lemma Whole.map_order {stages : List (List UInt8)} {d : List Said} (h : Whole stages d) :
    d.map Said.order = stages.flatten :=
  Dialogue.map_eq_of_ok h.round h.accepted

/-- In a whole round the clock is asked for once. -/
lemma Whole.timeCheck {d : List Said} {e : Said} (h : Whole sztStages d) (he : e ∈ d)
    (ho : e.order = 0x24) : ∃ before after, d = before ++ e :: after ∧
      ∀ e' ∈ after, e'.order ≠ 0x24 := by
  obtain ⟨before, after, rfl⟩ := List.append_of_mem he
  have hmap := h.map_order
  rw [List.map_append, List.map_cons, ho] at hmap
  refine ⟨before, after, rfl, fun e' he' ho' => ?_⟩
  have hcount := congrArg (List.count 0x24) hmap
  have hpos : 0 < (after.map Said.order).count 0x24 :=
    List.count_pos_iff.mpr (List.mem_map.mpr ⟨e', he', ho'⟩)
  rw [List.count_append, List.count_cons_self] at hcount
  have hone : sztStages.flatten.count 0x24 = 1 := by decide
  omega

end Reader

/-- Once `Szt_GpbocAutoCheckIn` has signed in, the clock is set from the last reply to a time check,
and the serial number of what is sent next has the digits of this reply exactly if they fit. -/
theorem sztGpbocAutoCheckIn_clock (v : ℕ → Turn)
    (hv : ∀ k, (v k).time.init = true ∧ (v k).date.init = true) (s s' : Reader)
    (h : s.sztGpbocAutoCheckIn v = some (true, s')) :
    ∃ before e after buf, s'.said = s.said ++ before ++ e :: after ∧ e.order = 0x24 ∧
      (∀ e' ∈ after, e'.order ≠ 0x24) ∧ e.reply = some buf ∧
      ∀ u : Net, ((u.getBRWN s'.rtc.timeShow.toStructTD).bytes .brwn).drop 3 =
        [0x20, buf 29, buf 30, buf 31, buf 32, buf 33, buf 34] ↔ (Reader.stamp buf).Fits := by
  rw [Reader.sztGpbocAutoCheckIn, Option.bind_eq_some_iff] at h
  obtain ⟨⟨done, t⟩, hgpboc, h⟩ := h
  obtain ⟨g, hg, ⟨rfl, -⟩ | ⟨rfl, -⟩⟩ := Reader.gpboc_loop hgpboc
  · obtain ⟨z, hz, ⟨-, zs, d, rfl, -, -, hround, hsigned⟩ | ⟨hfalse, -⟩⟩ := Reader.szt_loop h
    · obtain ⟨e, he, buf, k, r, ho, hbuf, hclock⟩ := hsigned.clock
      obtain ⟨before, after, hd, hafter⟩ :=
        Reader.Whole.timeCheck ⟨hround, hsigned.accepted⟩ he ho
      refine ⟨g.flatten ++ (zs.flatten ++ before), e, after, buf, ?_, ho, hafter, hbuf, ?_⟩
      · rw [hz.said, hg.said, List.flatten_append, List.flatten_singleton, hd]
        simp only [List.append_assoc]
      · intro u
        rw [hclock]
        exact Rtc.serial_timeRegulate r (hv k).1 (hv k).2 (Reader.of_timeCheckTmp buf) u
    · cases hfalse
  · cases h

theorem sztGpbocAutoCheckIn_clock_accepting : ∃ s' e buf,
    Reader.start.sztGpbocAutoCheckIn acceptingAll = some (true, s') ∧ e ∈ s'.said ∧
      e.order = 0x24 ∧ e.reply = some buf ∧
      ∀ u : Net, ((u.getBRWN s'.rtc.timeShow.toStructTD).bytes .brwn).drop 3 =
        [0x20, buf 29, buf 30, buf 31, buf 32, buf 33, buf 34] ↔ (Reader.stamp buf).Fits := by
  have hfst : (Reader.start.sztGpbocAutoCheckIn acceptingAll).map Prod.fst = some true := by
    decide +kernel
  rw [Option.map_eq_some_iff] at hfst
  obtain ⟨⟨b, s'⟩, h, rfl⟩ := hfst
  have hinit : ∀ k, (acceptingAll k).time.init = true ∧ (acceptingAll k).date.init = true := by
    intro k
    unfold acceptingAll
    split <;> exact ⟨rfl, rfl⟩
  obtain ⟨before, e, after, buf, hsaid, ho, -, hbuf, hserial⟩ :=
    sztGpbocAutoCheckIn_clock acceptingAll hinit Reader.start s' h
  refine ⟨s', e, buf, h, ?_, ho, hbuf, hserial⟩
  rw [hsaid]
  exact List.mem_append_right _ List.mem_cons_self

end MealVendor
