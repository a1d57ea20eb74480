import MealVendor.Card.Resend
import MealVendor.Lib.Blocks
import MealVendor.Model.CardFile

/-!
# One file is sent again

`Fread` moves `Index` behind the record that it reads, so the flag is written 345 bytes before it,
and the end of the file is where `Index` comes to stand behind it.  With these two the bytes of the
file are read and written as its records.
-/

namespace MealVendor

/-- The record is still to be reported. -/
def toReport (p : List UInt8) : Bool := p.getD 167 0 == charN

/-- The records that are still to be reported, in the order of the file. -/
def pending (rs : List (List UInt8)) : List (List UInt8) := rs.filter toReport

/-- Of the records that are still to be reported, the first `a` were sent and accepted, and the next
one, if there is one, was sent and refused.  `rs'` is what became of the file. -/
structure Resends (results : ℕ → UInt8) (rs rs' : List (List UInt8)) (sent : List (List UInt8))
    (b : Bool) (a : ℕ) : Prop where
  le : a ≤ (pending rs).length
  accepted : ∀ i < a, results i = 0
  refused : a < (pending rs).length → results a ≠ 0
  sent : sent = (pending rs).take (a + 1)
  returns : b = true ↔ a = (pending rs).length
  length : rs'.length = rs.length
  marked : ∀ k p, rs[k]? = some p → rs'[k]? =
    some (if toReport p = true ∧ (rs.take k).countP toReport < a then p.set 167 charY else p)

namespace Resends

variable {results : ℕ → UInt8} {rs rs' sent : List (List UInt8)} {p : List UInt8} {b : Bool} {a : ℕ}

lemma nil : Resends results [] [] [] true 0 where
  le := le_rfl
  accepted := by simp
  refused := by simp [pending]
  sent := by simp [pending]
  returns := by simp [pending]
  length := rfl
  marked := by simp

lemma skip (hp : toReport p = false) (h : Resends results rs rs' sent b a) :
    Resends results (p :: rs) (p :: rs') sent b a := by
  have hpending : pending (p :: rs) = pending rs := by simp [pending, hp]
  refine ⟨hpending ▸ h.le, h.accepted, hpending ▸ h.refused, hpending ▸ h.sent,
    hpending ▸ h.returns, by rw [List.length_cons, List.length_cons, h.length], fun k q hk => ?_⟩
  cases k with
  | zero =>
    obtain rfl : p = q := by simpa using hk
    simp [hp]
  | succ k =>
    rw [List.take_succ_cons, List.countP_cons_of_neg (by simp [hp])]
    exact h.marked k q hk

lemma refuse (hp : toReport p = true) (h : results 0 ≠ 0) :
    Resends results (p :: rs) (p :: rs) [p] false 0 := by
  have hpending : pending (p :: rs) = p :: pending rs := by simp [pending, hp]
  refine ⟨Nat.zero_le _, by simp, fun _ => h, by simp [hpending], by simp [hpending], rfl,
    fun k q hk => ?_⟩
  simp [hk]

/-- The next results are those behind the first one. -/
lemma accept (hp : toReport p = true) (h0 : results 0 = 0)
    (h : Resends (fun i => results (i + 1)) rs rs' sent b a) :
    Resends results (p :: rs) (p.set 167 charY :: rs') (p :: sent) b (a + 1) := by
  have hpending : pending (p :: rs) = p :: pending rs := by simp [pending, hp]
  refine ⟨?_, fun i hi => ?_, fun hlt => ?_, ?_, ?_, ?_, fun k q hk => ?_⟩
  · rw [hpending]
    exact Nat.succ_le_succ h.le
  · cases i with
    | zero => exact h0
    | succ i => exact h.accepted i (Nat.succ_lt_succ_iff.mp hi)
  · rw [hpending] at hlt
    exact h.refused (Nat.succ_lt_succ_iff.mp hlt)
  · rw [hpending, List.take_succ_cons, h.sent]
  · rw [hpending, h.returns, List.length_cons, Nat.succ_inj]
  · rw [List.length_cons, List.length_cons, h.length]
  · cases k with
    | zero =>
      obtain rfl : p = q := by simpa using hk
      simp [hp]
    | succ k =>
      rw [List.take_succ_cons, List.countP_cons_of_pos hp]
      simp only [Nat.succ_lt_succ_iff]
      exact h.marked k q hk

end Resends

namespace CardFile

variable {onCard : ℕ → UInt8} {s : CardFile} {pre post : List (List UInt8)} {p : List UInt8}

/-- The pointer is set inside of the file. -/
lemma fLseek_of_le {f : Fil} {ofs : ℕ} (h : ofs ≤ f.fsize) :
    f.fLseek onCard ofs = ⟨f.data, ofs⟩ := by
  rw [Fil.fLseek, Nat.sub_eq_zero_of_le h]
  simp

/-- `Fread` where `Index` is inside of the file. -/
lemma fread_of_le (h : s.index ≤ s.fsrc.fsize) : s.fread onCard =
    (if s.fsrc.fsize < s.index + 512 then 1 else 0,
      { s with
        fsrc := Fil.fRead 512 ⟨s.fsrc.data, s.index⟩
        readSdBuff := overwrite s.readSdBuff 0 ((s.fsrc.data.drop s.index).take 512)
        index := s.index + 512 }) := by
  have hseek : s.fsrc.fOpen.fLseek onCard s.index = ⟨s.fsrc.data, s.index⟩ := fLseek_of_le h
  rw [fread, hseek]
  rfl

lemma fsize_of_flatten (hdata : s.fsrc.data = (pre ++ p :: post).flatten)
    (hlen : ∀ q ∈ pre ++ p :: post, q.length = 512) :
    s.fsrc.fsize = 512 * (pre.length + post.length + 1) := by
  rw [Fil.fsize, hdata, Lib.length_flatten hlen, List.length_append, List.length_cons]
  rfl

/-- A record is read into `ReadSdBuff`. -/
lemma fread_record (onCard : ℕ → UInt8) (hdata : s.fsrc.data = (pre ++ p :: post).flatten)
    (hlen : ∀ q ∈ pre ++ p :: post, q.length = 512) (hindex : s.index = 512 * pre.length) :
    (s.fread onCard).1 = 0 ∧ (s.fread onCard).2.fsrc.data = s.fsrc.data ∧
      (s.fread onCard).2.index = 512 * (pre.length + 1) ∧ (s.fread onCard).2.block = p ∧
      (s.fread onCard).2.sent = s.sent := by
  have hpre : ∀ q ∈ pre, q.length = 512 := fun q hq => hlen q (List.mem_append_left _ hq)
  have hp : p.length = 512 := hlen p (by simp)
  have hsize := fsize_of_flatten hdata hlen
  rw [fread_of_le (by omega)]
  refine ⟨if_neg (by omega), rfl, ?_, ?_, rfl⟩
  · show s.index + 512 = _
    omega
  · have hread : (s.fsrc.data.drop s.index).take 512 = p := by
      rw [hdata, hindex]
      exact Lib.take_drop_flatten hpre hp
    have hblock := map_range_overwrite s.readSdBuff 0 p
    rw [hp] at hblock
    show (List.range 512).map (overwrite s.readSdBuff 0 ((s.fsrc.data.drop s.index).take 512)) = p
    rw [hread]
    exact hblock

/-- At the end of the file `Index` comes to stand behind it. -/
lemma fread_end (onCard : ℕ → UInt8) (hdata : s.fsrc.data = pre.flatten)
    (hlen : ∀ q ∈ pre, q.length = 512) (hindex : s.index = 512 * pre.length) :
    (s.fread onCard).1 = 1 ∧ (s.fread onCard).2.fsrc.data = s.fsrc.data ∧
      (s.fread onCard).2.sent = s.sent := by
  have hsize : s.fsrc.fsize = s.index := by
    rw [Fil.fsize, hdata, Lib.length_flatten hlen, hindex]
  rw [fread_of_le hsize.ge]
  exact ⟨if_pos (by omega), rfl, rfl⟩

/-- One byte inside of the file is overwritten. -/
lemma fWrite_singleton {f : Fil} (b : UInt8) (h : f.fptr < f.fsize) :
    (f.fWrite [b]).data = f.data.set f.fptr b := by
  rw [List.set_eq_take_append_cons_drop, if_pos (show f.fptr < f.data.length from h), Fil.fWrite]
  simp

/-- The flag that is written is that of the record behind `pre`. -/
lemma writeFlag_record (hdata : s.fsrc.data = (pre ++ p :: post).flatten)
    (hlen : ∀ q ∈ pre ++ p :: post, q.length = 512) (hindex : s.index = 512 * (pre.length + 1)) :
    (s.writeFlag onCard).fsrc.data = (pre ++ p.set 167 charY :: post).flatten := by
  have hpre : ∀ q ∈ pre, q.length = 512 := fun q hq => hlen q (List.mem_append_left _ hq)
  have hp : p.length = 512 := hlen p (by simp)
  have hsize := fsize_of_flatten hdata hlen
  have hplace : s.index - 512 + 167 = 512 * pre.length + 167 := by omega
  have hlt : 512 * pre.length + 167 < s.fsrc.fsize := by omega
  rw [writeFlag, hplace, fLseek_of_le hlt.le]
  refine (fWrite_singleton charY hlt).trans ?_
  show s.fsrc.data.set _ _ = _
  rw [hdata]
  exact Lib.set_flatten hpre (by omega) charY

/-! ## Rounds -/

/-- The state behind the reading of a record. -/
def looked (onCard : ℕ → UInt8) (s : CardFile) (flag : UInt8) : CardFile :=
  { (s.fread onCard).2 with readBuf := overwrite (s.fread onCard).2.readBuf 0 [flag] }

/-- The state behind a call of `TakeMealsFun1`. -/
def handed (onCard : ℕ → UInt8) (s : CardFile) (flag : UInt8) : CardFile :=
  { s.looked onCard flag with
    sent := (s.fread onCard).2.sent ++ [(s.fread onCard).2.block] }

/-- A round that reads a record with its flag. -/
lemma readDatatoBufferFrom_record (results : ℕ → UInt8) (times : ℕ) {flag : UInt8}
    (hgo : (s.fread onCard).1 = 0)
    (hflag : searchSeparator (s.fread onCard).2.block 18 = some [flag]) :
    s.readDatatoBufferFrom onCard results (times + 1) =
      if flag = charN then
        if results (s.fread onCard).2.sent.length = 0 then
          readDatatoBufferFrom onCard results times ((s.handed onCard flag).writeFlag onCard)
        else some (false, s.handed onCard flag)
      else readDatatoBufferFrom onCard results times (s.looked onCard flag) := by
  rw [readDatatoBufferFrom]
  dsimp only
  rw [if_neg (by rw [hgo]; decide), hflag, Option.bind_some]
  rfl

/-- What is sent and marked from the record behind `pre` on. -/
def ResendsFrom (onCard results : ℕ → UInt8) (times : ℕ) (pre post : List (List UInt8))
    (s : CardFile) : Prop :=
  ∃ b s' post' sent a, s.readDatatoBufferFrom onCard results times = some (b, s') ∧
    s'.fsrc.data = (pre ++ post').flatten ∧ s'.sent = s.sent ++ sent ∧
    Resends (fun i => results (s.sent.length + i)) post post' sent b a

section Round

variable {results : ℕ → UInt8} {times : ℕ} {u : CardFile}

/-- The record was left as it is. -/
lemma ResendsFrom.skip (hp : toReport p = false)
    (hrun : s.readDatatoBufferFrom onCard results (times + 1) =
      u.readDatatoBufferFrom onCard results times) (hsent : u.sent = s.sent)
    (h : u.ResendsFrom onCard results times (pre ++ [p]) post) :
    s.ResendsFrom onCard results (times + 1) pre (p :: post) := by
  obtain ⟨b, s', post', sent, a, hrun', hfile, hsent', hres⟩ := h
  rw [List.append_assoc, List.singleton_append] at hfile
  rw [hsent] at hsent' hres
  exact ⟨b, s', p :: post', sent, a, hrun.trans hrun', hfile, hsent', hres.skip hp⟩

/-- The record was sent, accepted and marked. -/
lemma ResendsFrom.accept (hp : toReport p = true)
    (hrun : s.readDatatoBufferFrom onCard results (times + 1) =
      u.readDatatoBufferFrom onCard results times) (hsent : u.sent = s.sent ++ [p])
    (hresult : results s.sent.length = 0)
    (h : u.ResendsFrom onCard results times (pre ++ [p.set 167 charY]) post) :
    s.ResendsFrom onCard results (times + 1) pre (p :: post) := by
  obtain ⟨b, s', post', sent, a, hrun', hfile, hsent', hres⟩ := h
  have hshift : ∀ i, u.sent.length + i = s.sent.length + (i + 1) := by
    intro i
    rw [hsent, List.length_append, List.length_singleton]
    omega
  simp only [hshift] at hres
  rw [List.append_assoc, List.singleton_append] at hfile
  rw [hsent, List.append_assoc, List.singleton_append] at hsent'
  exact ⟨b, s', _, _, a + 1, hrun.trans hrun', hfile, hsent', .accept hp hresult hres⟩

/-- The record was sent and refused. -/
lemma ResendsFrom.refuse (hp : toReport p = true)
    (hrun : s.readDatatoBufferFrom onCard results times = some (false, u))
    (hdata : u.fsrc.data = (pre ++ p :: post).flatten) (hsent : u.sent = s.sent ++ [p])
    (hresult : results s.sent.length ≠ 0) :
    s.ResendsFrom onCard results times pre (p :: post) :=
  ⟨false, u, p :: post, [p], 0, hrun, hdata, hsent, .refuse hp hresult⟩

end Round

/-- From the record behind `pre` on, with enough rounds to go. -/
lemma readDatatoBufferFrom_spec (onCard results : ℕ → UInt8) {times : ℕ}
    (htimes : post.length ≤ times) (hdata : s.fsrc.data = (pre ++ post).flatten)
    (hpre : ∀ q ∈ pre, q.length = 512) (hpost : ∀ q ∈ post, Stored q)
    (hindex : s.index = 512 * pre.length) : s.ResendsFrom onCard results times pre post := by
  induction post generalizing times pre s with
  | nil =>
    rw [List.append_nil] at hdata
    cases times with
    | zero => exact ⟨true, s, [], [], 0, rfl, by simpa using hdata, by simp, .nil⟩
    | succ times =>
      obtain ⟨hend, hsame, hsent⟩ := fread_end onCard hdata hpre hindex
      refine ⟨true, (s.fread onCard).2, [], [], 0, ?_, ?_, by simpa using hsent, .nil⟩
      · rw [readDatatoBufferFrom]
        exact if_pos hend
      · rw [List.append_nil, hsame, hdata]
  | cons p post ih =>
    obtain ⟨times, rfl⟩ := Nat.exists_eq_add_of_le'
      ((Nat.succ_le_succ post.length.zero_le).trans htimes)
    have htimes' : post.length ≤ times := by simpa using htimes
    rw [List.forall_mem_cons] at hpost
    have hlen : ∀ q ∈ pre ++ p :: post, q.length = 512 := by
      rw [List.forall_mem_append, List.forall_mem_cons]
      exact ⟨hpre, hpost.1.length_eq, fun q hq => (hpost.2 q hq).length_eq⟩
    obtain ⟨hgo, hsame, hnext, hblock, hsent⟩ := fread_record onCard hdata hlen hindex
    have hflag : searchSeparator (s.fread onCard).2.block 18 = some [p.getD 167 0] := by
      rw [hblock]
      exact hpost.1.searchSeparator_eq
    have hrun := readDatatoBufferFrom_record results times hgo hflag
    have hkept : (s.looked onCard (p.getD 167 0)).fsrc.data = (pre ++ p :: post).flatten :=
      hsame.trans hdata
    -- the rounds that follow, with `x` in the place of the record
    have hrest : ∀ (x : List UInt8) (u : CardFile), x.length = 512 →
        u.index = (s.fread onCard).2.index → u.fsrc.data = (pre ++ x :: post).flatten →
          u.ResendsFrom onCard results times (pre ++ [x]) post := by
      intro x u hx hu hfile
      refine ih htimes' ?_ ?_ hpost.2 ?_
      · rw [hfile, List.append_assoc, List.singleton_append]
      · rw [List.forall_mem_append, List.forall_mem_singleton]
        exact ⟨hpre, hx⟩
      · rw [hu, hnext, List.length_append, List.length_singleton]
    by_cases hp : p.getD 167 0 = charN
    · have hreport : toReport p = true := by simpa [toReport] using hp
      have hhanded : (s.handed onCard (p.getD 167 0)).sent = s.sent ++ [p] := by
        rw [← hblock, ← hsent]
        rfl
      rw [if_pos hp, hsent] at hrun
      by_cases hresult : results s.sent.length = 0
      · rw [if_pos hresult] at hrun
        refine .accept hreport hrun hhanded hresult (hrest _ _ ?_ rfl ?_)
        · rw [List.length_set, hpost.1.length_eq]
        · exact writeFlag_record hkept hlen hnext
      · rw [if_neg hresult] at hrun
        exact .refuse hreport hrun hkept hhanded hresult
    · -- a record with another flag is left as it is
      rw [if_neg hp] at hrun
      refine .skip ?_ hrun hsent (hrest p _ hpost.1.length_eq rfl hkept)
      simpa [toReport] using hp

/-- In a file of at most 1000 records the records still to be reported are sent in their order, each
once, up to the first that is refused; those that were accepted are marked and nothing else is
changed. -/
theorem resends (onCard results : ℕ → UInt8) (s : CardFile) (rs : List (List UInt8))
    (hstored : ∀ p ∈ rs, Stored p) (hlen : rs.length ≤ 1000) (hdata : s.fsrc.data = rs.flatten)
    (hindex : s.index = 0) (hsent : s.sent = []) :
    ∃ b s' rs' a, s.readDatatoBuffer onCard results = some (b, s') ∧
      s'.fsrc.data = rs'.flatten ∧ Resends results rs rs' s'.sent b a := by
  have hdata' : s.fsrc.data = ([] ++ rs).flatten := hdata
  obtain ⟨b, s', rs', sent, a, hrun, hfile, hsent', hres⟩ :=
    readDatatoBufferFrom_spec onCard results hlen hdata' (by simp) hstored hindex
  rw [hsent, List.nil_append] at hsent'
  simp only [hsent, List.length_nil, Nat.zero_add, ← hsent'] at hres
  exact ⟨b, s', rs', a, hrun, hfile, hres⟩

/-- Two records, of which the server accepts the first and refuses the second. -/
theorem resends_two : ∃ b s' rs' a,
    readDatatoBuffer (fun _ => 0xff) (fun k => if k = 0 then 0 else 1)
      ⟨⟨[firstRecord, firstRecord].flatten, 0⟩, 0, fun _ => 0, fun _ => 0, []⟩ = some (b, s') ∧
    s'.fsrc.data = rs'.flatten ∧
      Resends (fun k => if k = 0 then 0 else 1) [firstRecord, firstRecord] rs' s'.sent b a :=
  resends _ _ _ _ (by simpa using stored_firstRecord) (by simp) rfl rfl rfl

end CardFile

/-! ## Records stand for their bytes -/

namespace Card

variable {airs : ℕ → Air} {name : List UInt8} {times : ℕ} {c c' : Card} {b : Bool}

/-- No call is forgotten. -/
lemma calls_grow (h : c.readDatatoBufferFrom airs name times = some (b, c')) :
    c.calls <+: c'.calls := by
  induction times generalizing c with
  | zero =>
    cases h
    exact List.prefix_rfl
  | succ times ih =>
    have hread := c.fread_calls name
    rcases readDatatoBufferFrom_succ h with ⟨-, -, rfl⟩ |
      ⟨-, n, -, ⟨-, h⟩ | ⟨-, i, n', -, ⟨-, h⟩ | ⟨-, -, rfl⟩⟩⟩
    · rw [hread]
    · have hprefix := ih h
      rwa [← hread]
    · exact (List.prefix_append ..).trans (ih h)
    · exact List.prefix_append ..

/-- The bytes are those of the records, and `Index` is that of the record that comes next. -/
structure Stands (name : List UInt8) (rs : List (List UInt8)) (c : Card) (s : CardFile) : Prop where
  file : c.files name = some rs
  stored : ∀ p ∈ rs, Stored p
  le : c.index ≤ rs.length
  data : s.fsrc.data = rs.flatten
  index : s.index = 512 * c.index

namespace Stands

variable {onCard results : ℕ → UInt8} {rs : List (List UInt8)} {s : CardFile}

lemma split {k : ℕ} (hk : k < rs.length) : rs = rs.take k ++ rs[k] :: rs.drop (k + 1) := by
  rw [← List.drop_eq_getElem_cons hk, List.take_append_drop]

lemma length_eq (h : c.Stands name rs s) : ∀ p ∈ rs, p.length = 512 :=
  fun p hp => (h.stored p hp).length_eq

/-- Both read the same record. -/
lemma read (onCard : ℕ → UInt8) (h : c.Stands name rs s) (hlt : c.index < rs.length) :
    (c.fread name).1 = 0 ∧ (c.fread name).2.index = c.index + 1 ∧
      (s.fread onCard).1 = 0 ∧ (s.fread onCard).2.block = rs[c.index] ∧
      (s.fread onCard).2.sent = s.sent ∧ (c.fread name).2.Stands name rs (s.fread onCard).2 ∧
      (c.fread name).2.net.search 18 =
        some ((c.fread name).2.net.copy .readBuf 0 [rs[c.index].getD 167 0]) := by
  have hstored := h.stored _ (List.getElem_mem hlt)
  have htake : (rs.take c.index).length = c.index := List.length_take_of_le h.le
  have hrecord : c.record name c.index = some rs[c.index] := by
    rw [record, h.file]
    exact List.getElem?_eq_getElem hlt
  obtain ⟨hgo, hdata, hnext, hblock, hsent⟩ := CardFile.fread_record onCard
    (h.data.trans (congrArg List.flatten (split hlt))) (by rw [← split hlt]; exact h.length_eq)
    (by rw [htake, h.index])
  rw [htake] at hnext
  rw [fread_of_record hrecord]
  refine ⟨rfl, rfl, hgo, hblock, hsent, ⟨h.file, h.stored, hlt, hdata.trans h.data, hnext⟩, ?_⟩
  rw [Net.search, Net.bytes_read _ hstored.length_eq, hstored.searchSeparator_eq]
  rfl

/-- Both find the end of the file. -/
lemma stop (onCard : ℕ → UInt8) (h : c.Stands name rs s) (hend : c.index = rs.length) :
    c.fread name = (1, { c with index := c.index + 1 }) ∧ (s.fread onCard).1 = 1 ∧
      (s.fread onCard).2.fsrc.data = rs.flatten := by
  have hread : c.fread name = (1, { c with index := c.index + 1 }) := by
    rw [fread, h.file]
    dsimp only
    rw [List.getElem?_eq_none hend.ge, if_pos (by omega)]
  obtain ⟨hstop, hdata, -⟩ :=
    CardFile.fread_end onCard h.data h.length_eq (by rw [h.index, hend])
  exact ⟨hread, hstop, hdata.trans h.data⟩

/-- Both mark the same record. -/
lemma mark {k : ℕ} (h : c.Stands name rs s) (hk : c.index = k + 1) :
    (c.setFlag name k).Stands name (rs.modify k (·.set 167 charY)) (s.writeFlag onCard) := by
  have hlt : k < rs.length := by
    have := h.le
    omega
  have htake : (rs.take k).length = k := List.length_take_of_le hlt.le
  refine ⟨?_, fun p hp => ?_, ?_, ?_, h.index⟩
  · rw [setFlag_files_self, h.file]
    rfl
  · rw [List.modify_eq_take_cons_drop hlt, List.mem_append, List.mem_cons] at hp
    rcases hp with hp | rfl | hp
    · exact h.stored p (List.mem_of_mem_take hp)
    · exact (h.stored _ (List.getElem_mem hlt)).set
    · exact h.stored p (List.mem_of_mem_drop hp)
  · rw [List.length_modify]
    exact h.le
  · rw [List.modify_eq_take_cons_drop hlt]
    exact CardFile.writeFlag_record (h.data.trans (congrArg List.flatten (split hlt)))
      (by rw [← split hlt]; exact h.length_eq) (by rw [htake, h.index, hk])

end Stands

/-- What `Card` does with the records of a file is what is done with its bytes, if `TakeMealsFun1`
returns the same. -/
theorem readDatatoBufferFrom_bytes {onCard results : ℕ → UInt8} {rs : List (List UInt8)}
    {s : CardFile} (h : c.readDatatoBufferFrom airs name times = some (b, c'))
    (hs : c.Stands name rs s)
    (hresults : ∀ k e, c'.calls[c.calls.length + k]? = some e →
      results (s.sent.length + k) = e.2.2) :
    ∃ rs' s', s.readDatatoBufferFrom onCard results times = some (b, s') ∧
      c'.files name = some rs' ∧ s'.fsrc.data = rs'.flatten := by
  induction times generalizing c s rs with
  | zero =>
    cases h
    exact ⟨rs, s, rfl, hs.file, hs.data⟩
  | succ times ih =>
    have hcalls := c.fread_calls name
    by_cases hlt : c.index < rs.length
    · obtain ⟨hread, hindex, hgo, hblock, hsent, hnext, hsearch⟩ := hs.read onCard hlt
      have hflag : searchSeparator (s.fread onCard).2.block 18 = some [rs[c.index].getD 167 0] := by
        rw [hblock]
        exact (hs.stored _ (List.getElem_mem hlt)).searchSeparator_eq
      rw [CardFile.readDatatoBufferFrom_record results times hgo hflag, hsent]
      rcases readDatatoBufferFrom_succ h with ⟨hend, -⟩ | ⟨-, n, hn, hcase⟩
      · rw [hread] at hend
        cases hend
      · obtain rfl := Option.some.inj (hsearch.symm.trans hn)
        have hcell : ((c.fread name).2.net.copy .readBuf 0 [rs[c.index].getD 167 0]).cell
            .readBuf 0 = rs[c.index].getD 167 0 := by
          rw [Net.copy_cell_self]
          rfl
        rw [hcell] at hcase
        rcases hcase with ⟨hne, h⟩ | ⟨heq, i, n', -, hcase⟩
        · rw [if_neg hne]
          refine ih h ⟨hnext.file, hnext.stored, hnext.le, hnext.data, hnext.index⟩ fun k e hk => ?_
          rw [← hcalls] at hresults
          rw [← hsent] at hresults
          exact hresults k e hk
        · rw [if_pos heq]
          have hhanded : (s.handed onCard (rs[c.index].getD 167 0)).sent.length =
              s.sent.length + 1 := by
            rw [← hsent]
            exact List.length_append
          have hresult : ∀ d : Card, c.calls ++ [(name, c.index, i)] <+: d.calls →
              d.calls[c.calls.length + 0]? = some (name, c.index, i) := by
            rintro d ⟨t, ht⟩
            rw [← ht]
            simp
          rcases hcase with ⟨rfl, h⟩ | ⟨hne, rfl, rfl⟩
          · have haccepted : results s.sent.length = 0 :=
              hresults 0 _ (hresult c' (calls_grow h))
            rw [if_pos haccepted]
            refine ih h (.mark ⟨hnext.file, hnext.stored, hnext.le, hnext.data, hnext.index⟩ hindex)
              fun k e hk => ?_
            have hk' : c'.calls[c.calls.length + 1 + k]? = some e := by simpa [setFlag] using hk
            rw [Nat.add_assoc] at hk'
            have hlater := hresults (1 + k) e hk'
            rw [← Nat.add_assoc, ← hhanded] at hlater
            exact hlater
          · have hrefused : results s.sent.length = i := hresults 0 _ (hresult _ List.prefix_rfl)
            rw [if_neg (by rw [hrefused]; exact hne)]
            exact ⟨rs, _, rfl, hnext.file, hnext.data⟩
    · -- the end of the file
      obtain ⟨hread, hstop, hdata⟩ := hs.stop onCard (hs.le.antisymm (Nat.not_lt.mp hlt))
      rcases readDatatoBufferFrom_succ h with ⟨-, rfl, rfl⟩ | ⟨hgo, -⟩
      · refine ⟨rs, (s.fread onCard).2, ?_, ?_, hdata⟩
        · rw [CardFile.readDatatoBufferFrom]
          exact if_pos hstop
        · rw [hread]
          exact hs.file
      · exact (hgo (by rw [hread])).elim

end Card

end MealVendor
