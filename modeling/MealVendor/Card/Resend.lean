import MealVendor.Card.Visit

/-!
# Seven days are sent again

`SendtoServce` visits the files of seven days.  Where it begins to read in a file is where it
stopped in the one before, and the days that it goes through are the last seven days only if they
lie in one month.  So a record is sent where one of the seven visits is to its file and comes to
it, and its flag is found behind the 17th comma; it is marked at 167, wherever its flag stands.
-/

namespace MealVendor

/-! ## Records -/

/-- A record as it is stored: 512 bytes, with the flag behind the 17th comma, at 167. -/
structure Stored (p : List UInt8) : Prop where
  length_eq : p.length = 512
  commas : (p.take 166).count comma = 16
  last : p[166]? = some comma
  flag : p.getD 167 0 ≠ comma

namespace Stored

variable {p : List UInt8}

/-- The record around its flag. -/
lemma split (h : Stored p) :
    p = p.take 166 ++ comma :: p.getD 167 0 :: p.drop 168 := by
  have hlen := h.length_eq
  have h166 : p[166]? = some comma := h.last
  have hlt : 166 < p.length := by omega
  conv_lhs => rw [← List.take_append_drop 166 p]
  congr 1
  rw [List.drop_eq_getElem_cons hlt]
  congr 1
  · rw [List.getElem?_eq_getElem hlt] at h166
    exact Option.some.inj h166
  · rw [List.drop_eq_getElem_cons (by omega)]
    congr 1
    rw [List.getD_eq_getElem?_getD, List.getElem?_eq_getElem (by omega)]
    rfl

/-- The search passes the items and finds the flag. -/
lemma searchSeparatorFrom_flag {pre rest : List UInt8} {cnt : ℕ} {b : UInt8} (hb : b ≠ comma)
    (hcnt : cnt + pre.count comma = 16) :
    searchSeparatorFrom 18 cnt (pre ++ comma :: b :: rest) = some [b] := by
  induction pre generalizing cnt with
  | nil =>
    rw [List.count_nil] at hcnt
    rw [List.nil_append, searchSeparatorFrom, if_pos rfl, if_neg (by omega), searchSeparatorFrom,
      if_neg hb, if_pos (by omega), if_pos rfl]
  | cons c pre ih =>
    rw [List.cons_append, searchSeparatorFrom]
    by_cases hc : c = comma
    · rw [hc, List.count_cons_self] at hcnt
      rw [if_pos hc, if_neg (by omega)]
      exact ih (by omega)
    · rw [List.count_cons_of_ne hc] at hcnt
      rw [if_neg hc, if_neg (by omega), if_neg (by omega)]
      exact ih hcnt

lemma searchSeparator_eq (h : Stored p) : searchSeparator p 18 = some [p.getD 167 0] := by
  have hsplit := h.split
  rw [searchSeparator]
  conv_lhs => rw [hsplit]
  exact searchSeparatorFrom_flag h.flag (by rw [h.commas])

lemma searchable (h : Stored p) : Searchable p := by
  rw [searchable_iff, h.searchSeparator_eq]
  rfl

lemma getD_set (h : Stored p) : (p.set 167 charY).getD 167 0 = charY := by
  rw [List.getD_eq_getElem?_getD, List.getElem?_set_self (by rw [h.length_eq]; decide)]
  rfl

/-- The flag may be overwritten. -/
lemma set (h : Stored p) : Stored (p.set 167 charY) := by
  refine ⟨by rw [List.length_set, h.length_eq], ?_, ?_, ?_⟩
  · rw [List.take_set_of_le (by decide)]
    exact h.commas
  · rw [List.getElem?_set_ne (by decide)]
    exact h.last
  · rw [h.getD_set]
    decide

end Stored

/-! ## A server that accepts -/

/-- The server accepts the request: `TakeMealsFun1` returns 0. -/
def Accepting (air : Air) : Prop :=
  ∀ n : Net, 15 ≤ n.commas → ∃ n', n.takeMealsFun1 air = some (0, n')

/-- Then it does not refuse one. -/
lemma Accepting.eq_zero {air : Air} (h : Accepting air) {i : UInt8} (hi : Answers air i) :
    i = 0 := by
  obtain ⟨n, n', hn⟩ := hi
  obtain ⟨hcommas, -⟩ := (n.takeMealsFun1_iff i).mp ⟨n', hn⟩
  obtain ⟨m, hm⟩ := h n hcommas
  rw [hn] at hm
  exact congrArg Prod.fst (Option.some.inj hm)

namespace Card

/-! ## What is looked at -/

/-- The records that the next `days` visits look at, of which the first is for the day `d` and
begins with the record `i`. -/
def walk (c : Card) : ℕ → StructTD → ℕ → List ((List UInt8 × ℕ) × List UInt8)
  | 0, _, _ => []
  | days + 1, d, i =>
    ((c.looked (itoa d) 1000 i).map fun x => ((itoa d, x.1), x.2)) ++
      c.walk days (nextDay d) (cursor 1000 i (c.lengthOf (itoa d)))

section Walk

variable {c c₁ : Card} {name : List UInt8} {days times i r : ℕ} {d : StructTD}

lemma le_cursor (times i : ℕ) (len : Option ℕ) : i ≤ cursor times i len := by
  unfold cursor
  split
  · exact le_rfl
  · omega

/-- The cursor is behind the records that a visit looks at. -/
lemma lt_cursor {p : List UInt8} (h : (r, p) ∈ c.looked name times i) :
    r < cursor times i (c.lengthOf name) := by
  obtain ⟨hle, hlt, hp⟩ := mem_looked h
  obtain ⟨rs, hrs, hr⟩ := Option.bind_eq_some_iff.mp hp
  have := (List.getElem?_eq_some_iff.mp hr).1
  rw [lengthOf, hrs, Option.map_some, cursor]
  omega

lemma record_of_mem_walk {p : List UInt8} (h : ((name, r), p) ∈ c.walk days d i) :
    c.record name r = some p := by
  induction days generalizing d i with
  | zero => cases h
  | succ days ih =>
    rcases List.mem_append.mp h with h | h
    · obtain ⟨⟨r', p'⟩, hr, heq⟩ := List.mem_map.mp h
      cases heq
      exact (mem_looked hr).2.2
    · exact ih h

lemma le_of_mem_walk {x : (List UInt8 × ℕ) × List UInt8} (h : x ∈ c.walk days d i) :
    i ≤ x.1.2 := by
  induction days generalizing d i with
  | zero => cases h
  | succ days ih =>
    rcases List.mem_append.mp h with h | h
    · obtain ⟨⟨r, p⟩, hr, rfl⟩ := List.mem_map.mp h
      exact (mem_looked hr).1
    · exact (le_cursor 1000 i _).trans (ih h)

/-- What comes later in the files is not affected. -/
lemma walk_congr (hlen : c₁.lengthOf = c.lengthOf)
    (h : ∀ name r, i ≤ r → c₁.record name r = c.record name r) (days : ℕ) (d : StructTD) :
    c₁.walk days d i = c.walk days d i := by
  induction days generalizing d i with
  | zero => rfl
  | succ days ih =>
    rw [walk, walk, looked_congr (h (itoa d)), hlen]
    rw [ih fun name r hr => h name r ((le_cursor 1000 i _).trans hr)]

/-- The cursor never goes back, so no record is looked at twice. -/
lemma pairwise_walk (c : Card) (days : ℕ) (d : StructTD) (i : ℕ) :
    ((c.walk days d i).map Prod.fst).Pairwise fun x y => x.2 < y.2 := by
  induction days generalizing d i with
  | zero => exact .nil
  | succ days ih =>
    rw [walk, List.map_append, List.pairwise_append]
    refine ⟨?_, ih _ _, ?_⟩
    · rw [List.map_map]
      have h := c.pairwise_looked (itoa d) 1000 i
      rw [List.pairwise_map] at h ⊢
      exact h
    · intro x hx y hy
      obtain ⟨⟨r, p⟩, hr, rfl⟩ := List.mem_map.mp hx
      obtain ⟨⟨r', p'⟩, hr', heq⟩ := List.mem_map.mp hr
      cases heq
      obtain ⟨z, hz, rfl⟩ := List.mem_map.mp hy
      exact (lt_cursor hr').trans_le (le_of_mem_walk hz)

end Walk

/-- The records that `SendtoServce` finds flagged with `n`, from the day `d` on. -/
def due (c : Card) (days : ℕ) (d : StructTD) : List (List UInt8 × ℕ) :=
  found (c.net.cell .readBuf 0) (c.walk days d c.index)

lemma nodup_due (c : Card) (days : ℕ) (d : StructTD) : (c.due days d).Nodup := by
  refine ((c.pairwise_walk days d c.index).imp ?_).sublist found_sublist
  rintro x y hlt rfl
  exact absurd hlt (lt_irrefl _)

section Run

variable {airs : ℕ → Air} {days : ℕ} {d : StructTD} {c c₁ c' : Card} {b : Bool}
  {calls : List (ℕ × UInt8)}

/-- Behind a visit whose requests are accepted, the other visits find what they find without it. -/
lemma Visited.rest (h : Visited airs (itoa d) 1000 c b c₁ calls)
    (hacc : ∀ k, Accepting (airs k)) (days : ℕ) :
    Marked ((found (c.net.cell .readBuf 0) (c.looked (itoa d) 1000 c.index)).map
        fun r => (itoa d, r)) c c₁ ∧
      c₁.calls = c.calls ++ (found (c.net.cell .readBuf 0) (c.looked (itoa d) 1000 c.index)).map
        (fun r => (itoa d, r, 0)) ∧
      (∀ x ∈ c.looked (itoa d) 1000 c.index, Searchable x.2) ∧
      c.walk (days + 1) d c.index =
        ((c.looked (itoa d) 1000 c.index).map fun x => ((itoa d, x.1), x.2)) ++
          c₁.walk days (nextDay d) c₁.index ∧
      c.due (days + 1) d = (found (c.net.cell .readBuf 0) (c.looked (itoa d) 1000 c.index)).map
        (fun r => (itoa d, r)) ++ c₁.due days (nextDay d) := by
  obtain ⟨rfl, hcalls⟩ := h.requested.eq_of_accepting fun k i => (hacc k).eq_zero
  have hmarked := h.marked
  have hcalls' := h.calls_eq
  rw [hcalls, List.filter_map, List.map_map] at hmarked
  rw [hcalls, List.map_map] at hcalls'
  have hfilter : ∀ l : List ℕ, l.filter ((fun x : ℕ × UInt8 => decide (x.2 = 0)) ∘
      fun r => (r, 0)) = l := fun l => List.filter_eq_self.mpr fun r _ => rfl
  rw [hfilter] at hmarked
  have hsearch := h.searchable rfl
  have hwalk : c.walk (days + 1) d c.index =
      ((c.looked (itoa d) 1000 c.index).map fun x => ((itoa d, x.1), x.2)) ++
        c₁.walk days (nextDay d) c₁.index := by
    rw [walk, ← h.index rfl, walk_congr hmarked.lengthOf fun name r hr => ?_]
    rw [hmarked.record, if_neg]
    intro hmem
    obtain ⟨r', hr', heq⟩ := List.mem_map.mp hmem
    cases heq
    obtain ⟨⟨r', p⟩, hp, rfl⟩ := List.mem_map.mp (found_sublist.subset hr')
    have hlt : r' < cursor 1000 c.index (c.lengthOf (itoa d)) := lt_cursor hp
    rw [h.index rfl] at hr
    exact absurd hr (Nat.not_le.mpr hlt)
  refine ⟨hmarked, hcalls', hsearch, hwalk, ?_⟩
  have hsearch' : ∀ x ∈ (c.looked (itoa d) 1000 c.index).map fun x => ((itoa d, x.1), x.2),
      Searchable x.2 := by
    intro x hx
    obtain ⟨y, hy, rfl⟩ := List.mem_map.mp hx
    exact hsearch y hy
  have hleft : leftBy (c.net.cell .readBuf 0)
      ((c.looked (itoa d) 1000 c.index).map fun x => ((itoa d, x.1), x.2)) =
        c₁.net.cell .readBuf 0 := by
    rw [h.readBuf rfl, leftBy, leftBy, List.foldl_map]
  rw [due, hwalk, found_append _ hsearch', hleft, found_map (fun r => (itoa d, r))]
  rfl

/-- What the visits of `SendtoServce` do, if every request is accepted. -/
lemma sendtoServceFrom_spec (hacc : ∀ k, Accepting (airs k)) (hc : c.Whole)
    (h : c.sendtoServceFrom airs days d = some c') :
    (∀ x ∈ c.walk days d c.index, Searchable x.2) ∧ Marked (c.due days d) c c' ∧
      c'.calls = c.calls ++ (c.due days d).map fun x => (x.1, x.2, 0) := by
  induction days generalizing d c with
  | zero =>
    cases h
    exact ⟨nofun, .of_files rfl, by simp [due, walk, found]⟩
  | succ days ih =>
    obtain ⟨⟨b, c₁⟩, hvisit, hrest⟩ := Option.bind_eq_some_iff.mp h
    obtain ⟨calls, hv⟩ := exists_visited hc hvisit
    obtain ⟨hmarked, hcalls, hsearch, hwalk, hdue⟩ := hv.rest hacc days
    obtain ⟨hsearch', hmarked', hcalls'⟩ := ih (hmarked.whole hc) hrest
    rw [hwalk, hdue]
    refine ⟨fun x hx => ?_, hmarked.trans hmarked', ?_⟩
    · rcases List.mem_append.mp hx with hx | hx
      · obtain ⟨y, hy, rfl⟩ := List.mem_map.mp hx
        exact hsearch y hy
      · exact hsearch' x hx
    · rw [hcalls', hcalls, List.map_append, List.map_map, List.append_assoc]
      rfl

/-- They come to an end if every search does. -/
lemma exists_sendtoServceFrom (hacc : ∀ k, Accepting (airs k)) (hc : c.Whole)
    (h : ∀ x ∈ c.walk days d c.index, Searchable x.2) :
    ∃ c', c.sendtoServceFrom airs days d = some c' := by
  induction days generalizing d c with
  | zero => exact ⟨c, rfl⟩
  | succ days ih =>
    obtain ⟨b, c₁, hvisit⟩ : ∃ b c₁, c.readDatatoBufferFrom airs (itoa d) 1000 = some (b, c₁) :=
      exists_visit hacc hc fun x hx =>
      h _ (List.mem_append_left _ (List.mem_map_of_mem hx))
    obtain ⟨calls, hv⟩ := exists_visited hc hvisit
    obtain ⟨hmarked, -, -, hwalk, -⟩ := hv.rest hacc days
    obtain ⟨c', hrest⟩ := ih (hmarked.whole hc) fun x hx =>
      h x (hwalk ▸ List.mem_append_right _ hx)
    refine ⟨c', ?_⟩
    rw [sendtoServceFrom, readDatatoBuffer, hvisit]
    exact hrest

end Run

end Card

/-! ## The calendar -/

/-- A day. -/
structure Day where
  year : ℕ
  month : ℕ
  date : ℕ

namespace Day

/-- How many days a month has. -/
def daysIn (year month : ℕ) : ℕ :=
  if month = 2 then (if year % 4 = 0 ∧ year % 100 ≠ 0 ∨ year % 400 = 0 then 29 else 28)
  else if month = 4 ∨ month = 6 ∨ month = 9 ∨ month = 11 then 30
  else 31

/-- The day before. -/
def yesterday (a : Day) : Day :=
  if 1 < a.date then { a with date := a.date - 1 }
  else if 1 < a.month then ⟨a.year, a.month - 1, daysIn a.year (a.month - 1)⟩
  else ⟨a.year - 1, 12, daysIn (a.year - 1) 12⟩

/-- The name that the file of a day should have. -/
def fileName (a : Day) : List UInt8 :=
  [a.year / 1000, a.year / 100 % 10, a.year / 10 % 10, a.year % 10, a.month / 10, a.month % 10,
    a.date / 10, a.date % 10].map (fun v => UInt8.ofNat v + 0x30) ++ [0x2e, 0x74, 0x78, 0x74]

end Day

/-- The day that `TimeDate` stands for. -/
def StructTD.today (d : StructTD) : Day := ⟨2000 + d.year.toNat, d.month.toNat, d.date.toNat⟩

/-- The name of the file of the day `k` days ago. -/
def StructTD.ago (d : StructTD) (k : ℕ) : List UInt8 := (Day.yesterday^[k] d.today).fileName

/-! ## Completeness -/

namespace Card

/-- The flag of the record `r` of a file, which stands at `pos name r`. -/
def flagAt (pos : List UInt8 → ℕ → ℕ) (c : Card) (name : List UInt8) (r : ℕ) : Option UInt8 :=
  (c.record name r).map (·.getD (pos name r) 0)

/-- How often the record `r` of a file was sent. -/
def sends (c : Card) (name : List UInt8) (r : ℕ) : ℕ :=
  c.calls.countP fun e => e.1 = name ∧ e.2.1 = r

/-- `SendtoServce` sends what is to be reported of the last seven days, every record once, and
leaves it marked; it sends nothing that is marked. -/
structure Complete (pos : List UInt8 → ℕ → ℕ) (airs : ℕ → Air) (d : StructTD) (c c' : Card) :
    Prop where
  run : c.sendtoServce airs d = some c'
  sent : ∀ k < 7, ∀ r, c.flagAt pos (d.ago k) r = some charN →
    c'.sends (d.ago k) r = c.sends (d.ago k) r + 1 ∧ c'.flagAt pos (d.ago k) r = some charY
  rest : ∀ name r, c.flagAt pos name r = some charY → c'.sends name r = c.sends name r

/-- One of the seven visits comes to the record `r` of a file, and `ReadBuf` then shows `n`: that is
what stands behind the 17th comma, or a comma stands there and `n` was found before. -/
def Shows (d : StructTD) (c : Card) (name : List UInt8) (r : ℕ) : Prop :=
  ∃ pre p post, c.walk 7 d c.index = pre ++ ((name, r), p) :: post ∧
    readBuf0 18 p (leftBy (c.net.cell .readBuf 0) pre) = charN

/-- There are 17 commas in every record that the seven visits come to; every record to be reported
is shown to be one, with its flag at 167, and no record that was reported is. -/
structure Resendable (pos : List UInt8 → ℕ → ℕ) (d : StructTD) (c : Card) : Prop where
  searchable : ∀ x ∈ c.walk 7 d c.index, Searchable x.2
  sent : ∀ k < 7, ∀ r, c.flagAt pos (d.ago k) r = some charN →
    c.Shows d (d.ago k) r ∧ pos (d.ago k) r = 167
  rest : ∀ name r, c.flagAt pos name r = some charY → ¬ c.Shows d name r

section Complete

variable {pos : List UInt8 → ℕ → ℕ} {airs : ℕ → Air} {d : StructTD} {c c' : Card}
  {name : List UInt8} {r : ℕ}

/-- How often a record was sent. -/
lemma sends_eq (h : c'.calls = c.calls ++ (c.due 7 d).map fun x => (x.1, x.2, 0)) :
    c'.sends name r = c.sends name r + if (name, r) ∈ c.due 7 d then 1 else 0 := by
  rw [Card.sends, Card.sends]
  rw [h, List.countP_append, List.countP_map]
  have hcount := (c.nodup_due 7 d).count (a := (name, r))
  rw [← hcount, List.count]
  congr 2
  funext x
  simp only [Function.comp_apply, beq_eq_decide, Prod.ext_iff]

/-- Marking is of use where the flag stands at 167. -/
lemma flagAt_eq (hc : c.Whole) (h : Marked (c.due 7 d) c c') (hmem : (name, r) ∈ c.due 7 d)
    (hn : c.flagAt pos name r = some charN) :
    c'.flagAt pos name r = some charY ↔ pos name r = 167 := by
  obtain ⟨p, hp, hpn⟩ := Option.map_eq_some_iff.mp hn
  have hlen := hc name r p hp
  rw [flagAt, h.record, if_pos hmem, hp, Option.map_some, Option.map_some, Option.some.injEq]
  by_cases hpos : pos name r = 167
  · rw [hpos, List.getD_eq_getElem?_getD, List.getElem?_set_self (by omega)]
    simp
  · refine iff_of_false ?_ hpos
    rw [List.getD_eq_getElem?_getD, List.getElem?_set_ne (Ne.symm hpos),
      ← List.getD_eq_getElem?_getD, hpn]
    decide

/-- What is found is what is shown. -/
lemma mem_due_iff (h : ∀ x ∈ c.walk 7 d c.index, Searchable x.2) :
    (name, r) ∈ c.due 7 d ↔ c.Shows d name r := mem_found_iff h

lemma Complete.resendable (hacc : ∀ k, Accepting (airs k)) (hc : c.Whole)
    (h : Complete pos airs d c c') : Resendable pos d c := by
  obtain ⟨hsearch, hmarked, hcalls⟩ := sendtoServceFrom_spec hacc hc h.run
  refine ⟨hsearch, fun k hk r hn => ?_, fun name r hy hshow => ?_⟩
  · obtain ⟨hsends, hflag⟩ := h.sent k hk r hn
    have hmem : (d.ago k, r) ∈ c.due 7 d := by
      by_contra hnot
      rw [sends_eq hcalls, if_neg hnot] at hsends
      omega
    exact ⟨(mem_due_iff hsearch).mp hmem, (flagAt_eq hc hmarked hmem hn).mp hflag⟩
  · have hsends := h.rest name r hy
    rw [sends_eq hcalls, if_pos ((mem_due_iff hsearch).mpr hshow)] at hsends
    omega

lemma Resendable.complete (hacc : ∀ k, Accepting (airs k)) (hc : c.Whole)
    (h : Resendable pos d c) : ∃ c', Complete pos airs d c c' := by
  obtain ⟨c', hrun⟩ := exists_sendtoServceFrom hacc hc h.searchable
  obtain ⟨hsearch, hmarked, hcalls⟩ := sendtoServceFrom_spec hacc hc hrun
  refine ⟨c', hrun, fun k hk r hn => ?_, fun name r hy => ?_⟩
  · obtain ⟨hshow, hpos⟩ := h.sent k hk r hn
    have hmem := (mem_due_iff hsearch).mpr hshow
    rw [sends_eq hcalls, if_pos hmem]
    exact ⟨rfl, (flagAt_eq hc hmarked hmem hn).mpr hpos⟩
  · have hnot : (name, r) ∉ c.due 7 d :=
      fun hmem => h.rest name r hy ((mem_due_iff hsearch).mp hmem)
    rw [sends_eq hcalls, if_neg hnot]
    rfl

/-- For records as `Sd_Write` stores them, it only matters that the visits come to them. -/
lemma resendable_iff_of_stored (h : ∀ name r p, c.record name r = some p → Stored p) :
    Resendable (fun _ _ => 167) d c ↔
      ∀ k < 7, ∀ r, c.flagAt (fun _ _ => 167) (d.ago k) r = some charN →
        ∃ p, ((d.ago k, r), p) ∈ c.walk 7 d c.index := by
  -- the flag is behind the 17th comma
  have hshown : ∀ {name r p} b, c.record name r = some p → readBuf0 18 p b = p.getD 167 0 := by
    intro name r p b hp
    rw [readBuf0, (h name r p hp).searchSeparator_eq]
    rfl
  constructor
  · intro hr k hk r hn
    obtain ⟨⟨pre, p, post, hwalk, -⟩, -⟩ := hr.sent k hk r hn
    exact ⟨p, hwalk ▸ by simp⟩
  · intro hlooked
    refine ⟨fun x hx => ?_, fun k hk r hn => ⟨?_, rfl⟩, fun name r hy hshow => ?_⟩
    · exact (h _ _ _ (record_of_mem_walk hx)).searchable
    · obtain ⟨p, hp⟩ := hlooked k hk r hn
      have hrecord := record_of_mem_walk hp
      obtain ⟨pre, post, hwalk⟩ := List.append_of_mem hp
      rw [flagAt, hrecord, Option.map_some, Option.some.injEq] at hn
      exact ⟨pre, p, post, hwalk, (hshown _ hrecord).trans hn⟩
    · obtain ⟨pre, p, post, hwalk, hn⟩ := hshow
      have hmem : ((name, r), p) ∈ c.walk 7 d c.index := hwalk ▸ by simp
      have hrecord := record_of_mem_walk hmem
      rw [flagAt, hrecord, Option.map_some, Option.some.injEq] at hy
      rw [hshown _ hrecord, hy] at hn
      exact absurd hn (by decide)

end Complete

end Card

/-- If the server accepts every request, the last seven days are sent completely exactly where each
record that is to be reported is looked at in one of the seven visits, is found to be one and has
its flag at 167, and no record that was reported is taken for one; wherever the flags stand. -/
theorem resend_complete_iff (airs : ℕ → Air) (hacc : ∀ k, Accepting (airs k)) (d : StructTD)
    (c : Card) (hc : c.Whole) (pos : List UInt8 → ℕ → ℕ) :
    (∃ c', Card.Complete pos airs d c c') ↔ Card.Resendable pos d c := by
  constructor
  · rintro ⟨c', h⟩
    exact h.resendable hacc hc
  · intro h
    exact h.complete hacc hc

/-! ## Two cards -/

/-- The reply to every request. -/
def yes : Air where
  early := []
  polls := [(mealFrame 0x0810 [0x02, 0, 0, 0, 0, 0xc0, 0x00, 0x01, 0x00, 0x03, 0, 0]).map
    fun b => ⟨b, none⟩]

/-- The first look finds a frame that has a length and is not a rejection. -/
lemma accepting_of_polled {air : Air} (hearly : air.early = [])
    (hpolled : (Uart5.reset.polled air.polls 1).any fun v =>
      v.rx1Right && hlBufferToInit (v.rx1Buf 2) (v.rx1Buf 3) != 0 && v.rx1Buf 0 != 0x07) :
    Accepting air := by
  intro n hcommas
  have hset : (n.memSet00 air).isSome := by
    rw [Net.memSet00, hearly]
    rfl
  refine n.takeMealsFun1_zero_iff.mpr ⟨⟨hset, hcommas⟩, ?_⟩
  obtain ⟨v, hv, hlook⟩ := (Option.any_eq_true _ _).mp hpolled
  rw [Bool.and_eq_true, Bool.and_eq_true] at hlook
  obtain ⟨⟨hright, hlen⟩, hcmd⟩ := hlook
  refine found_unrefused_iff.mp
    ⟨v, ⟨1, le_rfl, by decide, fun j w h1 hj => absurd h1 (by omega), hv, hright⟩, ?_⟩
  rintro (hzero | ⟨hseven, -⟩)
  · rw [hzero] at hlen
    exact absurd hlen (by decide)
  · rw [hseven] at hcmd
    exact absurd hcmd (by decide)

lemma accepting_yes : Accepting yes := accepting_of_polled rfl (by decide +kernel)

/-- The ninth of March. -/
def march : StructTD := ⟨12, 0, 0, 3, 9, 26⟩

/-- The record of the first meal. -/
def firstRecord : List UInt8 := (Net.start.recBuf charN).getD []

lemma stored_firstRecord : Stored firstRecord :=
  ⟨by decide +kernel, by decide +kernel, by decide +kernel, by decide +kernel⟩

/-- A card with these records of today and of yesterday. -/
def cardOf (today yesterday : List (List UInt8)) : Card where
  files := fun name =>
    if name = march.ago 0 then some today
    else if name = march.ago 1 then some yesterday
    else none
  net := .start
  index := 0
  calls := []

lemma mem_of_record_cardOf {today yesterday : List (List UInt8)} {name p : List UInt8} {r : ℕ}
    (h : (cardOf today yesterday).record name r = some p) :
    name = march.ago 0 ∧ today[r]? = some p ∨ name = march.ago 1 ∧ yesterday[r]? = some p := by
  obtain ⟨rs, hrs, hp⟩ := Option.bind_eq_some_iff.mp h
  unfold cardOf at hrs
  dsimp only at hrs
  split_ifs at hrs with htoday hyesterday
  · obtain rfl := Option.some.inj hrs
    exact .inl ⟨htoday, hp⟩
  · obtain rfl := Option.some.inj hrs
    exact .inr ⟨hyesterday, hp⟩

lemma stored_cardOf {today yesterday : List (List UInt8)} (h : ∀ p ∈ today, Stored p)
    (h' : ∀ p ∈ yesterday, Stored p) :
    ∀ name r p, (cardOf today yesterday).record name r = some p → Stored p := by
  intro name r p hp
  rcases mem_of_record_cardOf hp with ⟨-, hp⟩ | ⟨-, hp⟩
  · exact h p (List.mem_of_getElem? hp)
  · exact h' p (List.mem_of_getElem? hp)

lemma Card.whole_of_stored {c : Card} (h : ∀ name r p, c.record name r = some p → Stored p) :
    c.Whole := fun name r p hp => (h name r p hp).length_eq

/-- A single record of today is sent. -/
theorem resend_complete_today : ∃ c',
    Card.Complete (fun _ _ => 167) (fun _ => yes) march (cardOf [firstRecord] []) c' := by
  have hstored : ∀ name r p, (cardOf [firstRecord] []).record name r = some p → Stored p :=
    stored_cardOf (fun _ hp => List.mem_singleton.mp hp ▸ stored_firstRecord)
      fun _ hp => absurd hp List.not_mem_nil
  refine (resend_complete_iff (fun _ => yes) (fun _ => accepting_yes) march _
    (Card.whole_of_stored hstored) (fun _ _ => 167)).mpr
      ((Card.resendable_iff_of_stored hstored).mpr fun k hk r hn => ?_)
  obtain ⟨p, hp, -⟩ := Option.map_eq_some_iff.mp hn
  rcases mem_of_record_cardOf hp with ⟨hname, hr⟩ | ⟨-, hr⟩
  · have hitoa : march.ago 0 = itoa march := by decide +kernel
    obtain ⟨rfl, rfl⟩ : r = 0 ∧ firstRecord = p := by
      cases r with
      | zero => exact ⟨rfl, by simpa using hr⟩
      | succ r => simp at hr
    rw [hname, hitoa] at hp ⊢
    refine ⟨firstRecord, List.mem_append_left _ (List.mem_map.mpr ⟨(0, firstRecord), ?_, rfl⟩)⟩
    exact Card.mem_looked_self hp
  · simp at hr

/-- The record of yesterday is behind the cursor when its file is read. -/
theorem yesterday_is_skipped : ¬ ∀ (airs : ℕ → Air) (d : StructTD) (c : Card),
    (∀ k, Accepting (airs k)) → c.Whole → ∃ c', Card.Complete (fun _ _ => 167) airs d c c' := by
  intro hall
  have hwhole : (cardOf [firstRecord.set 167 charY] [firstRecord]).Whole := by
    refine Card.whole_of_stored (stored_cardOf (fun p hp => ?_) fun p hp => ?_)
    · rw [List.mem_singleton.mp hp]
      exact stored_firstRecord.set
    · rw [List.mem_singleton.mp hp]
      exact stored_firstRecord
  obtain ⟨c', h⟩ := hall (fun _ => yes) march _ (fun _ => accepting_yes) hwhole
  obtain ⟨⟨pre, p, post, hwalk, -⟩, -⟩ :=
    (h.resendable (fun _ => accepting_yes) hwhole).sent 1 (by decide) 0 (by decide +kernel)
  have hmem : (march.ago 1, 0) ∈
      ((cardOf [firstRecord.set 167 charY] [firstRecord]).walk 7 march 0).map Prod.fst :=
    List.mem_map.mpr ⟨((march.ago 1, 0), p), hwalk ▸ by simp, rfl⟩
  revert hmem
  decide +kernel

end MealVendor
