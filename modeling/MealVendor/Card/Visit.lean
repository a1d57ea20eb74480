import MealVendor.Card.Scan
import MealVendor.Server.Reply

/-!
# A visit to a file

`ReadDatatoBuffer` goes through the records of a file, from where the reading of the file before
left off.  Which of them it sends depends on the character behind the 17th comma of each; where
another comma follows there at once, `ReadBuf` still holds what was found last.  What is sent is
known before the visit, but for where the server refuses a record and the visit ends.
-/

namespace MealVendor

/-! ## What is found in a record -/

/-- `ReadBuf[0]` behind `SearchSeparator(ReadBuf, p, k)`, if it was `b` before. -/
def readBuf0 (k : ℕ) (p : List UInt8) (b : UInt8) : UInt8 :=
  ((searchSeparator p k).bind List.head?).getD b

/-- The items that `TakeMealsFun1` searches for, in their order. -/
def sought : List ℕ := [1, 3, 7, 8, 9, 10, 11, 12, 13, 14, 15]

/-- `ReadBuf[0]` when `ReadDatatoBuffer` is done with the record `p`. -/
def leaves (p : List UInt8) (b : UInt8) : UInt8 :=
  if readBuf0 18 p b = charN then sought.foldl (fun b k => readBuf0 k p b) (readBuf0 18 p b)
  else readBuf0 18 p b

/-- There is something behind the 17th comma. -/
def Searchable (p : List UInt8) : Prop := behind 17 p ≠ []

instance (p : List UInt8) : Decidable (Searchable p) := inferInstanceAs (Decidable (_ ≠ _))

/-- The records among these that are taken for records to be reported; a record in which the
search does not come to an end is the last one. -/
def found {α : Type*} : UInt8 → List (α × List UInt8) → List α
  | _, [] => []
  | b, (x, p) :: l =>
    if Searchable p then
      if readBuf0 18 p b = charN then x :: found (leaves p b) l else found (leaves p b) l
    else []

/-- `ReadBuf[0]` behind these records. -/
def leftBy {α : Type*} (b : UInt8) (l : List (α × List UInt8)) : UInt8 :=
  l.foldl (fun b x => leaves x.2 b) b

section Found

variable {α β : Type*} {b : UInt8} {l : List (α × List UInt8)}

lemma found_sublist : (found b l).Sublist (l.map Prod.fst) := by
  induction l generalizing b with
  | nil => exact .slnil
  | cons x l ih =>
    obtain ⟨x, p⟩ := x
    rw [found, List.map_cons]
    split_ifs
    · exact ih.cons_cons x
    · exact ih.cons x
    · exact List.nil_sublist _

lemma found_map (f : α → β) : found b (l.map fun x => (f x.1, x.2)) = (found b l).map f := by
  induction l generalizing b with
  | nil => rfl
  | cons x l ih =>
    obtain ⟨x, p⟩ := x
    rw [List.map_cons, found, found]
    split_ifs
    · rw [ih, List.map_cons]
    · exact ih
    · rfl

lemma found_append (m : List (α × List UInt8)) (h : ∀ x ∈ l, Searchable x.2) :
    found b (l ++ m) = found b l ++ found (leftBy b l) m := by
  induction l generalizing b with
  | nil => rfl
  | cons x l ih =>
    obtain ⟨x, p⟩ := x
    obtain ⟨hp, hl⟩ := List.forall_mem_cons.mp h
    rw [List.cons_append, found, found, if_pos hp, if_pos hp, ih hl, ← List.cons_append]
    split_ifs <;> rfl

/-- What is found is what is shown to be `n`. -/
lemma mem_found_iff (h : ∀ x ∈ l, Searchable x.2) {x : α} : x ∈ found b l ↔
    ∃ pre p post, l = pre ++ (x, p) :: post ∧ readBuf0 18 p (leftBy b pre) = charN := by
  induction l generalizing b with
  | nil => simp [found]
  | cons y l ih =>
    obtain ⟨y, q⟩ := y
    obtain ⟨hq, hl⟩ := List.forall_mem_cons.mp h
    rw [found, if_pos hq]
    constructor
    · intro hx
      have hcases : (readBuf0 18 q b = charN ∧ x = y) ∨ x ∈ found (leaves q b) l := by
        split_ifs at hx with hn
        · exact (List.mem_cons.mp hx).imp (fun h => ⟨hn, h⟩) id
        · exact .inr hx
      rcases hcases with ⟨hn, rfl⟩ | hx
      · exact ⟨[], q, l, rfl, hn⟩
      · obtain ⟨pre, p, post, rfl, hn⟩ := (ih hl).mp hx
        exact ⟨(y, q) :: pre, p, post, rfl, hn⟩
    · rintro ⟨pre, p, post, heq, hn⟩
      rcases pre with _ | ⟨z, pre⟩
      · obtain ⟨hxy, -⟩ := List.cons.inj heq
        cases hxy
        rw [if_pos (show readBuf0 18 q b = charN from hn)]
        exact List.mem_cons_self
      · obtain ⟨rfl, rfl⟩ := List.cons.inj heq
        have hx : x ∈ found (leaves q b) (pre ++ (x, p) :: post) :=
          (ih hl).mpr ⟨pre, p, post, rfl, hn⟩
        split_ifs
        · exact List.mem_cons_of_mem _ hx
        · exact hx

end Found

lemma searchable_iff (p : List UInt8) : Searchable p ↔ (searchSeparator p 18).isSome := by
  rw [searchSeparator, searchSeparatorFrom_flag (d := 17) rfl, Searchable]
  cases behind 17 p <;> simp

/-- Where the flag is found there are more than enough commas for the other items. -/
lemma Searchable.count_comma {p : List UInt8} (h : Searchable p) : 17 ≤ p.count comma := by
  have hbehind : ∀ (k : ℕ) (l : List UInt8), behind k l ≠ [] → k ≤ l.count comma := by
    intro k l
    induction l generalizing k with
    | nil => cases k <;> simp [behind]
    | cons c l ih =>
      cases k with
      | zero => simp
      | succ k =>
        rw [behind]
        split_ifs with hc
        · intro hne
          have := ih k hne
          rw [hc, List.count_cons_self]
          omega
        · intro hne
          exact (ih (k + 1) hne).trans (List.count_le_count_cons)
  exact hbehind 17 p h

namespace Net

/-- A record fills `ReadSdBuff`. -/
lemma bytes_read (n : Net) {p : List UInt8} (hp : p.length = 512) :
    (n.copy .readSdBuff 0 p).bytes .readSdBuff = p := by
  have hfirst := n.first_copy .readSdBuff p
  rw [hp] at hfirst
  exact hfirst

/-- The step `f` leaves the record, and searches it for the items `ks`. -/
structure Peeks (f : Net → Option Net) (ks : List ℕ) : Prop where
  record : ∀ n n', f n = some n' → n'.bytes .readSdBuff = n.bytes .readSdBuff
  first : ∀ n n', f n = some n' → n'.cell .readBuf 0 =
    ks.foldl (fun b k => readBuf0 k (n.bytes .readSdBuff) b) (n.cell .readBuf 0)

namespace Peeks

variable {f g : Net → Option Net} {ks ls : List ℕ}

lemma bind (hf : Peeks f ks) (hg : Peeks g ls) : Peeks (fun n => (f n).bind g) (ks ++ ls) := by
  refine ⟨fun n n' hn => ?_, fun n n' hn => ?_⟩
  · obtain ⟨m, hm, hn'⟩ := Option.bind_eq_some_iff.mp hn
    rw [hg.record m n' hn', hf.record n m hm]
  · obtain ⟨m, hm, hn'⟩ := Option.bind_eq_some_iff.mp hn
    rw [hg.first m n' hn', hf.record n m hm, hf.first n m hm, List.foldl_append]

lemma map (hf : Peeks f ks) (h : Net → Net)
    (hrecord : ∀ n, (h n).cell .readSdBuff = n.cell .readSdBuff)
    (hfirst : ∀ n, (h n).cell .readBuf = n.cell .readBuf) :
    Peeks (fun n => (f n).map h) ks := by
  refine ⟨fun n n' hn => ?_, fun n n' hn => ?_⟩
  · obtain ⟨m, hm, rfl⟩ := Option.map_eq_some_iff.mp hn
    rw [← hf.record n m hm, bytes, bytes]
    rw [hrecord]
  · obtain ⟨m, hm, rfl⟩ := Option.map_eq_some_iff.mp hn
    rw [hfirst, hf.first n m hm]

end Peeks

lemma peeks_search (k : ℕ) : Peeks (search k) [k] := by
  refine ⟨fun n n' hn => ?_, fun n n' hn => ?_⟩
  · obtain ⟨seg, -, rfl⟩ := Option.map_eq_some_iff.mp hn
    rw [bytes, bytes]
    rw [copy_cell_of_ne _ _ _ (by decide)]
  · obtain ⟨seg, hseg, rfl⟩ := Option.map_eq_some_iff.mp hn
    rw [List.foldl_cons, List.foldl_nil, readBuf0, hseg, copy_cell_self, Option.bind_some]
    cases seg with
    | nil => rfl
    | cons b seg => simp

lemma peeks_searchHex (k len : ℕ) : Peeks (searchHex k len) [k] :=
  (peeks_search k).map _ (fun _ => copy_cell_of_ne _ _ _ (by decide))
    fun _ => copy_cell_of_ne _ _ _ (by decide)

lemma peeks_restore {g : Glob} (hrecord : Glob.readSdBuff ≠ g) (hfirst : Glob.readBuf ≠ g)
    (k size : ℕ) : Peeks (restore g k size) [k] :=
  (peeks_searchHex k _).map _ (fun _ => copy_cell_of_ne _ _ _ hrecord)
    fun _ => copy_cell_of_ne _ _ _ hfirst

lemma peeks_restoreMeal : Peeks restoreMeal [3, 7, 8, 9, 10, 11, 12, 13, 14, 15] := by
  have hname : Peeks (fun n => (n.search 10).map fun n =>
      n.copy .mealName 3 (n.first .readBuf 20)) [10] :=
    (peeks_search 10).map _ (fun _ => copy_cell_of_ne _ _ _ (by decide))
      fun _ => copy_cell_of_ne _ _ _ (by decide)
  have hremain : Peeks (fun n => (n.searchHex 14 4).map fun n =>
      n.copy .remainMealNum 3 (n.first .temp 4)) [14] :=
    (peeks_searchHex 14 4).map _ (fun _ => copy_cell_of_ne _ _ _ (by decide))
      fun _ => copy_cell_of_ne _ _ _ (by decide)
  have hflag : Peeks (fun n => (n.searchHex 15 4).map fun n =>
      n.copy .takeMealFlag 3 (n.first .temp 4)) [15] :=
    (peeks_searchHex 15 4).map _ (fun _ => copy_cell_of_ne _ _ _ (by decide))
      fun _ => copy_cell_of_ne _ _ _ (by decide)
  have hmeal := (peeks_restore (g := .brwn) (by decide) (by decide) 3 7).bind <|
    (peeks_restore (g := .dealBalance) (by decide) (by decide) 7 6).bind <|
    (peeks_restore (g := .mealID) (by decide) (by decide) 8 4).bind <|
    (peeks_restore (g := .mealNO) (by decide) (by decide) 9 1).bind <|
    hname.bind <|
    (peeks_restore (g := .mealPrice) (by decide) (by decide) 11 6).bind <|
    (peeks_restore (g := .payType) (by decide) (by decide) 12 1).bind <|
    (peeks_restore (g := .change) (by decide) (by decide) 13 6).bind <|
    hremain.bind hflag
  exact hmeal

/-- What `TakeMealsFun1` leaves in `ReadBuf`. -/
lemma takeMealsFun1_readBuf {n n' : Net} {air : Air} {i : UInt8}
    (h : n.takeMealsFun1 air = some (i, n')) : n'.cell .readBuf 0 =
      sought.foldl (fun b k => readBuf0 k (n.bytes .readSdBuff) b) (n.cell .readBuf 0) := by
  unfold takeMealsFun1 at h
  simp only [Option.bind_eq_bind, Option.bind_eq_some_iff, Option.some.injEq, Prod.mk.injEq] at h
  obtain ⟨m, hm, m₁, h₁, m₂, h₂, r, hr, -, rfl⟩ := h
  have hcell : m.cell = (n.copy .temp 0 (List.replicate 10 0)).cell := by
    obtain ⟨s, -, rfl⟩ := Option.map_eq_some_iff.mp hm
    rfl
  have hbytes : m.bytes .readSdBuff = n.bytes .readSdBuff := by
    rw [bytes, bytes]
    rw [hcell, copy_cell_of_ne _ _ _ (by decide)]
  have hfirst : m.cell .readBuf = n.cell .readBuf := by
    rw [hcell, copy_cell_of_ne _ _ _ (by decide)]
  have hsent : r.2.cell = m₂.cell := by
    obtain ⟨w, -, rfl⟩ := Option.map_eq_some_iff.mp hr
    rfl
  rw [storeLenght, copy_cell_of_ne _ _ _ (by decide), hsent, peeks_restoreMeal.first m₁ m₂ h₂,
    (peeks_searchHex 1 10).record m m₁ h₁, (peeks_searchHex 1 10).first m m₁ h₁, hbytes, hfirst]
  simp only [sought, List.foldl_cons, List.foldl_nil]

end Net

/-! ## A server that replies -/

/-- With these replies `TakeMealsFun1` can return `i`. -/
def Answers (air : Air) (i : UInt8) : Prop :=
  ∃ n n' : Net, n.takeMealsFun1 air = some (i, n')

/-- The requests for the records `l`, of which the first has the number `k`, up to the first that
is refused, and whether there is none. -/
inductive Requested (airs : ℕ → Air) : ℕ → List ℕ → Bool → List (ℕ × UInt8) → Prop
  | done {k : ℕ} : Requested airs k [] true []
  | accept {k r : ℕ} {l : List ℕ} {b : Bool} {calls : List (ℕ × UInt8)}
      (h : Answers (airs k) 0) (hl : Requested airs (k + 1) l b calls) :
      Requested airs k (r :: l) b ((r, 0) :: calls)
  | refuse {k r : ℕ} {l : List ℕ} {i : UInt8} (h : Answers (airs k) i) (hi : i ≠ 0) :
      Requested airs k (r :: l) false [(r, i)]

namespace Requested

variable {airs : ℕ → Air} {k j r : ℕ} {l : List ℕ} {b : Bool} {calls : List (ℕ × UInt8)}
  {i : UInt8}

/-- The request with the number `k + j` is for the record that comes there. -/
lemma getElem (h : Requested airs k l b calls) (hj : calls[j]? = some (r, i)) :
    l[j]? = some r ∧ Answers (airs (k + j)) i := by
  induction h generalizing j with
  | done => simp at hj
  | @accept k r' l b calls ha _ ih =>
    cases j with
    | zero =>
      rw [List.getElem?_cons_zero, Option.some.injEq, Prod.mk.injEq] at hj
      obtain ⟨rfl, rfl⟩ := hj
      exact ⟨rfl, ha⟩
    | succ j =>
      obtain ⟨hl, hans⟩ := ih (by simpa using hj)
      rw [Nat.add_right_comm] at hans
      exact ⟨by simpa using hl, hans⟩
  | @refuse k r' l i' ha =>
    cases j with
    | zero =>
      rw [List.getElem?_cons_zero, Option.some.injEq, Prod.mk.injEq] at hj
      obtain ⟨rfl, rfl⟩ := hj
      exact ⟨rfl, ha⟩
    | succ j => simp at hj

/-- Nothing before it was refused. -/
lemma accepted (h : Requested airs k l b calls) (hj : calls[j]? = some (r, i)) {j' : ℕ}
    (hlt : j' < j) : Answers (airs (k + j')) 0 := by
  induction h generalizing j j' with
  | done => simp at hj
  | @accept k r' l b calls ha _ ih =>
    cases j with
    | zero => omega
    | succ j =>
      cases j' with
      | zero => exact ha
      | succ j' =>
        have hans := ih (by simpa using hj) (Nat.lt_of_succ_lt_succ hlt)
        rwa [Nat.add_right_comm] at hans
  | refuse ha =>
    cases j with
    | zero => omega
    | succ j => simp at hj

/-- The request for a record is made, and accepted, unless this one or one before it is refused. -/
lemma exists_call (h : Requested airs k l b calls) (hj : l[j]? = some r)
    (hans : ∀ j' ≤ j, ∀ i, Answers (airs (k + j')) i → i = 0) : calls[j]? = some (r, 0) := by
  induction h generalizing j with
  | done => simp at hj
  | @accept k r' l b calls ha _ ih =>
    cases j with
    | zero =>
      rw [List.getElem?_cons_zero, Option.some.injEq] at hj
      rw [List.getElem?_cons_zero, hj]
    | succ j =>
      rw [List.getElem?_cons_succ] at hj ⊢
      refine ih hj fun j' hj' i hi => hans (j' + 1) (by omega) i ?_
      rwa [Nat.add_right_comm] at hi
  | refuse ha hi => exact absurd (hans 0 (by omega) _ ha) hi

/-- If nothing is refused, all of them are sent. -/
lemma eq_of_accepting (h : Requested airs k l b calls) (hacc : ∀ k i, Answers (airs k) i → i = 0) :
    b = true ∧ calls = l.map fun r => (r, 0) := by
  induction h with
  | done => exact ⟨rfl, rfl⟩
  | accept _ _ ih =>
    obtain ⟨hb, hcalls⟩ := ih
    exact ⟨hb, by rw [hcalls, List.map_cons]⟩
  | @refuse k _ _ i ha hi => exact absurd (hacc k i ha) hi

end Requested

namespace Card

/-! ## What a visit leaves -/

/-- The record `r` of a file. -/
def record (c : Card) (name : List UInt8) (r : ℕ) : Option (List UInt8) :=
  (c.files name).bind (·[r]?)

/-- How many records a file has. -/
def lengthOf (c : Card) (name : List UInt8) : Option ℕ := (c.files name).map List.length

/-- The files consist of records of 512 bytes. -/
def Whole (c : Card) : Prop := ∀ name r p, c.record name r = some p → p.length = 512

/-- The records of a file from `i` on, at most `times` of them. -/
def looked (c : Card) (name : List UInt8) : ℕ → ℕ → List (ℕ × List UInt8)
  | 0, _ => []
  | times + 1, i =>
    match c.record name i with
    | none => []
    | some p => (i, p) :: c.looked name times (i + 1)

/-- Where a visit with `times` rounds leaves off in a file of `len` records. -/
def cursor (times i : ℕ) : Option ℕ → ℕ
  | none => i
  | some len => i + min times (len - i + 1)

/-- Between `c` and `c'` exactly the records in `l` were marked. -/
structure Marked (l : List (List UInt8 × ℕ)) (c c' : Card) : Prop where
  lengthOf : c'.lengthOf = c.lengthOf
  record : ∀ name r, c'.record name r =
    if (name, r) ∈ l then (c.record name r).map (·.set 167 charY) else c.record name r

section Marked

variable {l m : List (List UInt8 × ℕ)} {c c₁ c₂ : Card} {name : List UInt8} {r i : ℕ}

lemma Marked.of_files (h : c₁.files = c.files) : Marked [] c c₁ := by
  refine ⟨?_, fun name r => ?_⟩
  · unfold Card.lengthOf
    rw [h]
  · rw [if_neg List.not_mem_nil, Card.record, Card.record]
    rw [h]

lemma Marked.trans (h₁ : Marked l c c₁) (h₂ : Marked m c₁ c₂) : Marked (l ++ m) c c₂ := by
  refine ⟨h₂.lengthOf.trans h₁.lengthOf, fun name r => ?_⟩
  rw [h₂.record, h₁.record]
  by_cases hl : (name, r) ∈ l
  · rw [if_pos hl, if_pos (List.mem_append_left m hl), Option.map_map]
    split_ifs
    · -- what is marked twice is marked
      congr 1
      funext p
      exact List.set_set ..
    · rfl
  · rw [if_neg hl]
    by_cases hm : (name, r) ∈ m
    · rw [if_pos hm, if_pos (List.mem_append_right l hm)]
    · rw [if_neg hm, if_neg fun h => (List.mem_append.mp h).elim hl hm]

/-- A marked record has as many bytes as before. -/
lemma Marked.whole (h : Marked l c c₁) (hc : c.Whole) : c₁.Whole := by
  intro name r p hp
  rw [h.record] at hp
  split_ifs at hp
  · obtain ⟨q, hq, rfl⟩ := Option.map_eq_some_iff.mp hp
    rw [List.length_set]
    exact hc name r q hq
  · exact hc name r p hp

lemma setFlag_files_self (c : Card) (name : List UInt8) (r : ℕ) :
    (c.setFlag name r).files name = (c.files name).map (·.modify r (·.set 167 charY)) :=
  Function.update_self _ _ _

lemma marked_setFlag (c : Card) (name : List UInt8) (r : ℕ) :
    Marked [(name, r)] c (c.setFlag name r) := by
  have hne : ∀ {name'}, name' ≠ name → (c.setFlag name r).files name' = c.files name' :=
    fun h => Function.update_of_ne h _ _
  refine ⟨?_, fun name' r' => ?_⟩
  · ext name' : 1
    rw [Card.lengthOf, Card.lengthOf]
    by_cases hname : name' = name
    · rw [hname, setFlag_files_self, Option.map_map]
      congr 1
      ext rs
      exact List.length_modify ..
    · rw [hne hname]
  · simp only [List.mem_singleton, Prod.mk.injEq]
    rw [Card.record, Card.record]
    by_cases hname : name' = name
    · subst hname
      rw [setFlag_files_self]
      cases c.files name' with
      | none => simp
      | some rs =>
        rw [Option.map_some, Option.bind_some, Option.bind_some, List.getElem?_modify]
        by_cases hr : r' = r
        · subst hr
          simp
        · rw [if_neg fun h => hr h.2]
          simp [Ne.symm hr]
    · rw [hne hname, if_neg fun h => hname h.1]

/-- What comes later in the file is not affected. -/
lemma looked_congr (h : ∀ r, i ≤ r → c₁.record name r = c.record name r) (times : ℕ) :
    c₁.looked name times i = c.looked name times i := by
  induction times generalizing i with
  | zero => rfl
  | succ times ih =>
    rw [looked, looked, h i le_rfl]
    rw [ih fun r hr => h r (Nat.le_of_succ_le hr)]

lemma mem_looked {times : ℕ} {p : List UInt8} (h : (r, p) ∈ c.looked name times i) :
    i ≤ r ∧ r < i + times ∧ c.record name r = some p := by
  induction times generalizing i with
  | zero => cases h
  | succ times ih =>
    rw [looked] at h
    cases hp : c.record name i with
    | none => rw [hp] at h; cases h
    | some q =>
      rw [hp, List.mem_cons] at h
      rcases h with h | h
      · cases h
        exact ⟨le_rfl, by omega, hp⟩
      · obtain ⟨hle, hlt, hr⟩ := ih h
        exact ⟨by omega, by omega, hr⟩

end Marked

lemma mem_looked_self {c : Card} {name p : List UInt8} {times i : ℕ}
    (h : c.record name i = some p) : (i, p) ∈ c.looked name (times + 1) i := by
  rw [looked, h]
  exact List.mem_cons_self

/-- The records come in their order. -/
lemma pairwise_looked (c : Card) (name : List UInt8) (times i : ℕ) :
    ((c.looked name times i).map Prod.fst).Pairwise (· < ·) := by
  induction times generalizing i with
  | zero => exact .nil
  | succ times ih =>
    rw [looked]
    cases c.record name i with
    | none => exact .nil
    | some p =>
      refine List.pairwise_cons.mpr ⟨fun r hr => ?_, ih (i + 1)⟩
      obtain ⟨⟨r, q⟩, hq, rfl⟩ := List.mem_map.mp hr
      exact (mem_looked hq).1

/-- No record is sent twice. -/
lemma nodup_found {b : UInt8} {c : Card} {name : List UInt8} {times i : ℕ} :
    (found b (c.looked name times i)).Nodup :=
  ((c.pairwise_looked name times i).imp fun h => Nat.ne_of_lt h).sublist found_sublist

/-! ## The run of a visit -/

/-- What a visit of `times` rounds did, which made the requests `calls`. -/
structure Visited (airs : ℕ → Air) (name : List UInt8) (times : ℕ) (c : Card) (b : Bool) (c' : Card)
    (calls : List (ℕ × UInt8)) : Prop where
  calls_eq : c'.calls = c.calls ++ calls.map fun x => (name, x.1, x.2)
  requested : Requested airs c.calls.length
    (found (c.net.cell .readBuf 0) (c.looked name times c.index)) b calls
  marked : Marked ((calls.filter (·.2 = 0)).map fun x => (name, x.1)) c c'
  index : b = true → c'.index = cursor times c.index (c.lengthOf name)
  readBuf : b = true →
    c'.net.cell .readBuf 0 = leftBy (c.net.cell .readBuf 0) (c.looked name times c.index)
  searchable : b = true → ∀ x ∈ c.looked name times c.index, Searchable x.2

section Run

variable {airs : ℕ → Air} {name p : List UInt8} {times : ℕ} {c c₁ c' : Card} {b : Bool}
  {calls : List (ℕ × UInt8)}

/-- A record is read into `ReadSdBuff`. -/
lemma fread_of_record (h : c.record name c.index = some p) :
    c.fread name = (0, { c with net := c.net.copy .readSdBuff 0 p, index := c.index + 1 }) := by
  obtain ⟨rs, hrs, hp⟩ := Option.bind_eq_some_iff.mp h
  have hlt : c.index < rs.length := (List.getElem?_eq_some_iff.mp hp).1
  rw [fread]
  rw [hrs]
  dsimp only
  rw [hp, if_neg (by omega)]

/-- Behind the last record nothing is read. -/
lemma fread_of_none (h : c.record name c.index = none) : ∃ i,
    c.fread name = (1, { c with index := i }) ∧
      ∀ times, i = cursor (times + 1) c.index (c.lengthOf name) := by
  cases hrs : c.files name with
  | none =>
    refine ⟨c.index, by rw [fread]; rw [hrs], fun times => ?_⟩
    rw [lengthOf, hrs]
    rfl
  | some rs =>
    rw [record, hrs, Option.bind_some, List.getElem?_eq_none_iff] at h
    refine ⟨c.index + 1, ?_, fun times => ?_⟩
    · rw [fread]
      rw [hrs]
      dsimp only
      rw [List.getElem?_eq_none h, if_pos (by omega)]
    · rw [lengthOf, hrs, Option.map_some, cursor]
      omega

/-- What is in `ReadBuf` when a record has been searched for its flag. -/
lemma search_of_record {n : Net} (hp : p.length = 512)
    (hn : (c.net.copy .readSdBuff 0 p).search 18 = some n) :
    n.bytes .readSdBuff = p ∧ n.cell .readBuf 0 = readBuf0 18 p (c.net.cell .readBuf 0) := by
  have hcell : (c.net.copy .readSdBuff 0 p).cell .readBuf = c.net.cell .readBuf :=
    Net.copy_cell_of_ne _ _ _ (by decide)
  rw [(Net.peeks_search 18).record _ _ hn, (Net.peeks_search 18).first _ _ hn,
    Net.bytes_read _ hp, hcell]
  exact ⟨rfl, rfl⟩

/-- The search comes to an end where there is something behind the 17th comma. -/
lemma isSome_search (hp : p.length = 512) :
    ((c.net.copy .readSdBuff 0 p).search 18).isSome ↔ Searchable p := by
  rw [Net.search, Net.bytes_read _ hp, Option.isSome_map, searchable_iff]

/-- A record that is not sent. -/
lemma Visited.skip (h : Visited airs name times c₁ b c' calls)
    (hrecord : c.record name c.index = some p) (hs : Searchable p)
    (hflag : readBuf0 18 p (c.net.cell .readBuf 0) ≠ charN) (hfiles : c₁.files = c.files)
    (hcalls : c₁.calls = c.calls) (hindex : c₁.index = c.index + 1)
    (hbuf : c₁.net.cell .readBuf 0 = readBuf0 18 p (c.net.cell .readBuf 0)) :
    Visited airs name (times + 1) c b c' calls := by
  have hlooked : c.looked name (times + 1) c.index =
      (c.index, p) :: c₁.looked name times c₁.index := by
    have hsame : ∀ r, c.index + 1 ≤ r → c₁.record name r = c.record name r := fun r _ => by
      rw [record, record]
      rw [hfiles]
    rw [looked, hrecord, hindex, looked_congr hsame]
  have hleaves : leaves p (c.net.cell .readBuf 0) = c₁.net.cell .readBuf 0 := by
    rw [leaves, if_neg hflag, hbuf]
  have hlen : c₁.lengthOf name = c.lengthOf name := by
    rw [lengthOf, lengthOf]
    rw [hfiles]
  refine ⟨?_, ?_, ?_, fun hb => ?_, fun hb => ?_, fun hb x hx => ?_⟩
  · rw [h.calls_eq, hcalls]
  · rw [hlooked, found, if_pos hs, if_neg hflag, hleaves, ← hcalls]
    exact h.requested
  · exact (Marked.of_files hfiles).trans h.marked
  · rw [h.index hb, hindex, hlen]
    obtain ⟨rs, hrs, hp⟩ := Option.bind_eq_some_iff.mp hrecord
    have hlt := (List.getElem?_eq_some_iff.mp hp).1
    rw [lengthOf, hrs, Option.map_some, cursor, cursor]
    omega
  · rw [h.readBuf hb, hlooked, leftBy, leftBy, List.foldl_cons, hleaves]
  · rw [hlooked, List.mem_cons] at hx
    rcases hx with rfl | hx
    · exact hs
    · exact h.searchable hb x hx

/-- A record that is sent and accepted. -/
lemma Visited.accept (h : Visited airs name times c₁ b c' calls)
    (hrecord : c.record name c.index = some p) (hs : Searchable p)
    (hflag : readBuf0 18 p (c.net.cell .readBuf 0) = charN)
    (hans : Answers (airs c.calls.length) 0) (hmark : Marked [(name, c.index)] c c₁)
    (hcalls : c₁.calls = c.calls ++ [(name, c.index, 0)]) (hindex : c₁.index = c.index + 1)
    (hbuf : c₁.net.cell .readBuf 0 = leaves p (c.net.cell .readBuf 0)) :
    Visited airs name (times + 1) c b c' ((c.index, 0) :: calls) := by
  have hlooked : c.looked name (times + 1) c.index =
      (c.index, p) :: c₁.looked name times c₁.index := by
    have hsame : ∀ r, c.index + 1 ≤ r → c₁.record name r = c.record name r := by
      intro r hr
      rw [hmark.record, if_neg]
      simp only [List.mem_singleton, Prod.mk.injEq, not_and]
      rintro -
      omega
    rw [looked, hrecord, hindex, looked_congr hsame]
  refine ⟨?_, ?_, ?_, fun hb => ?_, fun hb => ?_, fun hb x hx => ?_⟩
  · rw [h.calls_eq, hcalls, List.append_assoc]
    rfl
  · have hsends := h.requested
    rw [hcalls, List.length_append, List.length_singleton] at hsends
    rw [hlooked, found, if_pos hs, if_pos hflag, ← hbuf]
    exact .accept hans hsends
  · exact hmark.trans h.marked
  · rw [h.index hb, hindex, hmark.lengthOf]
    obtain ⟨rs, hrs, hp⟩ := Option.bind_eq_some_iff.mp hrecord
    have hlt := (List.getElem?_eq_some_iff.mp hp).1
    rw [lengthOf, hrs, Option.map_some, cursor, cursor]
    omega
  · rw [h.readBuf hb, hlooked, leftBy, leftBy, List.foldl_cons, hbuf]
  · rw [hlooked, List.mem_cons] at hx
    rcases hx with rfl | hx
    · exact hs
    · exact h.searchable hb x hx

/-- What a visit does. -/
lemma exists_visited (hc : c.Whole)
    (h : c.readDatatoBufferFrom airs name times = some (b, c')) :
    ∃ calls, Visited airs name times c b c' calls := by
  -- on the rounds that are left; each of them moves the cursor in the card
  induction times generalizing c with
  | zero =>
    cases h
    refine ⟨[], by simp, .done, .of_files rfl, fun _ => ?_, fun _ => rfl, fun _ x hx => ?_⟩
    · unfold cursor
      split
      · rfl
      · rw [Nat.zero_min, Nat.add_zero]
    · cases hx
  | succ times ih =>
    cases hrecord : c.record name c.index with
    | none =>
      -- the end of the file
      obtain ⟨i, hread, hi⟩ := fread_of_none hrecord
      have hlooked : c.looked name (times + 1) c.index = [] := by rw [looked, hrecord]
      rw [readDatatoBufferFrom, hread] at h
      obtain ⟨rfl, rfl⟩ := Prod.mk.injEq .. ▸ Option.some.inj h
      refine ⟨[], by simp, ?_, .of_files rfl, fun _ => hi times, fun _ => ?_, fun _ x hx => ?_⟩
      · rw [hlooked]
        exact .done
      · rw [hlooked]
        rfl
      · rw [hlooked] at hx
        cases hx
    | some p =>
      have hp : p.length = 512 := hc name _ p hrecord
      have hread := fread_of_record hrecord
      rcases readDatatoBufferFrom_succ h with ⟨hone, -⟩ | ⟨-, n, hn, hrest⟩
      · rw [hread] at hone
        exact absurd (show (0 : UInt8) = 1 from hone) (by decide)
      rw [hread] at hn hrest
      dsimp only at hn hrest
      have hs : Searchable p := (isSome_search (c := c) hp).mp (by rw [hn]; rfl)
      obtain ⟨hbytes, hbuf⟩ := search_of_record hp hn
      rcases hrest with ⟨hflag, h⟩ | ⟨hflag, i, n', hi, hrest⟩
      · rw [hbuf] at hflag
        obtain ⟨calls, hv⟩ := ih (c := { c with net := n, index := c.index + 1 }) hc h
        exact ⟨calls, hv.skip hrecord hs hflag rfl rfl rfl hbuf⟩
      · rw [hbuf] at hflag
        have hans : Answers (airs c.calls.length) i := ⟨n, n', hi⟩
        rcases hrest with ⟨rfl, h⟩ | ⟨hne, rfl, rfl⟩
        · have hleaves : n'.cell .readBuf 0 = leaves p (c.net.cell .readBuf 0) := by
            rw [Net.takeMealsFun1_readBuf hi, hbytes, hbuf, leaves, if_pos hflag]
          have hmark := marked_setFlag { c with
            net := n', index := c.index + 1, calls := c.calls ++ [(name, c.index, 0)] }
            name c.index
          obtain ⟨calls, hv⟩ := ih (hmark.whole hc) h
          have hmark' : Marked [(name, c.index)] c _ := ⟨hmark.lengthOf, hmark.record⟩
          exact ⟨_, hv.accept hrecord hs hflag hans hmark' rfl rfl hleaves⟩
        · -- a refusal ends the visit
          refine ⟨[(c.index, i)], rfl, ?_, ?_, nofun, nofun, nofun⟩
          · rw [looked, hrecord]
            dsimp only
            rw [found, if_pos hs, if_pos hflag]
            exact .refuse hans hne
          · rw [List.filter_cons_of_neg (by simpa using hne)]
            exact .of_files rfl

/-- Where every request is accepted, a visit comes to an end if each of its searches does. -/
lemma exists_visit (hacc : ∀ k (n : Net), 15 ≤ n.commas → ∃ n', n.takeMealsFun1 (airs k) =
      some (0, n')) (hc : c.Whole) (h : ∀ x ∈ c.looked name times c.index, Searchable x.2) :
    ∃ b c', c.readDatatoBufferFrom airs name times = some (b, c') := by
  induction times generalizing c with
  | zero => exact ⟨true, c, rfl⟩
  | succ times ih =>
    rw [readDatatoBufferFrom]
    cases hrecord : c.record name c.index with
    | none =>
      obtain ⟨i, hread, -⟩ := fread_of_none hrecord
      rw [hread]
      exact ⟨true, _, rfl⟩
    | some p =>
      have hp : p.length = 512 := hc name _ p hrecord
      have hlooked : c.looked name (times + 1) c.index =
          (c.index, p) :: c.looked name times (c.index + 1) := by rw [looked, hrecord]
      rw [hlooked, List.forall_mem_cons] at h
      obtain ⟨n, hn⟩ := Option.isSome_iff_exists.mp ((isSome_search (c := c) hp).mpr h.1)
      obtain ⟨hbytes, hbuf⟩ := search_of_record hp hn
      rw [fread_of_record hrecord]
      simp only [Option.bind_eq_bind]
      rw [if_neg (by decide), hn, Option.bind_some]
      split_ifs
      · -- sent, accepted and marked
        have hcommas : 15 ≤ n.commas := by
          have hcount : 17 ≤ p.count comma := h.1.count_comma
          rw [Net.commas, hbytes]
          omega
        obtain ⟨n', hn'⟩ := hacc c.calls.length n hcommas
        rw [hn', Option.bind_some]
        dsimp only
        rw [if_pos rfl]
        have hmark := marked_setFlag { c with
          net := n', index := c.index + 1, calls := c.calls ++ [(name, c.index, 0)] } name c.index
        refine ih (hmark.whole hc) ?_
        rw [show (setFlag name c.index _).index = c.index + 1 from rfl,
          looked_congr (c := c) fun r hr => ?_]
        · exact h.2
        · refine (hmark.record name r).trans (if_neg ?_)
          simp only [List.mem_singleton, Prod.mk.injEq, not_and]
          rintro -
          omega
      · have hsame : looked { c with net := n, index := c.index + 1 } name times (c.index + 1) =
            c.looked name times (c.index + 1) := by
          refine looked_congr (fun r _ => ?_) times
          rfl
        exact ih (c := { c with net := n, index := c.index + 1 }) hc (hsame ▸ h.2)

end Run

end Card

end MealVendor
