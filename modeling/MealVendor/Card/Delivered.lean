import MealVendor.Card.Resend

/-!
# Marked without an acceptance

`DataUpload` reports a meal and appends its record, with a flag that says what came of it;
`ReadDatatoBuffer` reports the records with the flag `n` again and overwrites the flag of those that
are accepted.  What the flag says is right exactly where the server's frames do not fool the
program, and where no value of the meal has the byte `y` in it: there the text of the record ends.
-/

namespace MealVendor

/-! ## The flag of a stored record -/

/-- The last character of a record but one, without the zeros behind it. -/
def textFlag (p : List UInt8) : UInt8 := (p.reverse.dropWhile (· == 0)).getD 1 0

/-- Where `HextoChar` stops, with `temp` commas behind it: at the first `n` or `y` that is not in
the name. -/
def stopFrom : ℕ → List UInt8 → Option UInt8
  | _, [] => none
  | temp, b :: bs =>
    if b = comma then stopFrom (temp + 1) bs
    else if (b = charN ∨ b = charY) ∧ temp ≠ 9 then some b
    else stopFrom temp bs

section Flag

variable {temp : ℕ} {bs text p : List UInt8} {flag : UInt8}

/-- The text ends with that, and a carriage return. -/
lemma hextoCharFrom_eq_append (h : hextoCharFrom temp bs = some text) :
    ∃ pre b, stopFrom temp bs = some b ∧ text = pre ++ [b, 0x0d] := by
  induction bs generalizing temp text with
  | nil => cases h
  | cons c bs ih =>
    rw [hextoCharFrom] at h
    rw [stopFrom]
    split_ifs at h with hc hflag hname hname
    · obtain ⟨t, ht, rfl⟩ := Option.map_eq_some_iff.mp h
      obtain ⟨pre, b, hb, rfl⟩ := ih ht
      exact ⟨c :: pre, b, by rw [if_pos hc, hb], rfl⟩
    · cases h
      exact ⟨[], c, by rw [if_neg hc, if_pos ⟨hflag, hname⟩], rfl⟩
    · obtain ⟨pre, b, hb, rfl⟩ := ih h
      exact ⟨pre, b, by rw [if_neg hc, if_neg fun h => hname h.2, hb], rfl⟩
    · obtain ⟨t, ht, rfl⟩ := Option.map_eq_some_iff.mp h
      obtain ⟨pre, b, hb, rfl⟩ := ih ht
      exact ⟨_ :: _ :: pre, b, by rw [if_neg hc, if_neg fun h => hflag h.1, hb], rfl⟩
    · obtain ⟨t, ht, rfl⟩ := Option.map_eq_some_iff.mp h
      obtain ⟨pre, b, hb, rfl⟩ := ih ht
      exact ⟨c :: pre, b, by rw [if_neg hc, if_neg fun h => hflag h.1, hb], rfl⟩

/-- Behind all the commas the flag itself ends the text, if nothing did before. -/
lemma stopFrom_append (hflag : flag = charN ∨ flag = charY) (h : 9 < temp + bs.count comma) :
    stopFrom temp (bs ++ [flag]) = some ((stopFrom temp bs).getD flag) := by
  induction bs generalizing temp with
  | nil =>
    have hne : flag ≠ comma := by rcases hflag with rfl | rfl <;> decide
    rw [List.count_nil] at h
    simp only [List.nil_append, stopFrom]
    rw [if_neg hne, if_pos ⟨hflag, by omega⟩]
    rfl
  | cons c bs ih =>
    rw [List.cons_append, stopFrom, stopFrom]
    by_cases hc : c = comma
    · rw [hc, List.count_cons_self] at h
      rw [if_pos hc, if_pos hc]
      exact ih (by omega)
    · rw [List.count_cons_of_ne hc] at h
      rw [if_neg hc, if_neg hc]
      split_ifs
      · rfl
      · exact ih h

lemma textFlag_append (pre : List UInt8) {b : UInt8} (k : ℕ) :
    textFlag (pre ++ [b, 0x0d] ++ List.replicate k 0) = b := by
  have hzeros : ∀ (k : ℕ) (l : List UInt8),
      (List.replicate k 0 ++ l).dropWhile (· == 0) = l.dropWhile (· == 0) := by
    intro k l
    induction k with
    | zero => rfl
    | succ k ih => rw [List.replicate_succ, List.cons_append, List.dropWhile_cons_of_pos rfl, ih]
  rw [textFlag, List.reverse_append, List.reverse_replicate, hzeros, List.reverse_append]
  rfl

/-- The flag with which a record is stored. -/
lemma textFlag_recBuf {n : Net} (hflag : flag = charN ∨ flag = charY)
    (h : n.recBuf flag = some p) : textFlag p = (stopFrom 0 (joined n.items)).getD flag := by
  obtain ⟨text, htext, rfl⟩ := Option.map_eq_some_iff.mp h
  obtain ⟨pre, b, hb, rfl⟩ := hextoCharFrom_eq_append htext
  have hcount := count_items n
  rw [Net.sendBuf_eq, stopFrom_append hflag (by omega)] at hb
  rw [textFlag_append, Option.some.inj hb]

end Flag

/-! ## The values of a meal -/

namespace Net

/-- Where `fillMeal` stores what, in the array `g`. -/
def mealValue (sel : CustomerSel) (takeoutFlag : UInt8) : Glob → Option (ℕ × List UInt8)
  | .dealBalance => some (3, List.ofFn sel.dealBalance)
  | .mealID => some (3, List.ofFn sel.mealID)
  | .mealNO => some (3, [sel.mealNo])
  | .mealName => (Kind.ofID sel.mealName).map fun k => (3, maelName k)
  | .mealPrice => some (3, List.ofFn sel.mealPrice)
  | .payType => some (3, [sel.payType])
  | .change => some (3, List.ofFn sel.change)
  | .remainMealNum => some (3, List.ofFn sel.remainMealNum)
  | .takeMealFlag => some (4, [takeoutFlag])
  | _ => none

section Values

variable {n m : Net} {g : Glob} {i : ℕ} {bs bs' : List UInt8}

/-- What is stored over is not seen. -/
lemma copy_cell_overwrite (h : n.cell g = (m.copy g i bs).cell g)
    (hlen : bs.length = bs'.length) : (n.copy g i bs').cell g = (m.copy g i bs').cell g := by
  funext j
  rw [copy_cell_self, copy_cell_self, h, copy_cell_self, hlen]
  split_ifs <;> rfl

lemma copy_cell_congr' (h : n.cell g = m.cell g) :
    (n.copy g i bs).cell g = (m.copy g i bs).cell g := by
  funext j
  rw [copy_cell_self, copy_cell_self, h]

lemma fillMeal_cell (sel : CustomerSel) (flag : UInt8) (n : Net) (g : Glob) :
    (n.fillMeal sel flag).cell g =
      (mealValue sel flag g).elim (n.cell g) fun x => (n.copy g x.1 x.2).cell g := by
  have hput : ∀ (u : Net) (g : Glob) (i : ℕ) (v : UInt8), u.put g i v = u.copy g i [v] :=
    fun _ _ _ _ => rfl
  rw [fillMeal]
  simp only [hput]
  cases hk : Kind.ofID sel.mealName <;> dsimp only
  all_goals
    cases g <;> simp only [mealValue, hk, Option.map_some, Option.map_none, Option.elim]
    all_goals
      repeat first
        | rw [copy_cell_of_ne _ _ _ (by decide)]
        | apply copy_cell_congr'

/-- What is filled in does not depend on the other arrays. -/
lemma meal_cell_congr (h : n.cell g = m.cell g) (now : StructTD) (sel : CustomerSel)
    (flag : UInt8) : ((n.getBRWN now).fillMeal sel flag).cell g =
      ((m.getBRWN now).fillMeal sel flag).cell g := by
  have hbrwn : (n.getBRWN now).cell g = (m.getBRWN now).cell g := by
    rw [getBRWN, getBRWN]
    by_cases hg : g = .brwn
    · subst hg
      exact copy_cell_congr' h
    · rw [copy_cell_of_ne _ _ _ hg, copy_cell_of_ne _ _ _ hg, h]
  rw [fillMeal_cell, fillMeal_cell]
  cases mealValue sel flag g with
  | none => exact hbrwn
  | some x => exact copy_cell_congr' hbrwn

/-- The text of a record depends on its values only. -/
lemma items_congr (h : ∀ g ∈ recordGlobs, n.cell g = m.cell g) : n.items = m.items := by
  have hvalues : recordGlobs.map n.value = recordGlobs.map m.value :=
    List.map_congr_left fun g hg => by
      rw [value, value, bytes, bytes]
      rw [h g hg]
  rw [items, items, hvalues]

/-- When a meal is filled in again, it is as if it had been once. -/
lemma refill_cell (now now' : StructTD) (sel : CustomerSel) (flag : UInt8)
    (h : n.cell g = ((m.getBRWN now).fillMeal sel flag).cell g) :
    ((n.getBRWN now').fillMeal sel flag).cell g = ((m.getBRWN now').fillMeal sel flag).cell g := by
  rw [fillMeal_cell] at h ⊢
  rw [fillMeal_cell]
  by_cases hg : g = .brwn
  · subst hg
    exact copy_cell_overwrite h rfl
  · have hbrwn : ∀ (u : Net) (t : StructTD), (u.getBRWN t).cell g = u.cell g :=
      fun u t => copy_cell_of_ne _ _ _ hg
    cases hv : mealValue sel flag g with
    | none =>
      rw [hv, Option.elim, hbrwn] at h
      rw [Option.elim, Option.elim, hbrwn, hbrwn]
      exact h
    | some x =>
      rw [hv, Option.elim] at h
      rw [Option.elim, Option.elim]
      have hcell : (n.getBRWN now').cell g = ((m.getBRWN now').copy g x.1 x.2).cell g := by
        rw [hbrwn, h]
        exact copy_cell_congr' (by rw [hbrwn, hbrwn])
      exact copy_cell_overwrite hcell rfl

/-- The receiver does not run over the end of its buffer while the request is dealt with. -/
def Bears (air : Air) (n : Net) : Prop :=
  ∃ m w, n.memSet00 air = some m ∧ m.uart.cmdDataSend.wait 249 air.polls = some w

end Values

/-- What is left in the arrays by `TakeMealsFun`. -/
lemma takeMealsFun_cell {buf : Glob} {flag i : UInt8} {sel : CustomerSel} {now : StructTD}
    {air : Air} {n n' : Net} (h : n.takeMealsFun buf flag sel now air = some (i, n')) {g : Glob}
    (hg : g ≠ buf) : n'.cell g = ((n.getBRWN now).fillMeal sel flag).cell g := by
  obtain ⟨m, hm, h⟩ := Option.bind_eq_some_iff.mp h
  obtain ⟨r, hr, h⟩ := Option.map_eq_some_iff.mp h
  obtain ⟨w, -, rfl⟩ := Option.map_eq_some_iff.mp hr
  obtain ⟨s, -, rfl⟩ := Option.map_eq_some_iff.mp hm
  obtain rfl := congrArg Prod.snd h
  dsimp only
  rw [storeLenght, copy_cell_of_ne _ _ _ hg, copy_cell_of_ne _ _ _ hg]
  dsimp only
  exact meal_cell_congr (n := { n with uart := s }) (m := n) rfl now sel flag

lemma bears_congr {n m : Net} {air : Air} (h : m.uart = n.uart) : m.Bears air ↔ n.Bears air := by
  simp only [Bears, memSet00, Option.map_eq_some_iff, h]
  constructor
  · rintro ⟨_, w, ⟨s, hs, rfl⟩, hw⟩
    exact ⟨_, w, ⟨s, hs, rfl⟩, hw⟩
  · rintro ⟨_, w, ⟨s, hs, rfl⟩, hw⟩
    exact ⟨_, w, ⟨s, hs, rfl⟩, hw⟩

/-- When `TakeMealsFun` comes to an end. -/
lemma takeMealsFun_isSome_iff (buf : Glob) (flag : UInt8) (sel : CustomerSel) (now : StructTD)
    {air : Air} {n : Net} :
    (∃ r, n.takeMealsFun buf flag sel now air = some r) ↔ n.Bears air := by
  rw [takeMealsFun, Bears]
  simp only [mealComparefunDemo, Option.bind_eq_some_iff, Option.map_eq_some_iff]
  constructor
  · rintro ⟨-, m, hm, -, ⟨w, hw, rfl⟩, -⟩
    rw [fillMeal_uart, getBRWN_uart] at hw
    exact ⟨m, w, hm, hw⟩
  · rintro ⟨m, w, hm, hw⟩
    refine ⟨_, m, hm, _, ⟨w, ?_, rfl⟩, rfl⟩
    rw [fillMeal_uart, getBRWN_uart]
    exact hw

/-- `Sd_Write` comes to an end with these flags. -/
lemma exists_sdWrite {f : UInt8} (hf : f = charN ∨ f = charY) (flag : UInt8) (sel : CustomerSel)
    (now : StructTD) (n : Net) : ∃ p n', n.sdWrite f flag sel now = some (p, n') := by
  obtain ⟨text, htext, -⟩ := (hextoCharSafe_iff ((n.getBRWN now).fillMeal sel flag) f).mpr (.inl hf)
  exact ⟨_, _, Option.map_eq_some_iff.mpr ⟨_, Option.map_eq_some_iff.mpr ⟨text, htext, rfl⟩, rfl⟩⟩

/-- What `TakeMealsFun` returns. -/
lemma takeMealsFun_taken {buf : Glob} {flag i : UInt8} {sel : CustomerSel} {now : StructTD}
    {air : Air} {n n' : Net} (h : n.takeMealsFun buf flag sel now air = some (i, n')) :
    i = 0 ∧ Taken air.polls ∨ i = 1 ∧ ¬ Taken air.polls := by
  obtain ⟨m, -, hm, -⟩ := (takeMealsFun_isSome_iff buf flag sel now).mp ⟨_, h⟩
  have hzero : (∃ n', n.takeMealsFun buf flag sel now air = some (0, n')) ↔
      (n.memSet00 air).isSome ∧ Taken air.polls := takeMealsFun_zero_iff buf flag sel now
  rw [hm] at hzero
  simp only [Option.isSome_some, true_and] at hzero
  rcases takeMealsFun_fst h with rfl | rfl
  · exact .inl ⟨rfl, hzero.mp ⟨n', h⟩⟩
  · refine .inr ⟨rfl, fun htaken => ?_⟩
    obtain ⟨n₀, hn₀⟩ := hzero.mpr htaken
    have hone : (1 : UInt8) = 0 := congrArg Prod.fst (Option.some.inj (h.symm.trans hn₀))
    exact absurd hone (by decide)

end Net

namespace Card

variable {c c' : Card} {air : Air}

/-! ## `DataUpload` -/

/-- The text of the record of a meal, up to the flag. -/
def saleText (flag : UInt8) (sel : CustomerSel) (now : StructTD) (c : Card) : List UInt8 :=
  joined ((c.net.getBRWN now).fillMeal sel flag).items

/-- `DataUpload` appends `p` to the file of the day `date`. -/
def Appends (date : StructTD) (c c' : Card) (p : List UInt8) : Prop :=
  c'.files (itoa date) = some ((c.files (itoa date)).getD [] ++ [p])

lemma dataUpload_eq_some {flag f : UInt8} {sel : CustomerSel} {date now now' : StructTD} :
    c.dataUpload flag sel date now now' air = some (f, c') ↔ ∃ i n p n',
      (c.net.copy .recordBuffer 0 (List.replicate 254 0)).takeMealsFun .recordBuffer flag sel now
          air = some (i, n) ∧
        f = (if i = 0x01 then charN else charY) ∧ n.sdWrite f flag sel now' = some (p, n') ∧
        c' = { c with net := n' }.fwriter (itoa date) p := by
  rw [dataUpload]
  simp only [Option.bind_eq_bind, Option.bind_eq_some_iff, Option.some.injEq, Prod.mk.injEq]
  constructor
  · rintro ⟨⟨i, n⟩, hi, ⟨p, n'⟩, hp, rfl, rfl⟩
    exact ⟨i, n, p, n', hi, rfl, hp, rfl⟩
  · rintro ⟨i, n, p, n', hi, rfl, hp, rfl⟩
    exact ⟨(i, n), hi, (p, n'), hp, rfl, rfl⟩

/-- `DataUpload` comes to an end if the receiver bears what comes. -/
lemma exists_dataUpload (flag : UInt8) (sel : CustomerSel) (date now now' : StructTD) :
    (∃ f c', c.dataUpload flag sel date now now' air = some (f, c')) ↔ c.net.Bears air := by
  have huart : (c.net.copy .recordBuffer 0 (List.replicate 254 0)).uart = c.net.uart :=
    Net.copy_uart ..
  rw [← Net.bears_congr huart, ← Net.takeMealsFun_isSome_iff .recordBuffer flag sel now]
  simp only [dataUpload_eq_some]
  constructor
  · rintro ⟨-, -, i, n, -, -, hi, -⟩
    exact ⟨_, hi⟩
  · rintro ⟨⟨i, n⟩, hi⟩
    have hflag : (if i = 0x01 then charN else charY) = charN ∨
        (if i = 0x01 then charN else charY) = charY := by
      split_ifs <;> simp
    obtain ⟨p, n', hp⟩ := Net.exists_sdWrite hflag flag sel now' n
    exact ⟨_, _, i, n, p, n', hi, rfl, hp, rfl⟩

/-- What the record looks like that it appends. -/
lemma dataUpload_appends {flag f : UInt8} {sel : CustomerSel} {date now now' : StructTD}
    (h : c.dataUpload flag sel date now now' air = some (f, c')) :
    ∃ p, c.Appends date c' p ∧ textFlag p = (stopFrom 0 (c.saleText flag sel now')).getD f ∧
      (f = charY ∧ Taken air.polls ∨ f = charN ∧ ¬ Taken air.polls) := by
  obtain ⟨i, n, p, n', hi, rfl, hp, rfl⟩ := dataUpload_eq_some.mp h
  have htaken := Net.takeMealsFun_taken hi
  refine ⟨p, Function.update_self .., ?_, ?_⟩
  · obtain ⟨q, hq, heq⟩ := Option.map_eq_some_iff.mp hp
    obtain rfl : q = p := congrArg Prod.fst heq
    have hflag : (if i = 0x01 then charN else charY) = charN ∨
        (if i = 0x01 then charN else charY) = charY := by
      split_ifs <;> simp
    have hitems : ((n.getBRWN now').fillMeal sel flag).items =
        ((c.net.getBRWN now').fillMeal sel flag).items := by
      refine Net.items_congr fun g hg => Net.refill_cell now now' sel flag ?_
      have hne : g ≠ .recordBuffer := by
        rintro rfl
        exact absurd hg (by decide)
      rw [Net.takeMealsFun_cell hi hne]
      exact Net.meal_cell_congr (Net.copy_cell_of_ne _ _ _ hne) now sel flag
    rw [textFlag_recBuf hflag hq, saleText, hitems]
  · rcases htaken with ⟨rfl, htaken⟩ | ⟨rfl, htaken⟩
    · exact .inl ⟨rfl, htaken⟩
    · exact .inr ⟨rfl, htaken⟩

/-! ## `ReadDatatoBuffer` -/

/-- The flag of the record `r`, at 167, becomes `y`. -/
def Flips (c c' : Card) (name : List UInt8) (r : ℕ) : Prop :=
  (c.record name r).bind (·[167]?) ≠ some charY ∧
    (c'.record name r).bind (·[167]?) = some charY

section Flips

variable {airs : ℕ → Air} {fName : List UInt8} {t j r : ℕ} {b : Bool} {calls : List (ℕ × UInt8)}

/-- What is flipped was sent, and accepted as far as the program knows. -/
lemma Visited.exists_call (h : Visited airs fName t c b c' calls) {name : List UInt8}
    (hflip : c.Flips c' name r) : name = fName ∧ ∃ j : ℕ, calls[j]? = some (r, 0) := by
  obtain ⟨hbefore, hafter⟩ := hflip
  rw [h.marked.record] at hafter
  split_ifs at hafter with hmem
  · obtain ⟨⟨r', i⟩, hx, heq⟩ := List.mem_map.mp hmem
    cases heq
    obtain ⟨hx, hi⟩ := List.mem_filter.mp hx
    obtain rfl : i = 0 := by simpa using hi
    exact ⟨rfl, List.mem_iff_getElem?.mp hx⟩
  · exact absurd hafter hbefore

/-- What is accepted as far as the program knows is flipped. -/
lemma Visited.flips (h : Visited airs fName t c b c' calls) (hc : c.Whole)
    (hj : calls[j]? = some (r, 0)) (hbefore : (c.record fName r).bind (·[167]?) ≠ some charY) :
    c.Flips c' fName r := by
  have hfound : r ∈ found (c.net.cell .readBuf 0) (c.looked fName t c.index) :=
    List.mem_of_getElem? (h.requested.getElem hj).1
  obtain ⟨⟨r', p⟩, hp, rfl⟩ := List.mem_map.mp (found_sublist.subset hfound)
  have hrecord : c.record fName r' = some p := (mem_looked hp).2.2
  have hlen := hc fName r' p hrecord
  have hmem : (fName, r') ∈ (calls.filter (·.2 = 0)).map fun x => (fName, x.1) :=
    List.mem_map.mpr ⟨(r', 0), List.mem_filter.mpr ⟨List.mem_of_getElem? hj, by simp⟩, rfl⟩
  refine ⟨hbefore, ?_⟩
  rw [h.marked.record, if_pos hmem, hrecord, Option.map_some, Option.bind_some,
    List.getElem?_set_self (by omega)]

/-- The request for a record is the one with its number. -/
lemma Visited.getElem_calls (h : Visited airs fName t c b c' calls) (hj : calls[j]? = some (r, 0)) :
    c'.calls[c.calls.length + j]? = some (fName, r, 0) := by
  rw [h.calls_eq, List.getElem?_append_right (Nat.le_add_right _ _), Nat.add_sub_cancel_left,
    List.getElem?_map, hj]
  rfl

/-- There is no other one. -/
lemma Visited.index_unique (h : Visited airs fName t c b c' calls)
    (hj : (found (c.net.cell .readBuf 0) (c.looked fName t c.index))[j]? = some r) {k : ℕ}
    {i : UInt8} (hk : c.calls.length ≤ k) (hcall : c'.calls[k]? = some (fName, r, i)) :
    k = c.calls.length + j := by
  obtain ⟨j', rfl⟩ := Nat.exists_eq_add_of_le hk
  rw [h.calls_eq, List.getElem?_append_right hk, Nat.add_sub_cancel_left,
    List.getElem?_map] at hcall
  obtain ⟨⟨r', i'⟩, hx, heq⟩ := Option.map_eq_some_iff.mp hcall
  cases heq
  have hj' := (h.requested.getElem hx).1
  have hlt := (List.getElem?_eq_some_iff.mp hj).1
  rw [(List.getElem?_inj hlt nodup_found).mp (hj.trans hj'.symm)]

end Flips

end Card

/-- What is returned says whether the program takes the meal for accepted. -/
lemma Answers.eq_zero_iff {air : Air} {i : UInt8} (h : Answers air i) :
    i = 0 ↔ Taken air.polls := by
  obtain ⟨n, n', hn⟩ := h
  constructor
  · rintro rfl
    exact (n.takeMealsFun1_zero_iff.mp ⟨n', hn⟩).2
  · intro htaken
    obtain ⟨hcommas, m, hm, -⟩ := (n.takeMealsFun1_iff i).mp ⟨n', hn⟩
    obtain ⟨n₀, hn₀⟩ := n.takeMealsFun1_zero_iff.mpr ⟨⟨by rw [hm]; rfl, hcommas⟩, htaken⟩
    exact congrArg Prod.fst (Option.some.inj (hn.symm.trans hn₀))

/-! ## Marked without an acceptance -/

/-- A property that follows from taking the meal for accepted. -/
lemma received_iff_not_fooled {air : List (List RxByte)} {req : ℕ} {P : Prop} :
    (P ∧ Taken air → Received air req 0x0800 7) ↔ (P → ¬ Fooled air req) := by
  rw [fooled_iff]
  constructor
  · rintro h hP ⟨htaken, hnot⟩
    exact hnot (h ⟨hP, htaken⟩)
  · rintro h ⟨hP, htaken⟩
    by_contra hnot
    exact h hP ⟨htaken, hnot⟩

/-- A meal is taken for accepted, its record appended with the flag `y`, and the flag of a record
overwritten with `y`, only after an acceptance of that very request was received, exactly where the
frames of the server do not fool the program, and no value of the meal ends the text of its record
with `y`; and it is signed in only after that was accepted, exactly where the frame it finds is
empty or carries the code `0x24`, or an acceptance has come by then. -/
theorem delivered_if_accepted_iff (buf : Glob) (flag : UInt8) (sel : CustomerSel)
    (date now now' : StructTD) (fName : List UInt8) (air : Air) (req : ℕ) (airs : ℕ → Air)
    (reqs : ℕ → ℕ) (n : Net) (c : Card) (hc : c.Whole) :
    ((∀ n', n.takeMealsFun buf flag sel now air = some (0, n') →
        Received air.polls req 0x0800 7) ↔
      ((n.memSet00 air).isSome → ¬ Fooled air.polls req)) ∧
    ((∀ n', n.takeMealsFun1 air = some (0, n') → Received air.polls req 0x0800 7) ↔
      ((n.memSet00 air).isSome ∧ 15 ≤ (n.bytes .readSdBuff).count comma →
        ¬ Fooled air.polls req)) ∧
    ((∀ f c' p, c.dataUpload flag sel date now now' air = some (f, c') → c.Appends date c' p →
        textFlag p = charY → Received air.polls req 0x0800 7) ↔
      (c.net.Bears air →
        (stopFrom 0 (c.saleText flag sel now') = none → ¬ Fooled air.polls req) ∧
        (stopFrom 0 (c.saleText flag sel now') = some charY →
          Received air.polls req 0x0800 7))) ∧
    ((∀ t ≤ 1000, ∀ b c', c.readDatatoBufferFrom airs fName t = some (b, c') →
        ∀ name r, c.Flips c' name r → ∃ k i, c.calls.length ≤ k ∧
          c'.calls[k]? = some (name, r, i) ∧ Received (airs k).polls (reqs k) 0x0800 7) ↔
      (∀ t ≤ 1000, (c.readDatatoBufferFrom airs fName t).isSome → ∀ j r : ℕ,
        (found (c.net.cell .readBuf 0) (c.looked fName t c.index))[j]? = some r →
        (c.record fName r).bind (·[167]?) ≠ some charY →
        (∀ i < j, Taken (airs (c.calls.length + i)).polls) →
          ¬ Fooled (airs (c.calls.length + j)).polls (reqs (c.calls.length + j)))) ∧
    ((∀ n', n.signInFun now air = some (0, n') → Received air.polls req 0x0100 0x49) ↔
      (∀ m k f v, n.memSet00 air = some m → FirstShown f air.polls k →
        m.uart.cmdDataSend.polled air.polls k = some v →
          hlBufferToInit (v.rx1Buf 2) (v.rx1Buf 3) = 0 ∨ v.rx1Buf 0x49 = 0x24 ∨
            ∃ g, Takes (air.polls.take k).flatten g ∧ Accepts g req 0x0100 0x49)) := by
  refine ⟨?_, ?_, ?_, ?_, ?_⟩
  · rw [← received_iff_not_fooled, ← Net.takeMealsFun_zero_iff buf flag sel now,
      forall_exists_index]
  · have hzero : (∃ n', n.takeMealsFun1 air = some (0, n')) ↔ _ := Net.takeMealsFun1_zero_iff n
    unfold Net.commas at hzero
    rw [← received_iff_not_fooled, ← hzero, forall_exists_index]
  · constructor
    · intro h hbears
      obtain ⟨f, c', hrun⟩ := (Card.exists_dataUpload flag sel date now now').mpr hbears
      obtain ⟨p, hp, hflag, hf⟩ := Card.dataUpload_appends hrun
      refine ⟨fun hstop hfooled => ?_, fun hstop => ?_⟩
      · obtain ⟨htaken, hnot⟩ := fooled_iff.mp hfooled
        rw [hstop, Option.getD_none] at hflag
        rcases hf with ⟨rfl, -⟩ | ⟨-, hf⟩
        · exact hnot (h _ c' p hrun hp hflag)
        · exact hf htaken
      · rw [hstop, Option.getD_some] at hflag
        exact h f c' p hrun hp hflag
    · intro h f c' p hrun hp hy
      obtain ⟨hstop, hinside⟩ :=
        h ((Card.exists_dataUpload flag sel date now now').mp ⟨f, c', hrun⟩)
      obtain ⟨q, hq, hflag, hf⟩ := Card.dataUpload_appends hrun
      obtain rfl : p = q := by
        have heq := Option.some.inj (hp.symm.trans hq)
        simpa using heq
      rw [hy] at hflag
      cases hs : stopFrom 0 (c.saleText flag sel now') with
      | none =>
        rw [hs, Option.getD_none] at hflag
        rcases hf with ⟨-, htaken⟩ | ⟨hn, -⟩
        · by_contra hnot
          exact hstop hs (fooled_iff.mpr ⟨htaken, hnot⟩)
        · rw [hn] at hflag
          exact absurd hflag (by decide)
      | some b =>
        rw [hs, Option.getD_some] at hflag
        exact hinside (hflag ▸ hs)
  · constructor
    · intro h t ht hsome j r hj hbefore hbelow hfooled
      obtain ⟨htaken, hnot⟩ := fooled_iff.mp hfooled
      obtain ⟨⟨b, c'⟩, hrun⟩ := Option.isSome_iff_exists.mp hsome
      obtain ⟨calls, hv⟩ := Card.exists_visited hc hrun
      -- nothing is refused up to this request
      have hcall := hv.requested.exists_call hj fun j' hj' i hans => hans.eq_zero_iff.mpr <| by
        rcases Nat.eq_or_lt_of_le hj' with rfl | hlt
        · exact htaken
        · exact hbelow j' hlt
      obtain ⟨k, i, hk, hget, hreceived⟩ := h t ht b c' hrun fName r (hv.flips hc hcall hbefore)
      rw [hv.index_unique hj hk hget] at hreceived
      exact hnot hreceived
    · intro h t ht b c' hrun name r hflip
      obtain ⟨calls, hv⟩ := Card.exists_visited hc hrun
      obtain ⟨rfl, j, hcall⟩ := hv.exists_call hflip
      obtain ⟨hj, hans⟩ := hv.requested.getElem hcall
      refine ⟨c.calls.length + j, 0, Nat.le_add_right _ _, hv.getElem_calls hcall, ?_⟩
      by_contra hnot
      refine h t ht (by rw [hrun]; rfl) j r hj hflip.1 (fun j' hj' => ?_)
        (fooled_iff.mpr ⟨hans.eq_zero_iff.mp rfl, hnot⟩)
      exact (hv.requested.accepted hcall hj').eq_zero_iff.mp rfl
  · constructor
    · intro h m k f v hm hf hv
      by_cases hlen : hlBufferToInit (v.rx1Buf 2) (v.rx1Buf 3) = 0
      · exact .inl hlen
      · by_cases hcode : v.rx1Buf 0x49 = 0x24
        · exact .inr (.inl hcode)
        · have hfound := (found_iff m.uart.same_reset).mpr ⟨k, f, hf, hv⟩
          obtain ⟨n', hn'⟩ := (Net.signInFun_zero_iff now).mpr ⟨m, v, hm, hfound, hlen, hcode⟩
          exact .inr (.inr ((received_iff hf).mp (h n' hn')))
    · intro h n' hn'
      obtain ⟨m, v, hm, hfound, hlen, hcode⟩ := (Net.signInFun_zero_iff now).mp ⟨n', hn'⟩
      obtain ⟨k, f, hf, hv⟩ := (found_iff m.uart.same_reset).mp hfound
      exact (received_iff hf).mpr (((h m k f v hm hf hv).resolve_left hlen).resolve_left hcode)

/-! ## Two replies -/

/-- The server accepts the request `req`. -/
def replyTo (req : ℕ) : Air where
  early := []
  polls := [(mealFrame 0x0810 [0x02, 0, 0, 0, 0, 0xc0, 0x00, 0x01, 0x00, 0x03, 0, 0]).map
    fun b => ⟨b, some req⟩]

lemma received_replyTo (req : ℕ) : Received (replyTo req).polls req 0x0800 7 := by
  have hval : ∀ l : List UInt8, (l.map fun b => (⟨b, some req⟩ : RxByte)).map RxByte.val = l := by
    intro l
    rw [List.map_map]
    exact List.map_id l
  refine ⟨1, by decide, fun j v h1 hj => absurd h1 (by omega),
    (mealFrame 0x0810 [0x02, 0, 0, 0, 0, 0xc0, 0x00, 0x01, 0x00, 0x03, 0, 0]).tail.map
      fun b => ⟨b, some req⟩, ⟨[], [], ⟨0x02, some req⟩, Uart5.reset, ?_, rfl, rfl, rfl, ?_⟩, ?_⟩
  · rfl
  · rw [hval]
    decide +kernel
  · refine ⟨fun b hb => ?_, ?_, ?_, ?_⟩
    · obtain ⟨v, -, rfl⟩ := List.mem_map.mp hb
      rfl
    all_goals
      rw [hval]
      decide +kernel

lemma accepting_replyTo_zero : Accepting (replyTo 0) := accepting_of_polled rfl (by decide +kernel)

/-- The request for the first record is accepted, and its flag overwritten behind that. -/
theorem flipped_behind_an_acceptance : ∃ b c',
    (cardOf [firstRecord] []).readDatatoBufferFrom (fun _ => replyTo 0) (march.ago 0) 1 =
        some (b, c') ∧
      (cardOf [firstRecord] []).Flips c' (march.ago 0) 0 ∧
      ∃ (k : ℕ) (i : UInt8), c'.calls[k]? = some (march.ago 0, 0, i) ∧
        Received (replyTo 0).polls 0 0x0800 7 := by
  have hwhole : (cardOf [firstRecord] []).Whole :=
    Card.whole_of_stored (stored_cardOf
      (fun _ hp => List.mem_singleton.mp hp ▸ stored_firstRecord)
      fun _ hp => absurd hp List.not_mem_nil)
  have hacc : ∀ _ : ℕ, Accepting (replyTo 0) := fun _ => accepting_replyTo_zero
  have hrecord : (cardOf [firstRecord] []).record (march.ago 0) 0 = some firstRecord := by
    decide +kernel
  have hlooked : (cardOf [firstRecord] []).looked (march.ago 0) 1 0 = [(0, firstRecord)] := by
    rw [Card.looked, hrecord]
    rfl
  obtain ⟨b, c', h⟩ : ∃ b c', (cardOf [firstRecord] []).readDatatoBufferFrom
      (fun _ => replyTo 0) (march.ago 0) 1 = some (b, c') := by
    refine Card.exists_visit hacc hwhole fun x hx => ?_
    obtain rfl := List.mem_singleton.mp (hlooked ▸ hx)
    exact stored_firstRecord.searchable
  -- the flag of the record is `n`, so that it is sent, and accepted
  have hflips : (cardOf [firstRecord] []).Flips c' (march.ago 0) 0 := by
    obtain ⟨calls, hv⟩ := Card.exists_visited hwhole h
    obtain ⟨-, hcalls⟩ := hv.requested.eq_of_accepting fun k _ => (hacc k).eq_zero
    have hfound : found 0 [(0, firstRecord)] = [0] := by decide +kernel
    have hrequested : calls = [(0, 0)] := by
      rw [hcalls]
      exact congrArg (List.map fun r => (r, 0)) ((congrArg (found 0) hlooked).trans hfound)
    rw [Card.Flips, hv.marked.record, hrequested, hrecord]
    exact ⟨by decide +kernel, by decide +kernel⟩
  obtain ⟨-, -, -, hread, -⟩ := delivered_if_accepted_iff .recordBuffer 1 .zero .zero .zero .zero
    (march.ago 0) (replyTo 0) 0 (fun _ => replyTo 0) (fun _ => 0) .start _ hwhole
  obtain ⟨k, i, -, hcall, hreceived⟩ := hread.mpr
    (fun _ _ _ _ _ _ _ _ hfooled => (fooled_iff.mp hfooled).2 (received_replyTo 0))
    1 (by decide) b c' h _ _ hflips
  exact ⟨b, c', h, hflips, k, i, hcall, hreceived⟩

/-- The acceptance of the meal before comes late: the meal is recorded with the flag `y`. -/
theorem late_reply_is_taken :
    ¬ ∀ (flag : UInt8) (sel : CustomerSel) (date now now' : StructTD) (air : Air) (req : ℕ)
      (c c' : Card) (f : UInt8) (p : List UInt8),
      c.dataUpload flag sel date now now' air = some (f, c') → c.Appends date c' p →
        textFlag p = charY → Received air.polls req 0x0800 7 := by
  intro hall
  have hfst : ((cardOf [] []).dataUpload 1 .zero .zero .zero .zero (replyTo 0)).map Prod.fst =
      some charY := by decide +kernel
  obtain ⟨⟨f, c'⟩, hrun, rfl⟩ := Option.map_eq_some_iff.mp hfst
  obtain ⟨p, hp, hflag, -⟩ := Card.dataUpload_appends hrun
  have hstop : stopFrom 0 ((cardOf [] []).saleText 1 .zero .zero) = none := by decide +kernel
  rw [hstop] at hflag
  obtain ⟨k, -, -, g, ⟨post, pre, head, u, hbs, -, -, -, hclose⟩, haccept⟩ :=
    hall _ _ _ _ _ (replyTo 0) 1 _ c' _ p hrun hp hflag
  -- the frame replies to the request 1, and nothing in the air does
  have hlen := hclose.length_eq
  rw [List.length_map] at hlen
  obtain ⟨b, hb⟩ := List.exists_mem_of_length_pos (l := g) (by omega)
  have hair : b ∈ ((replyTo 0).polls.take k).flatten := by
    rw [hbs]
    simp [hb]
  obtain ⟨batch, hbatch, hbb⟩ := List.mem_flatten.mp hair
  have hreply : ∀ batch ∈ (replyTo 0).polls, ∀ b ∈ batch, b.reply = some 0 := by
    intro batch hbatch b hb
    rw [List.mem_singleton.mp hbatch] at hb
    obtain ⟨c, -, rfl⟩ := List.mem_map.mp hb
    rfl
  have hzero := hreply batch (List.mem_of_mem_take hbatch) b hbb
  rw [haccept.reply b hb] at hzero
  exact absurd hzero (by decide)

end MealVendor
