import MealVendor.Card.RoundTrip
import MealVendor.Server.Reply

/-!
# The report, the record, and the report of the record

`TakeMealsFun` reports a meal, `Sd_Write` records it, and `TakeMealsFun1` reports it again from the
record.  The values of the report and of the record are the same, but for the serial number, for
which the clock is read twice.  Neither of the reports stays inside of its arrays: both put the
length of the frame behind the 1019 bytes of a buffer that is much shorter.
-/

namespace MealVendor

/-! ## What is asked -/

namespace Net

/-- Where the item `g` begins in a frame behind items `gs`. -/
def offsetIn : List Glob → Glob → ℕ
  | [], _ => 0
  | h :: gs, g => if h = g then 0 else h.size + offsetIn gs g

/-- The item `g` of the report that was sent last: its tag, its length and its value. -/
def sentItem (n : Net) (g : Glob) : List UInt8 :=
  ((n.sent.getLastD []).drop (5 + offsetIn recordGlobs g)).take g.size

/-- Every store between `n` and `n'` is inside of its array. -/
def Inside (n n' : Net) : Prop :=
  ∃ stores, n'.stores = stores ++ n.stores ∧ ∀ e ∈ stores, e.2 < e.1.size

/-- No tag and no length changes. -/
def KeepsTags (n n' : Net) : Prop :=
  ∀ g ∈ recordGlobs, (n'.bytes g).take 3 = (n.bytes g).take 3

/-- What may happen between storing a record and reporting it again. -/
inductive Later : Net → Net → Prop
  | refl (n : Net) : Later n n
  | report {n m m' : Net} {buf : Glob} {flag : UInt8} {sel : CustomerSel} {now : StructTD}
      {air : Air} {i : UInt8} (h : Later n m)
      (hm : m.takeMealsFun buf flag sel now air = some (i, m')) : Later n m'
  | record {n m m' : Net} {erroFlag flag : UInt8} {sel : CustomerSel} {now : StructTD}
      {p : List UInt8} (h : Later n m) (hm : m.sdWrite erroFlag flag sel now = some (p, m')) :
      Later n m'
  | again {n m m' : Net} {air : Air} {i : UInt8} (h : Later n m)
      (hm : m.takeMealsFun1 air = some (i, m')) : Later n m'
  | signIn {n m m' : Net} {now : StructTD} {air : Air} {i : UInt8} (h : Later n m)
      (hm : m.signInFun now air = some (i, m')) : Later n m'
  | read {n m : Net} (h : Later n m) (p : List UInt8) : Later n (m.copy .readSdBuff 0 p)

/-- The items of a report that the record repeats. -/
def repeated : List Glob :=
  [.brwn, .bno, .dealBalance, .mealID, .mealNO, .mealName, .mealPrice, .payType, .change,
    .remainMealNum, .takeMealFlag, .mac]

/-- The report, the record, and the report of the record agree, and stay inside of the arrays. -/
structure Agrees (takeoutFlag : UInt8) (sel : CustomerSel) (now now' : StructTD) (air : Air)
    (n n₁ n₂ : Net) (p : List UInt8) : Prop where
  report : ∃ i, n.takeMealsFun .recordBuffer takeoutFlag sel now air = some (i, n₁) ∧
    n₁.sdWrite (if i = 0x01 then charN else charY) takeoutFlag sel now' = some (p, n₂)
  live : ∀ g ∈ repeated, (n₁.sentItem g).drop 3 = n₂.value g
  inside : Inside n n₁
  tags : KeepsTags n n₁
  replay : ∀ (m m' : Net) (air' : Air) (i' : UInt8), Later n₂ m → m.bytes .readSdBuff = p →
    m.takeMealsFun1 air' = some (i', m') →
    (∀ g ∈ recordGlobs, m'.sentItem g = n₁.sentItem g) ∧ Inside m m' ∧ KeepsTags m m'

/-! ## Stores -/

lemma length_stores_copy (n : Net) (g : Glob) (i : ℕ) (bs : List UInt8) :
    (n.copy g i bs).stores.length = n.stores.length + bs.length := by
  induction bs generalizing i n with
  | nil => rfl
  | cons b bs ih => rw [copy_cons, ih, put_stores, List.length_cons, List.length_cons]; omega

/-- A store that is the last one and is not inside. -/
lemma not_inside {n n' : Net} {e : Glob × ℕ} {stores : List (Glob × ℕ)}
    (h : n'.stores = e :: stores) (hlen : n.stores.length ≤ stores.length)
    (he : e.1.size ≤ e.2) : ¬ Inside n n' := by
  rintro ⟨new, hnew, hinside⟩
  rw [h] at hnew
  cases new with
  | nil =>
    have := congrArg List.length hnew
    rw [List.length_cons, List.nil_append] at this
    omega
  | cons e' new =>
    obtain ⟨rfl, -⟩ := List.cons_eq_cons.mp hnew
    exact absurd (hinside e (List.mem_cons_self ..)) (by omega)

/-- The length of the frame is stored behind the buffer, if that is as short as it is. -/
lemma storeLenght_stores (n : Net) (buf : Glob) (p : List UInt8) :
    (n.storeLenght buf p).stores = (buf, 1020) :: (buf, 1019) :: n.stores := rfl

lemma getBRWN_length_stores (now : StructTD) (n : Net) :
    n.stores.length ≤ (n.getBRWN now).stores.length := by
  rw [getBRWN]
  rw [length_stores_copy]
  omega

lemma fillMeal_length_stores (sel : CustomerSel) (flag : UInt8) (n : Net) :
    n.stores.length ≤ (n.fillMeal sel flag).stores.length := by
  rw [fillMeal]
  cases Kind.ofID sel.mealName <;>
    simp only [put_stores, length_stores_copy, List.length_cons] <;> omega

/-- `TakeMealsFun` stores behind `Record_buffer`. -/
lemma takeMealsFun_not_inside {buf : Glob} {flag i : UInt8} {sel : CustomerSel} {now : StructTD}
    {air : Air} {n n' : Net} (hbuf : buf.size ≤ 1020)
    (h : n.takeMealsFun buf flag sel now air = some (i, n')) : ¬ Inside n n' := by
  obtain ⟨m, hm, h⟩ := Option.bind_eq_some_iff.mp h
  obtain ⟨r, hr, h⟩ := Option.map_eq_some_iff.mp h
  obtain ⟨w, -, rfl⟩ := Option.map_eq_some_iff.mp hr
  obtain ⟨s, -, rfl⟩ := Option.map_eq_some_iff.mp hm
  cases h
  refine not_inside (storeLenght_stores ..) ?_ hbuf
  rw [List.length_cons, length_stores_copy]
  have hbrwn := getBRWN_length_stores now { n with uart := s }
  have hfill := fillMeal_length_stores sel flag (getBRWN now { n with uart := s })
  dsimp only at hbrwn hfill ⊢
  omega

/-- A report, a record and its report never agree: the first report is not inside. -/
theorem upload_never_agrees (takeoutFlag : UInt8) (sel : CustomerSel) (now now' : StructTD)
    (air : Air) (n n₁ n₂ : Net) (p : List UInt8) :
    ¬ Agrees takeoutFlag sel now now' air n n₁ n₂ p := by
  intro h
  obtain ⟨i, hi, -⟩ := h.report
  exact takeMealsFun_not_inside (by decide) hi h.inside

/-- The first meal is reported, and nothing comes back from the server. -/
theorem first_report_is_not_inside :
    (Net.start.takeMealsFun .recordBuffer charN .zero .zero ⟨[], []⟩).isSome ∧
      ¬ ∃ n₁ n₂ p, Agrees charN .zero .zero .zero ⟨[], []⟩ Net.start n₁ n₂ p := by
  constructor
  · decide +kernel
  · rintro ⟨n₁, n₂, p, h⟩
    obtain ⟨i, hi, -⟩ := h.report
    exact takeMealsFun_not_inside (by decide) hi h.inside

end Net

end MealVendor
