import MealVendor.Lib.Cells
import MealVendor.Lib.Delimited
import MealVendor.Model.Display
import MealVendor.Screen.Frames

/-!
# What the screen shows

The screen takes one frame after the other from the line.  A frame with command 0x82 stores its data
in the variables from an address on, one with command 0x80 in the registers; the zeros that follow a
frame on the line are skipped.  A variable is a word of two bytes, the high one first.  What becomes
of the low byte when only the high one is sent is left open.
-/

namespace MealVendor

/-! ## The screen -/

/-- What the screen keeps: its registers, and the bytes of its variables. -/
structure Display where
  reg : ℕ → UInt8
  ram : ℕ → UInt8

/-- The screen: what it waits for on the line, and what it keeps. -/
structure Terminal where
  rx : Lib.Rx UInt8
  display : Display

/-- The frames on the line.  The length counts the command and the data. -/
def lcd : Lib.Delimited UInt8 := ⟨fh0, fh1, UInt8.toNat⟩

namespace Display

/-- Data that is stored from a variable on. -/
def write (a : UInt16) (data : List UInt8) (d : Display) : Display :=
  { d with ram := Lib.stored d.ram (2 * a.toNat) data }

/-- The data with the low byte that is missing in its last word. -/
def whole (low : UInt8 → UInt8) (a : UInt16) (data : List UInt8) (d : Display) : List UInt8 :=
  if data.length % 2 = 0 then data else data ++ [low (d.ram (2 * a.toNat + data.length))]

/-- A frame is carried out. -/
def exec (low : UInt8 → UInt8) (d : Display) : List UInt8 → Display
  | c :: a :: b :: data =>
    if c = 0x82 then
      d.write (UInt16.ofNat (256 * a.toNat + b.toNat))
        (d.whole low (UInt16.ofNat (256 * a.toNat + b.toNat)) data)
    else if c = 0x80 then { d with reg := Lib.stored d.reg a.toNat (b :: data) }
    else d
  | _ => d

/-- The variable at an address. -/
def word (d : Display) (a : ℕ) : UInt16 :=
  UInt16.ofNat (256 * (d.ram (2 * a)).toNat + (d.ram (2 * a + 1)).toNat)

/-- The bytes from a variable on. -/
def row (d : Display) (a n : ℕ) : List UInt8 := Lib.cells d.ram (2 * a) n

/-- The text from a variable on, up to its end. -/
def text (d : Display) (a n : ℕ) : List UInt8 := (d.row a n).takeWhile fun c => c != 0

/-- The page that is open. -/
def page (d : Display) : UInt8 := d.reg (Show.picID.toNat + 1)

end Display

namespace Terminal

/-- Bytes arrive on the line. -/
def receive (low : UInt8 → UInt8) (t : Terminal) (bs : List UInt8) : Terminal :=
  ⟨lcd.after t.rx bs, (lcd.bodies t.rx bs).foldl (Display.exec low) t.display⟩

/-- A value is entered: the screen stores it. -/
def touch (a : UInt16) (d0 d1 : UInt8) (t : Terminal) : Terminal :=
  { t with display := t.display.write a [d0, d1] }

/-- A screen that has received nothing. -/
def start : Terminal := ⟨.idle, ⟨fun _ => 0, fun _ => 0⟩⟩

variable {low : UInt8 → UInt8} {t : Terminal} {as bs : List UInt8}

@[simp] lemma receive_nil : t.receive low [] = t := rfl

lemma receive_append : t.receive low (as ++ bs) = (t.receive low as).receive low bs := by
  simp only [receive, Lib.Delimited.after_append, Lib.Delimited.bodies_append, List.foldl_append]

end Terminal

/-- Whole frames, and what they make of what the screen keeps. -/
structure Does (low : UInt8 → UInt8) (bs : List UInt8) (f : Display → Display) : Prop where
  after : lcd.after .idle bs = .idle
  shown : ∀ d, (lcd.bodies .idle bs).foldl (Display.exec low) d = f d

section Does

variable {low : UInt8 → UInt8} {t : Terminal} {as bs : List UInt8} {f g : Display → Display}

lemma Does.nil : Does low [] id := ⟨rfl, fun _ => rfl⟩

/-- One after the other. -/
lemma Does.append (h : Does low as f) (h' : Does low bs g) :
    Does low (as ++ bs) fun d => g (f d) := by
  refine ⟨?_, fun d => ?_⟩
  · rw [Lib.Delimited.after_append, h.after, h'.after]
  · rw [Lib.Delimited.bodies_append, h.after, List.foldl_append, h.shown, h'.shown]

/-- Frames of one kind, one after the other. -/
lemma Does.flatMap {ι : Type*} {bs : ι → List UInt8} {f : ι → Display → Display}
    (h : ∀ i, Does low (bs i) (f i)) (l : List ι) :
    Does low (l.flatMap bs) fun d => l.foldl (fun d i => f i d) d := by
  induction l with
  | nil => exact Does.nil
  | cons i l ih => exact (h i).append ih

lemma Does.congr (h : Does low bs f) (hfg : ∀ d, f d = g d) : Does low bs g :=
  ⟨h.after, fun d => (h.shown d).trans (hfg d)⟩

/-- They arrive at a screen that waits for a head. -/
lemma Does.receive (h : Does low bs f) (ht : t.rx = .idle) :
    t.receive low bs = ⟨.idle, f t.display⟩ := by
  rw [Terminal.receive, ht, h.after, h.shown]

/-- One frame, and zeros behind it. -/
lemma Does.message {l : UInt8} {body : List UInt8} (h : l.toNat = body.length) (n : ℕ) :
    Does low (lcd.message l body ++ List.replicate n 0) fun d => d.exec low body := by
  have hj : lcd.head₀ ∉ List.replicate n 0 := fun hmem =>
    absurd (List.eq_of_mem_replicate hmem) (by decide)
  obtain ⟨hafter, hbodies⟩ := Lib.Delimited.after_message_junk h hj
  exact ⟨hafter, fun d => by rw [hbodies]; rfl⟩

end Does

/-! ## One frame -/

section Frame

variable {low : UInt8 → UInt8} {d : Display}

/-- The body of a frame that stores data from a variable on. -/
def writeBody (a : UInt16) (data : List UInt8) : List UInt8 :=
  0x82 :: (a >>> 8).toUInt8 :: a.toUInt8 :: data

lemma exec_writeBody (a : UInt16) (data : List UInt8) :
    d.exec low (writeBody a data) = d.write a (d.whole low a data) := by
  rw [writeBody, Display.exec, if_pos rfl, adress_bytes]

/-- A frame of whole words. -/
lemma Does.write (a : UInt16) {l : UInt8} {data : List UInt8} {m : ℕ} (h : data.length = 2 * m)
    (hl : l.toNat = 2 * m + 3) (n : ℕ) :
    Does low (lcd.message l (writeBody a data) ++ List.replicate n 0) (Display.write a data) := by
  have hlen : l.toNat = (writeBody a data).length := by
    rw [hl, ← h]
    rfl
  refine (Does.message hlen n).congr fun d => ?_
  rw [exec_writeBody, Display.whole, if_pos (by omega)]

/-- The bytes of a word, the high one first. -/
def wordBytes (v : UInt16) : List UInt8 := [(v >>> 8).toUInt8, v.toUInt8]

lemma does_variableChage (a v : UInt16) :
    Does low (Show.variableChage a v) (Display.write a (wordBytes v)) := by
  have heq : Show.variableChage a v =
      lcd.message 5 (writeBody a (wordBytes v)) ++ List.replicate 0 0 := rfl
  rw [heq]
  exact Does.write a (m := 1) rfl rfl 0

/-- The page that is opened. -/
def Display.setPage (page : UInt8) (d : Display) : Display :=
  { d with reg := Lib.stored d.reg Show.picID.toNat [0, page] }

lemma does_pageChange (page : UInt8) :
    Does low (Show.pageChange page) (Display.setPage page) := by
  have heq : Show.pageChange page =
      lcd.message 4 [0x80, Show.picID, 0, page] ++ List.replicate 0 0 := rfl
  rw [heq]
  exact Does.message rfl 0

/-- The bytes of a word with one byte in it, and four zero words behind it. -/
def byteRow (v : UInt8) : List UInt8 := [0, v, 0, 0, 0, 0, 0, 0, 0, 0]

lemma does_byteDisp (a : UInt16) (v floor : UInt8) :
    Does low (Show.byteDisp a v floor) (Display.write (a + floor.toUInt16 * 3) (byteRow v)) := by
  have heq : Show.byteDisp a v floor =
      lcd.message 13 (writeBody (a + floor.toUInt16 * 3) (byteRow v)) ++ List.replicate 4 0 := rfl
  rw [heq]
  exact Does.write _ (m := 5) rfl rfl 4

/-- The cells of a name. -/
def nameRow (mealId : UInt8) : List UInt8 :=
  match Kind.ofID mealId with
  | some k => Show.mealName k ++ List.replicate (12 - (Show.mealName k).length) 0
  | none => List.replicate 12 0

lemma length_nameRow (mealId : UInt8) : (nameRow mealId).length = 12 := by
  rw [nameRow]
  cases Kind.ofID mealId with
  | none => rfl
  | some k => fin_cases k <;> rfl

lemma does_nameDisp (a : UInt16) (mealId floor : UInt8) :
    Does low (Show.nameDisp a mealId floor)
      (Display.write (a + floor.toUInt16 * 0x0100) (nameRow mealId)) := by
  have hlen := length_nameRow mealId
  have heq : Show.nameDisp a mealId floor =
      lcd.message 15 (writeBody (a + floor.toUInt16 * 0x0100) (nameRow mealId)) ++
        List.replicate 12 0 := by
    rw [Show.nameDisp, nameRow]
    cases Kind.ofID mealId with
    | none => rfl
    | some k => fin_cases k <;> rfl
  rw [heq]
  exact Does.write _ (m := 6) hlen rfl 12

/-- The text of a count; 0xff stands for none. -/
def countText (c : UInt8) : List UInt8 := if c = 0xff then [] else Show.decimal c

/-- A text with the 0 behind it. -/
def Display.writeText (low : UInt8 → UInt8) (a : UInt16) (t : List UInt8) (d : Display) : Display :=
  d.write a (d.whole low a (t ++ [0]))

lemma length_decimal_le (c : UInt8) : (Show.decimal c).length ≤ 3 := by
  rw [Show.decimal, List.length_map]
  have hlt : c.toNat < 10 ^ 3 := lt_of_lt_of_le c.toNat_lt (by decide)
  exact (Nat.length_toDigits_le_iff (by decide) (by decide)).mpr hlt

/-- A short text, with the 0 behind it. -/
lemma Does.writeText (a : UInt16) {t : List UInt8} (ht : t.length ≤ 6) :
    Does low (Show.mystrcat t t.length (Show.setWord 4 a
      ((Show.temp 20 Show.variableWrite).set 2 (UInt8.ofNat (4 + t.length)))))
      (Display.writeText low a t) := by
  -- a frame for each length that the text can have
  have hframe : Show.mystrcat t t.length (Show.setWord 4 a
      ((Show.temp 20 Show.variableWrite).set 2 (UInt8.ofNat (4 + t.length)))) =
      lcd.message (UInt8.ofNat (4 + t.length)) (writeBody a (t ++ [0])) ++
        List.replicate (13 - t.length) 0 := by
    match t, ht with
    | [], _ => rfl
    | [_], _ => rfl
    | [_, _], _ => rfl
    | [_, _, _], _ => rfl
    | [_, _, _, _], _ => rfl
    | [_, _, _, _, _], _ => rfl
    | [_, _, _, _, _, _], _ => rfl
  have hl : (UInt8.ofNat (4 + t.length)).toNat = (writeBody a (t ++ [0])).length := by
    have hmod : (4 + t.length) % 2 ^ 8 = 4 + t.length := by omega
    rw [UInt8.toNat_ofNat', hmod, writeBody, List.length_cons, List.length_cons, List.length_cons,
      List.length_append, List.length_singleton]
    omega
  rw [hframe]
  refine (Does.message hl _).congr fun d => ?_
  rw [exec_writeBody, Display.writeText]

lemma length_countText_le (c : UInt8) : (countText c).length ≤ 3 := by
  rw [countText]
  split_ifs
  · exact Nat.zero_le _
  · exact length_decimal_le c

lemma does_textDisp (a : UInt16) (c floor : UInt8) :
    Does low (Show.textDisp a c floor)
      (Display.writeText low (a + floor.toUInt16 * 0x0100) (countText c)) := by
  have htext : Show.textDisp a c floor = Show.mystrcat (countText c) (countText c).length
      (Show.setWord 4 (a + floor.toUInt16 * 0x0100)
        ((Show.temp 20 Show.variableWrite).set 2 (UInt8.ofNat (4 + (countText c).length)))) := by
    rw [Show.textDisp, countText]
    split_ifs <;> rfl
  rw [htext]
  exact Does.writeText _ ((length_countText_le c).trans (by decide))

/-- The stars for the digits of the password. -/
def stars (n : ℕ) : List UInt8 := List.replicate n 0x2A

lemma does_displayPassWord {n : ℕ} (h : n ≤ 6) :
    Does low (Show.displayPassWord n) (Display.writeText low Show.passwordShow (stars n)) := by
  have hlen : (stars n).length = n := List.length_replicate
  have htext : Does low _ (Display.writeText low Show.passwordShow (stars n)) :=
    Does.writeText _ (hlen.trans_le h)
  rw [hlen, Nat.add_comm] at htext
  exact htext

end Frame

/-! ## What is read after a frame -/

section Read

variable {d : Display} {a v : UInt16} {b n : ℕ} {data : List UInt8}

lemma word_write_of_disjoint (h : b < a.toNat ∨ 2 * a.toNat + data.length ≤ 2 * b) :
    (d.write a data).word b = d.word b := by
  have h₀ : (d.write a data).ram (2 * b) = d.ram (2 * b) := by
    rcases h with h | h
    · exact Lib.stored_of_lt (by omega)
    · exact Lib.stored_of_le h
  have h₁ : (d.write a data).ram (2 * b + 1) = d.ram (2 * b + 1) := by
    rcases h with h | h
    · exact Lib.stored_of_lt (by omega)
    · exact Lib.stored_of_le (by omega)
  rw [Display.word, Display.word, h₀, h₁]

/-- A word that is stored. -/
lemma word_write_of_mem {i : ℕ} (hb : b = a.toNat + i) (hi : 2 * i + 1 < data.length) :
    (d.write a data).word b =
      UInt16.ofNat (256 * data[2 * i].toNat + data[2 * i + 1].toNat) := by
  have h₀ : (d.write a data).ram (2 * b) = data[2 * i] := by
    have : 2 * b = 2 * a.toNat + 2 * i := by omega
    rw [this]
    exact Lib.stored_add _
  have h₁ : (d.write a data).ram (2 * b + 1) = data[2 * i + 1] := by
    have : 2 * b + 1 = 2 * a.toNat + (2 * i + 1) := by omega
    rw [this]
    exact Lib.stored_add hi
  rw [Display.word, h₀, h₁]

/-- Two bytes. -/
lemma word_write_two (d0 d1 : UInt8) :
    (d.write a [d0, d1]).word b =
      if b = a.toNat then UInt16.ofNat (256 * d0.toNat + d1.toNat) else d.word b := by
  have hlen : [d0, d1].length = 2 := rfl
  split_ifs with hb
  · rw [word_write_of_mem (i := 0) hb (by omega)]
    rfl
  · exact word_write_of_disjoint (by omega)

lemma word_write_wordBytes :
    (d.write a (wordBytes v)).word b = if b = a.toNat then v else d.word b := by
  rw [wordBytes, word_write_two, adress_bytes]

/-- The word itself, and the four behind it. -/
lemma word_write_byteRow (c : UInt8) :
    (d.write a (byteRow c)).word b =
      if b = a.toNat then c.toUInt16
      else if a.toNat < b ∧ b < a.toNat + 5 then 0 else d.word b := by
  have hlen : (byteRow c).length = 10 := rfl
  split_ifs with hb hspill
  · rw [word_write_of_mem (i := 0) hb (by omega)]
    simp [byteRow]
  · obtain ⟨i, rfl⟩ := Nat.exists_eq_add_of_lt hspill.1
    have hi : i < 4 := by omega
    rw [word_write_of_mem (i := i + 1) (Nat.add_assoc _ _ _) (by omega)]
    interval_cases i <;> rfl
  · exact word_write_of_disjoint (by omega)

lemma row_write (h : data.length = n) : (d.write a data).row a.toNat n = data := by
  have hcells : Lib.cells (Lib.stored d.ram (2 * a.toNat) (data ++ [])) (2 * a.toNat) n = data :=
    Lib.cells_stored h
  rwa [List.append_nil] at hcells

lemma row_write_of_disjoint
    (h : 2 * b + n ≤ 2 * a.toNat ∨ 2 * a.toNat + data.length ≤ 2 * b) :
    (d.write a data).row b n = d.row b n :=
  Lib.cells_stored_of_disjoint h

variable {low : UInt8 → UInt8} {t : List UInt8}

/-- A text without a 0 is read up to its end. -/
lemma text_writeText (ht : 0 ∉ t) (hn : t.length < n) :
    (d.writeText low a t).text a.toNat n = t := by
  have hcells : Lib.cells (d.writeText low a t).ram (2 * a.toNat) (t.length + 1) = t ++ [0] := by
    have hlen : (t ++ [(0 : UInt8)]).length = t.length + 1 := List.length_append
    obtain ⟨es, hes⟩ : ∃ es, d.whole low a (t ++ [0]) = t ++ [0] ++ es := by
      rw [Display.whole]
      split_ifs
      · exact ⟨[], (List.append_nil _).symm⟩
      · exact ⟨_, rfl⟩
    rw [Display.writeText, hes]
    exact Lib.cells_stored hlen
  refine Lib.takeWhile_cells hcells (fun c hc => ?_) rfl hn
  rw [bne_iff_ne]
  rintro rfl
  exact ht hc

/-- How far a text reaches, with a byte behind its 0. -/
lemma length_whole_le (low : UInt8 → UInt8) (a : UInt16) (d : Display) (data : List UInt8) :
    (d.whole low a data).length ≤ data.length + 1 := by
  rw [Display.whole]
  split_ifs
  · exact Nat.le_succ _
  · rw [List.length_append, List.length_singleton]

lemma row_writeText_of_disjoint (h : 2 * b + n ≤ 2 * a.toNat ∨ 2 * a.toNat + t.length + 2 ≤ 2 * b) :
    (d.writeText low a t).row b n = d.row b n := by
  have hlen := length_whole_le low a d (t ++ [0])
  rw [List.length_append, List.length_singleton] at hlen
  exact row_write_of_disjoint (by omega)

lemma text_writeText_of_disjoint
    (h : 2 * b + n ≤ 2 * a.toNat ∨ 2 * a.toNat + t.length + 2 ≤ 2 * b) :
    (d.writeText low a t).text b n = d.text b n := by
  rw [Display.text, row_writeText_of_disjoint h, Display.text]

lemma text_write_of_disjoint
    (h : 2 * b + n ≤ 2 * a.toNat ∨ 2 * a.toNat + data.length ≤ 2 * b) :
    (d.write a data).text b n = d.text b n := by
  rw [Display.text, row_write_of_disjoint h, Display.text]

end Read

/-! ## The addresses of the rows of a page -/

section Adress

variable {a : UInt16} {floor : UInt8}

/-- A name or a text. -/
lemma toNat_block (ha : a.toNat < 0xF000) (h : floor.toNat < 4) :
    (a + floor.toUInt16 * 0x0100).toNat = a.toNat + 256 * floor.toNat := by
  rw [UInt16.toNat_add, UInt16.toNat_mul, UInt8.toNat_toUInt16]
  change (a.toNat + floor.toNat * 256 % 65536) % 65536 = a.toNat + 256 * floor.toNat
  omega

/-- A count or a cost. -/
lemma toNat_cell (ha : a.toNat < 0x100) (h : floor.toNat < 4) :
    (a + floor.toUInt16 * 3).toNat = a.toNat + 3 * floor.toNat := by
  rw [UInt16.toNat_add, UInt16.toNat_mul, UInt8.toNat_toUInt16]
  change (a.toNat + floor.toNat * 3 % 65536) % 65536 = a.toNat + 3 * floor.toNat
  omega

lemma toNat_floor {i : ℕ} (h : i < 4) : (UInt8.ofNat i).toNat = i := by
  rw [UInt8.toNat_ofNat']
  omega

end Adress

end MealVendor
