import MealVendor.Model.Main

/-!
# Lines of the arm

A line has six bytes; the last two are a carriage return and a line feed.  The interrupt
stores them one by one, and `manageusart6data` reads the line when it is complete.  What is
received of a line and which flags of `machinerec` are set is all that is known of the arm
while a meal is fetched.
-/

namespace MealVendor

/-- A line of the arm. -/
abbrev Line := Fin 6 → UInt8

/-- The line with these four characters. -/
def line (c₀ c₁ c₂ c₃ : Char) : Line :=
  ![c₀.toUInt8, c₁.toUInt8, c₂.toUInt8, c₃.toUInt8, 0x0d, 0x0a]

/-- A line ends where it should, and its first byte is no acknowledgement. -/
def Line.Plain (L : Line) : Prop :=
  L 0 ≠ 0x06 ∧ L 0 ≠ 0x15 ∧ L 4 = 0x0d ∧ ∀ i, L i = 0x0a ↔ i = 5

instance (L : Line) : Decidable L.Plain := inferInstanceAs (Decidable (_ ∧ _))

/-- The arm when the program starts. -/
def quietArm : Arm where
  linkTime := 0
  usart6Buff := fun _ => 0
  usart6Index := 0
  usart6DataFlag := false
  reack := false
  renack := false
  rerelative := false
  regoal := false
  retodoor := false
  remealaway := false
  remealnoaway := false
  reenablegetmeal := false

namespace Arm

/-- The first `n` bytes of a line are in the buffer. -/
structure Heard (a : Arm) (L : Line) (n : ℕ) : Prop where
  le : n ≤ 6
  index : a.usart6Index = n
  buff : ∀ i : Fin 6, i.val < n → a.usart6Buff i = L i
  flag : a.usart6DataFlag = decide (n = 6)

/-- No flag of `machinerec` is set that the program waits for, except that of an
acknowledgement. -/
structure Waiting (a : Arm) (ack : Bool) : Prop where
  reack : a.reack = ack
  renack : a.renack = false
  regoal : a.regoal = false
  retodoor : a.retodoor = false
  remealaway : a.remealaway = false
  remealnoaway : a.remealnoaway = false
  reenablegetmeal : a.reenablegetmeal = false

/-- Nothing was received. -/
def Silent (a : Arm) : Prop := a.usart6Index = 0 ∧ a.usart6DataFlag = false

instance (a : Arm) (ack : Bool) : Decidable (a.Waiting ack) :=
  decidable_of_iff (a.reack = ack ∧ a.renack = false ∧ a.regoal = false ∧ a.retodoor = false ∧
      a.remealaway = false ∧ a.remealnoaway = false ∧ a.reenablegetmeal = false)
    ⟨fun ⟨h₁, h₂, h₃, h₄, h₅, h₆, h₇⟩ => ⟨h₁, h₂, h₃, h₄, h₅, h₆, h₇⟩,
      fun ⟨h₁, h₂, h₃, h₄, h₅, h₆, h₇⟩ => ⟨h₁, h₂, h₃, h₄, h₅, h₆, h₇⟩⟩

instance (a : Arm) : Decidable a.Silent := inferInstanceAs (Decidable (_ ∧ _))

variable {a : Arm} {L : Line} {n : ℕ} {ack : Bool}

/-- Whatever is in the buffer, it is the beginning of a line. -/
lemma Silent.heard (h : a.Silent) (L : Line) : a.Heard L 0 :=
  ⟨Nat.zero_le 6, h.1, nofun, h.2⟩

/-- Only the time, the buffer and what belongs to it have changed. -/
lemma Waiting.of_eq (h : a.Waiting ack) {a' : Arm}
    (ha : a' = { a with
      linkTime := a'.linkTime
      usart6Buff := a'.usart6Buff
      usart6Index := a'.usart6Index
      usart6DataFlag := a'.usart6DataFlag }) : a'.Waiting ack := by
  rw [ha]
  exact ⟨h.reack, h.renack, h.regoal, h.retodoor, h.remealaway, h.remealnoaway,
    h.reenablegetmeal⟩

/-- The arm after a byte. -/
def receive (b : UInt8) (a : Arm) : Arm :=
  let a := (a.store b).acknowledge
  if a.endOfLine then { a with usart6DataFlag := true }.wrap else a.wrap

/-- The acknowledgement of a command. -/
lemma receive_ack (hs : a.Silent) (hw : a.Waiting false) :
    (a.receive 0x06).Silent ∧ (a.receive 0x06).Waiting true ∧
      (a.receive 0x06).linkTime = a.linkTime := by
  have hrec : a.receive 0x06 = { a with
      usart6Buff := Function.update (Function.update a.usart6Buff 0 0x06) 0 0
      usart6Index := 0, reack := true, renack := false } := by
    simp [receive, store, acknowledge, endOfLine, wrap, hs.1]
  rw [hrec]
  exact ⟨⟨rfl, hs.2⟩, ⟨rfl, rfl, hw.regoal, hw.retodoor, hw.remealaway, hw.remealnoaway,
    hw.reenablegetmeal⟩, rfl⟩

section Byte

variable (h : a.Heard L n) (hL : L.Plain) (hn : n < 6)

include h in
lemma Heard.store_eq : a.store (L ⟨n, hn⟩) = { a with
    usart6Buff := Function.update a.usart6Buff ⟨n, hn⟩ (L ⟨n, hn⟩), usart6Index := n + 1 } := by
  rw [store]
  rw [h.index]
  simp only [dif_pos hn]

include h in
/-- The bytes received so far. -/
lemma Heard.update_buff (i : Fin 6) (hi : i.val < n + 1) :
    Function.update a.usart6Buff ⟨n, hn⟩ (L ⟨n, hn⟩) i = L i := by
  rcases eq_or_ne i ⟨n, hn⟩ with rfl | hne
  · rw [Function.update_self]
  · rw [Function.update_of_ne hne]
    refine h.buff i ?_
    have : i.val ≠ n := fun heq => hne (Fin.ext heq)
    omega

include h hL in
/-- A byte of a line is no acknowledgement. -/
lemma Heard.acknowledge_store :
    (a.store (L ⟨n, hn⟩)).acknowledge = a.store (L ⟨n, hn⟩) := by
  have hfirst : (a.store (L ⟨n, hn⟩)).usart6Buff 0 = L 0 := by
    rw [h.store_eq hn]
    exact h.update_buff hn 0 (Nat.succ_pos n)
  rw [acknowledge]
  rw [hfirst, if_neg hL.1, if_neg hL.2.1]

include h hL in
/-- The line is complete with its sixth byte. -/
lemma Heard.endOfLine_store : (a.store (L ⟨n, hn⟩)).endOfLine = decide (n = 5) := by
  rw [h.store_eq hn]
  rw [endOfLine]
  dsimp only
  by_cases h5 : n = 5
  · subst h5
    rw [dif_pos ⟨by omega, by omega⟩, h.update_buff hn _ (by simp), h.update_buff hn _ (by simp)]
    simpa using ⟨hL.2.2.1, (hL.2.2.2 5).mpr rfl⟩
  · rw [decide_eq_false h5]
    split_ifs with hle
    · have hlast :
          Function.update a.usart6Buff ⟨n, hn⟩ (L ⟨n, hn⟩) ⟨n + 1 - 1, by omega⟩ ≠ 0x0a := by
        rw [h.update_buff hn _ (by simp), Ne, hL.2.2.2]
        exact fun heq => h5 (congrArg Fin.val heq)
      simp only [Bool.and_eq_false_iff, beq_eq_false_iff_ne]
      exact .inr hlast
    · rfl

include h hL in
/-- One more byte of a line. -/
lemma Heard.receive_eq : a.receive (L ⟨n, hn⟩) = { a with
    usart6Buff := Function.update a.usart6Buff ⟨n, hn⟩ (L ⟨n, hn⟩)
    usart6Index := n + 1
    usart6DataFlag := decide (n = 5) } := by
  have hflag : a.usart6DataFlag = false := by
    rw [h.flag]
    exact decide_eq_false (by omega)
  unfold receive
  dsimp only
  rw [h.acknowledge_store hL hn, h.endOfLine_store hL hn, h.store_eq hn]
  rw [wrap, wrap]
  by_cases h5 : n = 5
  · simp [h5]
  · simp only [h5, decide_false, Bool.false_eq_true, if_false]
    rw [if_neg (by omega), ← hflag]

include h hL in
lemma Heard.receive : (a.receive (L ⟨n, hn⟩)).Heard L (n + 1) := by
  rw [h.receive_eq hL hn]
  refine ⟨hn, rfl, fun i hi => h.update_buff hn i hi, ?_⟩
  exact decide_eq_decide.mpr (by omega)

end Byte

/-! ### Reading a line -/

lemma Heard.buff_eq (h : a.Heard L 6) : a.usart6Buff = L := funext fun i => h.buff i i.isLt

lemma readLine_goal (h : a.usart6Buff = line 'S' '0' '0' '0') :
    a.readLine = { a with regoal := true } := by
  rw [readLine]
  rw [h]
  rfl

lemma readLine_door (h : a.usart6Buff = line 'O' 'U' 'T' '0') :
    a.readLine = { a with retodoor := true } := by
  rw [readLine]
  rw [h]
  rfl

lemma readLine_away (h : a.usart6Buff = line 'F' 'I' 'N' '0') :
    a.readLine = { a with remealaway := true } := by
  rw [readLine]
  rw [h]
  rfl

end Arm

namespace Machine

variable {s : Machine} {L : Line} {n : ℕ} (ret : Ret) (k : Machine → Machine)

/-- Nothing is read before a line is complete. -/
lemma manageusart6data_of_silent (h : s.arm.usart6DataFlag = false) :
    s.manageusart6data ret k = k s := by
  rw [manageusart6data]
  rw [h]
  rfl

/-- A complete line that is no error code is read, and the buffer is empty again. -/
lemma manageusart6data_of_heard (h : s.arm.Heard L 6) (hE : L 0 ≠ 'E'.toUInt8) :
    s.manageusart6data ret k =
      k { s with arm := { s.arm with usart6DataFlag := false }.readLine.clearBuff } := by
  have hflag : s.arm.usart6DataFlag = true := h.flag
  have herr : armError s.arm.usart6Buff = none := by
    rw [armError]
    rw [h.buff_eq, if_neg hE]
  rw [manageusart6data]
  rw [if_pos hflag]
  dsimp only
  rw [herr]

/-- The program waits for the acknowledgement of a command. -/
lemma waitOrder_of_waiting (h : s.arm.Waiting false) (ht : s.arm.linkTime.toNat ≤ 1)
    (c : Command) (r : ℕ) (again : ℕ → Pc) (done fail : Machine → Machine) :
    s.waitOrder c r again done fail = s := by
  have hlate : ¬ 1 < s.arm.linkTime := by
    rw [UInt8.lt_iff_toNat_lt]
    exact Nat.not_lt.mpr ht
  have horder : s.arm.order r = (.wait, s.arm) := by
    simp [Arm.order, h.reack, h.renack, hlate]
  rw [waitOrder]
  rw [horder]
  rfl

/-- The acknowledgement was received. -/
lemma waitOrder_of_acked (h : s.arm.Waiting true) (c : Command) (r : ℕ) (again : ℕ → Pc)
    (done fail : Machine → Machine) :
    s.waitOrder c r again done fail =
      done { s with arm := { s.arm with reack := false, renack := false, linkTime := 0 } } := by
  have horder : s.arm.order r =
      (.done, { s.arm with reack := false, renack := false, linkTime := 0 }) := by
    simp [Arm.order, h.reack]
  rw [waitOrder]
  rw [horder]
  rfl

lemma goto_self {p : Pc} (h : s.session.pc = p) : s.goto p = s := by
  subst h
  rfl

/-- A byte only reaches the arm's part of the state, and an acknowledgement of a line is
recorded. -/
lemma usart6_eq (s : Machine) (b : UInt8) : ∃ os : List Obs,
    (∀ o ∈ os, ∃ ack, o = .reply ack) ∧ s.usart6 b = { s with
      arm := s.arm.receive b, session := { s.session with trace := os ++ s.session.trace } } := by
  rw [usart6, Arm.receive]
  dsimp only
  split_ifs
  · exact ⟨[.reply _], fun o ho => ⟨_, List.mem_singleton.mp ho⟩, rfl⟩
  · exact ⟨[], nofun, rfl⟩

end Machine

end MealVendor
