import MealVendor.Delivery.Wire

/-!
# An arm that works

The machine while it hands out the meals of a cart, together with an arm that works: it
acknowledges every command, and answers the command to fetch a meal with its lines, in time.
The administrator and the customer do not touch the screen, and writing to the flash succeeds.

The program waits for a line only for some time, and has one buffer for it.  A *prompt* arm
sends each line before the program gives up; a *paced* arm begins a line only when the program
has read the one before.
-/

namespace MealVendor

/-! ## What the arm sends -/

/-- The lines of the arm while it fetches a meal: it is at the place, the meal is at the door,
the customer has taken it. -/
def atGoal : Line := line 'S' '0' '0' '0'

def toDoor : Line := line 'O' 'U' 'T' '0'

def mealAway : Line := line 'F' 'I' 'N' '0'

/-- What the arm sends after a command. -/
def answer : Command → List UInt8
  | .sendCoord .. => 0x06 :: List.ofFn atGoal
  | .getMeal => 0x06 :: (List.ofFn toDoor ++ List.ofFn mealAway)
  | _ => [0x06]

/-- The command in a record. -/
def Obs.command? : Obs → Option Command
  | .command c => some c
  | _ => none

/-- The commands of the program between two states. -/
def Machine.commands (s t : Machine) : List Command :=
  (t.session.trace.take (t.session.trace.length - s.session.trace.length)).reverse.filterMap
    Obs.command?

/-! ## The two together -/

/-- The machine, and what the arm has still to send. -/
structure Service where
  machine : Machine
  due : List UInt8

/-- How the arm sends its lines. -/
structure Manner where
  prompt : Bool
  paced : Bool

/-- Prompt and paced. -/
def Manner.steady : Manner := ⟨true, true⟩

/-- How long the program waits at a place for an acknowledgement, and for a line of an arm that
is prompt. -/
def Pc.limit (prompt : Bool) : Pc → Option ℕ
  | .coord _ | .getMeal _ => some 1
  | .goal => if prompt then some 10 else none
  | .door => if prompt then some 120 else none
  | .away => if prompt then some 180 else none
  | _ => none

namespace Service

variable (x : Service)

/-- The program waits for the arm, and the arm has something to send or has sent something
that was not read. -/
def owes : Prop :=
  x.machine.arm.reack = false ∧ (x.due ≠ [] ∨ x.machine.arm.usart6DataFlag = true)

/-- The time may go on: nothing will be too late. -/
def inTime (prompt : Bool) : Prop :=
  x.owes → ∀ n ∈ x.machine.session.pc.limit prompt, x.machine.arm.linkTime.toNat < n

/-- Meals are being handed out. -/
def serving : Prop :=
  x.machine.session.current = .mealOut ∨ x.machine.session.current = .dataUpload

instance : Decidable x.owes := inferInstanceAs (Decidable (_ ∧ _))

instance (prompt : Bool) : Decidable (x.inTime prompt) := inferInstanceAs (Decidable (_ → _))

instance : Decidable x.serving := inferInstanceAs (Decidable (_ ∨ _))

/-- One step of the machine or of the arm. -/
def step (m : Manner) (x : Service) : Event → Option Service
  | .screen .. | .tim3 => none
  | .usart6 b =>
    match x.due with
    | [] => none
    | d :: ds =>
      if b = d ∧ (m.paced → x.machine.arm.usart6DataFlag = false) then
        some ⟨x.machine.usart6 b, ds⟩
      else none
  | .tim5 => if x.inTime m.prompt then some ⟨x.machine.tim5, x.due⟩ else none
  | .go io =>
    if io.flash.isNone ∧ x.serving then
      some ⟨x.machine.go io, x.due ++ (x.machine.commands (x.machine.go io)).flatMap answer⟩
    else none
  | e => (MealVendor.step x.machine e).map fun t => ⟨t, x.due⟩

end Service

/-! ## Where the arm is -/

/-- The places where the program has sent a command, and what the arm sends after its
acknowledgement: a line, and what follows it. -/
def Pc.orders : Pc → Option (Line × List UInt8)
  | .coord 0 => some (atGoal, [])
  | .getMeal 0 => some (toDoor, List.ofFn mealAway)
  | _ => none

/-- The places where the program waits for a line, and how long. -/
def Pc.waits : Pc → Option (Line × List UInt8 × ℕ)
  | .goal => some (atGoal, [], 10)
  | .door => some (toDoor, List.ofFn mealAway, 120)
  | .away => some (mealAway, [], 180)
  | _ => none

lemma Pc.plain_of_orders {p : Pc} {L : Line} {more : List UInt8}
    (h : p.orders = some (L, more)) : L.Plain := by
  unfold orders at h
  split at h <;> cases h <;> decide

lemma Pc.plain_of_waits {p : Pc} {L : Line} {more : List UInt8} {m : ℕ}
    (h : p.waits = some (L, more, m)) : L.Plain := by
  unfold waits at h
  split at h <;> cases h <;> decide

/-- What the arm has sent and has still to send, by the place of the program. -/
inductive ArmAt : Pc → Arm → List UInt8 → Prop
  /-- Nothing is expected. -/
  | rest {p : Pc} {a : Arm} (hp : p.orders = none ∧ p.waits = none) (hs : a.Silent)
      (hw : a.Waiting false) : ArmAt p a []
  /-- A command was sent. -/
  | ackDue {p : Pc} {a : Arm} {L : Line} {more : List UInt8} (hp : p.orders = some (L, more))
      (hs : a.Silent) (hw : a.Waiting false) (ht : a.linkTime.toNat ≤ 1) :
      ArmAt p a (0x06 :: (List.ofFn L ++ more))
  /-- It was acknowledged, and the line may have begun. -/
  | acked {p : Pc} {a : Arm} {L : Line} {more : List UInt8} {n : ℕ}
      (hp : p.orders = some (L, more)) (h : a.Heard L n) (hw : a.Waiting true) :
      ArmAt p a ((List.ofFn L).drop n ++ more)
  /-- The program waits for the line. -/
  | waits {p : Pc} {a : Arm} {L : Line} {more : List UInt8} {n m : ℕ}
      (hp : p.waits = some (L, more, m)) (h : a.Heard L n) (hw : a.Waiting false)
      (ht : a.linkTime.toNat ≤ m) : ArmAt p a ((List.ofFn L).drop n ++ more)

namespace ArmAt

variable {p : Pc} {a : Arm} {b : UInt8} {due : List UInt8}

/-- The next byte of a line that is not complete. -/
lemma drop_eq {L : Line} {n : ℕ} (h : a.Heard L n) (hflag : a.usart6DataFlag = false) :
    ∃ hn : n < 6, (List.ofFn L).drop n = L ⟨n, hn⟩ :: (List.ofFn L).drop (n + 1) := by
  have hne : n ≠ 6 := by
    intro heq
    rw [h.flag, heq] at hflag
    cases hflag
  have hn : n < 6 := by
    have := h.le
    omega
  refine ⟨hn, ?_⟩
  rw [List.drop_eq_getElem_cons (by rw [List.length_ofFn]; exact hn), List.getElem_ofFn]

/-- Where nothing is expected, nothing is due. -/
lemma of_rest (h : ArmAt p a due) (hp : p.orders = none ∧ p.waits = none) :
    due = [] ∧ a.Silent ∧ a.Waiting false := by
  cases h with
  | rest _ hs hw => exact ⟨rfl, hs, hw⟩
  | ackDue hp' | acked hp' =>
    rw [hp.1] at hp'
    cases hp'
  | waits hp' =>
    rw [hp.2] at hp'
    cases hp'

/-- A command is still to be acknowledged, or its line may have begun. -/
lemma of_orders (h : ArmAt p a due) {L : Line} {more : List UInt8}
    (hp : p.orders = some (L, more)) :
    a.Waiting false ∧ a.linkTime.toNat ≤ 1 ∧ due ≠ [] ∧ a.usart6DataFlag = false ∨
      ∃ n, a.Heard L n ∧ a.Waiting true ∧ due = (List.ofFn L).drop n ++ more := by
  cases h with
  | rest hp' =>
    rw [hp] at hp'
    cases hp'.1
  | ackDue _ hs hw ht => exact .inl ⟨hw, ht, nofun, hs.2⟩
  | @acked L' more' n hp' h hw =>
    obtain ⟨rfl, rfl⟩ : L = L' ∧ more = more' := by simpa [hp] using hp'
    exact .inr ⟨n, h, hw, rfl⟩
  | waits hp' =>
    unfold Pc.orders at hp
    split at hp <;> first | cases hp' | cases hp

/-- A line is still to come, or complete and not read. -/
lemma of_waits (h : ArmAt p a due) {L : Line} {more : List UInt8} {m : ℕ}
    (hp : p.waits = some (L, more, m)) :
    a.Waiting false ∧ a.linkTime.toNat ≤ m ∧
      (due ≠ [] ∧ a.usart6DataFlag = false ∨ a.Heard L 6 ∧ due = more) := by
  cases h with
  | rest hp' =>
    rw [hp] at hp'
    cases hp'.2
  | ackDue hp' | acked hp' =>
    unfold Pc.waits at hp
    split at hp <;> first | cases hp' | cases hp
  | @waits L' more' n m' hp' h hw ht =>
    obtain ⟨rfl, rfl, rfl⟩ : L = L' ∧ more = more' ∧ m = m' := by simpa [hp] using hp'
    refine ⟨hw, ht, ?_⟩
    cases hflag : a.usart6DataFlag with
    | false =>
      obtain ⟨hn, hdrop⟩ := drop_eq h hflag
      rw [hdrop]
      exact .inl ⟨nofun, rfl⟩
    | true =>
      have h6 : n = 6 := by simpa [hflag] using h.flag
      subst h6
      refine .inr ⟨h, ?_⟩
      rw [List.drop_of_length_le (by rw [List.length_ofFn]), List.nil_append]

/-- The arm sends its next byte. -/
lemma byte (h : ArmAt p a (b :: due)) (hflag : a.usart6DataFlag = false) :
    ArmAt p (a.receive b) due := by
  generalize hd : b :: due = d at h
  cases h with
  | rest => cases hd
  | @ackDue L more hp hs hw ht =>
    obtain ⟨rfl, rfl⟩ := List.cons.inj hd
    obtain ⟨hsilent, hwait, -⟩ := Arm.receive_ack hs hw
    exact .acked hp (hsilent.heard L) hwait
  | @acked L more n hp h hw =>
    obtain ⟨hn, hdrop⟩ := drop_eq h hflag
    rw [hdrop, List.cons_append] at hd
    obtain ⟨rfl, rfl⟩ := List.cons.inj hd
    have hL := Pc.plain_of_orders hp
    refine .acked hp (h.receive hL hn) (hw.of_eq ?_)
    rw [h.receive_eq hL hn]
  | @waits L more n m hp h hw ht =>
    obtain ⟨hn, hdrop⟩ := drop_eq h hflag
    rw [hdrop, List.cons_append] at hd
    obtain ⟨rfl, rfl⟩ := List.cons.inj hd
    have hL := Pc.plain_of_waits hp
    refine .waits hp (h.receive hL hn) (hw.of_eq ?_) ?_
    · rw [h.receive_eq hL hn]
    · rw [h.receive_eq hL hn]
      exact ht

/-- The time goes on. -/
lemma tick (h : ArmAt p a due)
    (hin : a.reack = false → due ≠ [] ∨ a.usart6DataFlag = true →
      ∀ n ∈ p.limit true, a.linkTime.toNat < n) :
    ArmAt p { a with linkTime := a.linkTime + 1 } due := by
  have hsucc : (a.linkTime + 1).toNat ≤ a.linkTime.toNat + 1 := by
    rw [UInt8.toNat_add]
    exact Nat.mod_le _ _
  cases h with
  | rest hp hs hw => exact .rest hp hs (hw.of_eq rfl)
  | @ackDue L more hp hs hw ht =>
    have hlt := hin hw.reack (.inl nofun) 1 ?_
    · refine .ackDue hp hs (hw.of_eq rfl) ?_
      dsimp only
      omega
    · unfold Pc.orders at hp
      split at hp <;> first | exact rfl | cases hp
  | acked hp h hw => exact .acked hp ⟨h.le, h.index, h.buff, h.flag⟩ (hw.of_eq rfl)
  | @waits L more n m hp h hw ht =>
    have hlt := hin hw.reack ?_ m ?_
    · refine .waits hp ⟨h.le, h.index, h.buff, h.flag⟩ (hw.of_eq rfl) ?_
      dsimp only
      omega
    · cases hflag : a.usart6DataFlag with
      | true => exact .inr rfl
      | false =>
        obtain ⟨hn, hdrop⟩ := drop_eq h hflag
        rw [hdrop]
        exact .inl nofun
    · unfold Pc.waits at hp
      split at hp <;> cases hp <;> exact rfl

end ArmAt

end MealVendor
