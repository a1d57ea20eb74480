import Mathlib.Data.List.Basic
import Mathlib.Tactic.Common

/-!
# Dialogues in stages

The commands of a stage are all sent, and the next stage is begun only if each of them was accepted.
So what was sent is a part of what is sent when everything is accepted, and it is all of it exactly
if everything is.
-/

namespace MealVendor.Lib

variable {α β : Type*}

/-- What is said when the commands of `stages` are sent, as far as it goes. -/
def Dialogue (order : β → α) (ok : β → Prop) : List (List α) → List β → Prop
  | [], d => d = []
  | stage :: rest, d => ∃ said more, d = said ++ more ∧ said.map order = stage ∧
      ((∀ e ∈ said, ok e) ∧ Dialogue order ok rest more ∨ (∃ e ∈ said, ¬ ok e) ∧ more = [])

namespace Dialogue

variable {order : β → α} {ok : β → Prop} {stages : List (List α)} {stage : List α}
  {d said more : List β}

lemma go_on (hstage : said.map order = stage) (hok : ∀ e ∈ said, ok e)
    (h : Dialogue order ok stages more) : Dialogue order ok (stage :: stages) (said ++ more) :=
  ⟨said, more, rfl, hstage, .inl ⟨hok, h⟩⟩

lemma stop {e : β} (hstage : said.map order = stage) (he : e ∈ said) (hok : ¬ ok e) :
    Dialogue order ok (stage :: stages) said :=
  ⟨said, [], (List.append_nil _).symm, hstage, .inr ⟨⟨e, he, hok⟩, rfl⟩⟩

/-- Everything is sent exactly if everything is accepted, up to the last stage. -/
lemma map_eq_of_ok (h : Dialogue order ok stages d) (hok : ∀ e ∈ d, ok e) :
    d.map order = stages.flatten := by
  induction stages generalizing d with
  | nil =>
    cases h
    rfl
  | cons stage rest ih =>
    obtain ⟨said, more, rfl, rfl, ⟨-, hrest⟩ | ⟨⟨e, he, hne⟩, -⟩⟩ := h
    · rw [List.map_append, List.flatten_cons,
        ih hrest fun e he => hok e (List.mem_append_right _ he)]
    · exact absurd (hok e (List.mem_append_left _ he)) hne

end Dialogue

end MealVendor.Lib
