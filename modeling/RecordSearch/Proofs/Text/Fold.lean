import Mathlib.Data.List.Forall2
import Mathlib.Data.List.Infix
import RecordSearch.Text.Case

namespace RecordSearch.Text

/-- Texts that differ by case only. -/
def SameFold (v w : List Char) : Prop := List.Forall₂ (fun a c => sameFold a c = true) v w

/-- The text has `v` in it, up to case. -/
def Occurs (v t : List Char) : Prop := ∃ w, w <:+: t ∧ SameFold v w

def Begins (v t : List Char) : Prop := ∃ w, w <+: t ∧ SameFold v w

variable {v w s t rest : List Char} {c : Char}

theorem sameFold_refl (v : List Char) : SameFold v v := by
  induction v with
  | nil => exact .nil
  | cons c v ih => exact .cons (beq_self_eq_true _) ih

theorem dropFolded?_eq_some_iff : dropFolded? v s = some rest ↔ ∃ w, s = w ++ rest ∧ SameFold v w := by
  induction v generalizing s with
  | nil =>
      constructor
      · intro read
        cases read
        exact ⟨[], rfl, .nil⟩
      · rintro ⟨w, rfl, same⟩
        cases same
        rfl
  | cons a v ih =>
      cases s with
      | nil =>
          constructor
          · intro read
            cases read
          · rintro ⟨w, whole, same⟩
            cases same
            cases whole
      | cons c s =>
          rw [dropFolded?]
          constructor
          · intro read
            split at read
            · rename_i alike
              obtain ⟨w, rfl, same⟩ := ih.1 read
              exact ⟨c :: w, rfl, .cons alike same⟩
            · cases read
          · rintro ⟨w, whole, same⟩
            cases same with
            | cons alike same =>
                obtain ⟨rfl, rfl⟩ := List.cons.inj whole
                rw [if_pos alike]
                exact ih.2 ⟨_, rfl, same⟩

theorem begins_iff : Begins v s ↔ ∃ rest, dropFolded? v s = some rest := by
  constructor
  · rintro ⟨w, ⟨rest, rfl⟩, same⟩
    exact ⟨rest, dropFolded?_eq_some_iff.2 ⟨w, rfl, same⟩⟩
  · rintro ⟨rest, read⟩
    obtain ⟨w, rfl, same⟩ := dropFolded?_eq_some_iff.1 read
    exact ⟨w, List.prefix_append w rest, same⟩

theorem Begins.append (begins : Begins v s) (t : List Char) : Begins v (s ++ t) := by
  obtain ⟨w, inside, same⟩ := begins
  exact ⟨w, inside.trans (List.prefix_append s t), same⟩

theorem occurs_cons_iff : Occurs v (c :: s) ↔ Begins v (c :: s) ∨ Occurs v s := by
  constructor
  · rintro ⟨w, inside, same⟩
    rcases List.infix_cons_iff.1 inside with first | later
    · exact .inl ⟨w, first, same⟩
    · exact .inr ⟨w, later, same⟩
  · rintro (⟨w, first, same⟩ | ⟨w, later, same⟩)
    · exact ⟨w, first.isInfix, same⟩
    · exact ⟨w, List.infix_cons later, same⟩

theorem not_occurs_nil (some : v ≠ []) : ¬ Occurs v [] := by
  rintro ⟨w, inside, same⟩
  rw [List.infix_nil.1 inside] at same
  cases same
  exact some rfl

end RecordSearch.Text
