import RecordSearch.Proofs.Text.Split
import RecordSearch.Snippet

namespace RecordSearch.Highlighter

/-- What is left of a text when tags are taken out, each from a `<` to the next `>`; a `<` without any is kept. -/
inductive WithoutTags : List Char → List Char → Prop
  | nil : WithoutTags [] []
  | keep {c : Char} {s t : List Char} :
      (c = '<' → '>' ∉ s) → WithoutTags s t → WithoutTags (c :: s) (c :: t)
  | tag {inner s t : List Char} :
      '>' ∉ inner → WithoutTags s t → WithoutTags ('<' :: inner ++ '>' :: s) t

/-- Somewhere behind a `<` there is a `>`. -/
def HasTag (s : List Char) : Prop := ∃ before inner after, s = before ++ '<' :: inner ++ '>' :: after

variable {c : Char} {s t inner after : List Char}

theorem stripTags_tag (closed : Text.splitFirst? ['>'] s = some (inner, after)) :
    stripTags ('<' :: s) = stripTags after := by
  rw [stripTags]
  split
  · rename_i found
    rw [if_pos rfl, closed] at found
    cases found
    rfl
  · rename_i none
    rw [if_pos rfl, closed] at none
    cases none

theorem stripTags_keep (open_ : c = '<' → '>' ∉ s) : stripTags (c :: s) = c :: stripTags s := by
  rw [stripTags]
  split
  · rename_i found
    split at found
    · rename_i bracket
      rw [Text.splitFirst?_eq_none_iff.2 (open_ bracket)] at found
      cases found
    · cases found
  · rfl

theorem strip_cases (c : Char) (s : List Char) :
    (∃ inner after, c = '<' ∧ '>' ∉ inner ∧ s = inner ++ '>' :: after ∧ stripTags (c :: s) = stripTags after) ∨
      ((c = '<' → '>' ∉ s) ∧ stripTags (c :: s) = c :: stripTags s) := by
  by_cases bracket : c = '<'
  · subst bracket
    cases closed : Text.splitFirst? ['>'] s with
    | some parts =>
        have whole := Text.eq_of_splitFirst? closed
        rw [List.append_assoc] at whole
        exact .inl ⟨parts.1, parts.2, rfl, Text.not_mem_of_splitFirst? closed, whole, stripTags_tag closed⟩
    | none =>
        have open_ := Text.splitFirst?_eq_none_iff.1 closed
        exact .inr ⟨fun _ => open_, stripTags_keep fun _ => open_⟩
  · exact .inr ⟨fun same => absurd same bracket, stripTags_keep fun same => absurd same bracket⟩

theorem withoutTags_stripTags (s : List Char) : WithoutTags s (stripTags s) := by
  induction size : s.length using Nat.strong_induction_on generalizing s with
  | _ n ih =>
    cases s with
    | nil =>
        rw [stripTags]
        exact .nil
    | cons c s =>
        rw [List.length_cons] at size
        rcases strip_cases c s with ⟨inner, after, rfl, single, rfl, stripped⟩ | ⟨unclosed, stripped⟩
        · rw [List.length_append, List.length_cons] at size
          rw [stripped]
          exact .tag single (ih after.length (by omega) after rfl)
        · rw [stripped]
          exact .keep unclosed (ih s.length (by omega) s rfl)

namespace WithoutTags

theorem mem (without : WithoutTags s t) (there : c ∈ t) : c ∈ s := by
  induction without with
  | nil => exact there
  | keep _ _ ih =>
      rcases List.mem_cons.1 there with rfl | later
      · exact List.mem_cons_self
      · exact List.mem_cons_of_mem _ (ih later)
  | tag _ _ ih => exact List.mem_append_right _ (List.mem_cons_of_mem '>' (ih there))

/-- No tag comes about where another is taken out. -/
theorem not_hasTag (without : WithoutTags s t) : ¬ HasTag t := by
  induction without with
  | nil =>
      rintro ⟨before, inner, after, whole⟩
      cases before <;> cases whole
  | keep unclosed without ih =>
      rintro ⟨before, inner, after, whole⟩
      cases before with
      | nil =>
          obtain ⟨rfl, rfl⟩ := List.cons.inj whole
          exact unclosed rfl (without.mem (List.mem_append_right inner List.mem_cons_self))
      | cons d before =>
          obtain ⟨-, rfl⟩ := List.cons.inj whole
          exact ih ⟨before, inner, after, rfl⟩
  | tag _ _ ih => exact ih

end WithoutTags

end RecordSearch.Highlighter
