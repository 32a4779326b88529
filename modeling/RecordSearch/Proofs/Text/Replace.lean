import RecordSearch.Proofs.Text.Split

namespace RecordSearch.Text

variable {sep new s t before after : List Char}

/-- What comes of a text when every occurrence of `sep` gives way to `new`. Each is the first one that begins
behind the one before it. -/
inductive Replaced (sep new : List Char) : List Char → List Char → Prop where
  | rest {s : List Char} (absent : ¬ sep <:+: s) : Replaced sep new s s
  | occurrence {before after t : List Char} (first : ¬ sep <:+: before ++ sep.dropLast)
      (later : Replaced sep new after t) : Replaced sep new (before ++ sep ++ after) (before ++ new ++ t)

/-- A text without the separator, or the text in front of the first separator and the one behind it. -/
@[elab_as_elim]
theorem splitAll_induction (present : sep ≠ []) {motive : List Char → Prop}
    (occurrence : ∀ before after, ¬ sep <:+: before ++ sep.dropLast → motive after →
      motive (before ++ sep ++ after))
    (rest : ∀ s, ¬ sep <:+: s → motive s) (s : List Char) : motive s := by
  induction s using splitAll.induct sep with
  | case1 s before after found shorter ih =>
      rw [eq_of_splitFirst? found]
      exact occurrence before after (not_infix_of_splitFirst? present found) ih
  | case2 s before after found longer =>
      -- what is behind the separator is shorter than the text
      have whole := congrArg List.length (eq_of_splitFirst? found)
      have := List.length_pos_of_ne_nil present
      simp only [List.length_append] at whole
      omega
  | case3 s none =>
      apply rest
      rw [← isSome_splitFirst?_iff present, none]
      exact Bool.false_ne_true

theorem replaceAll_append_sep (present : sep ≠ []) (first : ¬ sep <:+: before ++ sep.dropLast)
    (after : List Char) :
    replaceAll sep new (before ++ sep ++ after) = before ++ new ++ replaceAll sep new after := by
  rw [replaceAll, splitAll_append_sep present first,
    List.intercalate_cons_of_ne_nil (splitAll_ne_nil sep after), replaceAll]

theorem Replaced.eq_replaceAll (present : sep ≠ []) (replaced : Replaced sep new s t) :
    t = replaceAll sep new s := by
  induction replaced with
  | rest absent => exact Eq.symm <| replaceAll_of_not_infix absent
  | occurrence first later ih => rw [replaceAll_append_sep present first, ih]

theorem replaced_replaceAll (present : sep ≠ []) (new s : List Char) :
    Replaced sep new s (replaceAll sep new s) := by
  induction s using splitAll_induction present with
  | occurrence before after first ih =>
      rw [replaceAll_append_sep present first]
      exact .occurrence first ih
  | rest s absent =>
      have same : replaceAll sep new s = s := replaceAll_of_not_infix absent
      rw [same]
      exact .rest absent

theorem replaced_iff (present : sep ≠ []) : Replaced sep new s t ↔ t = replaceAll sep new s := by
  constructor
  · exact Replaced.eq_replaceAll present
  · rintro rfl
    exact replaced_replaceAll present new s

theorem splitLast?_of_not_infix (absent : ¬ sep <:+: s) : splitLast? sep s = none := by
  cases found : splitLast? sep s with
  | none => rfl
  | some parts => exact absurd ⟨_, _, (eq_of_splitLast? found).symm⟩ absent

theorem splitLast?_append_sep (present : sep ≠ []) (last : ¬ sep <:+: sep.tail ++ after)
    (before : List Char) : splitLast? sep (before ++ sep ++ after) = some (before, after) := by
  induction before with
  | nil =>
      obtain ⟨c, tail, rfl⟩ := List.exists_cons_of_ne_nil present
      have here : dropLead? (c :: tail) (c :: (tail ++ after)) = some after := dropLead?_eq_some_iff.2 rfl
      have behind : splitLast? (c :: tail) (tail ++ after) = none := splitLast?_of_not_infix last
      rw [List.nil_append, List.cons_append, splitLast?, behind, here]
      rfl
  | cons c before ih => rw [List.cons_append, List.cons_append, splitLast?, ih]

end RecordSearch.Text
