import Mathlib.Data.List.Infix
import RecordSearch.Text.Split

namespace RecordSearch.Text

section

variable {sep new s : List Char}

theorem splitFirst?_lead (present : sep ≠ []) (rest : List Char) :
    splitFirst? sep (sep ++ rest) = some ([], rest) := by
  cases sep with
  | nil => exact absurd rfl present
  | cons c sep => rw [List.cons_append, splitFirst?, ← List.cons_append, dropLead?_eq_some_iff.2 rfl]

theorem splitFirst?_cons_of_apart {c : Char} (apart : ¬ sep <+: c :: s) :
    splitFirst? sep (c :: s) = (splitFirst? sep s).map fun parts => (c :: parts.1, parts.2) := by
  rw [splitFirst?]
  split
  · rename_i rest here
    exact absurd ⟨rest, (dropLead?_eq_some_iff.1 here).symm⟩ apart
  · rfl

theorem isSome_splitFirst?_iff (present : sep ≠ []) : (splitFirst? sep s).isSome = true ↔ sep <:+: s := by
  induction s with
  | nil => simp [splitFirst?, present]
  | cons c s ih =>
      rw [List.infix_cons_iff]
      by_cases here : sep <+: c :: s
      · obtain ⟨rest, whole⟩ := here
        rw [← whole, splitFirst?_lead present rest]
        exact ⟨fun _ => .inl (List.prefix_append sep rest), fun _ => rfl⟩
      · rw [splitFirst?_cons_of_apart here, Option.isSome_map, ih]
        exact ⟨.inr, fun there => there.resolve_left here⟩

theorem splitFirst?_of_not_infix (absent : ¬ sep <:+: s) : splitFirst? sep s = none := by
  cases found : splitFirst? sep s with
  | none => rfl
  | some parts => exact absurd ⟨_, _, (eq_of_splitFirst? found).symm⟩ absent

theorem splitFirst?_append_sep (present : sep ≠ []) (first : ¬ sep <:+: s ++ sep.dropLast) (k : List Char) :
    splitFirst? sep (s ++ sep ++ k) = some (s, k) := by
  induction s with
  | nil => exact splitFirst?_lead present k
  | cons c s ih =>
      have apart : ¬ sep <+: c :: (s ++ sep ++ k) := by
        intro here
        have long : sep.length ≤ (c :: s ++ sep.dropLast).length := by
          simp only [List.length_append, List.length_cons, List.length_dropLast]
          omega
        have front : c :: s ++ sep.dropLast <+: c :: (s ++ sep ++ k) := by
          rw [List.cons_append, List.append_assoc]
          exact List.cons_prefix_cons.2 ⟨rfl, (List.prefix_append_right_inj s).2
            ((List.dropLast_prefix sep).trans (List.prefix_append sep k))⟩
        exact first (List.prefix_of_prefix_length_le here front long).isInfix
      have later : ¬ sep <:+: s ++ sep.dropLast := fun there => first (List.infix_cons there)
      rw [List.cons_append, List.cons_append, splitFirst?_cons_of_apart apart, ih later]
      rfl

/-- No occurrence begins before the one that is found first. -/
theorem not_infix_of_splitFirst? (present : sep ≠ []) {before after : List Char}
    (found : splitFirst? sep s = some (before, after)) :
    ¬ sep <:+: before ++ sep.dropLast := by
  have shorter : sep.dropLast.length < sep.length := by
    have := List.length_pos_of_ne_nil present
    rw [List.length_dropLast]
    omega
  induction s generalizing before with
  | nil => cases found
  | cons c s ih =>
      by_cases here : sep <+: c :: s
      · obtain ⟨rest, whole⟩ := here
        rw [← whole, splitFirst?_lead present rest] at found
        cases found
        exact fun inside => Nat.not_lt.2 inside.length_le shorter
      · rw [splitFirst?_cons_of_apart here] at found
        obtain ⟨parts, later, same⟩ := Option.map_eq_some_iff.1 found
        cases same
        rw [List.cons_append, List.infix_cons_iff, not_or]
        refine ⟨fun front => here (front.trans ?_), ih later⟩
        rw [eq_of_splitFirst? later, List.append_assoc]
        exact List.cons_prefix_cons.2 ⟨rfl, (List.prefix_append_right_inj _).2
          ((List.dropLast_prefix sep).trans (List.prefix_append sep _))⟩

theorem splitAll_of_not_infix (absent : ¬ sep <:+: s) : splitAll sep s = [s] := by
  rw [splitAll, splitFirst?_of_not_infix absent]

theorem splitAll_append_sep (present : sep ≠ []) (first : ¬ sep <:+: s ++ sep.dropLast) (k : List Char) :
    splitAll sep (s ++ sep ++ k) = s :: splitAll sep k := by
  rw [splitAll, splitFirst?_append_sep present first]
  have shorter : k.length < (s ++ sep ++ k).length := by
    have := List.length_pos_of_ne_nil present
    simp only [List.length_append]
    omega
  simp only [if_pos shorter]

/-- Pieces are cut where they were joined, if no occurrence of the separator begins before that. -/
theorem splitAll_intercalate_sep (present : sep ≠ []) {parts : List (List Char)} (some : parts ≠ [])
    (first : ∀ part ∈ parts, ¬ sep <:+: part ++ sep.dropLast) :
    splitAll sep (List.intercalate sep parts) = parts := by
  induction parts with
  | nil => exact absurd rfl some
  | cons part parts ih =>
      obtain ⟨here, others⟩ := List.forall_mem_cons.1 first
      cases parts with
      | nil =>
          rw [List.intercalate_singleton]
          exact splitAll_of_not_infix fun there => here (there.trans (List.prefix_append _ _).isInfix)
      | cons next parts =>
          rw [List.intercalate_cons_cons, splitAll_append_sep present here,
            ih (List.cons_ne_nil next parts) others]

theorem replaceAll_of_not_infix (absent : ¬ sep <:+: s) : replaceAll sep new s = s := by
  rw [replaceAll, splitAll_of_not_infix absent]
  exact List.intercalate_singleton

end

variable {c : Char} {s : List Char}

theorem splitFirst?_eq_none_iff : splitFirst? [c] s = none ↔ c ∉ s := by
  rw [← List.singleton_infix_iff, ← isSome_splitFirst?_iff (List.cons_ne_nil c []), Option.not_isSome_iff_eq_none]

theorem not_infix_of_not_mem (absent : c ∉ s) : ¬ [c] <:+: s ++ [c].dropLast := by
  simpa [List.singleton_infix_iff] using absent

theorem splitFirst?_append (absent : c ∉ s) (k : List Char) : splitFirst? [c] (s ++ c :: k) = some (s, k) := by
  rw [← splitFirst?_append_sep (List.cons_ne_nil c []) (not_infix_of_not_mem absent) k, List.append_assoc,
    List.singleton_append]

theorem not_mem_of_splitFirst? {before after : List Char} (found : splitFirst? [c] s = some (before, after)) :
    c ∉ before := by
  intro there
  apply not_infix_of_splitFirst? (List.cons_ne_nil c []) found
  exact ((List.singleton_infix_iff c before).2 there).trans (List.prefix_append _ _).isInfix

theorem splitAll_of_not_mem (absent : c ∉ s) : splitAll [c] s = [s] :=
  splitAll_of_not_infix fun there => absent ((List.singleton_infix_iff c s).1 there)

theorem splitAll_append (absent : c ∉ s) (k : List Char) : splitAll [c] (s ++ c :: k) = s :: splitAll [c] k := by
  rw [← splitAll_append_sep (List.cons_ne_nil c []) (not_infix_of_not_mem absent) k, List.append_assoc,
    List.singleton_append]

theorem splitAll_intercalate {parts : List (List Char)} (present : parts ≠ [])
    (absent : ∀ part ∈ parts, c ∉ part) : splitAll [c] (List.intercalate [c] parts) = parts :=
  splitAll_intercalate_sep (List.cons_ne_nil c []) present fun part listed =>
    not_infix_of_not_mem (absent part listed)

theorem exists_splitAll_of_mem (there : c ∈ s) :
    ∃ first second rest, splitAll [c] s = first :: second :: rest := by
  cases found : splitFirst? [c] s with
  | none => exact absurd there (splitFirst?_eq_none_iff.1 found)
  | some parts =>
      obtain ⟨before, after⟩ := parts
      have absent := not_mem_of_splitFirst? found
      have whole : s = before ++ c :: after := by
        simpa using eq_of_splitFirst? found
      obtain ⟨second, rest, later⟩ := List.exists_cons_of_ne_nil (splitAll_ne_nil [c] after)
      refine ⟨before, second, rest, ?_⟩
      rw [whole, splitAll_append absent, later]

end RecordSearch.Text
