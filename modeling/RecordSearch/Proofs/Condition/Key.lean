import RecordSearch.Condition.Lookup
import RecordSearch.Proofs.Object.Flat
import RecordSearch.Proofs.Text.Replace

/-!
Rewriting the keys of lookups. The mark in front of a keyword is the last one of a key and stays; all marks
before it are replaced from the left, and no new one comes of that.
-/

namespace RecordSearch.Lookup

theorem not_mark_infix_keyword (c : Comparison) : ¬ mark <:+: mark.tail ++ c.keyword.toList := by
  cases c <;> decide

/-- Two underscores are left in none of the pieces, and the separator keeps those at their ends apart. -/
theorem not_mark_infix_of_replaced {s t : List Char} (replaced : Text.Replaced mark Path.separator.toList s t) :
    ¬ mark <:+: t := by
  induction replaced with
  | rest absent => exact absent
  | @occurrence before _ _ first _ ih =>
      have front : ¬ mark <:+: before := fun inside => first (inside.trans (List.prefix_append _ _).isInfix)
      exact Path.not_relation_infix_append front ih

theorem replaced_flattenRelations (field : List Char) :
    Text.Replaced mark Path.separator.toList field (Path.flattenRelations field) :=
  (Text.replaced_iff (by decide)).2 rfl

theorem not_mark_infix_flattenRelations (field : List Char) : ¬ mark <:+: Path.flattenRelations field :=
  not_mark_infix_of_replaced (replaced_flattenRelations field)

theorem flattenRelations_flattenRelations (field : List Char) :
    Path.flattenRelations (Path.flattenRelations field) = Path.flattenRelations field :=
  Text.replaceAll_of_not_infix (not_mark_infix_flattenRelations field)

theorem splitKeyword?_of_not_mark {key : String} (plain : ¬ mark <:+: key.toList) :
    splitKeyword? key = none := by
  rw [splitKeyword?, Text.splitLast?_of_not_infix plain]

/-- Only the mark in front of a keyword counts, whatever stands before it. -/
theorem splitKeyword?_keyword (field : List Char) (c : Comparison) :
    splitKeyword? (String.ofList (field ++ mark) ++ c.keyword) = some (field, c) := by
  have cut : Text.splitLast? mark (field ++ mark ++ c.keyword.toList) = some (field, c.keyword.toList) :=
    Text.splitLast?_append_sep (by decide) (not_mark_infix_keyword c) field
  rw [splitKeyword?, String.toList_append, String.toList_ofList, cut]
  simp only [String.ofList_toList, Comparison.ofKeyword?_keyword, Option.map_some]

/-- Rewriting a key keeps the comparison. In the field name every mark is replaced by the separator of
flattened names, from the left, so that none is left, and rewriting the key again changes nothing. -/
theorem split_prepareKey (key : String) :
    (split (prepareKey key)).2 = (split key).2 ∧
    Text.Replaced mark Path.separator.toList (split key).1.toList (split (prepareKey key)).1.toList ∧
    ¬ mark <:+: (split (prepareKey key)).1.toList ∧
    prepareKey (prepareKey key) = prepareKey key := by
  have flat := not_mark_infix_flattenRelations
  cases found : splitKeyword? key with
  | none =>
      have plain : ¬ mark <:+: (String.ofList (Path.flattenRelations key.toList)).toList := by
        rw [String.toList_ofList]
        exact flat key.toList
      have prepared : prepareKey key = String.ofList (Path.flattenRelations key.toList) := by
        rw [prepareKey, found]
      have again := splitKeyword?_of_not_mark plain
      rw [prepared, prepareKey, split, split, found, again]
      simp only [String.toList_ofList, flattenRelations_flattenRelations, and_true, true_and]
      exact ⟨replaced_flattenRelations key.toList, flat key.toList⟩
  | some parts =>
      obtain ⟨field, c⟩ := parts
      have prepared : prepareKey key = String.ofList (Path.flattenRelations field ++ mark) ++ c.keyword := by
        rw [prepareKey, found]
      have again := splitKeyword?_keyword (Path.flattenRelations field) c
      rw [prepared, prepareKey, split, split, found, again]
      simp only [String.toList_ofList, flattenRelations_flattenRelations, and_true, true_and]
      exact ⟨replaced_flattenRelations field, flat field⟩

example : prepareKey "tag___site____in" = "tag0_0_0_site0_0_0__in" := by decide +kernel

end RecordSearch.Lookup
