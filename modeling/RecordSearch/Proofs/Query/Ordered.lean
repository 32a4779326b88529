import Mathlib.Data.String.Basic
import RecordSearch.Proofs.Query.Lookup
import RecordSearch.Proofs.ResultSet.Compiled

/-!
Lookups by equality and by order. What is looked up is read back as it was written, so a lookup finds a row
exactly if the value there compares with it as the lookup asks; texts compare character by character.
-/

namespace RecordSearch

/-- The one value that lookups on a field meet in a row, be it in lists or not. -/
def Row.Holds (r : Row) (contentField field : String) (v : Value) : Prop :=
  (r.searched? contentField (Lucene.searchedField contentField field)).map Value.scalars = some [v]

def Row.holding (field : String) (v : Value) : Row :=
  ⟨"app.note.1", "app.note", "text", .ofList [(field, v)], .empty⟩

namespace Match

section

variable {α : Type} [LinearOrder α] {x y : α} {v : Value} {bound : String} {included : Bool}

theorem aboveLower_iff (compared : compareToBound? v bound = some (compare x y)) :
    aboveLower v included (some bound) = true ↔ if included then y ≤ x else y < x := by
  rw [aboveLower, compared]
  cases order : compare x y with
  | lt =>
      have less := compare_lt_iff_lt.1 order
      cases included <;> simp [less.le, less]
  | eq =>
      have same := compare_eq_iff_eq.1 order
      cases included <;> simp [same]
  | gt =>
      have greater := compare_gt_iff_gt.1 order
      cases included <;> simp [greater.le, greater]

theorem belowUpper_iff (compared : compareToBound? v bound = some (compare x y)) :
    belowUpper v included (some bound) = true ↔ if included then x ≤ y else x < y := by
  rw [belowUpper, compared]
  cases order : compare x y with
  | lt =>
      have less := compare_lt_iff_lt.1 order
      cases included <;> simp [less.le, less]
  | eq =>
      have same := compare_eq_iff_eq.1 order
      cases included <;> simp [same]
  | gt =>
      have greater := compare_gt_iff_gt.1 order
      cases included <;> simp [greater.le, greater]

end

end Match

namespace Lucene

/-- The lookup is read, and it accepts the row exactly if `p` holds. -/
def FindsIff (contentField field : String) (comparison : Comparison) (v : Value) (r : Row) (p : Prop) : Prop :=
  ∃ clause, read (lookup contentField field comparison v) = .ok clause ∧
    (clause.accepts contentField r = true ↔ p)

/-- Each lookup of `v` by an order finds the row exactly if `x`, which stands there, has this order to `y`. -/
structure FindsByOrder {α : Type} [LT α] [LE α] (contentField field : String) (v : Value) (r : Row)
    (x y : α) : Prop where
  gt : FindsIff contentField field .gt v r (y < x)
  gte : FindsIff contentField field .gte v r (y ≤ x)
  lt : FindsIff contentField field .lt v r (x < y)
  lte : FindsIff contentField field .lte v r (x ≤ y)

/-- So does the lookup by equality. -/
structure FindsByValue {α : Type} [LT α] [LE α] (contentField field : String) (v : Value) (r : Row)
    (x y : α) : Prop extends FindsByOrder contentField field v r x y where
  same : FindsIff contentField field .exact v r (x = y)

theorem FindsIff.congr {contentField field : String} {comparison : Comparison} {v : Value} {r : Row}
    {p q : Prop} (finds : FindsIff contentField field comparison v r p) (same : p ↔ q) :
    FindsIff contentField field comparison v r q := by
  obtain ⟨clause, found, accepted⟩ := finds
  exact ⟨clause, found, accepted.trans same⟩

/-- A lookup is read as one clause, so what it finds is one condition. -/
theorem FindsIff.unique {contentField field : String} {comparison : Comparison} {v : Value} {r : Row}
    {p q : Prop} (finds : FindsIff contentField field comparison v r p)
    (other : FindsIff contentField field comparison v r q) : p ↔ q := by
  obtain ⟨clause, found, accepted⟩ := finds
  obtain ⟨again, foundAgain, acceptedAgain⟩ := other
  rw [found] at foundAgain
  cases foundAgain
  exact accepted.symm.trans acceptedAgain

section

variable {contentField field text : String} {v w : Value} {r : Row}

theorem any_equals_of_holds (holds : r.Holds contentField field w) :
    ((r.searched? contentField (searchedField contentField field)).any fun v =>
      v.scalars.any fun v => Match.equals v text 0) = Match.equals w text 0 := by
  obtain ⟨held, found, only⟩ := Option.map_eq_some_iff.1 holds
  rw [found, Option.any_some, only, List.any_cons, List.any_nil, Bool.or_false]

theorem findsIff_of_phrase (named : field = contentField ∨ isName field = true)
    (holds : r.Holds contentField field w) (written : (term v).toList = quote text.toList) :
    FindsIff contentField field .exact v r (Match.equals w text 0 = true) := by
  refine ⟨.phrase (searchedField contentField field) text none, ?_, ?_⟩
  · apply read_of_standsFor
    rw [lookup, String.toList_append, written]
    exact (marks_fieldMark named).standsFor_quote text
  · rw [Plan.accepts_phrase, any_equals_of_holds holds]

end

theorem boundText_text {s : String} (present : s ≠ "") : BoundText (term (.text s)).toList (some s) := by
  rcases Bool.eq_false_or_eq_true (Text.hasBlank s.toList) with blank | solid
  · rw [term, if_pos blank, toList_inQuotes]
    exact .quoted s
  · have bare : term (.text s) = clean s := by rw [term, if_neg (by rw [solid]; decide)]
    have nonempty : escape s.toList ≠ [] :=
      fun empty => present (String.toList_eq_nil_iff.1 (escape_eq_nil_iff.1 empty))
    have guarded : Guarded isUnfit (escape s.toList) :=
      guarded_escape fun c listed unneeded => isUnfit_reserved (solid_of_hasBlank solid c listed) unneeded
    have literal : unescape (escape s.toList) = s.toList := unescape_escapeWhere rfl s.toList
    have text := BoundText.bare nonempty guarded
    rw [literal, String.ofList_toList] at text
    rw [bare, clean, String.toList_ofList]
    exact text

section

variable {contentField field : String} {opening closing : Char} {included : Bool} {lower upper : List Char}
  {low high : Option String} {query : String}

theorem read_range (named : field = contentField ∨ isName field = true)
    (brackets : Brackets opening closing included) (lowerText : BoundText lower low)
    (upperText : BoundText upper high)
    (whole : query.toList =
      (fieldMark contentField field).toList ++ rangeText opening closing [] lower [' '] upper) :
    read query = .ok (.range (searchedField contentField field) low high included included) := by
  apply read_of_standsFor
  rw [whole]
  exact (marks_fieldMark named).standsFor_rangeText brackets [] [' '] rfl rfl lowerText upperText

end

section

variable {contentField field : String} {v w : Value} {r : Row} {low high : Option String} {included : Bool}

theorem accepts_range_iff (holds : r.Holds contentField field w) (limited : low ≠ none ∨ high ≠ none) :
    (Clause.range (searchedField contentField field) low high included included).accepts contentField r =
        true ↔
      Match.aboveLower w included low = true ∧ Match.belowUpper w included high = true := by
  obtain ⟨held, found, only⟩ := Option.map_eq_some_iff.1 holds
  have accepted : (Clause.range (searchedField contentField field) low high included included).accepts
      contentField r = (r.searched? contentField (searchedField contentField field)).any
        (Match.value (.range (searchedField contentField field) low high included included)) :=
    Plan.accepts_of_score (by unfold Clause.score; rfl)
  have each : Match.value (.range (searchedField contentField field) low high included included) held =
      held.scalars.any
        (Match.scalar (.range (searchedField contentField field) low high included included)) := by
    unfold Match.value
    split
    · rename_i unlimited
      cases unlimited
      simp at limited
    · rfl
  rw [accepted, found, Option.any_some, each, only, List.any_cons, List.any_nil, Bool.or_false, Match.scalar,
    Bool.and_eq_true]

/-- A lookup by an order finds a row by the order of what the value there and the bound stand for. -/
theorem findsByOrder_of_compare {α : Type} [LinearOrder α] {x y : α}
    (named : field = contentField ∨ isName field = true) (holds : r.Holds contentField field w)
    {bound : String} (written : BoundText (term v).toList (some bound))
    (compared : Match.compareToBound? w bound = some (compare x y)) :
    FindsByOrder contentField field v r x y := by
  have above : ∀ included, (Clause.range (searchedField contentField field) (some bound) none included
      included).accepts contentField r = true ↔ if included then y ≤ x else y < x := by
    intro included
    rw [accepts_range_iff holds (.inl (Option.some_ne_none _)), Match.aboveLower_iff compared]
    exact and_iff_left rfl
  have below : ∀ included, (Clause.range (searchedField contentField field) none (some bound) included
      included).accepts contentField r = true ↔ if included then x ≤ y else x < y := by
    intro included
    rw [accepts_range_iff holds (.inr (Option.some_ne_none _)), Match.belowUpper_iff compared]
    exact and_iff_right rfl
  exact {
    gt := ⟨_, read_range named .curly written .unlimited (by simp [lookup, rangeText]), above false⟩
    gte := ⟨_, read_range named .square written .unlimited (by simp [lookup, rangeText]), above true⟩
    lt := ⟨_, read_range named .curly .unlimited written (by simp [lookup, rangeText]), below false⟩
    lte := ⟨_, read_range named .square .unlimited written (by simp [lookup, rangeText]), below true⟩ }

end

theorem compareToBound?_text (s bound : String) :
    Match.compareToBound? (.text s) bound = some (compare s bound) := rfl

/-- Lookups of texts by order, and between two texts, find a text by the order of texts. -/
theorem findsByOrder_text {contentField field : String} (named : field = contentField ∨ isName field = true)
    {r : Row} {s : String} (holds : r.Holds contentField field (.text s)) {a : String} (present : a ≠ "") :
    FindsByOrder contentField field (.text a) r s a ∧
      ∀ b, b ≠ "" → FindsIff contentField field .range (.list [.text a, .text b]) r (a ≤ s ∧ s ≤ b) := by
  constructor
  · exact findsByOrder_of_compare named holds (boundText_text present) (compareToBound?_text s a)
  · intro b other
    refine ⟨_, read_range named .square (boundText_text present) (boundText_text other)
      (by simp [lookup, rangeText]), ?_⟩
    rw [accepts_range_iff holds (.inl (Option.some_ne_none _)),
      Match.aboveLower_iff (compareToBound?_text s a), Match.belowUpper_iff (compareToBound?_text s b)]
    exact Iff.rfl

theorem findsByOrder_text_title :
    isName "title" = true ∧ (Row.holding "title" (.text "TOP")).Holds "text" "title" (.text "TOP") ∧
      FindsByOrder "text" "title" (.text "TO") (.holding "title" (.text "TOP")) "TOP" "TO" ∧
      FindsIff "text" "title" .range (.list [.text "TO", .text "[*] \"TO"]) (.holding "title" (.text "TOP"))
        ("TO" ≤ "TOP" ∧ "TOP" ≤ "[*] \"TO") := by
  have name : isName "title" = true := by decide
  have holds : (Row.holding "title" (.text "TOP")).Holds "text" "title" (.text "TOP") := rfl
  obtain ⟨ordered, between⟩ := findsByOrder_text (.inr name) holds (a := "TO") (by decide)
  exact ⟨name, holds, ordered, between _ (by decide)⟩

end Lucene

end RecordSearch
