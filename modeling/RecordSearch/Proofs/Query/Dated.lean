import RecordSearch.Proofs.Calendar.Instant
import RecordSearch.Proofs.Query.Ordered

/-!
Lookups of dates and instants. They follow the order of instants, but what is looked up loses its fraction of
a second when it is written, so a row that holds an instant within a second is found as one behind it.
-/

namespace RecordSearch.Lucene

open Calendar (DateTime readInstant? readInstant?_text)

def instantText (t : DateTime) : String := String.ofList (t.text ++ ['Z'])

section

variable {contentField field : String} {r : Row} {v w : Value} {d q : DateTime}

theorem toList_term_dated (asked : v.dateTime? = some q) :
    (term v).toList = quote (instantText q).toList := by
  cases v with
  | date day =>
      cases asked
      exact toList_dateText _
  | dateTime t =>
      cases asked
      exact toList_dateText _
  | _ => cases asked

theorem readInstant?_instantText (q : DateTime) :
    readInstant? (instantText q).toList = some q.toSecond := by
  rw [instantText, String.toList_ofList, readInstant?_text]

theorem compareToBound?_instantText (dated : w.dateTime? = some d) (q : DateTime) :
    Match.compareToBound? w (instantText q) = some (compare d.rank q.toSecond.rank) := by
  cases w with
  | date day => simp only [Match.compareToBound?, dated, readInstant?_instantText, compare]
  | dateTime t => simp only [Match.compareToBound?, dated, readInstant?_instantText, compare]
  | _ => cases dated

theorem equals_instantText_iff (dated : w.dateTime? = some d) (q : DateTime) :
    Match.equals w (instantText q) 0 = true ↔ d = q.toSecond := by
  have compared : Match.equals w (instantText q) 0 =
      (readInstant? (instantText q).toList == w.dateTime?) := by
    cases w with
    | date day => rfl
    | dateTime t => rfl
    | _ => cases dated
  rw [compared, dated, readInstant?_instantText, beq_iff_eq, Option.some_inj, eq_comm]

/-- What is looked up stands for the start of its second. -/
theorem findsByValue_toSecond (named : field = contentField ∨ isName field = true)
    (holds : r.Holds contentField field w) (dated : w.dateTime? = some d) (asked : v.dateTime? = some q) :
    FindsByValue contentField field v r d q.toSecond := by
  have written := toList_term_dated asked
  have bound : BoundText (term v).toList (some (instantText q)) := by
    rw [written]
    exact .quoted (instantText q)
  have ordered : FindsByOrder contentField field v r d.rank q.toSecond.rank :=
    findsByOrder_of_compare named holds bound (compareToBound?_instantText dated q)
  exact {
    gt := ordered.gt
    gte := ordered.gte
    lt := ordered.lt
    lte := ordered.lte
    same := (findsIff_of_phrase named holds written).congr (equals_instantText_iff dated q) }

/-- Lookups of dates and instants find a row by its instant and the start of the second that is looked up:
by the very instant if this is such a start, and behind itself if not. -/
theorem findsByValue_instant (named : field = contentField ∨ isName field = true)
    (holds : r.Holds contentField field w) (dated : w.dateTime? = some d) (asked : v.dateTime? = some q) :
    FindsByValue contentField field v r d q.toSecond ∧
      (q.IsWhole → FindsByValue contentField field v r d q) ∧
      (d = q → FindsIff contentField field .exact v r q.IsWhole ∧
        FindsIff contentField field .gt v r (¬ q.IsWhole)) := by
  have found := findsByValue_toSecond named holds dated asked
  refine ⟨found, ?_, ?_⟩
  · intro whole
    rw [← DateTime.toSecond_eq_iff.2 whole]
    exact found
  · rintro rfl
    exact ⟨found.same.congr (eq_comm.trans DateTime.toSecond_eq_iff), found.gt.congr DateTime.toSecond_lt_iff⟩

end

def afterNoon : DateTime := ⟨⟨2009, 2, 26, by decide⟩, ⟨12, 0, 0, 500000000, by decide⟩⟩

theorem findsByValue_instant_afterNoon :
    isName "pub_date" = true ∧
      (Row.holding "pub_date" (.dateTime afterNoon)).Holds "text" "pub_date" (.dateTime afterNoon) ∧
      (Value.date afterNoon.date).dateTime? = some (.atMidnight afterNoon.date) ∧
      (DateTime.atMidnight afterNoon.date).IsWhole ∧
      FindsByValue "text" "pub_date" (.date afterNoon.date)
        (.holding "pub_date" (.dateTime afterNoon)) afterNoon (DateTime.atMidnight afterNoon.date) ∧
      FindsIff "text" "pub_date" .gt (.dateTime afterNoon) (.holding "pub_date" (.dateTime afterNoon))
        (¬ afterNoon.IsWhole) := by
  have name : isName "pub_date" = true := by decide
  have holds : (Row.holding "pub_date" (.dateTime afterNoon)).Holds "text" "pub_date"
      (.dateTime afterNoon) := rfl
  have whole := DateTime.isWhole_atMidnight afterNoon.date
  have day := (findsByValue_instant (v := .date afterNoon.date) (.inr name) holds rfl rfl).2.1 whole
  have itself := (findsByValue_instant (v := .dateTime afterNoon) (.inr name) holds rfl rfl).2.2 rfl
  exact ⟨name, holds, rfl, whole, day, itself.2⟩

/-- A row is not found by the very instant that it holds if this lies within a second. -/
theorem not_findsByValue_instant :
    ¬ ∀ (contentField field : String) (r : Row) (v w : Value) (d q : DateTime),
      field = contentField ∨ isName field = true → r.Holds contentField field w →
        w.dateTime? = some d → v.dateTime? = some q → 0 ≤ q.date.year ∧ q.date.year ≤ 9999 →
          FindsByValue contentField field v r d q := by
  intro findsExactly
  have name : isName "pub_date" = true := by decide
  have holds : (Row.holding "pub_date" (.dateTime afterNoon)).Holds "text" "pub_date"
      (.dateTime afterNoon) := rfl
  have byInstant := findsExactly "text" "pub_date" _ (.dateTime afterNoon) _ afterNoon afterNoon (.inr name) holds
    rfl rfl (by decide)
  have found := findsByValue_toSecond (v := .dateTime afterNoon) (.inr name) holds rfl rfl
  have same : afterNoon = afterNoon.toSecond := (byInstant.same.unique found.same).1 rfl
  exact absurd same (by decide)

end RecordSearch.Lucene
