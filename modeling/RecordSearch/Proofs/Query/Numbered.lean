import RecordSearch.Proofs.Decimal.Integer
import RecordSearch.Proofs.Query.Ordered

/-!
Lookups of integers. The integer that is looked up and the one in a row are compared as floats, so they count
as rounded to 53 digits, and integers that differ may be found as one.
-/

namespace RecordSearch.Lucene

open Double (rounded rounded_mono rounded_eq_iff rounded_lt_iff rounded_le_iff)

section

variable {contentField field : String} {r : Row} {i j : Int64}

theorem read_lookup_integer (named : field = contentField ∨ isName field = true) (j : Int64) :
    read (lookup contentField field .exact (.integer j)) =
      .ok (.term (searchedField contentField field) (Value.integerText j)) := by
  have written := written_integerText j
  have free : (Value.integerText j).toList ∉ keywords := by
    intro listed
    obtain ⟨c, s, start, first⟩ := Decimal.head_integerText j
    have letters : ∀ word ∈ keywords, ∀ d ∈ word.head?, ¬ (d = '-' ∨ d.isDigit = true) := by
      simp [keywords]
    exact letters _ listed c (by rw [start]; rfl) first
  have solid : skip (Value.integerText j).toList = (Value.integerText j).toList := by
    apply skip_of_solid
    intro d head
    have stays := endsTerm_of_written written d (List.mem_of_mem_head? head)
    rw [endsTerm, Bool.or_eq_false_iff] at stays
    exact stays.1
  have guarded : Guarded isMark (Value.integerText j).toList :=
    (guarded_written written).mono fun _ => isMark_unfit
  have term : term? (searchedField contentField field) (Value.integerText j).toList =
      some (.term (searchedField contentField field) (Value.integerText j), []) := by
    rw [term?_of_written written (Decimal.integerText_ne_nil j) free, String.ofList_toList]
  exact (marks_fieldMark named).read_of_term guarded solid (by simp [lookup, Lucene.term, Value.display]) term

theorem boundText_integer (j : Int64) :
    BoundText (term (.integer j)).toList (some (Value.integerText j)) := by
  have written := written_integerText j
  have bound := BoundText.bare (Decimal.integerText_ne_nil j) (guarded_written written)
  rw [unescape_of_written written, String.ofList_toList] at bound
  exact bound

theorem equals_integerText_iff (i j : Int64) :
    Match.equals (.integer i) (Value.integerText j) 0 = true ↔ rounded i.toInt = rounded j.toInt := by
  obtain ⟨x, found, denotes⟩ := Decimal.exists_readFloat?_integerText j
  have compared : Match.equals (.integer i) (Value.integerText j) 0 = (x == Double.nearestFloat i) := by
    simp only [Match.equals, found, Value.float?]
  rw [compared, Double.beq_iff_of_denotes denotes (Double.denotes_nearestFloat i), eq_comm]

theorem compareToBound?_integerText (i j : Int64) :
    Match.compareToBound? (.integer i) (Value.integerText j) =
      some (compare (rounded i.toInt) (rounded j.toInt)) := by
  obtain ⟨x, found, denotes⟩ := Decimal.exists_readFloat?_integerText j
  simp only [Match.compareToBound?, found, Value.float?]
  exact Double.compareFloats?_of_denotes (Double.denotes_nearestFloat i) denotes

/-- Integers are found as the floats nearest to them. -/
theorem findsByValue_rounded (named : field = contentField ∨ isName field = true)
    (holds : r.Holds contentField field (.integer i)) (j : Int64) :
    FindsByValue contentField field (.integer j) r (rounded i.toInt) (rounded j.toInt) := by
  have ordered : FindsByOrder contentField field (.integer j) r (rounded i.toInt) (rounded j.toInt) :=
    findsByOrder_of_compare named holds (boundText_integer j) (compareToBound?_integerText i j)
  have same : FindsIff contentField field .exact (.integer j) r (rounded i.toInt = rounded j.toInt) := by
    refine ⟨_, read_lookup_integer named j, ?_⟩
    rw [Plan.accepts_term, any_equals_of_holds holds, equals_integerText_iff]
  exact { ordered with same }

/-- Lookups of integers find a row by the integers rounded to 53 digits: by the integers themselves if one of
the two is that short, and at least by what follows from their order if none is. -/
theorem findsByValue_integer (named : field = contentField ∨ isName field = true)
    (holds : r.Holds contentField field (.integer i)) (j : Int64) :
    FindsByValue contentField field (.integer j) r (rounded i.toInt) (rounded j.toInt) ∧
      (i.toInt.natAbs < 2 ^ 53 ∨ j.toInt.natAbs < 2 ^ 53 →
        FindsByValue contentField field (.integer j) r i.toInt j.toInt) ∧
      (i.toInt = j.toInt → FindsIff contentField field .exact (.integer j) r True) ∧
      (i.toInt ≤ j.toInt → FindsIff contentField field .lte (.integer j) r True ∧
        FindsIff contentField field .gt (.integer j) r False) ∧
      (j.toInt ≤ i.toInt → FindsIff contentField field .gte (.integer j) r True ∧
        FindsIff contentField field .lt (.integer j) r False) := by
  have found := findsByValue_rounded named holds j
  refine ⟨found, ?_, ?_, ?_, ?_⟩
  · intro short
    have turned := short.symm
    exact {
      gt := found.gt.congr (rounded_lt_iff turned)
      gte := found.gte.congr (rounded_le_iff turned)
      lt := found.lt.congr (rounded_lt_iff short)
      lte := found.lte.congr (rounded_le_iff short)
      same := found.same.congr (rounded_eq_iff short) }
  · intro same
    exact found.same.congr (iff_true_intro (congrArg rounded same))
  · intro order
    have least := rounded_mono order
    exact ⟨found.lte.congr (iff_true_intro least), found.gt.congr (iff_false_intro (not_lt_of_ge least))⟩
  · intro order
    have least := rounded_mono order
    exact ⟨found.gte.congr (iff_true_intro least), found.lt.congr (iff_false_intro (not_lt_of_ge least))⟩

end

theorem findsByValue_integer_views :
    isName "views" = true ∧
      (Row.holding "views" (.integer 9007199254740993)).Holds "text" "views" (.integer 9007199254740993) ∧
      (9007199254740991 : Int64).toInt.natAbs < 2 ^ 53 ∧
      FindsByValue "text" "views" (.integer 9007199254740991) (.holding "views" (.integer 9007199254740993))
        (9007199254740993 : Int64).toInt (9007199254740991 : Int64).toInt ∧
      (9007199254740993 : Int64).toInt ≤ (9223372036854775807 : Int64).toInt ∧
      FindsIff "text" "views" .gt (.integer 9223372036854775807)
        (.holding "views" (.integer 9007199254740993)) False := by
  have name : isName "views" = true := by decide
  have holds : (Row.holding "views" (.integer 9007199254740993)).Holds "text" "views"
      (.integer 9007199254740993) := rfl
  have short : (9007199254740991 : Int64).toInt.natAbs < 2 ^ 53 := by decide
  have order : (9007199254740993 : Int64).toInt ≤ (9223372036854775807 : Int64).toInt := by decide
  obtain ⟨-, exact, -⟩ := findsByValue_integer (.inr name) holds 9007199254740991
  obtain ⟨-, -, -, behind, -⟩ := findsByValue_integer (.inr name) holds 9223372036854775807
  exact ⟨name, holds, short, exact (.inr short), order, (behind order).2⟩

/-- A row is found by an integer that it does not hold if both are the same float. -/
theorem not_findsByValue_integer :
    ¬ ∀ (contentField field : String) (r : Row) (i j : Int64),
      field = contentField ∨ isName field = true → r.Holds contentField field (.integer i) →
        FindsByValue contentField field (.integer j) r i.toInt j.toInt := by
  intro findsExactly
  have name : isName "views" = true := by decide
  have holds : (Row.holding "views" (.integer 9007199254740992)).Holds "text" "views"
      (.integer 9007199254740992) := rfl
  have byValue := findsExactly "text" "views" _ 9007199254740992 9007199254740993 (.inr name) holds
  have found := findsByValue_rounded (.inr name) holds 9007199254740993
  have alike : rounded (9007199254740992 : Int64).toInt = rounded (9007199254740993 : Int64).toInt := by
    decide
  have same : (9007199254740992 : Int64).toInt = (9007199254740993 : Int64).toInt :=
    (byValue.same.unique found.same).2 alike
  exact absurd same (by decide)

end RecordSearch.Lucene
