import RecordSearch.Proofs.Query.Bound

namespace RecordSearch.Lucene

def unaryClause? (text : String) : Option Clause :=
  match readUnary? none text.toList with
  | some (clause, []) => some clause
  | _ => none

theorem readUnary?_of_unaryClause? {text : String} {clause : Clause}
    (whole : unaryClause? text = some clause) : readUnary? none text.toList = some (clause, []) := by
  unfold unaryClause? at whole
  split at whole
  · rename_i found
    rw [← Option.some.inj whole]
    exact found
  · cases whole

section

variable {p mark s : List Char} {field : Option String} {clause : Clause}

theorem StandsFor.of_whole {other : Clause} (stands : StandsFor p other) {rest : List Char}
    (whole : readUnary? none p = some (clause, rest)) : StandsFor p clause := by
  obtain ⟨left, found, -⟩ := stands.reads [] follows_nil
  rw [List.append_nil, whole] at found
  obtain ⟨rfl, -⟩ := Prod.mk.inj (Option.some.inj found)
  exact stands

theorem Guarded.slop {bad : Char → Bool} (guarded : Guarded bad s) : Guarded bad (slop s).2 := by
  unfold Lucene.slop
  split
  · split
    · rename_i found
      exact (guarded.tail (by decide)).number? found
    · exact guarded
  · exact guarded

theorem Marks.standsFor_near (marks : Marks mark field) (text : String) {number : List Char}
    (written : Written ['-', '.'] number)
    (whole : readUnary? none (mark ++ (quote text.toList ++ '~' :: number)) = some (clause, [])) :
    StandsFor (mark ++ (quote text.toList ++ '~' :: number)) clause := by
  have guarded : Guarded isMark ('~' :: number) :=
    Guarded.plain (by decide) (by decide) ((guarded_written written).mono fun _ => isMark_unfit)
  have found : phrase? field (quote text.toList ++ '~' :: number) = some (clause, []) := by
    have operand : readOperand? field (quote text.toList ++ '~' :: number) = some (clause, []) :=
      marks.operand (by decide) whole
    rw [quote_append, readOperand?_quote, ← quote_append] at operand
    exact operand
  rw [phrase?_quote, boost_of_guarded guarded.slop] at found
  obtain ⟨rfl, left⟩ := Prod.mk.inj (Option.some.inj found)
  apply marks.standsFor (by decide)
  · intro k follows
    refine ⟨k, ?_, rfl⟩
    change readOperand? field (quote text.toList ++ '~' :: number ++ k) = _
    rw [List.append_assoc, quote_append, readOperand?_quote, ← quote_append, phrase?_quote,
      follows.slop_append, left, List.nil_append, follows.boost_self]
  · rfl

theorem guarded_wildcardTerm (v : Value) : Guarded isMark (wildcardTerm v).toList := by
  rw [wildcardTerm, String.toList_ofList, escapeWhere_escape]
  apply guarded_escapeWhere rfl
  intro c _ unneeded
  rw [Bool.or_eq_false_iff] at unneeded
  exact isMark_reserved unneeded.1

theorem guarded_star : Guarded isMark ['*'] := Guarded.of_all (by decide)

theorem Marks.standsFor_term (marks : Marks mark field) (v : Value)
    (whole : readUnary? none (mark ++ (term v).toList) = some (clause, [])) :
    StandsFor (mark ++ (term v).toList) clause := by
  rcases term_shape v with ⟨text, quoted⟩ | bare
  · rw [quoted] at whole ⊢
    exact (marks.standsFor_quote text).of_whole whole
  · exact marks.standsFor_of_guarded (bare.mono fun _ => isMark_unfit) whole

theorem Marks.standsFor_sides (marks : Marks mark field) {opening closing : Char} {included : Bool}
    (brackets : Brackets opening closing included) {lower upper : List Char} (lowerSide : Side lower)
    (upperSide : Side upper) (text : p = mark ++ rangeText opening closing [] lower [' '] upper)
    (whole : readUnary? none p = some (clause, [])) : StandsFor p clause := by
  rw [text] at whole ⊢
  have found : range? field (rangeText opening closing [] lower [' '] upper) = some (clause, []) := by
    have operand := marks.operand brackets.opening_mem.1 whole
    rw [readOperand?_bracket brackets.opening_mem.2] at operand
    exact operand
  obtain ⟨range, stands⟩ := marks.standsFor_range brackets lowerSide upperSide found
  exact stands.of_whole whole

theorem Marks.standsFor_bare (marks : Marks mark field) (guarded : Guarded isMark s) (text : p = mark ++ s)
    (whole : readUnary? none p = some (clause, [])) : StandsFor p clause := by
  rw [text] at whole ⊢
  exact marks.standsFor_of_guarded guarded whole

theorem Marks.read_of_term {text : String} (marks : Marks mark field) (guarded : Guarded isMark s)
    (solid : skip s = s) (whole : text.toList = mark ++ s) (term : term? field s = some (clause, [])) :
    read text = .ok clause := by
  have found := marks.readUnary?_of_term guarded solid term
  rw [← whole] at found
  exact read_of_standsFor (marks.standsFor_bare guarded whole found)

theorem side_star : Side ['*'] := Or.inr ⟨none, BoundText.unlimited⟩

end

theorem standsFor_everything : StandsFor everything.toList .all := by
  refine ⟨?_, rfl⟩
  intro k follows
  refine ⟨k, ?_, rfl⟩
  change readUnary? none ('*' :: ':' :: '*' :: k) = some (.all, k)
  rw [readUnary?_eq, word?_notWords_of_ne (by decide)]
  rfl

theorem standsFor_nothing : StandsFor ("(NOT " ++ everything ++ ")").toList (.not .all) :=
  standsFor_everything.not.parenthesized

section

variable {contentField field : String} {clause : Clause}

theorem standsFor_options (named : field = contentField ∨ isName field = true) {items : List Value}
    (present : items ≠ []) :
    StandsFor ("(" ++ " OR ".intercalate (items.map fun item =>
        fieldMark contentField field ++ phrase item) ++ ")").toList
      (Clause.joined .or ((items.map phraseText).map fun text =>
        .phrase (searchedField contentField field) text none)) := by
  have same : (items.map fun item => fieldMark contentField field ++ phrase item).map String.toList =
      ((items.map phraseText).map fun text => ((fieldMark contentField field).toList ++
        quote text.toList, Clause.phrase (searchedField contentField field) text none)).map Prod.fst := by
    rw [List.map_map, List.map_map, List.map_map]
    apply List.map_congr_left
    intro item _
    simp only [Function.comp_apply, String.toList_append, toList_phrase]
  have separator : " " ++ Connector.or.text ++ " " = " OR " := rfl
  rw [← separator, toList_parentheses .or same]
  exact (marks_fieldMark named).standsFor_phrases fun empty => present (List.map_eq_nil_iff.1 empty)

theorem lookup_within (contentField field : String) (v : Value) :
    ∃ items : List Value, lookup contentField field .within v =
      if items.isEmpty then "(NOT " ++ everything ++ ")"
      else "(" ++ " OR ".intercalate (items.map fun item =>
        fieldMark contentField field ++ phrase item) ++ ")" := by
  cases v with
  | list items =>
      refine ⟨items, ?_⟩
      simp only [lookup, List.isEmpty_map]
  | _ => exact ⟨[_], rfl⟩

theorem lookup_range (contentField field : String) (v : Value) :
    (∃ low high, lookup contentField field .range v =
      fieldMark contentField field ++ "[" ++ term low ++ " TO " ++ term high ++ "]") ∨
    lookup contentField field .range v = fieldMark contentField field ++ term v := by
  unfold lookup
  simp only
  split
  · exact Or.inl ⟨_, _, rfl⟩
  · exact Or.inr rfl

/-- What is read of a lookup on its own is read of it in any place. -/
theorem standsFor_lookup (named : field = contentField ∨ isName field = true)
    (comparison : Comparison) (v : Value)
    (whole : readUnary? none (lookup contentField field comparison v).toList = some (clause, [])) :
    StandsFor (lookup contentField field comparison v).toList clause := by
  have marks : Marks (fieldMark contentField field).toList (searchedField contentField field) :=
    marks_fieldMark named
  have side := side_of_term v
  cases comparison with
  | exact =>
      rw [lookup, String.toList_append] at whole ⊢
      exact marks.standsFor_term v whole
  | contains =>
      have guarded : Guarded isMark ('*' :: ((wildcardTerm v).toList ++ ['*'])) :=
        Guarded.plain (by decide) (by decide) ((guarded_wildcardTerm v).append guarded_star)
      exact marks.standsFor_bare guarded (by simp [lookup]) whole
  | startsWith =>
      have guarded : Guarded isMark ((wildcardTerm v).toList ++ ['*']) :=
        (guarded_wildcardTerm v).append guarded_star
      exact marks.standsFor_bare guarded (by simp [lookup]) whole
  | gt => exact marks.standsFor_sides .curly side side_star (by simp [lookup, rangeText]) whole
  | gte => exact marks.standsFor_sides .square side side_star (by simp [lookup, rangeText]) whole
  | lt => exact marks.standsFor_sides .curly side_star side (by simp [lookup, rangeText]) whole
  | lte => exact marks.standsFor_sides .square side_star side (by simp [lookup, rangeText]) whole
  | within =>
      obtain ⟨items, same⟩ := lookup_within contentField field v
      rw [same] at whole ⊢
      cases items with
      | nil => exact standsFor_nothing.of_whole whole
      | cons item items => exact (standsFor_options named (List.cons_ne_nil item items)).of_whole whole
  | range =>
      rcases lookup_range contentField field v with ⟨low, high, same⟩ | same
      · exact marks.standsFor_sides .square (side_of_term low) (side_of_term high)
          (by simp [same, rangeText]) whole
      · rw [same, String.toList_append] at whole ⊢
        exact marks.standsFor_term v whole
  | fuzzy =>
      have guarded : Guarded isMark (escape v.display.toList ++ ['~']) :=
        (guarded_isMark_escape _).append (Guarded.of_all (by decide))
      exact marks.standsFor_bare guarded (by simp [lookup, clean]) whole
  | near =>
      have text : (lookup contentField field .near v).toList =
          (fieldMark contentField field).toList ++
            (quote (phraseAndSlop v).1.toList ++
              '~' :: (Value.integerText (phraseAndSlop v).2).toList) := by
        simp [lookup, toList_inQuotes]
      rw [text] at whole ⊢
      exact marks.standsFor_near _ (written_integerText _) whole

end

section

variable {contentField field : String}

theorem read_lookup_phrase (named : field = contentField ∨ isName field = true) {s : String}
    (blank : Text.hasBlank s.toList = true) :
    read (lookup contentField field .exact (.text s)) =
      .ok (.phrase (searchedField contentField field) s none) := by
  apply read_of_standsFor
  rw [lookup, term, if_pos blank, String.toList_append, toList_inQuotes]
  exact (marks_fieldMark named).standsFor_quote s

theorem read_lookup_term (named : field = contentField ∨ isName field = true) {s : String}
    (present : s ≠ "") (solid : Text.hasBlank s.toList = false) (free : s ∉ ["AND", "OR", "NOT", "TO"]) :
    read (lookup contentField field .exact (.text s)) =
      .ok (.term (searchedField contentField field) s) := by
  have kept : s.toList ∉ keywords := by
    intro listed
    apply free
    rw [← String.ofList_toList (s := s)]
    exact List.mem_map_of_mem listed
  have marks : Marks (fieldMark contentField field).toList (searchedField contentField field) :=
    marks_fieldMark named
  have stands := marks.standsFor_escape (fun empty => present (String.toList_eq_nil_iff.1 empty))
    (solid_of_hasBlank solid) kept
  rw [String.ofList_toList] at stands
  apply read_of_standsFor
  rw [lookup, term, if_neg (by rw [solid]; decide), clean, String.toList_append, String.toList_ofList]
  exact stands

theorem read_lookup_phrases (named : field = contentField ∨ isName field = true) {texts : List String}
    (present : texts ≠ []) :
    read (lookup contentField field .within (.list (texts.map .text))) =
      .ok (Clause.joined .or
        (texts.map fun s => .phrase (searchedField contentField field) s none)) := by
  have items : texts.map Value.text ≠ [] := fun empty => present (List.map_eq_nil_iff.1 empty)
  have stands := standsFor_options named items
  have shown : (texts.map Value.text).map phraseText = texts := by
    rw [List.map_map]
    exact List.map_id texts
  rw [shown] at stands
  have filled : (texts.map Value.text).isEmpty = false := List.isEmpty_eq_false_iff.2 items
  apply read_of_standsFor
  simp only [lookup, List.isEmpty_map] at filled ⊢
  rw [filled, if_neg Bool.false_ne_true]
  exact stands

end

/-- A lookup of a text is read as that very text: as a phrase if it has blanks, as a term if not, and as
one of several phrases. -/
theorem read_lookup_text {contentField field : String}
    (named : field = contentField ∨ isName field = true) :
    (∀ s : String, Text.hasBlank s.toList = true →
      read (lookup contentField field .exact (.text s)) =
        .ok (.phrase (searchedField contentField field) s none)) ∧
    (∀ s : String, s ≠ "" → Text.hasBlank s.toList = false → s ∉ ["AND", "OR", "NOT", "TO"] →
      read (lookup contentField field .exact (.text s)) =
        .ok (.term (searchedField contentField field) s)) ∧
    (∀ texts : List String, texts ≠ [] →
      read (lookup contentField field .within (.list (texts.map .text))) =
        .ok (Clause.joined .or
          (texts.map fun s => .phrase (searchedField contentField field) s none))) := by
  refine ⟨?_, ?_, ?_⟩
  · intro s blank
    exact read_lookup_phrase named blank
  · intro s present solid free
    exact read_lookup_term named present solid free
  · intro texts present
    exact read_lookup_phrases named present

theorem read_lookup_text_title :
    isName "title" = true ∧
    read (lookup "text" "title" .exact (.text "a \"b\n")) =
      .ok (.phrase (some "title") "a \"b\n" none) ∧
    read (lookup "text" "title" .exact (.text "a*:\\")) = .ok (.term (some "title") "a*:\\") ∧
    read (lookup "text" "title" .within (.list [.text "", .text "\"\\"])) =
      .ok (.or [.phrase (some "title") "" none, .phrase (some "title") "\"\\" none]) := by
  have name : isName "title" = true := by decide
  obtain ⟨phrase, term, options⟩ := @read_lookup_text "text" "title" (Or.inr name)
  refine ⟨name, ?_, ?_, ?_⟩
  · exact phrase "a \"b\n" (by decide)
  · exact term "a*:\\" (by decide) (by decide) (by decide)
  · exact options ["", "\"\\"] (by decide)

end RecordSearch.Lucene
