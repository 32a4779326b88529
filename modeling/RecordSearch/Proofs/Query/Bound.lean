import RecordSearch.Proofs.Query.Word
import RecordSearch.Proofs.ValueText

namespace RecordSearch.Lucene

def isUnfit (c : Char) : Bool := isMark c || endsBound c || c == '*'

theorem isMark_unfit {c : Char} (marked : isMark c = true) : isUnfit c = true := by
  rw [isUnfit, marked]
  rfl

theorem endsBound_unfit {c : Char} (ends : endsBound c = true) : isUnfit c = true := by
  rw [isUnfit, ends, Bool.or_true]
  rfl

theorem isUnfit_reserved {c : Char} (solid : isBlank c = false) (unneeded : reserved.contains c = false) :
    isUnfit c = false := by
  have ends : endsBound c = false := by
    cases ends : endsBound c with
    | false => rfl
    | true =>
        simp only [endsBound, solid, Bool.false_or, Bool.or_eq_true, beq_iff_eq] at ends
        rcases ends with rfl | rfl <;> exact absurd unneeded (by decide)
  have star : (c == '*') = false := by
    rw [beq_eq_false_iff_ne]
    rintro rfl
    exact absurd unneeded (by decide)
  rw [isUnfit, isMark_reserved unneeded, ends, star]
  rfl

theorem guarded_written {s : List Char} (written : Written ['-', '.'] s) : Guarded isUnfit s := by
  apply Guarded.of_forall
  intro c present
  have fine : ['\\', '(', '[', '\x7b', '"', ':', '^', ' ', '\t', '\r', '\n', ']', '\x7d', '*'].contains c =
      false := written.contains_eq_false (by decide) c present
  simp only [List.contains_eq_mem, decide_eq_false_iff_not, List.mem_cons, List.not_mem_nil, or_false,
    not_or] at fine
  obtain ⟨backslash, parenthesis, square, curly, quote, colon, caret, space, tab, ret, feed, closed,
    shut, star⟩ := fine
  refine ⟨backslash, ?_⟩
  simp [isUnfit, isMark, openings, endsBound, isBlank, *]

section

variable {s : List Char} {field : Option String}

theorem endsTerm_of_written (written : Written ['-', '.'] s) : ∀ c ∈ s, endsTerm c = false := by
  intro c present
  rcases written c present with letter | sign
  · apply endsTerm_of_isFieldChar
    rw [isFieldChar, letter]
    rfl
  · simp only [List.mem_cons, List.not_mem_nil, or_false] at sign
    rcases sign with rfl | rfl
    · rfl
    · rfl

theorem escapeWhere_of_written (written : Written ['-', '.'] s) :
    escapeWhere ['\\', '*', '?'].contains s = s :=
  escapeWhere_self (written.contains_eq_false (by decide))

theorem unescape_of_written (written : Written ['-', '.'] s) : unescape s = s := by
  have literal : unescape (escapeWhere ['\\', '*', '?'].contains s) = s := unescape_escapeWhere rfl s
  rw [escapeWhere_of_written written] at literal
  exact literal

theorem term?_of_written (written : Written ['-', '.'] s) (present : s ≠ []) (free : s ∉ keywords) :
    term? field s = some (.term field (String.ofList s), []) := by
  have guarded : Guarded endsTerm (escapeWhere ['\\', '*', '?'].contains s) :=
    guarded_escapeWhere rfl fun c listed _ => endsTerm_of_written written c listed
  have literal : termClause field (escapeWhere ['\\', '*', '?'].contains s) none =
      .term field (String.ofList s) := termClause_escapeWhere rfl rfl rfl field s
  rw [escapeWhere_of_written written] at guarded literal
  rw [term?_of_guarded guarded present free, literal]

end

theorem quoteEscape_of_written {s : List Char} (written : Written ['-', ':', '+'] s) :
    quoteEscape s = s :=
  escapeWhere_self (written.contains_eq_false (by decide))

theorem toList_dateText (t : Calendar.DateTime) :
    ("\"" ++ String.ofList (t.text ++ ['Z']) ++ "\"").toList =
      quote (String.ofList (t.text ++ ['Z'])).toList := by
  have written : Written ['-', ':', '+'] (t.text ++ ['Z']) :=
    (Calendar.written_text t).append (Written.cons (by decide) Written.nil)
  simp only [String.toList_append, String.toList_ofList, quote, quoteEscape_of_written written]
  rfl

def phraseText (v : Value) : String :=
  match v with
  | .date _ | .dateTime _ => dateText v
  | v => v.display

theorem toList_phrase (v : Value) : (phrase v).toList = quote (phraseText v).toList := by
  cases v with
  | date d => exact toList_dateText (.atMidnight d)
  | dateTime t => exact toList_dateText t
  | null => exact toList_inQuotes _
  | text s => exact toList_inQuotes _
  | integer n => exact toList_inQuotes _
  | float x => exact toList_inQuotes _
  | boolean b => exact toList_inQuotes _
  | list items => exact toList_inQuotes _

/-- A value as a term is some text in quotes, or text in which nothing has to be quoted. -/
theorem term_shape (v : Value) :
    (∃ text : String, (term v).toList = quote text.toList) ∨ Guarded isUnfit (term v).toList := by
  cases v with
  | text s =>
      rw [term]
      split
      · exact Or.inl ⟨s, toList_inQuotes s⟩
      · rename_i solid
        rw [Bool.not_eq_true] at solid
        right
        rw [clean, String.toList_ofList]
        apply guarded_escape
        intro c present unneeded
        exact isUnfit_reserved (solid_of_hasBlank solid c present) unneeded
  | date d => exact Or.inl ⟨_, toList_dateText (.atMidnight d)⟩
  | dateTime t => exact Or.inl ⟨_, toList_dateText t⟩
  | list items => exact Or.inl ⟨_, toList_inQuotes _⟩
  | null =>
      right
      apply guarded_written
      change Written _ "None".toList
      decide
  | integer n =>
      right
      apply guarded_written
      exact written_integerText n
  | float x =>
      right
      apply guarded_written
      change Written _ (String.ofList (Decimal.doubleText x)).toList
      rw [String.toList_ofList]
      exact Decimal.written_doubleText x
  | boolean b =>
      right
      apply guarded_written
      exact written_booleanText b

inductive BoundText : List Char → Option String → Prop where
  | unlimited : BoundText ['*'] none
  | quoted (text : String) : BoundText (quote text.toList) (some text)
  | bare {s : List Char} : s ≠ [] → Guarded isUnfit s →
      BoundText s (some (String.ofList (unescape s)))

section

variable {s k : List Char} {bound : Option String} {c : Char}

theorem stopped_endsBound (ends : endsBound c = true) (other : c ≠ '\\') (k : List Char) :
    Stopped endsBound (c :: k) := by
  rintro d ⟨⟩
  exact ⟨other, ends⟩

theorem bound?_stuck (ends : endsBound c = true) (k : List Char) : bound? (c :: k) = none := by
  have others : c ≠ '"' ∧ c ≠ '*' ∧ c ≠ '\\' := by
    refine ⟨?_, ?_, ?_⟩ <;> rintro rfl <;> exact absurd ends (by decide)
  obtain ⟨quote, star, backslash⟩ := others
  have bare : bareBound? (c :: k) = none := by
    rw [bareBound?, takeEscaped_of_stopped (stopped_endsBound ends backslash k)]
  unfold bound?
  split
  · rename_i start
    exact absurd (List.cons.inj start).1 quote
  · rename_i start
    exact absurd (List.cons.inj start).1 star
  · exact bare

theorem BoundText.bound? (text : BoundText s bound) (ends : endsBound c = true) (other : c ≠ '\\')
    (k : List Char) : bound? (s ++ c :: k) = some (bound, c :: k) := by
  cases text with
  | unlimited => simp [Lucene.bound?, ends]
  | quoted text =>
      rw [quote_append]
      simp only [Lucene.bound?, closeQuote?_quoteEscape, unescape_quoteEscape, String.ofList_toList]
  | bare present guarded =>
      have taken := (guarded.mono fun d => endsBound_unfit).takeEscaped_whole
        (stopped_endsBound ends other k)
      cases s with
      | nil => exact absurd rfl present
      | cons d s =>
          have quote : d ≠ '"' := guarded.head_ne rfl (by decide)
          have star : d ≠ '*' := guarded.head_ne rfl (by decide)
          have bare : bareBound? (d :: s ++ c :: k) =
              some (some (String.ofList (unescape (d :: s))), c :: k) := by
            rw [bareBound?, taken]
          rw [List.cons_append] at bare ⊢
          unfold Lucene.bound?
          split
          · rename_i start
            exact absurd (List.cons.inj start).1 quote
          · rename_i start
            exact absurd (List.cons.inj start).1 star
          · exact bare

/-- A bound, or the empty text, which is none. -/
def Side (s : List Char) : Prop := s = [] ∨ ∃ bound, BoundText s bound

theorem side_of_term (v : Value) : Side (term v).toList := by
  rcases term_shape v with ⟨text, quoted⟩ | bare
  · rw [quoted]
    exact Or.inr ⟨_, BoundText.quoted text⟩
  · by_cases empty : (term v).toList = []
    · exact Or.inl empty
    · exact Or.inr ⟨_, BoundText.bare empty bare⟩

theorem BoundText.skip (text : BoundText s bound) (k : List Char) : skip (s ++ k) = s ++ k := by
  cases text with
  | unlimited => exact skip_of_head (by decide) k
  | quoted text =>
      rw [quote_append]
      exact skip_of_head (by decide) _
  | bare present guarded =>
      cases s with
      | nil => exact absurd rfl present
      | cons d s =>
          rcases guarded.head_fine with rfl | fine
          · exact skip_of_head (by decide) _
          · apply skip_of_head
            cases blank : isBlank d with
            | false => rfl
            | true =>
                rw [endsBound_unfit (by rw [endsBound, blank]; rfl)] at fine
                cases fine

inductive Brackets : Char → Char → Bool → Prop where
  | square : Brackets '[' ']' true
  | curly : Brackets '\x7b' '\x7d' false

variable {opening closing : Char} {included : Bool}

theorem Brackets.openRange? (brackets : Brackets opening closing included) (s : List Char) :
    openRange? (opening :: s) = some (included, s) := by
  cases brackets <;> rfl

theorem Brackets.closeRange? (brackets : Brackets opening closing included) (s : List Char) :
    closeRange? (closing :: s) = some (included, s) := by
  cases brackets <;> rfl

theorem Brackets.closing_ends (brackets : Brackets opening closing included) :
    endsBound closing = true ∧ closing ≠ '\\' ∧ isBlank closing = false := by
  cases brackets <;> decide

theorem Brackets.opening_mem (brackets : Brackets opening closing included) :
    opening ∈ openings ∧ (opening = '[' ∨ opening = '\x7b') := by
  cases brackets <;> decide

def rangeText (opening closing : Char) (before lower between upper : List Char) : List Char :=
  opening :: (before ++ (lower ++ ' ' :: 'T' :: 'O' :: (between ++ (upper ++ [closing]))))

variable {before between lower upper : List Char} {low high : Option String} {field : Option String}

theorem range?_lower (brackets : Brackets opening closing included) (gap : skip before = [])
    (text : BoundText lower low) (k : List Char) :
    range? field (opening :: (before ++ (lower ++ ' ' :: k))) =
      match (Text.dropLead? ['T', 'O'] (skip k)).bind fun rest => bound? (skip rest) with
      | none => none
      | some (upper, rest) =>
        match closeRange? (skip rest) with
        | none => none
        | some (upperIncluded, rest) =>
          some ((Clause.range field low upper included upperIncluded).boosted (boost (skip rest)).1,
            (boost (skip rest)).2) := by
  have start : bound? (skip (before ++ (lower ++ ' ' :: k))) = some (low, ' ' :: k) := by
    rw [skip_append_of_nil gap, text.skip, text.bound? (by decide) (by decide)]
  simp only [range?, brackets.openRange?, start]
  rfl

theorem range?_rangeText (brackets : Brackets opening closing included) (gap : skip before = [])
    (between_gap : skip between = []) (lowerText : BoundText lower low)
    (upperText : BoundText upper high) {k : List Char} (follows : Follows k) :
    range? field (rangeText opening closing before lower between upper ++ k) =
      some (.range field low high included included, skip k) := by
  obtain ⟨ends, other, solid⟩ := brackets.closing_ends
  have whole : rangeText opening closing before lower between upper ++ k =
      opening :: (before ++ (lower ++ ' ' :: 'T' :: 'O' :: (between ++ (upper ++ closing :: k)))) := by
    simp [rangeText]
  have upperRead : bound? (skip (between ++ (upper ++ closing :: k))) = some (high, closing :: k) := by
    rw [skip_append_of_nil between_gap, upperText.skip, upperText.bound? ends other]
  have word : Text.dropLead? ['T', 'O'] (skip ('T' :: 'O' :: (between ++ (upper ++ closing :: k)))) =
      some (between ++ (upper ++ closing :: k)) := rfl
  have close : closeRange? (skip (closing :: k)) = some (included, k) := by
    rw [skip_of_head solid, brackets.closeRange?]
  rw [whole, range?_lower brackets gap lowerText]
  simp only [word, Option.bind_some, upperRead, close, follows.boost_skip]
  rfl

theorem Marks.standsFor_rangeText {mark : List Char} (marks : Marks mark field)
    (brackets : Brackets opening closing included) (before between : List Char)
    (gap : skip before = []) (between_gap : skip between = []) (lowerText : BoundText lower low)
    (upperText : BoundText upper high) :
    StandsFor (mark ++ rangeText opening closing before lower between upper)
      (.range field low high included included) := by
  apply marks.standsFor brackets.opening_mem.1
  · intro k follows
    refine ⟨Lucene.skip k, ?_, skip_skip k⟩
    rw [List.cons_append, readOperand?_bracket brackets.opening_mem.2, ← List.cons_append]
    exact range?_rangeText brackets gap between_gap lowerText upperText follows
  · rfl

/-- No range is read where the text ends before its upper bound. -/
theorem range?_without_upper (field : Option String) (brackets : Brackets opening closing included)
    (before : List Char) (gap : skip before = []) (text : BoundText lower low) {k : List Char}
    (stuck : ((Text.dropLead? ['T', 'O'] (skip k)).bind fun rest => bound? (skip rest)) = none) :
    range? field (opening :: (before ++ (lower ++ ' ' :: k))) = none := by
  rw [range?_lower brackets gap text, stuck]

theorem rangeText_of_empty_lower (brackets : Brackets opening closing included)
    (side : Side upper) {clause : Clause} {rest : List Char}
    (found : range? field (rangeText opening closing [] [] [' '] upper) = some (clause, rest)) :
    ∃ after, BoundText after (some (String.ofList (unescape after))) ∧ upper = 'T' :: 'O' :: after := by
  obtain ⟨ends, -, solid⟩ := brackets.closing_ends
  have letters : closing ≠ 'T' ∧ closing ≠ 'O' := by
    cases brackets <;> decide
  have word : BoundText ['T', 'O'] (some (String.ofList (unescape ['T', 'O']))) :=
    BoundText.bare (by decide) (Guarded.of_all (by decide))
  -- `TO` is taken for the lower bound, so another word and a bound have to come after it
  have stuck : ∀ k, skip k = k →
      ((Text.dropLead? ['T', 'O'] k).bind fun rest => bound? (skip rest)) = none →
      upper ++ [closing] = k → False := by
    intro k whole unread same
    have none_read := range?_without_upper field brackets [' '] rfl word
      (k := k) (by
        rw [whole]
        exact unread)
    rw [← same] at none_read
    change range? field (rangeText opening closing [] [] [' '] upper) = none at none_read
    rw [none_read] at found
    cases found
  rcases side with rfl | ⟨bound, text⟩
  · refine (stuck [closing] (skip_of_head solid []) ?_ rfl).elim
    rw [Text.dropLead?, if_neg letters.1.symm]
    rfl
  · have whole : skip (upper ++ [closing]) = upper ++ [closing] := text.skip [closing]
    cases dropped : Text.dropLead? ['T', 'O'] (upper ++ [closing]) with
    | none =>
        refine (stuck _ whole ?_ rfl).elim
        rw [dropped]
        rfl
    | some after =>
        have split := Text.dropLead?_eq_some_iff.1 dropped
        cases text with
        | unlimited => exact absurd (List.cons.inj split).1 (by decide)
        | quoted text => exact absurd (List.cons.inj split).1 (by decide)
        | bare present guarded =>
            cases upper with
            | nil => exact absurd rfl present
            | cons d left =>
                obtain ⟨rfl, second⟩ := List.cons.inj split
                cases left with
                | nil => exact absurd (List.cons.inj second).1 letters.2
                | cons e left =>
                    obtain ⟨rfl, third⟩ := List.cons.inj second
                    refine ⟨left, ?_, rfl⟩
                    apply BoundText.bare
                    · rintro rfl
                      change [closing] = after at third
                      refine stuck _ whole ?_ rfl
                      rw [dropped, ← third]
                      change bound? (skip [closing]) = none
                      rw [skip_of_head solid, bound?_stuck ends]
                    · exact (guarded.tail (by decide)).tail (by decide)

/-- The sides of what is read as a range are bounds, though not always those that were meant: without a
lower one, the word before the upper one is read as the lower one. -/
theorem Marks.standsFor_range {mark : List Char} (marks : Marks mark field)
    (brackets : Brackets opening closing included) (lowerSide : Side lower) (upperSide : Side upper)
    {clause : Clause}
    (found : range? field (rangeText opening closing [] lower [' '] upper) = some (clause, [])) :
    ∃ range, StandsFor (mark ++ rangeText opening closing [] lower [' '] upper) range := by
  obtain ⟨ends, -, solid⟩ := brackets.closing_ends
  rcases lowerSide with rfl | ⟨low, lowerText⟩
  · obtain ⟨after, text, rfl⟩ := rangeText_of_empty_lower brackets upperSide found
    have word : BoundText ['T', 'O'] (some (String.ofList (unescape ['T', 'O']))) :=
      BoundText.bare (by decide) (Guarded.of_all (by decide))
    exact ⟨_, marks.standsFor_rangeText brackets [' '] [] rfl rfl word text⟩
  · rcases upperSide with rfl | ⟨high, upperText⟩
    · have unread := range?_without_upper field brackets [] rfl lowerText
        (k := 'T' :: 'O' :: ([' '] ++ ([] ++ [closing]))) (by
          change bound? (skip [closing]) = none
          rw [skip_of_head solid, bound?_stuck ends])
      change range? field (rangeText opening closing [] lower [' '] []) = none at unread
      rw [unread] at found
      cases found
    · exact ⟨_, marks.standsFor_rangeText brackets [] [' '] rfl rfl lowerText upperText⟩

end

end RecordSearch.Lucene
