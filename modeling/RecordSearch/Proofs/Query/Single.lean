import RecordSearch.Proofs.Query.Boost

/-!
Lookups of a part of a text: substrings, beginnings and similar words. They are read as one clause on their
field exactly if the text leaves no blank without a backslash, and for similar words if it is no keyword.
-/

namespace RecordSearch.Lucene

/-- What the lookups of a part of a text are meant to be read as. -/
inductive IsPartial (field : Option String) : Clause → Prop where
  | wildcard (pattern : List Wild) : IsPartial field (.wildcard field pattern)
  | fuzzy (term : String) (maxEdits : Nat) : IsPartial field (.fuzzy field term maxEdits)

section

variable {field : Option String} {s k rest : List Char} {clause : Clause} {clauses : List Clause}

theorem eq_singleton_of_joined {join : List Clause → Clause} (apart : ∀ others, clause ≠ join others)
    (same : Clause.joined join clauses = clause) : clauses = [clause] := by
  cases clauses with
  | nil => exact absurd same.symm (apart [])
  | cons first others =>
      cases others with
      | nil => exact congrArg (fun c => [c]) same
      | cons second others => exact absurd same.symm (apart _)

theorem ne_nil_of_readAnds? (found : readAnds? field s = some (clauses, rest)) : clauses ≠ [] := by
  rw [readAnds?_eq] at found
  split at found
  · cases found
  · split at found
    · cases found
      exact List.cons_ne_nil _ _
    · cases found
      exact List.cons_ne_nil _ _

theorem ne_nil_of_readOrs? (found : readOrs? field s = some (clauses, rest)) : clauses ≠ [] := by
  rw [readOrs?_eq] at found
  split at found
  · cases found
  · split at found
    · cases found
      exact List.cons_ne_nil _ _
    · cases found
      exact List.cons_ne_nil _ _

theorem readUnary?_of_readAnds? (found : readAnds? field s = some ([clause], rest)) :
    readUnary? field s = some (clause, rest) := by
  rw [readAnds?_eq] at found
  split at found
  · cases found
  · rename_i first
    split at found
    · rename_i others
      cases found
      exact absurd rfl (ne_nil_of_readAnds? others)
    · cases found
      exact first

theorem readAnds?_of_readOrs? (found : readOrs? field s = some ([clause], rest)) :
    ∃ clauses, readAnds? field s = some (clauses, rest) ∧ Clause.joined .and clauses = clause := by
  rw [readOrs?_eq] at found
  split at found
  · cases found
  · rename_i clauses after first
    split at found
    · rename_i others
      cases found
      cases next : word? orWords (skip after) with
      | none =>
          rw [next] at others
          cases others
      | some text =>
          rw [next] at others
          exact absurd rfl (ne_nil_of_readOrs? others)
    · cases found
      exact ⟨clauses, first, rfl⟩

/-- A query is a clause that joins no others exactly if this clause is read first, and nothing after it. -/
theorem readChars?_eq_some_iff (noAnd : ∀ clauses, clause ≠ .and clauses)
    (noOr : ∀ clauses, clause ≠ .or clauses) :
    readChars? s = some clause ↔
      ∃ rest, readUnary? none (skip s) = some (clause, rest) ∧ skip rest = [] := by
  constructor
  · intro found
    rw [readChars?_eq] at found
    split at found
    · rename_i ors rest first
      split at found
      · rename_i left
        rw [eq_singleton_of_joined noOr (Option.some.inj found)] at first
        obtain ⟨clauses, ands, joined⟩ := readAnds?_of_readOrs? first
        rw [eq_singleton_of_joined noAnd joined] at ands
        exact ⟨rest, readUnary?_of_readAnds? ands, List.isEmpty_iff.1 left⟩
      · cases found
    · split at found
      · exact absurd (Option.some.inj found).symm (noOr [])
      · cases found
  · rintro ⟨rest, found, left⟩
    exact readChars?_of_readUnary? found left

end

section

variable {name s rest : List Char} {clause : Clause}

theorem IsPartial.not_termClause {n : String} {field : Option String} (isPart : IsPartial (some n) clause)
    (other : field ≠ some n) (term : List Char) (maxEdits : Option Nat) :
    termClause field term maxEdits ≠ clause := by
  cases maxEdits with
  | some maxEdits =>
      intro same
      cases isPart with
      | wildcard pattern => cases same
      | fuzzy term maxEdits => exact other (Clause.fuzzy.inj same).1
  | none =>
      intro same
      simp only [termClause] at same
      split at same
      · cases isPart with
        | wildcard pattern => exact other (Clause.wildcard.inj same).1
        | fuzzy term maxEdits => cases same
      · cases isPart with
        | wildcard pattern => cases same
        | fuzzy term maxEdits => cases same

theorem IsPartial.term?_mark_ne (isPart : IsPartial (some (String.ofList name)) clause)
    (letters : ∀ c ∈ name, isFieldChar c = true) (s : List Char) :
    term? none (name ++ ':' :: s) ≠ some (clause, rest) := by
  have stopped : Stopped endsTerm (':' :: s) := by
    rintro c ⟨⟩
    decide
  intro found
  rw [term?_append_of_stopped (guarded_name letters) stopped] at found
  split at found
  · cases found
  · exact isPart.not_termClause (Option.some_ne_none _).symm name none
      (Prod.mk.inj (Option.some.inj found)).1

/-- A query of bare text behind a field name is one clause on the field exactly if one term is read, and
nothing after it. -/
theorem IsPartial.readChars?_iff (isPart : IsPartial (some (String.ofList name)) clause)
    (present : name ≠ []) (letters : ∀ c ∈ name, isFieldChar c = true) (guarded : Guarded isMark s)
    (solid : skip s ≠ []) :
    readChars? (name ++ ':' :: s) = some clause ↔
      ∃ rest, term? (some (String.ofList name)) (skip s) = some (clause, rest) ∧ skip rest = [] := by
  have start : skip (name ++ ':' :: s) = name ++ ':' :: s := by
    cases name with
    | nil => exact absurd rfl present
    | cons c name =>
        refine skip_of_head ?_ _
        have ends := endsTerm_of_isFieldChar (letters c List.mem_cons_self)
        rw [endsTerm, Bool.or_eq_false_iff] at ends
        exact ends.1
  have alone := readOperand?_of_guarded (some (String.ofList name)) guarded.skip solid
  have noAnd : ∀ clauses, clause ≠ .and clauses := by
    rintro clauses rfl
    cases isPart
  have noOr : ∀ clauses, clause ≠ .or clauses := by
    rintro clauses rfl
    cases isPart
  rw [readChars?_eq_some_iff noAnd noOr, start, readUnary?_mark present letters, alone]
  constructor
  · rintro ⟨rest, found, left⟩
    rcases orElse_eq_some found with term | term
    · exact ⟨rest, term, left⟩
    · exact absurd term (isPart.term?_mark_ne letters s)
  · rintro ⟨rest, found, left⟩
    rw [found]
    exact ⟨rest, rfl, left⟩

end

section

variable {needs : Char → Bool} {field : Option String} {front u k : List Char}

def isBare (needs : Char → Bool) (c : Char) : Bool := isBlank c && !needs c

theorem guarded_endsTerm_escapeWhere (covers : ∀ c, reserved.contains c = true → needs c = true)
    (closed : ∀ c ∈ u, isBare needs c = false) : Guarded endsTerm (escapeWhere needs u) := by
  apply guarded_escapeWhere (covers _ rfl)
  intro c present unneeded
  have solid := closed c present
  rw [isBare, unneeded, Bool.not_false, Bool.and_true] at solid
  apply endsTerm_reserved solid
  cases special : reserved.contains c with
  | false => rfl
  | true =>
      rw [covers c special] at unneeded
      cases unneeded

theorem skip_escapeWhere (solid : skip k = k) (u : List Char) :
    skip (escapeWhere needs u ++ k) = escapeWhere needs (u.dropWhile (isBare needs)) ++ k := by
  induction u with
  | nil => exact solid
  | cons c u ih =>
      rw [List.dropWhile_cons]
      cases bare : isBare needs c with
      | true =>
          rw [isBare, Bool.and_eq_true, Bool.not_eq_true'] at bare
          rw [if_pos rfl, ← ih, escapeWhere_of_not bare.2, List.cons_append, skip, skip,
            List.dropWhile_cons, if_pos bare.1]
      | false =>
          rw [if_neg Bool.false_ne_true]
          cases needed : needs c with
          | true =>
              rw [escapeWhere_cons, needed]
              exact skip_of_head rfl _
          | false =>
              rw [isBare, needed, Bool.not_false, Bool.and_true] at bare
              rw [escapeWhere_of_not needed, List.cons_append]
              exact skip_of_head bare _

theorem closed_of_term? (covers : ∀ c, reserved.contains c = true → needs c = true)
    (frontGuarded : Guarded endsTerm front) {last : Char} (solid : isBlank last = false) {clause : Clause}
    {rest : List Char} (found : term? field (front ++ (escapeWhere needs u ++ [last])) = some (clause, rest))
    (left : skip rest = []) : ∀ c ∈ u, isBare needs c = false := by
  intro c present
  cases bare : isBare needs c with
  | false => rfl
  | true =>
      obtain ⟨b, first⟩ := Option.isSome_iff_exists.1 (List.find?_isSome.2 ⟨c, present, bare⟩)
      obtain ⟨open_, before, after, rfl, closed⟩ := List.find?_eq_some_iff_append.1 first
      have guarded : Guarded endsTerm (front ++ escapeWhere needs before) := by
        refine frontGuarded.append (guarded_endsTerm_escapeWhere covers ?_)
        intro d listed
        have solid := closed d listed
        rw [Bool.not_eq_true'] at solid
        exact solid
      rw [isBare, Bool.and_eq_true, Bool.not_eq_true'] at open_
      have text : front ++ (escapeWhere needs (before ++ b :: after) ++ [last]) =
          front ++ escapeWhere needs before ++ b :: (escapeWhere needs after ++ [last]) := by
        rw [escapeWhere_append, escapeWhere_of_not open_.2]
        simp
      rw [text] at found
      rw [eq_of_term?_blank guarded open_.1 found] at left
      have blanks := List.dropWhile_eq_nil_iff.1 left last (by simp)
      rw [solid] at blanks
      cases blanks

end

section

variable {field : Option String} {front u : List Char} {pattern : List Wild} {maxEdits : Nat}

def isBreak (c : Char) : Bool := c == '\t' || c == '\r' || c == '\n'

/-- Characters before which a term with wildcards has a backslash. -/
def isHeld (c : Char) : Bool := reserved.contains c || c == ' '

theorem toList_wildcardTerm (v : Value) : (wildcardTerm v).toList = escapeWhere isHeld v.display.toList := by
  rw [wildcardTerm, String.toList_ofList, escapeWhere_escape]
  rfl

theorem isHeld_of_reserved (c : Char) (special : reserved.contains c = true) : isHeld c = true := by
  rw [isHeld, special]
  rfl

theorem isBare_isHeld (c : Char) : isBare isHeld c = isBreak c := by
  cases blank : isBlank c with
  | true =>
      simp only [isBlank, Bool.or_eq_true, beq_iff_eq] at blank
      rcases blank with ((rfl | rfl) | rfl) | rfl <;> decide
  | false =>
      rw [isBare, blank, Bool.false_and]
      simp only [isBlank, Bool.or_eq_false_iff] at blank
      obtain ⟨⟨⟨-, tab⟩, ret⟩, feed⟩ := blank
      rw [isBreak, tab, ret, feed]
      rfl

theorem isBare_reserved (c : Char) : isBare reserved.contains c = isBlank c := by
  cases blank : isBlank c with
  | true =>
      simp only [isBlank, Bool.or_eq_true, beq_iff_eq] at blank
      rcases blank with ((rfl | rfl) | rfl) | rfl <;> decide
  | false => rw [isBare, blank, Bool.false_and]

theorem term?_star (before : List Wild) (frontGuarded : Guarded endsTerm front)
    (opens : ∀ s, wilds (front ++ s) = before ++ wilds s) (closed : ∀ c ∈ u, isBreak c = false) :
    term? field (front ++ (escapeWhere isHeld u ++ ['*'])) =
      some (.wildcard field (before ++ (u.map .char ++ [.many])), []) := by
  have places : wilds (front ++ (escapeWhere isHeld u ++ ['*'])) = before ++ (u.map .char ++ [.many]) := by
    rw [opens, wilds_escapeWhere_append rfl rfl rfl]
    rfl
  have guarded : Guarded endsTerm (front ++ (escapeWhere isHeld u ++ ['*'])) := by
    refine frontGuarded.append (Guarded.append ?_ (Guarded.of_all (by decide)))
    apply guarded_endsTerm_escapeWhere isHeld_of_reserved
    intro c present
    rw [isBare_isHeld]
    exact closed c present
  have free : front ++ (escapeWhere isHeld u ++ ['*']) ∉ keywords := by
    intro listed
    have starless : ∀ word ∈ keywords, '*' ∉ word := by decide
    exact starless _ listed (by simp)
  have wild : (before ++ (u.map Wild.char ++ [Wild.many])).any isWild = true := by simp [isWild]
  rw [term?_of_guarded guarded (by simp) free]
  simp only [termClause, places, wild]
  rfl

/-- A text that ends with a star is one pattern exactly if it has no breaks. -/
theorem term?_star_iff (before : List Wild) (frontGuarded : Guarded endsTerm front)
    (opens : ∀ s, wilds (front ++ s) = before ++ wilds s) :
    (∃ rest, term? field (front ++ (escapeWhere isHeld u ++ ['*'])) = some (.wildcard field pattern, rest) ∧
        skip rest = []) ↔
      (∀ c ∈ u, isBreak c = false) ∧ pattern = before ++ (u.map .char ++ [.many]) := by
  constructor
  · rintro ⟨rest, found, left⟩
    have closed : ∀ c ∈ u, isBreak c = false := by
      intro c present
      rw [← isBare_isHeld]
      exact closed_of_term? isHeld_of_reserved frontGuarded (by decide) found left c present
    rw [term?_star before frontGuarded opens closed] at found
    exact ⟨closed, (Clause.wildcard.inj (Prod.mk.inj (Option.some.inj found)).1).2.symm⟩
  · rintro ⟨closed, rfl⟩
    exact ⟨[], term?_star before frontGuarded opens closed, rfl⟩

/-- A text that ends with a tilde is one similar word exactly if it is a word. -/
theorem term?_tilde_iff {v : String} :
    (∃ rest, term? field (escape u ++ ['~']) = some (.fuzzy field v maxEdits, rest) ∧ skip rest = []) ↔
      isWord u = true ∧ String.ofList u = v ∧ maxEdits = Text.defaultMaxEdits := by
  have stopped : Stopped endsTerm ['~'] := by
    rintro c ⟨⟩
    decide
  have read : (∀ c ∈ u, isBlank c = false) → term? field (escape u ++ ['~']) =
      if u = [] ∨ u ∈ keywords then none
      else some (.fuzzy field (String.ofList u) Text.defaultMaxEdits, []) := by
    intro solid
    have literal : unescape (escape u) = u := unescape_escapeWhere rfl u
    have result : (termClause field (escape u) (fuzziness ['~']).1).boosted (boost (fuzziness ['~']).2).1 =
        .fuzzy field (String.ofList (unescape (escape u))) Text.defaultMaxEdits := rfl
    rw [term?_append_of_stopped (guarded_endsTerm_escape solid) stopped, result, literal]
    simp only [escape_eq_nil_iff, escape_mem_keywords_iff]
    rfl
  rw [isWord_iff]
  constructor
  · rintro ⟨rest, found, left⟩
    have solid : ∀ c ∈ u, isBlank c = false := by
      intro c present
      rw [← isBare_reserved]
      exact closed_of_term? (fun _ special => special) Guarded.nil (by decide) found left c present
    rw [read solid] at found
    split at found
    · cases found
    · rename_i whole
      have clause := Clause.fuzzy.inj (Prod.mk.inj (Option.some.inj found)).1
      rw [not_or] at whole
      exact ⟨⟨whole.1, solid, whole.2⟩, clause.2.1, clause.2.2.symm⟩
  · rintro ⟨⟨present, solid, free⟩, rfl, rfl⟩
    refine ⟨[], ?_, rfl⟩
    rw [read solid, if_neg (not_or.2 ⟨present, free⟩)]

end

section

variable {contentField field : String} {v : String} {pattern : List Wild} {maxEdits : Nat}

theorem IsPartial.read_iff {clause : Clause} (isPart : IsPartial (some field) clause)
    (named : isName field = true) {text : String} {s : List Char}
    (whole : text.toList = field.toList ++ ':' :: s) (guarded : Guarded isMark s) (solid : skip s ≠ []) :
    read text = .ok clause ↔ ∃ rest, term? (some field) (skip s) = some (clause, rest) ∧ skip rest = [] := by
  simp only [isName, Bool.and_eq_true, Bool.not_eq_true', List.isEmpty_eq_false_iff,
    List.all_eq_true] at named
  rw [← String.ofList_toList (s := field)] at isPart
  have iff := isPart.readChars?_iff named.1 named.2 guarded solid
  rw [String.ofList_toList] at iff
  rw [← iff, ← whole, read]
  cases readChars? text.toList with
  | none => simp
  | some found => simp

theorem toList_fieldMark (other : field ≠ contentField) :
    (fieldMark contentField field).toList = field.toList ++ [':'] := by
  rw [fieldMark, if_neg other, String.toList_append]
  rfl

theorem guarded_escapeWhere_isHeld (u : List Char) : Guarded isMark (escapeWhere isHeld u) := by
  have held : (wildcardTerm (.text (String.ofList u))).toList = escapeWhere isHeld u := by
    rw [toList_wildcardTerm, Value.display, String.toList_ofList]
  rw [← held]
  exact guarded_wildcardTerm _

theorem toList_lookup_contains (contentField field v : String) :
    (lookup contentField field .contains (.text v)).toList =
      (fieldMark contentField field).toList ++ (['*'] ++ (escapeWhere isHeld v.toList ++ ['*'])) := by
  simp only [lookup, String.toList_append, toList_wildcardTerm]
  simp [Value.display]

theorem toList_lookup_startsWith (contentField field v : String) :
    (lookup contentField field .startsWith (.text v)).toList =
      (fieldMark contentField field).toList ++ (escapeWhere isHeld v.toList ++ ['*']) := by
  simp only [lookup, String.toList_append, toList_wildcardTerm]
  simp [Value.display]

theorem read_contains_iff (named : isName field = true) (other : field ≠ contentField) :
    read (lookup contentField field .contains (.text v)) = .ok (.wildcard (some field) pattern) ↔
      (∀ c ∈ v.toList, isBreak c = false) ∧ pattern = .many :: (v.toList.map .char ++ [.many]) := by
  have text : (lookup contentField field .contains (.text v)).toList =
      field.toList ++ ':' :: (['*'] ++ (escapeWhere isHeld v.toList ++ ['*'])) := by
    rw [toList_lookup_contains, toList_fieldMark other, List.append_assoc, List.singleton_append]
  have guarded : Guarded isMark (['*'] ++ (escapeWhere isHeld v.toList ++ ['*'])) :=
    guarded_star.append ((guarded_escapeWhere_isHeld _).append guarded_star)
  have starGuarded : Guarded endsTerm ['*'] := Guarded.of_all (by decide)
  have start : skip (['*'] ++ (escapeWhere isHeld v.toList ++ ['*'])) =
      ['*'] ++ (escapeWhere isHeld v.toList ++ ['*']) := skip_of_head (by decide) _
  rw [(IsPartial.wildcard pattern).read_iff named text guarded (by rw [start]; exact List.cons_ne_nil _ _),
    start]
  exact term?_star_iff [.many] starGuarded fun s => rfl

theorem read_startsWith_iff (named : isName field = true) (other : field ≠ contentField) :
    read (lookup contentField field .startsWith (.text v)) = .ok (.wildcard (some field) pattern) ↔
      (∀ c ∈ v.toList.dropWhile isBreak, isBreak c = false) ∧
        pattern = (v.toList.dropWhile isBreak).map .char ++ [.many] := by
  have text : (lookup contentField field .startsWith (.text v)).toList =
      field.toList ++ ':' :: (escapeWhere isHeld v.toList ++ ['*']) := by
    rw [toList_lookup_startsWith, toList_fieldMark other, List.append_assoc, List.singleton_append]
  have guarded : Guarded isMark (escapeWhere isHeld v.toList ++ ['*']) :=
    (guarded_escapeWhere_isHeld _).append guarded_star
  have breaks : isBare isHeld = isBreak := funext isBare_isHeld
  have start : skip (escapeWhere isHeld v.toList ++ ['*']) =
      escapeWhere isHeld (v.toList.dropWhile isBreak) ++ ['*'] := by
    rw [skip_escapeWhere (skip_of_head (by decide) []), breaks]
  have solid : skip (escapeWhere isHeld v.toList ++ ['*']) ≠ [] := by
    rw [start]
    exact List.append_ne_nil_of_right_ne_nil _ (List.cons_ne_nil _ _)
  rw [(IsPartial.wildcard pattern).read_iff named text guarded solid, start]
  exact term?_star_iff [] Guarded.nil fun s => rfl

theorem read_fuzzy_iff (named : isName field = true) (other : field ≠ contentField) :
    read (lookup contentField field .fuzzy (.text v)) = .ok (.fuzzy (some field) v maxEdits) ↔
      isWord v.toList = true ∧ maxEdits = Text.defaultMaxEdits := by
  have text : (lookup contentField field .fuzzy (.text v)).toList =
      field.toList ++ ':' :: (escape v.toList ++ ['~']) := by
    simp only [lookup, clean, String.toList_append, toList_fieldMark other, String.toList_ofList]
    simp [Value.display]
  have guarded : Guarded isMark (escape v.toList ++ ['~']) :=
    (guarded_isMark_escape v.toList).append (Guarded.of_all (by decide))
  have blanks : isBare reserved.contains = isBlank := funext isBare_reserved
  have start : skip (escape v.toList ++ ['~']) = escape (skip v.toList) ++ ['~'] := by
    rw [escape, skip_escapeWhere (skip_of_head (by decide) []), blanks]
    rfl
  have solid : skip (escape v.toList ++ ['~']) ≠ [] := by
    rw [start]
    exact List.append_ne_nil_of_right_ne_nil _ (List.cons_ne_nil _ _)
  rw [(IsPartial.fuzzy v maxEdits).read_iff named text guarded solid, start, term?_tilde_iff]
  constructor
  · rintro ⟨word, same, edits⟩
    rw [← same, String.toList_ofList]
    exact ⟨word, edits⟩
  · rintro ⟨word, edits⟩
    obtain ⟨-, closed, -⟩ := isWord_iff.1 word
    have whole : skip v.toList = v.toList :=
      skip_of_solid fun c first => closed c (List.mem_of_mem_head? first)
    rw [whole, String.ofList_toList]
    exact ⟨word, rfl, edits⟩

end

/-- A lookup of a substring or of a beginning is read as one pattern on its field exactly if no break stands
in the looked up text, where breaks at the beginning are skipped; one of similar words exactly if the text is
a single word. -/
theorem read_lookup_part {contentField field : String} (named : isName field = true)
    (other : field ≠ contentField) (v : String) :
    (∀ pattern, read (lookup contentField field .contains (.text v)) = .ok (.wildcard (some field) pattern) ↔
      (∀ c ∈ v.toList, isBreak c = false) ∧ pattern = .many :: (v.toList.map .char ++ [.many])) ∧
    (∀ pattern, read (lookup contentField field .startsWith (.text v)) =
        .ok (.wildcard (some field) pattern) ↔
      (∀ c ∈ v.toList.dropWhile isBreak, isBreak c = false) ∧
        pattern = (v.toList.dropWhile isBreak).map .char ++ [.many]) ∧
    ∀ maxEdits, read (lookup contentField field .fuzzy (.text v)) = .ok (.fuzzy (some field) v maxEdits) ↔
      isWord v.toList = true ∧ maxEdits = Text.defaultMaxEdits := by
  refine ⟨fun pattern => ?_, fun pattern => ?_, fun maxEdits => ?_⟩
  · exact read_contains_iff named other
  · exact read_startsWith_iff named other
  · exact read_fuzzy_iff named other

theorem read_lookup_part_words : isName "title" = true ∧ "title" ≠ "text" ∧
    read (lookup "text" "title" .contains (.text "a b*")) = .ok (.wildcard (some "title")
      [.many, .char 'a', .char ' ', .char 'b', .char '*', .many]) ∧
    read (lookup "text" "title" .startsWith (.text "\t(a")) = .ok (.wildcard (some "title")
      [.char '(', .char 'a', .many]) ∧
    read (lookup "text" "title" .fuzzy (.text "NOTE")) =
      .ok (.fuzzy (some "title") "NOTE" Text.defaultMaxEdits) := by
  have name : isName "title" = true := by decide
  have other : "title" ≠ "text" := by decide
  obtain ⟨contains, -, -⟩ := read_lookup_part name other "a b*"
  obtain ⟨-, startsWith, -⟩ := read_lookup_part name other "\t(a"
  obtain ⟨-, -, fuzzy⟩ := read_lookup_part name other "NOTE"
  refine ⟨name, other, ?_, ?_, ?_⟩
  · refine (contains _).2 ⟨?_, by decide⟩
    intro c present
    exact Bool.not_eq_true _ ▸ List.any_eq_false.1 (by decide) c present
  · refine (startsWith _).2 ⟨?_, by decide⟩
    intro c present
    exact Bool.not_eq_true _ ▸ List.any_eq_false.1 (by decide) c present
  · exact (fuzzy _).2 ⟨by decide, rfl⟩

/-- Two words are not read as one similar word. -/
theorem not_read_lookup_part : ¬ ∀ contentField field v : String, isName field = true →
    field ≠ contentField → v ≠ "" →
      (∃ pattern, read (lookup contentField field .contains (.text v)) =
        .ok (.wildcard (some field) pattern)) ∧
      (∃ pattern, read (lookup contentField field .startsWith (.text v)) =
        .ok (.wildcard (some field) pattern)) ∧
      ∃ maxEdits, read (lookup contentField field .fuzzy (.text v)) =
        .ok (.fuzzy (some field) v maxEdits) := by
  intro reads
  have named : isName "title" = true := by decide
  have other : "title" ≠ "text" := by decide
  obtain ⟨-, -, maxEdits, one⟩ := reads "text" "title" "hello world" named other (by decide)
  obtain ⟨word, -⟩ := (read_fuzzy_iff named other).1 one
  exact absurd word (by decide)

end RecordSearch.Lucene
