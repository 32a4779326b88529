import RecordSearch.Proofs.Query.Follow
import RecordSearch.Proofs.Query.Fuel

namespace RecordSearch.Lucene

variable {field : Option String} {c : Char} {s : List Char}

theorem orElse_none (first : Option (Clause × List Char)) : orElse first (fun _ => none) = first := by
  cases first <;> rfl

theorem word?_notWords_of_ne (other : c ≠ 'N') (s : List Char) : word? notWords (c :: s) = none := by
  simp [word?, notWords, Text.dropLead?, other.symm]

theorem everything?_of_ne (other : c ≠ '*') (s : List Char) : everything? (c :: s) = none := by
  unfold everything?
  split
  · rename_i start
    exact absurd (List.cons.inj start).1 other
  · rfl

theorem fieldName?_of_not (other : isFieldChar c = false) (s : List Char) :
    fieldName? (c :: s) = none := by
  simp [fieldName?, other]

theorem readField?_of_not (other : isFieldChar c = false) (s : List Char) :
    readField? (c :: s) = none := by
  rw [readField?_eq, fieldName?_of_not other]
  rfl

theorem readGroup?_of_ne (other : c ≠ '(') (s : List Char) : readGroup? field (c :: s) = none := by
  apply readGroup?_of_head_ne
  intro start
  exact other (Option.some.inj start)

theorem range?_of_ne (square : c ≠ '[') (curly : c ≠ '\x7b') (s : List Char) :
    range? field (c :: s) = none := by
  have shut : openRange? (c :: s) = none := by simp [openRange?, square, curly]
  rw [range?, shut]

theorem phrase?_of_ne (other : c ≠ '"') (s : List Char) : phrase? field (c :: s) = none := by
  simp [phrase?, other]

theorem term?_of_endsTerm (other : c ≠ '\\') (ends : endsTerm c = true) (s : List Char) :
    term? field (c :: s) = none := by
  unfold term?
  rw [takeEscaped_of_stop other ends]
  split <;> rfl

def openings : List Char := ['(', '[', '\x7b', '"']

theorem readUnary?_of_opening (opening : c ∈ openings) (s : List Char) :
    readUnary? field (c :: s) = readOperand? field (c :: s) := by
  have negation : c ≠ 'N' := by
    rintro rfl
    exact absurd opening (by decide)
  have star : c ≠ '*' := by
    rintro rfl
    exact absurd opening (by decide)
  have letter : isFieldChar c = false := by
    simp only [openings, List.mem_cons, List.not_mem_nil, or_false] at opening
    rcases opening with rfl | rfl | rfl | rfl <;> decide
  rw [readUnary?_eq, word?_notWords_of_ne negation, everything?_of_ne star, readField?_of_not letter]
  rfl

theorem readOperand?_parenthesis (s : List Char) :
    readOperand? field ('(' :: s) = readGroup? field ('(' :: s) := by
  rw [readOperand?, range?_of_ne (by decide) (by decide), phrase?_of_ne (by decide),
    term?_of_endsTerm (by decide) (by decide)]
  exact orElse_none _

theorem readOperand?_bracket (bracket : c = '[' ∨ c = '\x7b') (s : List Char) :
    readOperand? field (c :: s) = range? field (c :: s) := by
  rcases bracket with rfl | rfl
  · rw [readOperand?, readGroup?_of_ne (by decide), phrase?_of_ne (by decide),
      term?_of_endsTerm (by decide) (by decide)]
    exact orElse_none _
  · rw [readOperand?, readGroup?_of_ne (by decide), phrase?_of_ne (by decide),
      term?_of_endsTerm (by decide) (by decide)]
    exact orElse_none _

theorem readOperand?_quote (s : List Char) :
    readOperand? field ('"' :: s) = phrase? field ('"' :: s) := by
  rw [readOperand?, readGroup?_of_ne (by decide), range?_of_ne (by decide) (by decide),
    term?_of_endsTerm (by decide) (by decide)]
  exact orElse_none _

theorem readOperand?_of_plain (plain : c ∉ openings) (s : List Char) :
    readOperand? field (c :: s) = term? field (c :: s) := by
  simp only [openings, List.mem_cons, List.not_mem_nil, or_false, not_or] at plain
  obtain ⟨parenthesis, square, curly, quote⟩ := plain
  rw [readOperand?, readGroup?_of_ne parenthesis, range?_of_ne square curly, phrase?_of_ne quote]
  rfl

theorem readUnary?_of_plain (plain : c ∉ openings) (s : List Char) :
    readUnary? field (c :: s) =
      orElse ((word? notWords (c :: s)).bind fun rest =>
        (readUnary? field (skip rest)).map fun reading => (Clause.not reading.1, reading.2)) fun _ =>
      orElse (everything? (c :: s)) fun _ =>
      orElse (readField? (c :: s)) fun _ => term? field (c :: s) := by
  simp only [openings, List.mem_cons, List.not_mem_nil, or_false, not_or] at plain
  obtain ⟨parenthesis, square, curly, quote⟩ := plain
  rw [readUnary?_eq, readGroup?_of_ne parenthesis, range?_of_ne square curly, phrase?_of_ne quote]
  rfl

theorem not_mem_openings (letter : isFieldChar c = true) : c ∉ openings := by
  simp only [openings, List.mem_cons, List.not_mem_nil, or_false]
  rintro (rfl | rfl | rfl | rfl) <;> cases letter

def closings : List Char := [' ', '\t', '\r', '\n', ')', ':']

theorem readUnary?_of_closing (closing : c ∈ closings) (s : List Char) :
    readUnary? field (c :: s) = none := by
  simp only [closings, List.mem_cons, List.not_mem_nil, or_false] at closing
  have none_of : c ≠ 'N' ∧ c ≠ '*' ∧ c ≠ '(' ∧ c ≠ '[' ∧ c ≠ '\x7b' ∧ c ≠ '"' ∧ c ≠ '\\' ∧
      isFieldChar c = false ∧ endsTerm c = true := by
    rcases closing with rfl | rfl | rfl | rfl | rfl | rfl <;> decide
  obtain ⟨negation, star, parenthesis, square, curly, quote, backslash, letter, ends⟩ := none_of
  rw [readUnary?_eq, word?_notWords_of_ne negation, everything?_of_ne star,
    readGroup?_of_ne parenthesis, readField?_of_not letter, range?_of_ne square curly,
    phrase?_of_ne quote, term?_of_endsTerm backslash ends]
  rfl

/-- A clause can begin with the first character. -/
def StartsClause (s : List Char) : Prop := ∃ c t, s = c :: t ∧ isBlank c = false ∧ c ≠ ':'

namespace StartsClause

theorem of_readUnary? {reading : Clause × List Char} (found : readUnary? field s = some reading) : StartsClause s := by
  cases s with
  | nil => cases found
  | cons c t =>
      have opens : c ∉ closings := by
        intro closing
        rw [readUnary?_of_closing closing] at found
        cases found
      simp only [closings, List.mem_cons, List.not_mem_nil, or_false, not_or] at opens
      obtain ⟨space, tab, ret, feed, -, colon⟩ := opens
      refine ⟨c, t, rfl, ?_, colon⟩
      simp [isBlank, space, tab, ret, feed]

theorem ne_nil (starts : StartsClause s) : s ≠ [] := by
  obtain ⟨c, t, rfl, -⟩ := starts
  exact List.cons_ne_nil c t

theorem append (starts : StartsClause s) (k : List Char) : StartsClause (s ++ k) := by
  obtain ⟨c, t, rfl, solid, colon⟩ := starts
  exact ⟨c, t ++ k, rfl, solid, colon⟩

theorem skip_eq (starts : StartsClause s) : skip s = s := by
  obtain ⟨c, t, rfl, solid, -⟩ := starts
  exact skip_of_head solid t

theorem head_skip_ne (starts : StartsClause s) : (skip s).head? ≠ some ':' := by
  rw [starts.skip_eq]
  obtain ⟨c, t, rfl, -, colon⟩ := starts
  exact fun same => colon (Option.some.inj same)

end StartsClause

theorem readAnds?_eq_none (stuck : readUnary? field s = none) : readAnds? field s = none := by
  rw [readAnds?_eq, stuck]

theorem endsTerm_of_isFieldChar (letter : isFieldChar c = true) : endsTerm c = false := by
  cases ends : endsTerm c with
  | false => rfl
  | true =>
      simp only [endsTerm, isBlank, Bool.or_eq_true, beq_iff_eq, List.contains_cons,
        List.contains_nil, Bool.or_false] at ends
      rcases ends with (((rfl | rfl) | rfl) | rfl) |
        rfl | rfl | rfl | rfl | rfl | rfl | rfl | rfl | rfl | rfl <;>
        exact absurd letter (by decide)

theorem isFieldChar_ne (letter : isFieldChar c = true) {d : Char} (other : isFieldChar d = false) :
    c ≠ d := by
  rintro rfl
  rw [letter] at other
  cases other

section

variable {name : List Char}

theorem readUnary?_of_letter (letter : isFieldChar c = true)
    (negation : ((word? notWords (c :: s)).bind fun rest =>
      (readUnary? field (skip rest)).map fun reading => (Clause.not reading.1, reading.2)) = none)
    (unnamed : fieldName? (c :: s) = none) (unread : term? field (c :: s) = none) :
    readUnary? field (c :: s) = none := by
  have star : c ≠ '*' := isFieldChar_ne letter (by decide)
  rw [readUnary?_of_plain (not_mem_openings letter), negation, everything?_of_ne star, readField?_eq, unnamed, unread]
  rfl

theorem guarded_name (letters : ∀ c ∈ name, isFieldChar c = true) : Guarded endsTerm name := by
  apply Guarded.of_forall
  intro c present
  exact ⟨isFieldChar_ne (letters c present) (by decide), endsTerm_of_isFieldChar (letters c present)⟩

theorem stopped_of_colon {u rest : List Char} (colon : skip u = ':' :: rest) : Stopped endsTerm u := by
  rintro c first
  cases u with
  | nil => cases first
  | cons d u =>
      cases first
      cases blank : isBlank c with
      | true =>
          refine ⟨?_, by rw [endsTerm, blank]; rfl⟩
          rintro rfl
          cases blank
      | false =>
          rw [skip_of_head blank] at colon
          cases colon
          decide

theorem stopped_of_startsTerm (ends : startsTerm s = false) : Stopped endsTerm s := by
  rintro c first
  cases s with
  | nil => cases first
  | cons d s =>
      cases first
      rw [startsTerm, Bool.not_eq_false'] at ends
      refine ⟨?_, ends⟩
      rintro rfl
      exact absurd ends (by decide)

theorem eq_of_word?_append {words : List (List Char)} {k rest : List Char}
    (plain : ∀ word ∈ words, Guarded endsTerm word) (guarded : Guarded endsTerm s)
    (stopped : Stopped endsTerm k) (found : word? words (s ++ k) = some rest) : s ∈ words ∧ rest = k := by
  obtain ⟨word, listed, whole, ends⟩ := eq_of_word? found
  obtain ⟨rfl, rfl⟩ := guarded.append_inj (plain word listed) stopped (stopped_of_startsTerm ends) whole
  exact ⟨listed, rfl⟩

theorem letters_of_fieldName? {name : String} {rest : List Char}
    (found : fieldName? s = some (name, rest)) :
    ∃ letters u after, s = letters ++ u ∧ letters ≠ [] ∧ (∀ c ∈ letters, isFieldChar c = true) ∧
      skip u = ':' :: after := by
  have whole : s.takeWhile isFieldChar ++ s.dropWhile isFieldChar = s := List.takeWhile_append_dropWhile
  simp only [fieldName?] at found
  split at found
  · cases found
  · rename_i present
    split at found
    · rename_i after colon
      refine ⟨s.takeWhile isFieldChar, s.dropWhile isFieldChar, after, whole.symm, ?_, ?_, colon⟩
      · simpa using present
      · exact List.all_eq_true.1 List.all_takeWhile
    · cases found

theorem fieldName?_eq_none {word : List Char} (guarded : Guarded endsTerm word) (ends : startsTerm s = false)
    (colon : (skip s).head? ≠ some ':') : fieldName? (word ++ s) = none := by
  cases named : fieldName? (word ++ s) with
  | none => rfl
  | some found =>
      obtain ⟨letters, u, after, whole, -, fine, mark⟩ := letters_of_fieldName? named
      obtain ⟨-, rfl⟩ :=
        guarded.append_inj (guarded_name fine) (stopped_of_startsTerm ends) (stopped_of_colon mark) whole
      rw [mark] at colon
      exact absurd rfl colon

/-- A connector stands for no clause, unless it is the name of a field. -/
theorem readUnary?_connector (connector : Connector) (ends : startsTerm s = false)
    (colon : (skip s).head? ≠ some ':') : readUnary? field (connector.text.toList ++ s) = none := by
  have plain : Guarded endsTerm connector.text.toList := by
    cases connector <;> exact Guarded.of_all rfl
  have keyword : word? keywords (connector.text.toList ++ s) = some s := by
    cases connector <;>
      · change (if startsTerm s then none else some s) = some s
        rw [ends]
        rfl
  have unnamed := fieldName?_eq_none plain ends colon
  have unread : term? field (connector.text.toList ++ s) = none := by
    rw [term?, keyword]
    rfl
  cases connector with
  | and => exact readUnary?_of_letter (by decide) rfl unnamed unread
  | or => exact readUnary?_of_letter (by decide) rfl unnamed unread

theorem takeWhile_name (letters : ∀ c ∈ name, isFieldChar c = true) (s : List Char) :
    (name ++ ':' :: s).takeWhile isFieldChar = name := by
  rw [List.takeWhile_append_of_pos letters]
  exact List.append_nil name

theorem dropWhile_name (letters : ∀ c ∈ name, isFieldChar c = true) (s : List Char) :
    (name ++ ':' :: s).dropWhile isFieldChar = ':' :: s := by
  rw [List.dropWhile_append_of_pos letters]
  rfl

theorem fieldName?_mark (present : name ≠ []) (letters : ∀ c ∈ name, isFieldChar c = true)
    (s : List Char) : fieldName? (name ++ ':' :: s) = some (String.ofList name, skip s) := by
  have colon : skip (':' :: s) = ':' :: s := skip_of_head (by decide) s
  simp [fieldName?, takeWhile_name letters, dropWhile_name letters, colon, present]

/-- A negation is read before a field of its name, but the colon leaves nothing to negate. -/
theorem readUnary?_not_mark (letters : ∀ c ∈ name, isFieldChar c = true) {u rest : List Char}
    (colon : skip u = ':' :: rest) :
    ((word? notWords (name ++ u)).bind fun after =>
      (readUnary? field (skip after)).map fun reading => (Clause.not reading.1, reading.2)) = none := by
  cases found : word? notWords (name ++ u) with
  | none => rfl
  | some after =>
      have plain : ∀ word ∈ notWords, Guarded endsTerm word := by
        intro word listed
        rw [List.mem_singleton.1 listed]
        exact Guarded.of_all rfl
      obtain ⟨-, rfl⟩ := eq_of_word?_append plain (guarded_name letters) (stopped_of_colon colon) found
      rw [Option.bind_some, colon, readUnary?_of_closing (by decide)]
      rfl

/-- Behind a mark stands an operand of its field; what else could be read ends at the colon. -/
theorem readUnary?_mark (present : name ≠ []) (letters : ∀ c ∈ name, isFieldChar c = true)
    (s : List Char) : readUnary? field (name ++ ':' :: s) =
      orElse (readOperand? (some (String.ofList name)) (skip s)) fun _ =>
        term? field (name ++ ':' :: s) := by
  cases name with
  | nil => exact absurd rfl present
  | cons c name =>
      have letter := letters c List.mem_cons_self
      have star : c ≠ '*' := isFieldChar_ne letter (by decide)
      have colon : skip (':' :: s) = ':' :: s := skip_of_head (by decide) s
      have negation := @readUnary?_not_mark field _ letters _ _ colon
      have named := fieldName?_mark present letters s
      rw [List.cons_append] at negation named ⊢
      rw [readUnary?_of_plain (not_mem_openings letter), negation, everything?_of_ne star, readField?_eq, named]
      rfl

theorem term?_mark_ne (letters : ∀ c ∈ name, isFieldChar c = true) (s : List Char) (clause : Clause) :
    term? field (name ++ ':' :: s) ≠ some (clause, []) := by
  have stopped : Stopped endsTerm (':' :: s) := by
    rintro c ⟨⟩
    decide
  intro found
  unfold term? at found
  rw [(guarded_name letters).takeEscaped_whole stopped] at found
  split at found
  · cases found
  · cases name with
    | nil => cases found
    | cons c name => cases found

theorem readOperand?_of_mark (present : name ≠ []) (letters : ∀ c ∈ name, isFieldChar c = true)
    {s : List Char} {clause : Clause}
    (whole : readUnary? field (name ++ ':' :: s) = some (clause, [])) :
    readOperand? (some (String.ofList name)) (skip s) = some (clause, []) := by
  rw [readUnary?_mark present letters] at whole
  rcases orElse_eq_some whole with operand | term
  · exact operand
  · exact absurd term (term?_mark_ne letters s clause)

end

end RecordSearch.Lucene
