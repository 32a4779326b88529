import RecordSearch.Proofs.Query.Bare

namespace RecordSearch.Lucene

variable {field : Option String} {s rest : List Char} {clause : Clause} {clauses : List Clause}

theorem orElse_cases {first : Option (Clause × List Char)} {second : Unit → Option (Clause × List Char)}
    {result : Clause × List Char} (found : orElse first second = some result) :
    first = some result ∨ first = none ∧ second () = some result := by
  cases first with
  | none => exact .inr ⟨rfl, found⟩
  | some other => exact .inl found

/-- The characters after a clause, from where the next one of a chain is read on. -/
def andNext (s : List Char) : List Char := ((word? andWords (skip s)).map skip).getD (skip s)

theorem andNext_congr {t : List Char} (same : skip s = skip t) : andNext s = andNext t := by
  rw [andNext, same, andNext]

theorem readAnds?_cases (found : readAnds? field s = some (clauses, rest)) :
    ∃ clause after, readUnary? field s = some (clause, after) ∧
      ((∃ others, readAnds? field (andNext after) = some (others, rest) ∧ clauses = clause :: others) ∨
        readAnds? field (andNext after) = none ∧ clauses = [clause] ∧ rest = after) := by
  rw [readAnds?_eq] at found
  cases first : readUnary? field s with
  | none =>
      rw [first] at found
      cases found
  | some reading =>
      obtain ⟨clause, after⟩ := reading
      refine ⟨clause, after, rfl, ?_⟩
      simp only [first] at found
      rw [← andNext] at found
      cases more : readAnds? field (andNext after) with
      | none =>
          rw [more] at found
          cases found
          exact .inr ⟨rfl, rfl, rfl⟩
      | some reading =>
          rw [more] at found
          cases found
          exact .inl ⟨reading.1, rfl, rfl⟩

theorem readAnds?_of_more {after : List Char} {others : List Clause}
    (first : readUnary? field s = some (clause, after))
    (more : readAnds? field (andNext after) = some (others, rest)) :
    readAnds? field s = some (clause :: others, rest) := by
  rw [readAnds?_eq]
  simp only [first]
  rw [← andNext, more]

theorem readAnds?_of_last {after : List Char} (first : readUnary? field s = some (clause, after))
    (last : readAnds? field (andNext after) = none) : readAnds? field s = some ([clause], after) := by
  rw [readAnds?_eq]
  simp only [first]
  rw [← andNext, last]

theorem readOrs?_cases (found : readOrs? field s = some (clauses, rest)) :
    ∃ chain after, readAnds? field s = some (chain, after) ∧
      ((∃ next others, word? orWords (skip after) = some next ∧
          readOrs? field (skip next) = some (others, rest) ∧ clauses = Clause.joined .and chain :: others) ∨
        ((word? orWords (skip after)).bind fun next => readOrs? field (skip next)) = none ∧
          clauses = [Clause.joined .and chain] ∧ rest = after) := by
  rw [readOrs?_eq] at found
  cases first : readAnds? field s with
  | none =>
      rw [first] at found
      cases found
  | some reading =>
      obtain ⟨chain, after⟩ := reading
      rw [first] at found
      refine ⟨chain, after, rfl, ?_⟩
      simp only at found
      cases more : (word? orWords (skip after)).bind fun next => readOrs? field (skip next) with
      | none =>
          rw [more] at found
          cases found
          exact .inr ⟨rfl, rfl, rfl⟩
      | some reading =>
          rw [more] at found
          cases found
          obtain ⟨next, word, others⟩ := Option.bind_eq_some_iff.1 more
          exact .inl ⟨next, reading.1, word, others, rfl⟩

theorem readOrs?_of_more {chain others : List Clause} {after next : List Char}
    (first : readAnds? field s = some (chain, after)) (word : word? orWords (skip after) = some next)
    (more : readOrs? field (skip next) = some (others, rest)) :
    readOrs? field s = some (Clause.joined .and chain :: others, rest) := by
  rw [readOrs?_eq, first]
  simp only [word, Option.bind_some, more]

theorem readOrs?_of_last {chain : List Clause} {after : List Char}
    (first : readAnds? field s = some (chain, after)) (last : word? orWords (skip after) = none) :
    readOrs? field s = some ([Clause.joined .and chain], after) := by
  rw [readOrs?_eq, first]
  simp only [last, Option.bind_none]

theorem readGroup?_eq_some_iff : readGroup? field s = some (clause, rest) ↔
    ∃ inside clauses after last, s = '(' :: inside ∧ readOrs? field (skip inside) = some (clauses, after) ∧
      skip after = ')' :: last ∧ clause = (Clause.joined .or clauses).boosted (boost (skip last)).1 ∧
      rest = (boost (skip last)).2 := by
  constructor
  · intro found
    cases s with
    | nil => cases found
    | cons c inside =>
        by_cases parenthesis : c = '('
        · subst parenthesis
          rw [readGroup?_eq] at found
          split at found
          · cases found
          · rename_i clauses after read
            split at found
            · rename_i last closed
              cases found
              exact ⟨inside, clauses, after, last, rfl, read, closed, rfl, rfl⟩
            · cases found
        · rw [readGroup?_of_ne parenthesis] at found
          cases found
  · rintro ⟨inside, clauses, after, last, rfl, read, closed, rfl, rfl⟩
    rw [readGroup?_eq, read]
    simp only [closed]

theorem phrase?_eq_some_iff : phrase? field s = some (clause, rest) ↔
    ∃ inside text after, s = '"' :: inside ∧ closeQuote? inside = some (text, after) ∧
      clause = (Clause.phrase field (String.ofList (unescape text)) (slop after).1).boosted
        (boost (slop after).2).1 ∧ rest = (boost (slop after).2).2 := by
  constructor
  · intro found
    unfold phrase? at found
    split at found
    · rename_i inside
      split at found
      · cases found
      · rename_i text after closed
        cases found
        exact ⟨inside, text, after, rfl, closed, rfl, rfl⟩
    · cases found
  · rintro ⟨inside, text, after, rfl, closed, rfl, rfl⟩
    rw [phrase?, closed]

structure RangeParts where
  lowerIncluded : Bool
  upperIncluded : Bool
  lower : Option String
  upper : Option String
  atLower : List Char
  atUpper : List Char
  last : List Char

structure IsRange (s : List Char) (r : RangeParts) : Prop where
  opens : ∃ rest, openRange? s = some (r.lowerIncluded, rest) ∧ skip rest = r.atLower
  lower : ∃ rest after, bound? r.atLower = some (r.lower, rest) ∧
    Text.dropLead? ['T', 'O'] (skip rest) = some after ∧ skip after = r.atUpper
  upper : ∃ rest, bound? r.atUpper = some (r.upper, rest) ∧
    closeRange? (skip rest) = some (r.upperIncluded, r.last)

def RangeParts.toClause (r : RangeParts) (field : Option String) : Clause :=
  .range field r.lower r.upper r.lowerIncluded r.upperIncluded

theorem range?_eq_some_iff : range? field s = some (clause, rest) ↔
    ∃ r, IsRange s r ∧ clause = (r.toClause field).boosted (boost (skip r.last)).1 ∧
      rest = (boost (skip r.last)).2 := by
  constructor
  · intro found
    unfold range? at found
    split at found
    · cases found
    · rename_i lowerIncluded start opens
      split at found
      · cases found
      · rename_i lower behindLower foundLower
        split at found
        · cases found
        · rename_i upper behindUpper foundUpper
          obtain ⟨after, word, foundUpper⟩ := Option.bind_eq_some_iff.1 foundUpper
          split at found
          · cases found
          · rename_i upperIncluded last closes
            cases found
            exact ⟨⟨lowerIncluded, upperIncluded, lower, upper, skip start, skip after, last⟩,
              ⟨⟨start, opens, rfl⟩, ⟨behindLower, after, foundLower, word, rfl⟩,
                ⟨behindUpper, foundUpper, closes⟩⟩, rfl, rfl⟩
  · rintro ⟨⟨lowerIncluded, upperIncluded, lower, upper, atLower, atUpper, last⟩,
      ⟨⟨start, opens, rfl⟩, ⟨behindLower, after, foundLower, word, rfl⟩, ⟨behindUpper, foundUpper, closes⟩⟩,
      rfl, rfl⟩
    simp only at opens foundLower word foundUpper closes
    simp only [range?, opens, foundLower, word, Option.bind_some, foundUpper, closes]
    rfl

theorem openRange?_eq_some {included : Bool} (opens : openRange? s = some (included, rest)) :
    ∃ c, s = c :: rest ∧ (c = '[' ∨ c = '\x7b') ∧ ∀ t, openRange? (c :: t) = some (included, t) := by
  unfold openRange? at opens
  split at opens
  · cases opens
    exact ⟨'[', rfl, .inl rfl, fun _ => rfl⟩
  · cases opens
    exact ⟨'\x7b', rfl, .inr rfl, fun _ => rfl⟩
  · cases opens

theorem bracket_of_range? (found : range? field s = some (clause, rest)) :
    ∃ c t, s = c :: t ∧ (c = '[' ∨ c = '\x7b') := by
  obtain ⟨r, ⟨⟨start, opens, -⟩, -, -⟩, -, -⟩ := range?_eq_some_iff.1 found
  obtain ⟨c, rfl, bracket, -⟩ := openRange?_eq_some opens
  exact ⟨c, start, rfl, bracket⟩

theorem head_of_term? (found : term? field s = some (clause, rest)) : ∃ c t, s = c :: t ∧ c ∉ openings := by
  cases s with
  | nil => cases found
  | cons c t =>
      refine ⟨c, t, rfl, ?_⟩
      intro opening
      have ends : c ≠ '\\' ∧ endsTerm c = true := by
        simp only [openings, List.mem_cons, List.not_mem_nil, or_false] at opening
        rcases opening with rfl | rfl | rfl | rfl <;> decide
      rw [term?_of_endsTerm ends.1 ends.2] at found
      cases found

theorem head_of_everything? (found : everything? s = some (clause, rest)) : ∃ t, s = '*' :: t := by
  unfold everything? at found
  split at found
  · exact ⟨_, rfl⟩
  · cases found

theorem readField?_eq_some_iff : readField? s = some (clause, rest) ↔
    ∃ name after, fieldName? s = some (name, after) ∧
      readOperand? (some name) after = some (clause, rest) := by
  rw [readField?_eq, Option.bind_eq_some_iff]
  exact Prod.exists

theorem readUnary?_of_field (found : readField? s = some (clause, rest)) :
    readUnary? field s = some (clause, rest) := by
  obtain ⟨name, behind, named, -⟩ := readField?_eq_some_iff.1 found
  obtain ⟨letters, u, after, rfl, present, fine, colon⟩ := letters_of_fieldName? named
  cases letters with
  | nil => exact absurd rfl present
  | cons c letters =>
      have letter := fine c List.mem_cons_self
      have star : c ≠ '*' := isFieldChar_ne letter (by decide)
      have negation := @readUnary?_not_mark field _ fine _ _ colon
      rw [List.cons_append] at negation found ⊢
      rw [readUnary?_of_plain (not_mem_openings letter), negation, everything?_of_ne star, found]
      rfl

/-- What stands behind the name of a field; its reading is settled by its first character. -/
theorem readOperand?_eq_some_iff : readOperand? field s = some (clause, rest) ↔
    readGroup? field s = some (clause, rest) ∨ range? field s = some (clause, rest) ∨
      phrase? field s = some (clause, rest) ∨ term? field s = some (clause, rest) := by
  constructor
  · intro found
    rcases orElse_eq_some found with group | found
    · exact .inl group
    · rcases orElse_eq_some found with range | found
      · exact .inr (.inl range)
      · rcases orElse_eq_some found with phrase | term
        · exact .inr (.inr (.inl phrase))
        · exact .inr (.inr (.inr term))
  · rintro (group | range | phrase | term)
    · rw [readOperand?, group]
      rfl
    · obtain ⟨c, t, rfl, bracket⟩ := bracket_of_range? range
      rw [readOperand?_bracket bracket, range]
    · obtain ⟨inside, -, -, rfl, -⟩ := phrase?_eq_some_iff.1 phrase
      rw [readOperand?_quote, phrase]
    · obtain ⟨c, t, rfl, plain⟩ := head_of_term? term
      rw [readOperand?_of_plain plain, term]

/-- The ways in which a clause is read; a term is one that is read as nothing before it. -/
theorem readUnary?_eq_some_iff : readUnary? field s = some (clause, rest) ↔
    (∃ after inner, word? notWords s = some after ∧ readUnary? field (skip after) = some (inner, rest) ∧
        clause = .not inner) ∨
      everything? s = some (clause, rest) ∨ readGroup? field s = some (clause, rest) ∨
      readField? s = some (clause, rest) ∨ range? field s = some (clause, rest) ∨
      phrase? field s = some (clause, rest) ∨
      (everything? s = none ∧ readField? s = none ∧ term? field s = some (clause, rest)) := by
  constructor
  · intro found
    rw [readUnary?_eq] at found
    rcases orElse_cases found with negated | ⟨-, found⟩
    · obtain ⟨after, word, read⟩ := Option.bind_eq_some_iff.1 negated
      obtain ⟨⟨inner, left⟩, readInner, same⟩ := Option.map_eq_some_iff.1 read
      cases same
      exact .inl ⟨after, inner, word, readInner, rfl⟩
    · rcases orElse_cases found with everything | ⟨notAll, found⟩
      · exact .inr (.inl everything)
      · rcases orElse_cases found with group | ⟨-, found⟩
        · exact .inr (.inr (.inl group))
        · rcases orElse_cases found with named | ⟨unnamed, found⟩
          · exact .inr (.inr (.inr (.inl named)))
          · rcases orElse_cases found with range | ⟨-, found⟩
            · exact .inr (.inr (.inr (.inr (.inl range))))
            · rcases orElse_cases found with phrase | ⟨-, term⟩
              · exact .inr (.inr (.inr (.inr (.inr (.inl phrase)))))
              · exact .inr (.inr (.inr (.inr (.inr (.inr ⟨notAll, unnamed, term⟩)))))
  · rintro (⟨after, inner, word, read, rfl⟩ | everything | group | named | range | phrase |
      ⟨notAll, unnamed, term⟩)
    · rw [readUnary?_eq, word, Option.bind_some, read]
      rfl
    · obtain ⟨t, rfl⟩ := head_of_everything? everything
      rw [readUnary?_eq, word?_notWords_of_ne (by decide), everything]
      rfl
    · obtain ⟨inside, -, -, -, rfl, -⟩ := readGroup?_eq_some_iff.1 group
      rw [readUnary?_of_opening (by decide), readOperand?_eq_some_iff]
      exact .inl group
    · exact readUnary?_of_field named
    · obtain ⟨c, t, rfl, bracket⟩ := bracket_of_range? range
      have opening : c ∈ openings := by rcases bracket with rfl | rfl <;> decide
      rw [readUnary?_of_opening opening, readOperand?_bracket bracket, range]
    · obtain ⟨inside, -, -, rfl, -⟩ := phrase?_eq_some_iff.1 phrase
      rw [readUnary?_of_opening (by decide), readOperand?_quote, phrase]
    · have word : word? notWords s = none := by
        cases found : word? notWords s with
        | none => rfl
        | some after =>
            rw [term?_of_not found] at term
            cases term
      obtain ⟨c, t, rfl, plain⟩ := head_of_term? term
      rw [readUnary?_of_plain plain, word, notAll, unnamed, term]
      rfl

end RecordSearch.Lucene
