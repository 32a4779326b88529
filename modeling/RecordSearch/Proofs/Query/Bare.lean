import RecordSearch.Proofs.Query.Opening

namespace RecordSearch.Lucene

/-- Characters that bare text has behind backslashes only. -/
def isMark (c : Char) : Bool := openings.contains c || c == ':' || c == '^'

variable {bad : Char → Bool} {field : Option String} {s k : List Char} {clause : Clause}

theorem Guarded.dropWhile (guarded : Guarded bad s) {p : Char → Bool} (backslash : p '\\' = false) :
    Guarded bad (s.dropWhile p) := by
  have whole : s.takeWhile p ++ s.dropWhile p = s := List.takeWhile_append_dropWhile
  apply Guarded.of_append (s := s.takeWhile p)
  · rw [whole]
    exact guarded
  · intro present
    have taken := List.all_eq_true.1 List.all_takeWhile _ present
    rw [backslash] at taken
    cases taken

theorem Guarded.skip (guarded : Guarded bad s) : Guarded bad (skip s) := guarded.dropWhile rfl

theorem Guarded.number? (guarded : Guarded bad s) {number rest : List Char}
    (found : number? s = some (number, rest)) : Guarded bad rest := by
  have others : Guarded bad (s.dropWhile Char.isDigit) := guarded.dropWhile rfl
  simp only [Lucene.number?] at found
  split at found
  · cases found
  · split at found
    · rename_i after point
      rw [point] at others
      split at found
      · cases found
        rw [point]
        exact others
      · cases found
        exact (others.tail (by decide)).dropWhile rfl
    · cases found
      exact others

theorem Guarded.fuzziness (guarded : Guarded bad s) : Guarded bad (fuzziness s).2 := by
  unfold Lucene.fuzziness
  split
  · rename_i rest
    have after := guarded.tail (by decide)
    split
    · rename_i found
      exact after.number? found
    · exact after
  · exact guarded

theorem boost_of_guarded (guarded : Guarded isMark s) : boost s = (none, s) := by
  cases s with
  | nil => rfl
  | cons c s =>
      have caret : c ≠ '^' := guarded.head_ne rfl (by decide)
      simp [boost, caret]

theorem isBoost_termClause (field : Option String) (term : List Char) (maxEdits : Option Nat) :
    (termClause field term maxEdits).isBoost = false := by
  cases maxEdits with
  | some _ => rfl
  | none =>
      simp only [termClause]
      split <;> rfl

theorem isBoost_of_term? (guarded : Guarded isMark s) {rest : List Char}
    (found : term? field s = some (clause, rest)) : clause.isBoost = false := by
  unfold term? at found
  split at found
  · cases found
  · split at found
    · cases found
    · rename_i term after _ taken
      have guardedAfter : Guarded isMark after := by
        have left : Guarded isMark (takeEscaped endsTerm s).2 := guarded.takeEscaped_snd
        rw [taken] at left
        exact left
      change some (Clause.boosted _ (boost (fuzziness after).2).1, _) = some (clause, rest) at found
      rw [boost_of_guarded guardedAfter.fuzziness] at found
      obtain ⟨rfl, -⟩ := Prod.mk.inj (Option.some.inj found)
      exact isBoost_termClause field term _

theorem Guarded.not_mem_openings {c : Char} (guarded : Guarded isMark (c :: s)) : c ∉ openings := by
  intro opening
  have marked : isMark c = true := by simp [isMark, opening]
  rcases guarded.head_fine with rfl | fine
  · exact absurd opening (by decide)
  · rw [marked] at fine
    cases fine

theorem everything?_of_guarded (guarded : Guarded isMark s) : everything? s = none := by
  unfold everything?
  split
  · have after := guarded.tail (by decide)
    exact absurd rfl (after.head_ne rfl (by decide))
  · rfl

theorem fieldName?_of_guarded (guarded : Guarded isMark s) : fieldName? s = none := by
  have behind : Guarded isMark (skip (s.dropWhile isFieldChar)) := (guarded.dropWhile rfl).skip
  simp only [fieldName?]
  split
  · rfl
  · split
    · rename_i colon
      rw [colon] at behind
      exact absurd rfl (behind.head_ne rfl (by decide))
    · rfl

theorem readUnary?_of_guarded (field : Option String) (guarded : Guarded isMark s) (present : s ≠ []) :
    readUnary? field s =
      orElse ((word? notWords s).bind fun rest =>
        (readUnary? field (skip rest)).map fun reading => (Clause.not reading.1, reading.2)) fun _ =>
      term? field s := by
  cases s with
  | nil => exact absurd rfl present
  | cons c s =>
      rw [readUnary?_of_plain guarded.not_mem_openings, everything?_of_guarded guarded, readField?_eq,
        fieldName?_of_guarded guarded]
      rfl

theorem readOperand?_of_guarded (field : Option String) (guarded : Guarded isMark s) (present : s ≠ []) :
    readOperand? field s = term? field s := by
  cases s with
  | nil => exact absurd rfl present
  | cons c s => exact readOperand?_of_plain guarded.not_mem_openings s

theorem isBoost_of_readUnary? (guarded : Guarded isMark s) {rest : List Char}
    (found : readUnary? field s = some (clause, rest)) : clause.isBoost = false := by
  have present : s ≠ [] := by
    rintro rfl
    cases found
  rw [readUnary?_of_guarded field guarded present] at found
  rcases orElse_eq_some found with negated | term
  · obtain ⟨after, -, read⟩ := Option.bind_eq_some_iff.1 negated
    obtain ⟨reading, -, same⟩ := Option.map_eq_some_iff.1 read
    cases same
    rfl
  · exact isBoost_of_term? guarded term

theorem term?_of_not {rest : List Char} (found : word? notWords s = some rest) :
    term? field s = none := by
  obtain ⟨word, listed, rfl, ends⟩ := eq_of_word? found
  rw [List.mem_singleton.1 listed, term?, if_pos]
  have keyword : word? keywords (['N', 'O', 'T'] ++ rest) = some rest := by
    change (if startsTerm rest then none else some rest) = some rest
    rw [ends]
    rfl
  rw [keyword]
  rfl

section

variable {rest : List Char}

theorem guarded_keyword {word : List Char} (listed : word ∈ keywords) : Guarded endsTerm word := by
  have plain : ∀ word ∈ keywords, (word.all fun c => c != '\\' && !endsTerm c) = true := by decide
  exact Guarded.of_all (plain word listed)

/-- A term is no keyword unless it is one as a whole. -/
theorem isSome_word?_keywords (guarded : Guarded endsTerm s) (stopped : Stopped endsTerm k) :
    (word? keywords (s ++ k)).isSome = true ↔ s ∈ keywords := by
  constructor
  · intro found
    obtain ⟨rest, word⟩ := Option.isSome_iff_exists.1 found
    exact (eq_of_word?_append (fun _ => guarded_keyword) guarded stopped word).1
  · intro listed
    have ends : startsTerm k = false := by
      cases k with
      | nil => rfl
      | cons c k => rw [startsTerm, (stopped c rfl).2]; rfl
    simp only [keywords, List.mem_cons, List.not_mem_nil, or_false] at listed
    rcases listed with rfl | rfl | rfl | rfl <;>
      · change Option.isSome (if startsTerm k then none else some k) = true
        rw [ends]
        rfl

/-- A term is read up to what ends it, unless nothing or a keyword stands before that. -/
theorem term?_append_of_stopped (guarded : Guarded endsTerm s) (stopped : Stopped endsTerm k) :
    term? field (s ++ k) = if s = [] ∨ s ∈ keywords then none
      else some ((termClause field s (fuzziness k).1).boosted (boost (fuzziness k).2).1,
        (boost (fuzziness k).2).2) := by
  unfold term?
  rw [guarded.takeEscaped_whole stopped]
  by_cases listed : s ∈ keywords
  · rw [if_pos ((isSome_word?_keywords guarded stopped).2 listed), if_pos (Or.inr listed)]
  · rw [if_neg fun found => listed ((isSome_word?_keywords guarded stopped).1 found)]
    cases s with
    | nil => rfl
    | cons c s =>
        have whole : ¬ (c :: s = [] ∨ c :: s ∈ keywords) := by
          rintro (empty | keyword)
          · cases empty
          · exact listed keyword
        rw [if_neg whole]

theorem stopped_nil : Stopped endsTerm [] := by
  rintro c ⟨⟩

theorem term?_of_guarded (guarded : Guarded endsTerm s) (present : s ≠ []) (free : s ∉ keywords) :
    term? field s = some (termClause field s none, []) := by
  have whole : term? field (s ++ []) = _ := term?_append_of_stopped guarded stopped_nil
  rw [List.append_nil] at whole
  rw [whole, if_neg (not_or.2 ⟨present, free⟩)]
  rfl

theorem eq_of_term?_append (guarded : Guarded endsTerm s) (stopped : Stopped endsTerm k)
    (unmarked : ∀ c ∈ k.head?, c ≠ '~' ∧ c ≠ '^') {clause : Clause}
    (found : term? field (s ++ k) = some (clause, rest)) : rest = k := by
  have none_of : fuzziness k = (none, k) ∧ boost k = (none, k) := by
    cases k with
    | nil => exact ⟨rfl, rfl⟩
    | cons c k =>
        obtain ⟨tilde, caret⟩ := unmarked c rfl
        constructor
        · simp [fuzziness, tilde]
        · simp [boost, caret]
  rw [term?_append_of_stopped guarded stopped, none_of.1, none_of.2] at found
  split at found
  · cases found
  · exact (Prod.mk.inj (Option.some.inj found)).2.symm

theorem eq_of_term?_blank (guarded : Guarded endsTerm s) {b : Char} (blank : isBlank b = true)
    {clause : Clause} (found : term? field (s ++ b :: k) = some (clause, rest)) : rest = b :: k := by
  have plain : b ≠ '\\' ∧ b ≠ '~' ∧ b ≠ '^' := by
    simp only [isBlank, Bool.or_eq_true, beq_iff_eq] at blank
    rcases blank with ((rfl | rfl) | rfl) | rfl <;> decide
  apply eq_of_term?_append guarded ?_ ?_ found
  · rintro c ⟨⟩
    exact ⟨plain.1, by rw [endsTerm, blank]; rfl⟩
  · rintro c ⟨⟩
    exact plain.2

theorem fieldName?_eq_none_of_term? {clause : Clause} (term : term? field s = some (clause, rest))
    (colon : (skip rest).head? ≠ some ':') : fieldName? s = none := by
  cases named : fieldName? s with
  | none => rfl
  | some found =>
      obtain ⟨letters, u, after, rfl, -, fine, mark⟩ := letters_of_fieldName? named
      have unmarked : ∀ c ∈ u.head?, c ≠ '~' ∧ c ≠ '^' := by
        rintro c first
        cases u with
        | nil => cases first
        | cons d u =>
            cases first
            constructor
            · rintro rfl
              cases mark
            · rintro rfl
              cases mark
      obtain rfl := eq_of_term?_append (guarded_name fine) (stopped_of_colon mark) unmarked term
      rw [mark] at colon
      exact absurd rfl colon

end

end RecordSearch.Lucene
