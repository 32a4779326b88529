import RecordSearch.Proofs.Query.Continued

namespace RecordSearch.Lucene

section

variable {field : Option String} {s k : List Char}

theorem orElse_eq_none_iff {first : Option (Clause × List Char)} {second : Unit → Option (Clause × List Char)} :
    orElse first second = none ↔ first = none ∧ second () = none := by
  cases first <;> simp [orElse]

theorem term?_eq_none (stuck : readUnary? field s = none) : term? field s = none := by
  rw [readUnary?_eq] at stuck
  simp only [orElse_eq_none_iff] at stuck
  exact stuck.2.2.2.2.2.2

theorem readUnary?_eq_none (stuck : readAnds? field s = none) : readUnary? field s = none := by
  rw [readAnds?_eq] at stuck
  cases found : readUnary? field s with
  | none => rfl
  | some reading =>
      rw [found] at stuck
      simp only at stuck
      split at stuck <;> cases stuck

theorem starts_of_readAnds? {reading : List Clause × List Char} (found : readAnds? field s = some reading) :
    StartsClause s := by
  obtain ⟨clauses, rest⟩ := reading
  obtain ⟨clause, after, first, -⟩ := readAnds?_cases found
  exact .of_readUnary? first

theorem starts_of_readOrs? {reading : List Clause × List Char} (found : readOrs? field s = some reading) :
    StartsClause s := by
  obtain ⟨clauses, rest⟩ := reading
  obtain ⟨chain, after, first, -⟩ := readOrs?_cases found
  exact starts_of_readAnds? first

theorem head_ne_of_andNext (next : StartsClause (andNext s)) : (skip s).head? ≠ some ':' := by
  intro colon
  obtain ⟨t, start⟩ := List.head?_eq_some_iff.1 colon
  have whole : andNext s = ':' :: t := by
    rw [andNext, start]
    rfl
  obtain ⟨c, u, same, -, other⟩ := next
  rw [whole] at same
  exact other (List.cons.inj same).1.symm

/-- The end of a chain with more behind it: a closing parenthesis, or an `OR` that names no field. -/
def Delimited (s : List Char) : Prop :=
  (skip s).head? = some ')' ∨ ∃ next, word? orWords (skip s) = some next ∧ (skip next).head? ≠ some ':'

theorem Delimited.skip_ne_nil (delimited : Delimited s) : skip s ≠ [] := by
  rintro nothing
  rcases delimited with close | ⟨next, word, -⟩
  · rw [nothing] at close
    cases close
  · rw [nothing] at word
    cases word

theorem Delimited.head_ne (delimited : Delimited s) : (skip s).head? ≠ some ':' := by
  rcases delimited with close | ⟨next, word, -⟩
  · rw [close]
    decide
  · obtain ⟨connector, listed, whole, -⟩ := eq_of_word? word
    simp only [orWords, List.mem_cons, List.not_mem_nil, or_false] at listed
    rw [whole]
    intro colon
    rcases listed with rfl | rfl <;> exact absurd (Option.some.inj colon) (by decide)

end

namespace Follows

variable {field : Option String} {s k rest : List Char}

theorem andNext_append (follows : Follows k) (more : andNext s ≠ []) : andNext (s ++ k) = andNext s ++ k := by
  have solid : skip s ≠ [] := by
    intro nothing
    rw [andNext, nothing] at more
    exact more rfl
  have word : word? andWords (skip s ++ k) = (word? andWords (skip s)).map (· ++ k) :=
    follows.word?_append (by decide) (skip s)
  unfold andNext at more ⊢
  rw [skip_append solid, word]
  cases found : word? andWords (skip s) with
  | none => rfl
  | some next =>
      rw [found] at more
      exact skip_append more k

theorem head_skip_append (follows : Follows k) (colon : (skip s).head? ≠ some ':') :
    (skip (s ++ k)).head? ≠ some ':' := by
  by_cases nothing : skip s = []
  · rw [skip_append_of_nil nothing]
    exact fun same => (follows.next ':' same).1 rfl
  · rw [skip_append nothing]
    cases start : skip s with
    | nil => exact absurd start nothing
    | cons c t =>
        rw [start] at colon
        exact colon

theorem startsTerm_append (follows : Follows k) : startsTerm (s ++ k) = startsTerm s := by
  cases s with
  | nil => exact follows.startsTerm_eq_false
  | cons c s => rfl

/-- A chain that has ended goes on with nothing of `k` either. -/
theorem readAnds?_eq_none (follows : Follows k) (delimited : Delimited s)
    (last : readAnds? field (andNext s) = none) : readAnds? field (andNext (s ++ k)) = none := by
  have solid := delimited.skip_ne_nil
  apply Lucene.readAnds?_eq_none
  rcases delimited with close | ⟨next, word, colon⟩
  · obtain ⟨t, start⟩ := List.head?_eq_some_iff.1 close
    have whole : andNext (s ++ k) = ')' :: (t ++ k) := by
      rw [andNext, skip_append solid, start]
      rfl
    rw [whole]
    exact readUnary?_of_closing (by decide) _
  · obtain ⟨connector, listed, whole, ends⟩ := eq_of_word? word
    simp only [orWords, List.mem_cons, List.not_mem_nil, or_false] at listed
    rcases listed with rfl | rfl
    · have behind : andNext (s ++ k) = Connector.or.text.toList ++ (next ++ k) := by
        rw [andNext, skip_append solid, whole]
        rfl
      rw [behind]
      exact readUnary?_connector .or (follows.startsTerm_append.trans ends) (follows.head_skip_append colon)
    -- the other word of an alternative is a term, so that the chain would have gone on
    · have behind : andNext s = ['|', '|'] ++ next := by
        rw [andNext, whole]
        rfl
      have unread := term?_eq_none (readUnary?_eq_none last)
      rw [behind, term?_append_of_stopped (Guarded.of_all rfl) (stopped_of_startsTerm ends),
        if_neg (by decide)] at unread
      cases unread

end Follows

/-- Each reading of the text goes on before `k`: that of a clause where no colon is left, as a colon would make
its text the name of a field, and that of a chain where the chain has ended. -/
structure Continues (k s : List Char) : Prop where
  group : ∀ {field clause rest}, readGroup? field s = some (clause, rest) →
    ReadsOn k (readGroup? field) s clause rest
  field : ∀ {clause rest}, readField? s = some (clause, rest) → ReadsOn k readField? s clause rest
  unary : ∀ {field clause rest}, readUnary? field s = some (clause, rest) → (skip rest).head? ≠ some ':' →
    ReadsOn k (readUnary? field) s clause rest
  ands : ∀ {field clauses rest}, readAnds? field s = some (clauses, rest) → Delimited rest →
    ReadsOn k (readAnds? field) s clauses rest
  ors : ∀ {field clauses rest}, readOrs? field s = some (clauses, rest) → (skip rest).head? = some ')' →
    ReadsOn k (readOrs? field) s clauses rest

namespace Continues

section

variable {field : Option String} {s k rest : List Char} {clause : Clause} {clauses : List Clause}
  (follows : Follows k) (carries : Carries k s)
  (shorter : ∀ t : List Char, t.length < s.length → Carries k t → Continues k t)

include follows carries shorter

theorem group_of_shorter (found : readGroup? field s = some (clause, rest)) :
    ReadsOn k (readGroup? field) s clause rest := by
  obtain ⟨inside, clauses, after, last, rfl, read, closed, rfl, rfl⟩ := readGroup?_eq_some_iff.1 found
  have less : (skip inside).length < ('(' :: inside).length := Nat.lt_succ_of_le (length_skip_le inside)
  have carried : Carries k (skip inside) := carries.tokens (.cons (by decide) (.skip inside))
  have solid : skip inside ≠ [] := by
    intro nothing
    rw [nothing] at read
    cases read
  obtain ⟨left, again, behind⟩ := (shorter _ less carried).ors read (by rw [closed]; rfl)
  obtain ⟨final, factor, lastly⟩ := follows.boost_skip_append last
  refine ⟨final, ?_, lastly⟩
  apply readGroup?_eq_some_iff.2
  refine ⟨inside ++ k, clauses, left, last ++ k, rfl, ?_, ?_, ?_, ?_⟩
  · rw [skip_append solid]
    exact again
  · rw [behind, skip_append (by rw [closed]; exact List.cons_ne_nil _ _), closed]
    rfl
  · rw [factor]
  · rw [factor]

theorem field_of_shorter (found : readField? s = some (clause, rest)) : ReadsOn k readField? s clause rest := by
  obtain ⟨name, after, named, operand⟩ := readField?_eq_some_iff.1 found
  have less := length_fieldName?_lt named
  have carried : Carries k after := carries.tokens (Tokens.fieldName? named)
  have solid : after ≠ [] := by
    rintro rfl
    cases operand
  have readsOn : ReadsOn k (readOperand? (some name)) after clause rest := by
    rcases readOperand?_eq_some_iff.1 operand with group | range | phrase | term
    · exact ((shorter after less carried).group group).mono fun _ again =>
        readOperand?_eq_some_iff.2 (.inl again)
    · exact (follows.range? carried range).mono fun _ again => readOperand?_eq_some_iff.2 (.inr (.inl again))
    · exact (follows.phrase? phrase).mono fun _ again => readOperand?_eq_some_iff.2 (.inr (.inr (.inl again)))
    · exact (follows.term? carried term).mono fun _ again =>
        readOperand?_eq_some_iff.2 (.inr (.inr (.inr again)))
  obtain ⟨left, again, behind⟩ := readsOn
  exact ⟨left, readField?_eq_some_iff.2 ⟨name, after ++ k, follows.fieldName?_append named solid, again⟩, behind⟩

theorem unary_of_shorter (found : readUnary? field s = some (clause, rest))
    (colon : (skip rest).head? ≠ some ':') : ReadsOn k (readUnary? field) s clause rest := by
  rcases readUnary?_eq_some_iff.1 found with
    ⟨after, inner, word, read, rfl⟩ | everything | group | named | range | phrase | ⟨notAll, -, term⟩
  · have carried : Carries k (skip after) := carries.tokens (.negated word)
    obtain ⟨left, again, behind⟩ := (shorter _ (length_negated_lt word) carried).unary read colon
    refine ⟨left, ?_, behind⟩
    apply readUnary?_eq_some_iff.2
    refine .inl ⟨after ++ k, inner, ?_, ?_, rfl⟩
    · rw [follows.word?_append (by decide), word]
      rfl
    · rw [skip_append (StartsClause.of_readUnary? read).ne_nil]
      exact again
  · apply ReadsOn.of_append
    have again := follows.everything?_append s
    rw [everything] at again
    exact readUnary?_eq_some_iff.2 (.inr (.inl again))
  · exact (group_of_shorter follows carries shorter group).mono fun _ again =>
      readUnary?_eq_some_iff.2 (.inr (.inr (.inl again)))
  · exact (field_of_shorter follows carries shorter named).mono fun _ again => readUnary?_of_field again
  · exact (follows.range? carries range).mono fun _ again =>
      readUnary?_eq_some_iff.2 (.inr (.inr (.inr (.inr (.inl again)))))
  · exact (follows.phrase? phrase).mono fun _ again =>
      readUnary?_eq_some_iff.2 (.inr (.inr (.inr (.inr (.inr (.inl again))))))
  -- a term is read last, so that what goes before it must fail on the longer text too
  · have still : everything? (s ++ k) = none := by
      rw [follows.everything?_append, notAll]
      rfl
    have unnamed : readField? (s ++ k) = none := by
      rw [readField?_eq, follows.fieldName?_eq_none (fieldName?_eq_none_of_term? term colon)]
      rfl
    exact (follows.term? carries term).mono fun _ again =>
      readUnary?_eq_some_iff.2 (.inr (.inr (.inr (.inr (.inr (.inr ⟨still, unnamed, again⟩))))))

theorem ands_of_shorter (found : readAnds? field s = some (clauses, rest)) (delimited : Delimited rest) :
    ReadsOn k (readAnds? field) s clauses rest := by
  obtain ⟨clause, after, first, ⟨others, more, rfl⟩ | ⟨last, rfl, rfl⟩⟩ := readAnds?_cases found
  · have next : StartsClause (andNext after) := starts_of_readAnds? more
    have colon : (skip after).head? ≠ some ':' := head_ne_of_andNext next
    have carried : Carries k (andNext after) :=
      carries.tokens (((takesTokens s).unary first).trans (.andNext after))
    obtain ⟨left, again, behind⟩ := unary_of_shorter follows carries shorter first colon
    obtain ⟨final, onward, lastly⟩ := (shorter _ (length_andNext_lt first) carried).ands more delimited
    refine ⟨final, readAnds?_of_more again ?_, lastly⟩
    rw [andNext_congr behind, follows.andNext_append next.ne_nil]
    exact onward
  · obtain ⟨left, again, behind⟩ := unary_of_shorter follows carries shorter first delimited.head_ne
    refine ⟨left, readAnds?_of_last again ?_, behind⟩
    rw [andNext_congr behind]
    exact follows.readAnds?_eq_none delimited last

theorem ors_of_shorter (found : readOrs? field s = some (clauses, rest)) (close : (skip rest).head? = some ')') :
    ReadsOn k (readOrs? field) s clauses rest := by
  obtain ⟨chain, after, first, ⟨next, others, word, more, rfl⟩ | ⟨last, rfl, rfl⟩⟩ := readOrs?_cases found
  · have starts : StartsClause (skip next) := starts_of_readOrs? more
    have colon := starts.head_skip_ne
    rw [skip_skip] at colon
    have delimited : Delimited after := .inr ⟨next, word, colon⟩
    have carried : Carries k (skip next) :=
      carries.tokens (((takesTokens s).ands first).trans (.alternative word))
    obtain ⟨left, again, behind⟩ := ands_of_shorter follows carries shorter first delimited
    obtain ⟨final, onward, lastly⟩ := (shorter _ (length_alternative_lt first word) carried).ors more close
    have connector : word? orWords (skip left) = some (next ++ k) := by
      rw [behind, skip_append delimited.skip_ne_nil, follows.word?_append (by decide), word]
      rfl
    refine ⟨final, readOrs?_of_more again connector ?_, lastly⟩
    rw [skip_append starts.ne_nil]
    exact onward
  · have delimited : Delimited rest := .inl close
    obtain ⟨left, again, behind⟩ := ands_of_shorter follows carries shorter first delimited
    refine ⟨left, readOrs?_of_last again ?_, behind⟩
    obtain ⟨t, start⟩ := List.head?_eq_some_iff.1 close
    rw [behind, skip_append delimited.skip_ne_nil, start]
    rfl

end

end Continues

/-- What is read of a text is read of it before whatever may follow, if that closes no quotation mark in it. -/
theorem continues {k : List Char} (follows : Follows k) (s : List Char) (carries : Carries k s) : Continues k s := by
  -- on the length, as the parts of a clause are read of shorter texts
  generalize length : s.length = n
  induction n using Nat.strongRecOn generalizing s with
  | ind n ih =>
      have shorter : ∀ t : List Char, t.length < s.length → Carries k t → Continues k t := by
        intro t less carried
        exact ih t.length (length ▸ less) t carried rfl
      exact ⟨Continues.group_of_shorter follows carries shorter, Continues.field_of_shorter follows carries shorter,
        Continues.unary_of_shorter follows carries shorter, Continues.ands_of_shorter follows carries shorter,
        Continues.ors_of_shorter follows carries shorter⟩

end RecordSearch.Lucene
