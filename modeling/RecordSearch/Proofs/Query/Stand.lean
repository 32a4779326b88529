import RecordSearch.Proofs.Query.Onward

namespace RecordSearch.Lucene

theorem isEmpty_of_toList {text : String} {c : Char} {s : List Char} (start : text.toList = c :: s) :
    text.isEmpty = false := by
  rw [← Bool.not_eq_true, String.isEmpty_iff, ← String.toList_eq_nil_iff, start]
  exact List.cons_ne_nil c s

section

variable {s rest : List Char} {clause : Clause}

theorem readChars?_of_readUnary? (found : readUnary? none (skip s) = some (clause, rest))
    (left : skip rest = []) : readChars? s = some clause := by
  have ands : readAnds? none (skip s) = some ([clause], rest) := by
    rw [readAnds?_eq, found]
    simp only [left]
    rfl
  have ors : readOrs? none (skip s) = some ([clause], rest) := by
    rw [readOrs?_eq, ands]
    simp only [left]
    rfl
  rw [readChars?_eq, ors]
  simp only [left]
  rfl

end

/-- The text is read as the clause before anything that may follow, and what follows is left. -/
structure StandsFor (p : List Char) (clause : Clause) : Prop where
  reads : ∀ k, Follows k → ∃ rest, readUnary? none (p ++ k) = some (clause, rest) ∧ skip rest = skip k
  plain : clause.isBoost = false

namespace StandsFor

variable {p : List Char} {clause : Clause}

/-- A clause on its own stands for itself where it leaves no quotation mark open. -/
theorem of_closes (whole : readUnary? none p = some (clause, [])) (paired : Paired p) (closes : Closes p)
    (plain : clause.isBoost = false) : StandsFor p clause := by
  refine ⟨?_, plain⟩
  intro k follows
  exact (continues follows p ⟨paired, .inl closes⟩).unary whole (by decide)

theorem starts (stands : StandsFor p clause) : StartsClause p := by
  obtain ⟨rest, found, -⟩ := stands.reads [] follows_nil
  rw [List.append_nil] at found
  exact .of_readUnary? found

theorem isEmpty {text : String} (stands : StandsFor text.toList clause) : text.isEmpty = false := by
  obtain ⟨c, s, start, -⟩ := stands.starts
  exact isEmpty_of_toList start

theorem skip_append (stands : StandsFor p clause) (k : List Char) : skip (p ++ k) = p ++ k :=
  (stands.starts.append k).skip_eq

theorem readChars? (stands : StandsFor p clause) : readChars? p = some clause := by
  have start := stands.skip_append []
  obtain ⟨rest, found, left⟩ := stands.reads [] follows_nil
  rw [List.append_nil] at start found
  rw [← start] at found
  exact readChars?_of_readUnary? found left

theorem not (stands : StandsFor p clause) :
    StandsFor ('N' :: 'O' :: 'T' :: ' ' :: p) (.not clause) := by
  refine ⟨?_, rfl⟩
  intro k follows
  obtain ⟨rest, found, left⟩ := stands.reads k follows
  refine ⟨rest, ?_, left⟩
  have word : word? notWords ('N' :: 'O' :: 'T' :: ' ' :: (p ++ k)) = some (' ' :: (p ++ k)) := rfl
  have inner : skip (' ' :: (p ++ k)) = p ++ k := stands.skip_append k
  rw [readUnary?_eq]
  simp only [List.cons_append, word, Option.bind_some, inner, found]
  rfl

end StandsFor

/-- The texts before the lookups on a field; none stands before those in the text of a document. -/
inductive Marks : List Char → Option String → Prop where
  | text : Marks [] none
  | name {name : List Char} : name ≠ [] → (∀ c ∈ name, isFieldChar c = true) →
      Marks (name ++ [':']) (some (String.ofList name))

namespace Marks

variable {mark s : List Char} {field : Option String} {clause : Clause} {c : Char}

theorem skip_opening (opening : c ∈ openings) (s : List Char) : skip (c :: s) = c :: s := by
  apply skip_of_head
  simp only [openings, List.mem_cons, List.not_mem_nil, or_false] at opening
  rcases opening with rfl | rfl | rfl | rfl <;> decide

theorem reads (marks : Marks mark field) (opening : c ∈ openings) {rest : List Char}
    (operand : readOperand? field (c :: s) = some (clause, rest)) :
    readUnary? none (mark ++ c :: s) = some (clause, rest) := by
  cases marks with
  | text => exact (readUnary?_of_opening opening s).trans operand
  | name present letters =>
      rw [List.append_assoc, List.singleton_append, readUnary?_mark present letters,
        skip_opening opening, operand]
      rfl

theorem operand (marks : Marks mark field) (opening : c ∈ openings)
    (whole : readUnary? none (mark ++ c :: s) = some (clause, [])) :
    readOperand? field (c :: s) = some (clause, []) := by
  cases marks with
  | text => exact (readUnary?_of_opening opening s).symm.trans whole
  | name present letters =>
      rw [List.append_assoc, List.singleton_append] at whole
      have operand := readOperand?_of_mark present letters whole
      rw [skip_opening opening] at operand
      exact operand

theorem unranged (marks : Marks mark field) : Guarded opensRange mark := by
  cases marks with
  | text => exact .nil
  | name _ letters =>
      apply Guarded.append
      · apply Guarded.of_forall
        intro c listed
        have letter := letters c listed
        refine ⟨isFieldChar_ne letter (by decide), ?_⟩
        simp [opensRange, isFieldChar_ne letter (d := '[') (by decide), isFieldChar_ne letter (d := '\x7b') (by decide)]
      · exact Guarded.of_all rfl

theorem standsFor_of_guarded (marks : Marks mark field) (guarded : Guarded isMark s)
    (whole : readUnary? none (mark ++ s) = some (clause, [])) : StandsFor (mark ++ s) clause := by
  have brackets : ∀ c, opensRange c = true → isMark c = true := by
    intro c opens
    simp only [opensRange, Bool.or_eq_true, beq_iff_eq] at opens
    rcases opens with rfl | rfl <;> decide
  have unranged : Guarded opensRange (mark ++ s) := marks.unranged.append (guarded.mono brackets)
  have plain : clause.isBoost = false := by
    cases marks with
    | text => exact isBoost_of_readUnary? guarded whole
    | name present letters =>
        rw [List.append_assoc, List.singleton_append] at whole
        have operand := readOperand?_of_mark present letters whole
        have solid : skip s ≠ [] := by
          intro blank
          rw [blank] at operand
          cases operand
        rw [readOperand?_of_guarded _ guarded.skip solid] at operand
        exact isBoost_of_term? guarded.skip operand
  have paired : Paired (mark ++ s) := unranged.mono fun _ barred => absurd barred Bool.false_ne_true
  exact .of_closes whole paired (closes_of_unranged unranged) plain

/-- What is read as an operand of its field, whatever follows, stands for its clause. -/
theorem standsFor (marks : Marks mark field) (opening : c ∈ openings)
    (reads : ∀ k, Follows k → ∃ rest,
      readOperand? field (c :: s ++ k) = some (clause, rest) ∧ skip rest = skip k)
    (plain : clause.isBoost = false) : StandsFor (mark ++ c :: s) clause := by
  refine ⟨?_, plain⟩
  intro k follows
  obtain ⟨rest, operand, left⟩ := reads k follows
  refine ⟨rest, ?_, left⟩
  rw [List.append_assoc]
  exact marks.reads opening operand

end Marks

end RecordSearch.Lucene
