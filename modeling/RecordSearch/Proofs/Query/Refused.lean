import RecordSearch.Proofs.Query.Group

namespace RecordSearch.Lucene

inductive Behind : List Char → Prop where
  | nil : Behind []
  | close (k : List Char) : Behind (')' :: k)
  | next {c : Char} (s : List Char) : isBlank c = false → c ≠ ':' →
      Behind (' ' :: 'A' :: 'N' :: 'D' :: ' ' :: c :: s)

/-- A text of which no clause is read, whatever stands behind it. -/
structure Refused (p : List Char) : Prop where
  head : ∃ c s, p = c :: s ∧ isBlank c = false ∧ c ≠ ':'
  stuck : ∀ k, Behind k → readUnary? none (p ++ k) = none

section

variable {p k s : List Char}

theorem fieldName?_keyword {word : List Char} (listed : word ∈ keywords) (behind : Behind k) :
    fieldName? (word ++ k) = none := by
  simp only [keywords, List.mem_cons, List.not_mem_nil, or_false] at listed
  rcases listed with rfl | rfl | rfl | rfl <;> cases behind <;> rfl

theorem term?_keyword {word : List Char} (listed : word ∈ keywords) (behind : Behind k) :
    term? none (word ++ k) = none := by
  simp only [keywords, List.mem_cons, List.not_mem_nil, or_false] at listed
  rcases listed with rfl | rfl | rfl | rfl <;> cases behind <;> rfl

theorem head_keyword {word : List Char} (listed : word ∈ keywords) :
    ∃ c s, word = c :: s ∧ isFieldChar c = true ∧ isBlank c = false ∧ c ≠ ':' := by
  simp only [keywords, List.mem_cons, List.not_mem_nil, or_false] at listed
  rcases listed with rfl | rfl | rfl | rfl <;> exact ⟨_, _, rfl, by decide, by decide, by decide⟩

theorem negation_keyword {word : List Char} (listed : word ∈ keywords) (behind : Behind k) :
    ((word? notWords (word ++ k)).bind fun rest =>
      (readUnary? none (skip rest)).map fun reading => (Clause.not reading.1, reading.2)) = none := by
  simp only [keywords, List.mem_cons, List.not_mem_nil, or_false] at listed
  rcases listed with rfl | rfl | rfl | rfl
  · rfl
  · rfl
  · have stuck : readUnary? none (skip k) = none := by
      cases behind with
      | nil => rfl
      | close k => exact readUnary?_of_closing (by decide) k
      | next s solid colon =>
          have starts : StartsClause (_ :: s) := ⟨_, s, rfl, solid, colon⟩
          exact readUnary?_connector .and rfl starts.head_skip_ne
    have word : word? notWords (['N', 'O', 'T'] ++ k) = some k := by
      cases behind <;> rfl
    rw [word, Option.bind_some, stuck, Option.map_none]
  · rfl

theorem refused_keyword {word : List Char} (listed : word ∈ keywords) : Refused word := by
  obtain ⟨c, s, start, letter, solid, colon⟩ := head_keyword listed
  refine ⟨⟨c, s, start, solid, colon⟩, ?_⟩
  intro k behind
  have negation := negation_keyword listed behind
  have unnamed := fieldName?_keyword listed behind
  have unread := term?_keyword listed behind
  rw [start, List.cons_append] at negation unnamed unread ⊢
  exact readUnary?_of_letter letter negation unnamed unread

theorem Refused.not_standsFor {clause : Clause} (refused : Refused p) : ¬ StandsFor p clause := by
  intro stands
  obtain ⟨rest, found, -⟩ := stands.reads [] follows_nil
  rw [refused.stuck [] .nil] at found
  cases found

/-- A part of a conjunction: the text of a clause, or one of which none can be read. -/
def IsPart (p : List Char) : Prop := (∃ clause, StandsFor p clause) ∨ Refused p

theorem IsPart.head (part : IsPart p) : ∃ c s, p = c :: s ∧ isBlank c = false ∧ c ≠ ':' := by
  rcases part with ⟨clause, stands⟩ | refused
  · exact stands.starts
  · exact refused.head

def conjunction (parts : List (List Char)) : List Char := Connector.and.separator.intercalate parts

theorem conjunction_single (p : List Char) : conjunction [p] = p := List.intercalate_singleton

theorem conjunction_cons (p q : List Char) (parts : List (List Char)) (k : List Char) :
    conjunction (p :: q :: parts) ++ k =
      p ++ (' ' :: 'A' :: 'N' :: 'D' :: ' ' :: (conjunction (q :: parts) ++ k)) := by
  have separator : Connector.and.separator = [' ', 'A', 'N', 'D', ' '] := rfl
  simp [conjunction, List.intercalate_cons_cons, separator]

theorem head_conjunction (part : IsPart p) (parts : List (List Char)) (k : List Char) :
    ∃ c s, conjunction (p :: parts) ++ k = c :: s ∧ isBlank c = false ∧ c ≠ ':' := by
  obtain ⟨c, s, rfl, solid, colon⟩ := part.head
  cases parts with
  | nil => exact ⟨c, s ++ k, by rw [conjunction_single, List.cons_append], solid, colon⟩
  | cons q parts => exact ⟨c, _, conjunction_cons (c :: s) q parts k, solid, colon⟩

theorem readAnds?_conjunction {parts : List (List Char)} (each : ∀ q ∈ p :: parts, IsPart q)
    (refused : ∃ q ∈ p :: parts, Refused q) (behind : Behind k) :
    readAnds? none (conjunction (p :: parts) ++ k) = none ∨
      ∃ clauses rest s, readAnds? none (conjunction (p :: parts) ++ k) = some (clauses, rest) ∧
        skip rest = 'A' :: s := by
  induction parts generalizing p with
  | nil =>
      obtain ⟨q, only, refused⟩ := refused
      obtain rfl := List.mem_singleton.1 only
      rw [conjunction_single]
      exact Or.inl (readAnds?_eq_none (refused.stuck k behind))
  | cons next parts ih =>
      have later : ∀ q ∈ next :: parts, IsPart q := fun q there => each q (List.mem_cons_of_mem p there)
      obtain ⟨c, s, start, solid, colon⟩ :=
        head_conjunction (later next List.mem_cons_self) parts k
      rw [conjunction_cons, start]
      rcases each p List.mem_cons_self with ⟨clause, stands⟩ | first
      · have others : ∃ q ∈ next :: parts, Refused q := by
          obtain ⟨q, there, stuck⟩ := refused
          rcases List.mem_cons.1 there with rfl | behindFirst
          · exact absurd stands stuck.not_standsFor
          · exact ⟨q, behindFirst, stuck⟩
        have rest := ih later others
        rw [start] at rest
        obtain ⟨left, found, after⟩ := stands.reads _ (follows_connector .and (c :: s))
        change readUnary? none (p ++ (' ' :: 'A' :: 'N' :: 'D' :: ' ' :: c :: s)) = _ at found
        change skip left = 'A' :: 'N' :: 'D' :: ' ' :: c :: s at after
        have word : word? andWords (skip left) = some (' ' :: c :: s) := by
          rw [after]
          rfl
        have blank : skip (' ' :: c :: s) = c :: s := skip_of_head solid s
        refine Or.inr ?_
        rw [readAnds?_eq, found]
        simp only [word, Option.map_some, Option.getD_some, blank]
        rcases rest with stuck | ⟨clauses, last, t, read, ends⟩
        · rw [stuck]
          exact ⟨_, _, _, rfl, after⟩
        · rw [read]
          exact ⟨_, _, _, rfl, ends⟩
      · exact Or.inl (readAnds?_eq_none (first.stuck _ (.next s solid colon)))

theorem readOrs?_conjunction {parts : List (List Char)} (each : ∀ q ∈ p :: parts, IsPart q)
    (refused : ∃ q ∈ p :: parts, Refused q) (behind : Behind k) :
    readOrs? none (conjunction (p :: parts) ++ k) = none ∨
      ∃ clauses rest s, readOrs? none (conjunction (p :: parts) ++ k) = some (clauses, rest) ∧
        skip rest = 'A' :: s := by
  rcases readAnds?_conjunction each refused behind with stuck | ⟨clauses, rest, s, read, ends⟩
  · exact Or.inl (by rw [readOrs?_eq, stuck])
  · have word : word? orWords (skip rest) = none := by
      rw [ends]
      rfl
    refine Or.inr ⟨[Clause.joined .and clauses], rest, s, ?_, ends⟩
    rw [readOrs?_eq, read]
    simp only [word, Option.bind_none]

theorem readChars?_conjunction {parts : List (List Char)} (each : ∀ q ∈ p :: parts, IsPart q)
    (refused : ∃ q ∈ p :: parts, Refused q) : readChars? (conjunction (p :: parts)) = none := by
  obtain ⟨c, s, start, solid, -⟩ := head_conjunction (each p List.mem_cons_self) parts []
  have ors := readOrs?_conjunction each refused .nil
  rw [List.append_nil] at ors start
  have blank : skip (conjunction (p :: parts)) = conjunction (p :: parts) := by
    rw [start]
    exact skip_of_head solid s
  rw [readChars?_eq, blank]
  rcases ors with stuck | ⟨clauses, rest, t, read, ends⟩
  · rw [stuck, start]
    rfl
  · rw [read]
    simp only [ends]
    rfl

/-- A conjunction in parentheses, with a part that is refused, is refused. -/
theorem refused_group {parts : List (List Char)} (each : ∀ q ∈ p :: parts, IsPart q)
    (refused : ∃ q ∈ p :: parts, Refused q) : Refused ('(' :: conjunction (p :: parts) ++ [')']) := by
  refine ⟨⟨'(', _, rfl, by decide, by decide⟩, ?_⟩
  intro k _
  obtain ⟨c, s, start, solid, -⟩ :=
    head_conjunction (each p List.mem_cons_self) parts (')' :: k)
  have ors := readOrs?_conjunction each refused (.close k)
  have blank : skip (conjunction (p :: parts) ++ ')' :: k) = conjunction (p :: parts) ++ ')' :: k := by
    rw [start]
    exact skip_of_head solid s
  rw [List.append_assoc, List.singleton_append, List.cons_append, readUnary?_of_opening (by decide),
    readOperand?_parenthesis, readGroup?_eq, blank]
  rcases ors with stuck | ⟨clauses, rest, t, read, ends⟩
  · rw [stuck]
  · rw [read]
    simp only [ends]
    rfl

theorem toList_conjunction (first : String) (rest : List String) :
    ((" " ++ Connector.and.text ++ " ").intercalate (first :: rest)).toList =
      conjunction (first.toList :: rest.map String.toList) := by
  have separator : (" " ++ Connector.and.text ++ " ").toList = Connector.and.separator := rfl
  rw [String.toList_intercalate, separator, List.map_cons, conjunction]

theorem isEmpty_of_isPart {text : String} (part : IsPart text.toList) : text.isEmpty = false := by
  obtain ⟨c, s, start, -⟩ := part.head
  exact isEmpty_of_toList start

theorem isEmpty_conjunction {first : String} (part : IsPart first.toList) (rest : List String) :
    ((" " ++ Connector.and.text ++ " ").intercalate (first :: rest)).isEmpty = false := by
  obtain ⟨c, s, start, -⟩ := head_conjunction part (rest.map String.toList) []
  rw [List.append_nil] at start
  exact isEmpty_of_toList ((toList_conjunction first rest).trans start)

theorem writeNode_ne_empty {first : String} (part : IsPart first.toList) (rest : List String) :
    Condition.writeNode .and false (first :: rest) ≠ "" := by
  simp only [Condition.writeNode, isEmpty_conjunction part rest, Bool.false_eq_true, if_false]
  split
  · intro empty
    have filled := isEmpty_conjunction part rest
    rw [empty] at filled
    cases filled
  · intro empty
    have start := congrArg String.toList empty
    simp at start

/-- A conjunction with a part that is refused cannot be read. -/
theorem readChars?_writeNode {texts : List String} (each : ∀ text ∈ texts, IsPart text.toList)
    (refused : ∃ text ∈ texts, Refused text.toList) :
    readChars? (Condition.writeNode .and false texts).toList = none := by
  obtain ⟨first, rest, rfl⟩ : ∃ first rest, texts = first :: rest := by
    obtain ⟨text, listed, -⟩ := refused
    exact List.exists_cons_of_ne_nil (List.ne_nil_of_mem listed)
  have eachPart : ∀ p ∈ first.toList :: rest.map String.toList, IsPart p := by
    rw [← List.map_cons]
    exact List.forall_mem_map.2 each
  have refusedPart : ∃ p ∈ first.toList :: rest.map String.toList, Refused p := by
    obtain ⟨other, listed, stuck⟩ := refused
    rw [← List.map_cons]
    exact ⟨_, List.mem_map_of_mem listed, stuck⟩
  have filled := isEmpty_conjunction (each first List.mem_cons_self) rest
  simp only [Condition.writeNode, filled, Bool.false_eq_true, if_false]
  split
  · rw [toList_conjunction]
    exact readChars?_conjunction eachPart refusedPart
  · have group := refused_group eachPart refusedPart
    have only : ∀ p ∈ ['(' :: conjunction (first.toList :: rest.map String.toList) ++ [')']],
        IsPart p := by
      intro p there
      rw [List.mem_singleton.1 there]
      exact Or.inr group
    have alone := readChars?_conjunction only ⟨_, List.mem_cons_self, group⟩
    rw [conjunction_single] at alone
    rw [String.toList_append, String.toList_append, toList_conjunction]
    exact alone

theorem Refused.not (refused : Refused p) :
    Refused ('N' :: 'O' :: 'T' :: ' ' :: '(' :: (p ++ [')'])) := by
  refine ⟨⟨'N', _, rfl, by decide, by decide⟩, ?_⟩
  intro k behind
  have only : ∀ q ∈ [p], IsPart q := by
    intro q there
    rw [List.mem_singleton.1 there]
    exact Or.inr refused
  have group := (refused_group only ⟨p, List.mem_cons_self, refused⟩).stuck k behind
  rw [conjunction_single] at group
  have negation : ((word? notWords ('N' :: 'O' :: 'T' :: ' ' :: '(' :: (p ++ [')'] ++ k))).bind fun rest =>
      (readUnary? none (skip rest)).map fun reading => (Clause.not reading.1, reading.2)) = none := by
    have word : word? notWords ('N' :: 'O' :: 'T' :: ' ' :: '(' :: (p ++ [')'] ++ k)) =
        some (' ' :: '(' :: (p ++ [')'] ++ k)) := rfl
    have blank : skip (' ' :: '(' :: (p ++ [')'] ++ k)) = '(' :: (p ++ [')'] ++ k) := rfl
    have stuck : readUnary? none ('(' :: (p ++ [')'] ++ k)) = none := group
    rw [word, Option.bind_some, blank, stuck, Option.map_none]
  exact readUnary?_of_letter (by decide) negation rfl rfl

theorem refused_negated {text : String} (refused : Refused text.toList) :
    Refused ("NOT (" ++ text ++ ")").toList := by
  have whole : ("NOT (" ++ text ++ ")").toList =
      'N' :: 'O' :: 'T' :: ' ' :: '(' :: (text.toList ++ [')']) := by
    simp
  rw [whole]
  exact refused.not

end

end RecordSearch.Lucene
