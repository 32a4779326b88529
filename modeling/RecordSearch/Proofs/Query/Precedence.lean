import Mathlib
import RecordSearch.Proofs.Query.Onward
import RecordSearch.Proofs.Query.Word

/-!
Clauses joined by `AND`, and the chains of them by `OR`, are read as the alternatives of the conjunctions: each
clause ends where it ends alone, as long as no clause behind it closes a quotation mark that it leaves open.
-/

namespace RecordSearch.Lucene

/-- The text as a whole is read as the clause, and its last character is no backslash. -/
structure IsClause (s : List Char) (clause : Clause) : Prop where
  whole : readUnary? none s = some (clause, [])
  ends : s.getLast? ≠ some '\\'

/-- Each bound in `s` that begins with a quotation mark is closed in `s`, or all quotation marks of `t` stand
behind backslashes. -/
def KeepsApart (s t : List Char) : Prop := Closes s ∨ Guarded (· == '"') t

namespace KeepsApart

variable {p s t : List Char}

theorem of_plain (plain : Guarded (· == '"') s) : KeepsApart p s := .inr plain

theorem append (first : KeepsApart p s) (second : KeepsApart p t) : KeepsApart p (s ++ t) := by
  rcases first with closes | plain
  · exact .inl closes
  · exact second.imp_right plain.append

theorem connector (connector : Connector) (apart : KeepsApart p s) :
    KeepsApart p (' ' :: connector.text.toList ++ ' ' :: s) := by
  have separator : Guarded (· == '"') connector.separator := by
    cases connector <;> exact Guarded.of_all rfl
  have whole := (of_plain separator).append apart
  rwa [Connector.separator, List.append_assoc, List.singleton_append] at whole

theorem joinedText {connector : Connector} {parts : List (List Char × Clause)}
    (each : ∀ q ∈ parts, KeepsApart p q.1) : KeepsApart p (joinedText connector parts) := by
  induction parts with
  | nil => exact of_plain .nil
  | cons q parts ih =>
      obtain ⟨first, others⟩ := List.forall_mem_cons.1 each
      cases parts with
      | nil =>
          rw [joinedText_single]
          exact first
      | cons next parts =>
          have whole := joinedText_cons connector q next parts []
          rw [List.append_nil, List.append_nil] at whole
          rw [whole]
          exact first.append ((ih others).connector connector)

end KeepsApart

theorem closeQuote?_of_guarded {k : List Char} (plain : Guarded (· == '"') k) : closeQuote? k = none := by
  rw [closeQuote?_eq_none_iff, plain.takeEscaped_self]

namespace IsClause

variable {s k : List Char} {clause : Clause}

theorem starts (isClause : IsClause s clause) : StartsClause s := .of_readUnary? isClause.whole

theorem readChars? (isClause : IsClause s clause) : readChars? s = some clause := by
  have found := isClause.whole
  rw [← isClause.starts.skip_eq] at found
  exact readChars?_of_readUnary? found rfl

theorem reads (isClause : IsClause s clause) (follows : Follows k) (apart : KeepsApart s k) :
    ReadsOn k (readUnary? none) s clause [] := by
  have carries : Carries k s := ⟨paired_of_getLast? isClause.ends, apart.imp_right closeQuote?_of_guarded⟩
  exact (continues follows s carries).unary isClause.whole (by decide)

end IsClause

section

variable {k : List Char}

theorem inTurn_clauses {parts : List (List Char × Clause)} (present : parts ≠ [])
    (clauses : ∀ p ∈ parts, IsClause p.1 p.2) (apart : parts.Pairwise fun p q => KeepsApart p.1 q.1)
    (follows : Follows k) (last : ∀ p ∈ parts, KeepsApart p.1 k) :
    InTurn .and (readUnary? none) k parts := by
  induction parts with
  | nil => exact absurd rfl present
  | cons part parts ih =>
      obtain ⟨isClause, clauses⟩ := List.forall_mem_cons.1 clauses
      obtain ⟨before, apart⟩ := List.pairwise_cons.1 apart
      obtain ⟨beforeEnd, last⟩ := List.forall_mem_cons.1 last
      cases parts with
      | nil => exact .last isClause.starts (isClause.reads follows beforeEnd)
      | cons next parts =>
          have behind : KeepsApart part.1 (joinedText .and (next :: parts) ++ k) :=
            (KeepsApart.joinedText before).append beforeEnd
          have reads := isClause.reads (follows_connector .and _) (behind.connector .and)
          exact .next isClause.starts reads (ih (List.cons_ne_nil _ _) clauses apart last)

def chainParts (chains : List (List (List Char × Clause))) : List (List Char × Clause) :=
  chains.map fun chain => (joinedText .and chain, Clause.joined .and (chain.map Prod.snd))

theorem inTurn_chains {chains : List (List (List Char × Clause))} (present : chains ≠ [])
    (filled : ∀ chain ∈ chains, chain ≠ []) (clauses : ∀ chain ∈ chains, ∀ p ∈ chain, IsClause p.1 p.2)
    (apart : chains.flatten.Pairwise fun p q => KeepsApart p.1 q.1) (follows : Follows k) (ends : EndsChain k)
    (last : ∀ chain ∈ chains, ∀ p ∈ chain, KeepsApart p.1 k) :
    InTurn .or readChain? k (chainParts chains) := by
  induction chains with
  | nil => exact absurd rfl present
  | cons chain chains ih =>
      obtain ⟨nonempty, filled⟩ := List.forall_mem_cons.1 filled
      obtain ⟨areClauses, clauses⟩ := List.forall_mem_cons.1 clauses
      obtain ⟨beforeEnd, last⟩ := List.forall_mem_cons.1 last
      rw [List.flatten_cons] at apart
      obtain ⟨within, others, before⟩ := List.pairwise_append.1 apart
      cases chains with
      | nil =>
          have turn := inTurn_clauses nonempty areClauses within follows beforeEnd
          exact .last turn.starts_text (turn.readChain? ends)
      | cons next chains =>
          have rest := ih (List.cons_ne_nil _ _) filled clauses others last
          have behind : ∀ p ∈ chain, KeepsApart p.1
              (' ' :: Connector.or.text.toList ++ ' ' :: (joinedText .or (chainParts (next :: chains)) ++ k)) := by
            intro p listed
            have each : ∀ q ∈ chainParts (next :: chains), KeepsApart p.1 q.1 := by
              intro q there
              obtain ⟨other, among, rfl⟩ := List.mem_map.1 there
              exact KeepsApart.joinedText fun part inside =>
                before p listed part (List.mem_flatten.2 ⟨other, among, inside⟩)
            exact ((KeepsApart.joinedText each).append (beforeEnd p listed)).connector .or
          have turn := inTurn_clauses nonempty areClauses within (follows_connector .or _) behind
          exact .next turn.starts_text (turn.readChain? (endsChain_or (rest.starts k))) rest

/-- Chains of clauses that keep their quotation marks apart. -/
structure Joinable (chains : List (List (List Char × Clause))) : Prop where
  present : chains ≠ []
  filled : ∀ chain ∈ chains, chain ≠ []
  clauses : ∀ chain ∈ chains, ∀ p ∈ chain, IsClause p.1 p.2
  apart : chains.flatten.Pairwise fun p q => KeepsApart p.1 q.1

def queryClause (chains : List (List Clause)) : Clause :=
  .joined .or (chains.map fun chain => .joined .and chain)

namespace Joinable

variable {chains : List (List (List Char × Clause))}

theorem readOrs? (joinable : Joinable chains) (follows : Follows k) (ends : EndsChain k)
    (plain : Guarded (· == '"') k) (last : word? orWords (skip k) = none) :
    StartsClause (joinedText .or (chainParts chains) ++ k) ∧
      ReadsOn k (readOrs? none) (joinedText .or (chainParts chains))
        ((chains.map fun chain => chain.map Prod.snd).map fun chain => Clause.joined .and chain) [] := by
  have turn : InTurn .or readChain? k (chainParts chains) := inTurn_chains joinable.present joinable.filled
    joinable.clauses joinable.apart follows ends fun _ _ _ _ => KeepsApart.of_plain plain
  have read := turn.readOrs? last
  rw [chainParts, List.map_map] at read
  rw [List.map_map]
  exact ⟨turn.starts k, read⟩

theorem readChars? (joinable : Joinable chains) : readChars? (joinedText .or (chainParts chains)) =
    some (queryClause (chains.map fun chain => chain.map Prod.snd)) := by
  obtain ⟨starts, left, found, behind⟩ := joinable.readOrs? follows_nil endsChain_nil .nil rfl
  rw [List.append_nil] at starts found
  rw [readChars?_eq, starts.skip_eq, found]
  simp only [behind]
  rfl

theorem readChars?_parenthesized (joinable : Joinable chains) :
    Lucene.readChars? ('(' :: joinedText .or (chainParts chains) ++ [')']) =
      some (queryClause (chains.map fun chain => chain.map Prod.snd)) := by
  obtain ⟨starts, left, found, behind⟩ := joinable.readOrs? (follows_close []) (endsChain_close [])
    (Guarded.of_all rfl) rfl
  have group : readGroup? none ('(' :: (joinedText .or (chainParts chains) ++ [')'])) =
      some (queryClause (chains.map fun chain => chain.map Prod.snd), []) := by
    apply readGroup?_eq_some_iff.2
    refine ⟨_, _, left, [], rfl, ?_, behind, rfl, rfl⟩
    rw [starts.skip_eq]
    exact found
  exact readChars?_of_readUnary? (readUnary?_eq_some_iff.2 (.inr (.inr (.inl group)))) rfl

end Joinable

end

/-- The text of clauses joined by `AND`, and these joined by `OR`. -/
def queryText (chains : List (List String)) : String :=
  " OR ".intercalate (chains.map fun chain => " AND ".intercalate chain)

theorem toList_queryText (chains : List (List (String × Clause))) :
    (queryText (chains.map fun chain => chain.map Prod.fst)).toList =
      joinedText .or (chainParts (chains.map fun chain => chain.map fun p => (p.1.toList, p.2))) := by
  have chain : ∀ chain : List (String × Clause), (" AND ".intercalate (chain.map Prod.fst)).toList =
      joinedText .and (chain.map fun p => (p.1.toList, p.2)) := by
    intro chain
    apply toList_joined .and
    rw [List.map_map, List.map_map]
    rfl
  apply toList_joined .or
  rw [chainParts, List.map_map, List.map_map, List.map_map, List.map_map]
  apply List.map_congr_left
  intro part _
  exact chain part

/-- `AND` binds tighter than `OR`: what clauses stand for alone they stand for in the conjunctions of the query,
with parentheses around it or without, if they keep their quotation marks apart. -/
theorem read_queryText (chains : List (List (String × Clause))) (present : chains ≠ [])
    (filled : ∀ chain ∈ chains, chain ≠ [])
    (clauses : ∀ chain ∈ chains, ∀ p ∈ chain, IsClause p.1.toList p.2)
    (apart : chains.flatten.Pairwise fun p q => KeepsApart p.1.toList q.1.toList) :
    (∀ chain ∈ chains, ∀ p ∈ chain, read p.1 = .ok p.2) ∧
      read (queryText (chains.map fun chain => chain.map Prod.fst)) =
        .ok (queryClause (chains.map fun chain => chain.map Prod.snd)) ∧
      read ("(" ++ queryText (chains.map fun chain => chain.map Prod.fst) ++ ")") =
        .ok (queryClause (chains.map fun chain => chain.map Prod.snd)) := by
  have joinable : Joinable (chains.map fun chain => chain.map fun p => (p.1.toList, p.2)) := by
    constructor
    · simpa using present
    · intro chain listed
      obtain ⟨own, there, rfl⟩ := List.mem_map.1 listed
      simpa using filled own there
    · intro chain listed p inside
      obtain ⟨own, there, rfl⟩ := List.mem_map.1 listed
      obtain ⟨q, among, rfl⟩ := List.mem_map.1 inside
      exact clauses own there q among
    · rw [← List.map_flatten, List.pairwise_map]
      exact apart
  have nodes : (chains.map fun chain => chain.map fun p => (p.1.toList, p.2)).map (List.map Prod.snd) =
      chains.map fun chain => chain.map Prod.snd := by
    rw [List.map_map]
    apply List.map_congr_left
    intro chain _
    exact List.map_map
  refine ⟨?_, ?_, ?_⟩
  · intro chain listed p inside
    rw [read, (clauses chain listed p inside).readChars?]
  · have whole := joinable.readChars?
    rw [nodes, ← toList_queryText] at whole
    rw [read, whole]
  · have whole := joinable.readChars?_parenthesized
    rw [nodes, ← toList_queryText] at whole
    have text : ∀ query : String, ("(" ++ query ++ ")").toList = '(' :: query.toList ++ [')'] := by
      intro query
      rw [String.toList_append, String.toList_append]
      rfl
    rw [read, text, whole]

theorem isClause_term : IsClause "fox".toList (.term none "fox") := ⟨by cbv, by decide⟩

theorem isClause_not : IsClause "NOT red".toList (.not (.term none "red")) := ⟨by cbv, by decide⟩

theorem isClause_group : IsClause "title:(dog OR \"a b\" cat)".toList
    (.or [.term (some "title") "dog",
      .and [.phrase (some "title") "a b" none, .term (some "title") "cat"]]) := ⟨by cbv, by decide⟩

/-- The lower bound is bare, as nothing in the clause closes its quotation mark. -/
theorem isClause_open : IsClause "[\"a TO b]".toList (.range none (some "\"a") (some "b") true true) :=
  ⟨by cbv, by decide⟩

theorem isClause_phrase : IsClause "\"x\"".toList (.phrase none "x" none) := ⟨by cbv, by decide⟩

def foxQuery : List (List (String × Clause)) :=
  [[("fox", .term none "fox"), ("NOT red", .not (.term none "red"))],
    [("title:(dog OR \"a b\" cat)", .or [.term (some "title") "dog",
        .and [.phrase (some "title") "a b" none, .term (some "title") "cat"]]),
      ("[\"a TO b]", .range none (some "\"a") (some "b") true true)]]

theorem read_queryText_fox :
    foxQuery ≠ [] ∧ (∀ chain ∈ foxQuery, chain ≠ []) ∧
      (∀ chain ∈ foxQuery, ∀ p ∈ chain, IsClause p.1.toList p.2) ∧
      (foxQuery.flatten.Pairwise fun p q => KeepsApart p.1.toList q.1.toList) ∧
      queryText (foxQuery.map fun chain => chain.map Prod.fst) =
        "fox AND NOT red OR title:(dog OR \"a b\" cat) AND [\"a TO b]" ∧
      read (queryText (foxQuery.map fun chain => chain.map Prod.fst)) =
        .ok (queryClause (foxQuery.map fun chain => chain.map Prod.snd)) := by
  have present : foxQuery ≠ [] := List.cons_ne_nil _ _
  have filled : ∀ chain ∈ foxQuery, chain ≠ [] := by simp [foxQuery]
  have clauses : ∀ chain ∈ foxQuery, ∀ p ∈ chain, IsClause p.1.toList p.2 := by
    simp only [foxQuery, List.forall_mem_cons, List.not_mem_nil, false_implies, implies_true, and_true]
    exact ⟨⟨isClause_term, isClause_not⟩, isClause_group, isClause_open⟩
  have apart : foxQuery.flatten.Pairwise fun p q => KeepsApart p.1.toList q.1.toList := by
    have term : Closes "fox".toList := closes_of_unquoted (Guarded.of_all (by decide))
    have negation : Closes "NOT red".toList := closes_of_unquoted (Guarded.of_all (by decide))
    have group : Closes "title:(dog OR \"a b\" cat)".toList := closes_of_unranged (Guarded.of_all (by decide))
    refine .cons (fun _ _ => .inl term) (.cons (fun _ _ => .inl negation) (.cons (fun _ _ => .inl group) ?_))
    exact List.pairwise_singleton _ _
  exact ⟨present, filled, clauses, apart, by decide, (read_queryText foxQuery present filled clauses apart).2.1⟩

/-- A quotation mark that a clause leaves open is closed by the next one behind it. -/
theorem not_read_queryText :
    ¬ ∀ chains : List (List (String × Clause)), chains ≠ [] → (∀ chain ∈ chains, chain ≠ []) →
      (∀ chain ∈ chains, ∀ p ∈ chain, IsClause p.1.toList p.2) →
      read (queryText (chains.map fun chain => chain.map Prod.fst)) =
        .ok (queryClause (chains.map fun chain => chain.map Prod.snd)) := by
  intro joined
  have whole := joined [[("[\"a TO b]", .range none (some "\"a") (some "b") true true),
    ("\"x\"", .phrase none "x" none)]] (List.cons_ne_nil _ _) (by simp) (by
      simp only [List.forall_mem_cons, List.not_mem_nil, false_implies, implies_true, and_true]
      exact ⟨isClause_open, isClause_phrase⟩)
  have refused : read "[\"a TO b] AND \"x\"" = .error .malformedQuery := by cbv
  have text : queryText ([[("[\"a TO b]", Clause.range none (some "\"a") (some "b") true true),
      ("\"x\"", .phrase none "x" none)]].map fun chain => chain.map Prod.fst) = "[\"a TO b] AND \"x\"" := by
    decide
  rw [text, refused] at whole
  cases whole

end RecordSearch.Lucene
