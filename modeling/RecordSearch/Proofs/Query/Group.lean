import RecordSearch.Proofs.Query.Readings
import RecordSearch.Proofs.Query.Stand

namespace RecordSearch

def Connector.clause : Connector → List Clause → Clause
  | and, clauses => .joined .and clauses
  | or, clauses => .joined .or clauses

def Connector.separator (connector : Connector) : List Char := ' ' :: connector.text.toList ++ [' ']

namespace Lucene

/-- The text of parts that a connector joins; with each part goes the clause for which it stands. -/
def joinedText (connector : Connector) (parts : List (List Char × Clause)) : List Char :=
  connector.separator.intercalate (parts.map Prod.fst)

theorem joinedText_single (connector : Connector) (part : List Char × Clause) :
    joinedText connector [part] = part.1 := List.intercalate_singleton

theorem joinedText_cons (connector : Connector) (part next : List Char × Clause)
    (parts : List (List Char × Clause)) (k : List Char) :
    joinedText connector (part :: next :: parts) ++ k =
      part.1 ++ (' ' :: connector.text.toList ++ ' ' :: (joinedText connector (next :: parts) ++ k)) := by
  simp [joinedText, Connector.separator, List.intercalate_cons_cons]

theorem joinedText_front (connector : Connector) (part : List Char × Clause)
    (parts : List (List Char × Clause)) (k : List Char) :
    ∃ after, joinedText connector (part :: parts) ++ k = part.1 ++ after := by
  cases parts with
  | nil => exact ⟨k, by rw [joinedText_single]⟩
  | cons next parts => exact ⟨_, joinedText_cons connector part next parts k⟩

theorem StartsClause.joinedText {part : List Char × Clause} (starts : StartsClause part.1) (connector : Connector)
    (parts : List (List Char × Clause)) (k : List Char) :
    StartsClause (joinedText connector (part :: parts) ++ k) := by
  obtain ⟨after, front⟩ := joinedText_front connector part parts k
  rw [front]
  exact starts.append after

/-- The parts are read one after the other, each of them before what stands behind it; the last one before `k`. -/
inductive InTurn (connector : Connector) (read : List Char → Option (Clause × List Char)) (k : List Char) :
    List (List Char × Clause) → Prop where
  | last {part : List Char × Clause} (starts : StartsClause part.1) (reads : ReadsOn k read part.1 part.2 []) :
      InTurn connector read k [part]
  | next {part next : List Char × Clause} {parts : List (List Char × Clause)} (starts : StartsClause part.1)
      (reads : ReadsOn (' ' :: connector.text.toList ++ ' ' :: (joinedText connector (next :: parts) ++ k))
        read part.1 part.2 [])
      (others : InTurn connector read k (next :: parts)) : InTurn connector read k (part :: next :: parts)

def readChain? (s : List Char) : Option (Clause × List Char) :=
  (readAnds? none s).map fun reading => (Clause.joined .and reading.1, reading.2)

/-- No clause of a chain stands in front of the text. -/
def EndsChain (k : List Char) : Prop := readAnds? none (andNext k) = none

theorem endsChain_nil : EndsChain [] := rfl

theorem endsChain_close (k : List Char) : EndsChain (')' :: k) :=
  readAnds?_eq_none (readUnary?_of_closing (by decide) k)

theorem endsChain_or {k : List Char} (starts : StartsClause k) :
    EndsChain (' ' :: Connector.or.text.toList ++ ' ' :: k) := by
  apply readAnds?_eq_none
  exact readUnary?_connector .or (s := ' ' :: k) rfl starts.head_skip_ne

section

variable {part : List Char × Clause} {parts : List (List Char × Clause)} {k : List Char}
  {connector : Connector} {read : List Char → Option (Clause × List Char)}

namespace InTurn

theorem starts (turn : InTurn connector read k parts) (t : List Char) :
    StartsClause (joinedText connector parts ++ t) := by
  cases turn with
  | last starts _ => exact starts.joinedText connector [] t
  | next starts _ _ => exact starts.joinedText connector _ t

theorem starts_text (turn : InTurn connector read k parts) : StartsClause (joinedText connector parts) := by
  have front := turn.starts []
  rwa [List.append_nil] at front

theorem readAnds? (turn : InTurn .and (readUnary? none) k parts) (ends : EndsChain k) :
    ReadsOn k (readAnds? none) (joinedText .and parts) (parts.map Prod.snd) [] := by
  induction turn with
  | @last part _ reads =>
      obtain ⟨left, found, behind⟩ := reads
      refine ⟨left, ?_, behind⟩
      rw [joinedText_single]
      apply readAnds?_of_last found
      rw [andNext_congr behind]
      exact ends
  | @next part next parts _ reads others ih =>
      obtain ⟨left, found, behind⟩ := reads
      obtain ⟨last, more, after⟩ := ih
      have rest : andNext left = joinedText .and (next :: parts) ++ k := by
        rw [andNext_congr behind]
        exact (others.starts k).skip_eq
      refine ⟨last, ?_, after⟩
      rw [joinedText_cons]
      apply readAnds?_of_more found
      rw [rest]
      exact more

theorem readChain? (turn : InTurn .and (readUnary? none) k parts) (ends : EndsChain k) :
    ReadsOn k readChain? (joinedText .and parts) (Clause.joined .and (parts.map Prod.snd)) [] := by
  obtain ⟨left, found, behind⟩ := turn.readAnds? ends
  refine ⟨left, ?_, behind⟩
  rw [Lucene.readChain?, found]
  rfl

theorem readOrs? (turn : InTurn .or Lucene.readChain? k parts) (ends : word? orWords (skip k) = none) :
    ReadsOn k (readOrs? none) (joinedText .or parts) (parts.map Prod.snd) [] := by
  have chain : ∀ {s left clause}, Lucene.readChain? s = some (clause, left) →
      ∃ clauses, Lucene.readAnds? none s = some (clauses, left) ∧ Clause.joined .and clauses = clause := by
    intro s left clause found
    obtain ⟨⟨clauses, rest⟩, read, same⟩ := Option.map_eq_some_iff.1 found
    cases same
    exact ⟨clauses, read, rfl⟩
  induction turn with
  | @last part _ reads =>
      obtain ⟨left, found, behind⟩ := reads
      obtain ⟨clauses, read, joined⟩ := chain found
      refine ⟨left, ?_, behind⟩
      rw [joinedText_single, List.map_singleton, ← joined]
      apply readOrs?_of_last read
      rw [behind]
      exact ends
  | @next part next parts _ reads others ih =>
      obtain ⟨left, found, behind⟩ := reads
      obtain ⟨clauses, read, joined⟩ := chain found
      obtain ⟨last, more, after⟩ := ih
      have word : word? orWords (skip left) = some (' ' :: (joinedText .or (next :: parts) ++ k)) := by
        rw [behind]
        rfl
      have rest : skip (' ' :: (joinedText .or (next :: parts) ++ k)) = joinedText .or (next :: parts) ++ k :=
        (others.starts k).skip_eq
      refine ⟨last, ?_, after⟩
      rw [joinedText_cons, List.map_cons, ← joined]
      apply readOrs?_of_more read word
      rw [rest]
      exact more

end InTurn

theorem skip_joinedText (connector : Connector) (stands : StandsFor part.1 part.2) (k : List Char) :
    skip (joinedText connector (part :: parts) ++ k) = joinedText connector (part :: parts) ++ k :=
  (stands.starts.joinedText connector parts k).skip_eq

/-- Texts that stand for clauses are read in turn by whatever reads each of them. -/
theorem inTurn_of_standsFor (stand : ∀ p ∈ part :: parts, StandsFor p.1 p.2)
    (last : ∀ p ∈ part :: parts, ReadsOn k read p.1 p.2 [])
    (next : ∀ p ∈ part :: parts, ∀ t, StartsClause t →
      ReadsOn (' ' :: connector.text.toList ++ ' ' :: t) read p.1 p.2 []) :
    InTurn connector read k (part :: parts) := by
  induction parts generalizing part with
  | nil => exact .last (stand part List.mem_cons_self).starts (last part List.mem_cons_self)
  | cons other parts ih =>
      have others := ih (fun p listed => stand p (List.mem_cons_of_mem part listed))
        (fun p listed => last p (List.mem_cons_of_mem part listed))
        fun p listed => next p (List.mem_cons_of_mem part listed)
      exact .next (stand part List.mem_cons_self).starts
        (next part List.mem_cons_self _ (others.starts k)) others

theorem StandsFor.readChain? {p : List Char} {clause : Clause} (stands : StandsFor p clause) (follows : Follows k)
    (ends : EndsChain k) : ReadsOn k readChain? p clause [] := by
  have alone : InTurn .and (readUnary? none) k [(p, clause)] := .last stands.starts (stands.reads k follows)
  have chain := alone.readChain? ends
  rw [joinedText_single] at chain
  exact chain

theorem readOrs?_group (connector : Connector) (stand : ∀ p ∈ part :: parts, StandsFor p.1 p.2)
    (k : List Char) :
    ∃ clauses rest, readOrs? none (joinedText connector (part :: parts) ++ ')' :: k) =
      some (clauses, rest) ∧ skip rest = ')' :: k ∧
      Clause.joined .or clauses = connector.clause ((part :: parts).map Prod.snd) := by
  have follows := follows_close k
  cases connector with
  | and =>
      have turn : InTurn .and (readUnary? none) (')' :: k) (part :: parts) :=
        inTurn_of_standsFor stand (fun p listed => (stand p listed).reads _ follows)
          fun p listed t _ => (stand p listed).reads _ (follows_connector .and t)
      obtain ⟨rest, found, left⟩ := turn.readAnds? (endsChain_close k)
      refine ⟨[Clause.joined .and ((part :: parts).map Prod.snd)], rest, ?_, left, rfl⟩
      apply readOrs?_of_last found
      rw [left]
      rfl
  | or =>
      have turn : InTurn .or readChain? (')' :: k) (part :: parts) :=
        inTurn_of_standsFor stand (fun p listed => (stand p listed).readChain? follows (endsChain_close k))
          fun p listed t starts => (stand p listed).readChain? (follows_connector .or t) (endsChain_or starts)
      obtain ⟨rest, found, left⟩ := turn.readOrs? rfl
      exact ⟨_, rest, found, left, rfl⟩

theorem isBoost_clause (connector : Connector) (plain : part.2.isBoost = false) :
    (connector.clause ((part :: parts).map Prod.snd)).isBoost = false := by
  cases parts with
  | nil => cases connector <;> exact plain
  | cons next parts => cases connector <;> rfl

theorem standsFor_group (connector : Connector) (stand : ∀ p ∈ part :: parts, StandsFor p.1 p.2) :
    StandsFor ('(' :: joinedText connector (part :: parts) ++ [')'])
      (connector.clause ((part :: parts).map Prod.snd)) := by
  have first := stand part List.mem_cons_self
  refine ⟨?_, isBoost_clause connector first.plain⟩
  intro k follows
  obtain ⟨clauses, rest, found, left, joined⟩ := readOrs?_group connector stand k
  refine ⟨skip k, ?_, skip_skip k⟩
  rw [List.append_assoc, List.singleton_append, List.cons_append,
    readUnary?_of_opening (by decide), readOperand?_parenthesis, readGroup?_eq,
    skip_joinedText connector first, found]
  simp only [left, follows.boost_skip, joined]
  rfl

end

theorem StandsFor.parenthesized {p : List Char} {clause : Clause} (stands : StandsFor p clause) :
    StandsFor ('(' :: p ++ [')']) clause := by
  have only : ∀ part ∈ [(p, clause)], StandsFor part.1 part.2 := by
    intro part listed
    rw [List.mem_singleton.1 listed]
    exact stands
  have group := standsFor_group .and only
  rw [joinedText_single] at group
  exact group

end Lucene

end RecordSearch
