import Mathlib.Logic.Relation
import RecordSearch.Proofs.Query.Readings

/-!
The tokens of a query text: phrases and ranges, pairs of a backslash and a character, and single characters.
Every reading takes whole tokens from its text.
-/

namespace RecordSearch.Lucene

def isPlain (c : Char) : Bool := !(['\\', '"', '[', '\x7b'].contains c)

inductive Token : List Char → List Char → Prop where
  | plain {c : Char} (fine : isPlain c = true) (s : List Char) : Token (c :: s) s
  | pair (c : Char) (s : List Char) : Token ('\\' :: c :: s) s
  | lone : Token ['\\'] []
  | phrase {s text rest : List Char} (closed : closeQuote? s = some (text, rest)) : Token ('"' :: s) rest
  | range {s : List Char} {r : RangeParts} (range : IsRange s r) : Token s r.last

def Tokens : List Char → List Char → Prop := Relation.ReflTransGen Token

instance : Trans Tokens Tokens Tokens := ⟨Relation.ReflTransGen.trans⟩

namespace Tokens

variable {field : Option String} {s t u rest : List Char} {clause : Clause}

theorem refl (s : List Char) : Tokens s s := Relation.ReflTransGen.refl

theorem trans (first : Tokens s t) (second : Tokens t u) : Tokens s u := Relation.ReflTransGen.trans first second

theorem single (token : Token s t) : Tokens s t := Relation.ReflTransGen.single token

theorem cons {c : Char} (fine : isPlain c = true) (tokens : Tokens s t) : Tokens (c :: s) t :=
  Relation.ReflTransGen.head (.plain fine s) tokens

theorem append_of_plain (plain : u.all isPlain = true) (s : List Char) : Tokens (u ++ s) s := by
  induction u with
  | nil => exact refl s
  | cons c u ih =>
      rw [List.all_cons, Bool.and_eq_true] at plain
      exact cons plain.1 (ih plain.2)

theorem dropWhile {p : Char → Bool} (plain : ∀ c, p c = true → isPlain c = true) (s : List Char) :
    Tokens s (s.dropWhile p) := by
  have whole : s.takeWhile p ++ s.dropWhile p = s := List.takeWhile_append_dropWhile
  have taken : (s.takeWhile p).all isPlain = true := by
    apply List.all_eq_true.2
    intro c present
    exact plain c (List.all_eq_true.1 List.all_takeWhile c present)
  have front := append_of_plain taken (s.dropWhile p)
  rwa [whole] at front

theorem isPlain_of_isBlank {c : Char} (blank : isBlank c = true) : isPlain c = true := by
  simp only [isBlank, Bool.or_eq_true, beq_iff_eq] at blank
  rcases blank with ((rfl | rfl) | rfl) | rfl <;> decide

theorem isPlain_of_endsTerm {c : Char} (other : c ≠ '\\') (goes : endsTerm c = false) : isPlain c = true := by
  simp only [endsTerm, Bool.or_eq_false_iff, List.contains_cons, List.contains_nil, beq_eq_false_iff_ne] at goes
  simp [isPlain, other, goes]

theorem isPlain_of_isFieldChar {c : Char} (letter : isFieldChar c = true) : isPlain c = true :=
  isPlain_of_endsTerm (isFieldChar_ne letter (by decide)) (endsTerm_of_isFieldChar letter)

theorem isPlain_of_isDigit {c : Char} (digit : c.isDigit = true) : isPlain c = true := by
  apply isPlain_of_isFieldChar
  simp [isFieldChar, Char.isAlphanum, digit]

theorem skip (s : List Char) : Tokens s (skip s) := dropWhile (fun _ => isPlain_of_isBlank) s

theorem takeEscaped (s : List Char) : Tokens s (takeEscaped endsTerm s).2 := by
  fun_induction Lucene.takeEscaped endsTerm s with
  | case1 => exact refl []
  | case2 c rest taken left found ih => exact (single (.pair c rest)).trans (by rwa [found] at ih)
  | case3 c rest _ stops => exact refl (c :: rest)
  | case4 c rest notPair goes taken left found ih =>
      rw [found] at ih
      by_cases backslash : c = '\\'
      · subst backslash
        cases rest with
        | nil => exact (single .lone).trans ih
        | cons d rest => exact absurd rfl (notPair d rest rfl)
      · exact cons (isPlain_of_endsTerm backslash (by simpa using goes)) ih

theorem number? {digits : List Char} (found : number? s = some (digits, rest)) : Tokens s rest := by
  have front : Tokens s (s.dropWhile Char.isDigit) := dropWhile (fun _ => isPlain_of_isDigit) s
  simp only [Lucene.number?] at found
  split at found
  · cases found
  · split at found
    · rename_i after point
      rw [point] at front
      split at found
      · cases found
        rwa [point]
      · cases found
        have fraction : Tokens after (after.dropWhile Char.isDigit) :=
          dropWhile (fun _ => isPlain_of_isDigit) after
        exact front.trans (cons (by decide) fraction)
    · cases found
      exact front

theorem boost (s : List Char) : Tokens s (boost s).2 := by
  unfold Lucene.boost
  split
  · split
    · rename_i found
      exact cons (by decide) (number? found)
    · exact refl _
  · exact refl _

theorem slop (s : List Char) : Tokens s (slop s).2 := by
  unfold Lucene.slop
  split
  · split
    · rename_i found
      exact cons (by decide) (number? found)
    · exact refl _
  · exact refl _

theorem fuzziness (s : List Char) : Tokens s (fuzziness s).2 := by
  unfold Lucene.fuzziness
  split
  · split
    · rename_i found
      exact cons (by decide) (number? found)
    · exact cons (by decide) (refl _)
  · exact refl _

theorem word? {words : List (List Char)} (plain : (words.all fun word => word.all isPlain) = true)
    (found : word? words s = some rest) : Tokens s rest := by
  obtain ⟨word, listed, rfl, -⟩ := eq_of_word? found
  exact append_of_plain (List.all_eq_true.1 plain word listed) rest

theorem everything? (found : everything? s = some (clause, rest)) : Tokens s rest := by
  unfold Lucene.everything? at found
  split at found
  · cases found
    exact append_of_plain (u := ['*', ':', '*']) rfl rest
  · cases found

theorem fieldName? {name : String} (found : fieldName? s = some (name, rest)) : Tokens s rest := by
  have letters : Tokens s (s.dropWhile isFieldChar) := dropWhile (fun _ => isPlain_of_isFieldChar) s
  simp only [Lucene.fieldName?] at found
  split at found
  · cases found
  · split at found
    · rename_i after colon
      cases found
      have blanks := letters.trans (skip _)
      rw [colon] at blanks
      exact blanks.trans (cons (by decide) (skip after))
    · cases found

theorem range? (found : range? field s = some (clause, rest)) : Tokens s rest := by
  obtain ⟨r, range, -, rfl⟩ := range?_eq_some_iff.1 found
  exact (single (.range range)).trans ((skip r.last).trans (boost _))

theorem phrase? (found : phrase? field s = some (clause, rest)) : Tokens s rest := by
  obtain ⟨inside, text, after, rfl, closed, -, rfl⟩ := phrase?_eq_some_iff.1 found
  exact (single (.phrase closed)).trans ((slop after).trans (boost _))

theorem term? (found : term? field s = some (clause, rest)) : Tokens s rest := by
  have taken := takeEscaped s
  unfold Lucene.term? at found
  split at found
  · cases found
  · split at found
    · cases found
    · rename_i term after _ whole
      cases found
      rw [whole] at taken
      exact taken.trans ((fuzziness after).trans (boost _))

theorem andNext (s : List Char) : Tokens s (andNext s) := by
  unfold Lucene.andNext
  cases found : Lucene.word? andWords (Lucene.skip s) with
  | none => exact skip s
  | some next => exact (skip s).trans ((word? rfl found).trans (skip next))

theorem negated (word : Lucene.word? notWords s = some rest) : Tokens s (Lucene.skip rest) :=
  (word? rfl word).trans (skip rest)

theorem alternative (word : Lucene.word? orWords (Lucene.skip s) = some rest) : Tokens s (Lucene.skip rest) :=
  (skip s).trans ((word? rfl word).trans (skip rest))

end Tokens

theorem length_andNext_le (s : List Char) : (andNext s).length ≤ s.length := by
  have blanks := length_skip_le s
  unfold andNext
  cases found : word? andWords (skip s) with
  | none => exact blanks
  | some next =>
      have letters := length_word?_le found
      have more := length_skip_le next
      rw [Option.map_some, Option.getD_some]
      omega

section

variable {field : Option String} {s after next : List Char} {clause : Clause} {clauses : List Clause}

theorem length_negated_lt (word : word? notWords s = some after) : (skip after).length < s.length := by
  obtain ⟨negation, listed, rfl, -⟩ := eq_of_word? word
  rw [List.mem_singleton.1 listed, List.length_append]
  exact Nat.lt_of_le_of_lt (length_skip_le after) (Nat.lt_add_of_pos_left (by decide))

theorem length_andNext_lt (first : readUnary? field s = some (clause, after)) :
    (andNext after).length < s.length :=
  Nat.lt_of_le_of_lt (length_andNext_le after) ((shortens _).unary first)

theorem length_alternative_lt (first : readAnds? field s = some (clauses, after))
    (word : word? orWords (skip after) = some next) : (skip next).length < s.length :=
  calc
    (skip next).length ≤ next.length := length_skip_le next
    _ ≤ (skip after).length := length_word?_le word
    _ ≤ after.length := length_skip_le after
    _ < s.length := (shortens _).ands first

end

/-- Each reading of a text takes whole tokens. -/
structure TakesTokens (s : List Char) : Prop where
  group : ∀ {field clause rest}, readGroup? field s = some (clause, rest) → Tokens s rest
  field : ∀ {clause rest}, readField? s = some (clause, rest) → Tokens s rest
  unary : ∀ {field clause rest}, readUnary? field s = some (clause, rest) → Tokens s rest
  ands : ∀ {field clauses rest}, readAnds? field s = some (clauses, rest) → Tokens s rest
  ors : ∀ {field clauses rest}, readOrs? field s = some (clauses, rest) → Tokens s rest

namespace TakesTokens

variable {s : List Char}

theorem of_shorter (shorter : ∀ t : List Char, t.length < s.length → TakesTokens t) : TakesTokens s := by
  -- whatever is read within a clause begins behind a character of `s`, so `shorter` speaks of it
  have group : ∀ {field clause rest}, readGroup? field s = some (clause, rest) → Tokens s rest := by
    intro field clause rest found
    obtain ⟨inside, clauses, after, last, rfl, read, closed, -, rfl⟩ := readGroup?_eq_some_iff.1 found
    have less := Nat.lt_succ_of_le (length_skip_le inside)
    have behind : Tokens after (')' :: last) := closed ▸ Tokens.skip after
    calc
      Tokens ('(' :: inside) (skip inside) := .cons (by decide) (.skip inside)
      Tokens _ after := (shorter _ less).ors read
      Tokens _ (')' :: last) := behind
      Tokens _ (skip last) := .cons (by decide) (.skip last)
      Tokens _ (boost (skip last)).2 := .boost _
  have field : ∀ {clause rest}, readField? s = some (clause, rest) → Tokens s rest := by
    intro clause rest found
    obtain ⟨name, after, named, operand⟩ := readField?_eq_some_iff.1 found
    apply (Tokens.fieldName? named).trans
    rcases readOperand?_eq_some_iff.1 operand with group | range | phrase | term
    · exact (shorter after (length_fieldName?_lt named)).group group
    · exact Tokens.range? range
    · exact Tokens.phrase? phrase
    · exact Tokens.term? term
  have unary : ∀ {field clause rest}, readUnary? field s = some (clause, rest) → Tokens s rest := by
    intro _ clause rest found
    rcases readUnary?_eq_some_iff.1 found with
      ⟨after, inner, word, read, -⟩ | everything | grouped | named | range | phrase | ⟨-, -, term⟩
    · exact (Tokens.negated word).trans ((shorter _ (length_negated_lt word)).unary read)
    · exact Tokens.everything? everything
    · exact group grouped
    · exact field named
    · exact Tokens.range? range
    · exact Tokens.phrase? phrase
    · exact Tokens.term? term
  have ands : ∀ {field clauses rest}, readAnds? field s = some (clauses, rest) → Tokens s rest := by
    intro _ clauses rest found
    obtain ⟨clause, after, first, ⟨others, more, -⟩ | ⟨-, -, rfl⟩⟩ := readAnds?_cases found
    · exact ((unary first).trans (.andNext after)).trans ((shorter _ (length_andNext_lt first)).ands more)
    · exact unary first
  refine ⟨group, field, unary, ands, ?_⟩
  intro _ clauses rest found
  obtain ⟨chain, after, first, ⟨next, others, word, more, -⟩ | ⟨-, -, rfl⟩⟩ := readOrs?_cases found
  · have less := length_alternative_lt first word
    exact ((ands first).trans (.alternative word)).trans ((shorter _ less).ors more)
  · exact ands first

end TakesTokens

theorem takesTokens (s : List Char) : TakesTokens s := by
  generalize length : s.length = n
  induction n using Nat.strongRecOn generalizing s with
  | ind n ih =>
      apply TakesTokens.of_shorter
      intro t less
      exact ih t.length (length ▸ less) t rfl

end RecordSearch.Lucene
