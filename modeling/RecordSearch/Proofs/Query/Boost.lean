import RecordSearch.Proofs.Decimal.Positional
import RecordSearch.Proofs.Query.Lookup
import RecordSearch.Table.Score

namespace RecordSearch.Lucene

open Decimal (Numeric)

/-- Text that is a term once it is escaped: neither empty, nor a keyword, nor cut by a blank. -/
def isWord (s : List Char) : Bool := !s.isEmpty && s.all (fun c => !isBlank c) && !keywords.contains s

section

variable {s k number : List Char} {x : Float}

theorem isWord_iff : isWord s = true ↔ s ≠ [] ∧ (∀ c ∈ s, isBlank c = false) ∧ s ∉ keywords := by
  simp [isWord, and_assoc]

theorem number?_numeric (numeric : Numeric number) : number? number = some (number, []) := by
  cases numeric with
  | whole present digits =>
      have parts := Decimal.span_digits (k := []) digits (by rintro c ⟨⟩)
      rw [List.append_nil] at parts
      simp [number?, parts.1, parts.2, present]
  | @fraction s t present digits decimal others =>
      have parts := Decimal.span_digits (k := '.' :: t) digits (by rintro c ⟨⟩; decide)
      have decimals := Decimal.span_digits (k := []) others (by rintro c ⟨⟩)
      rw [List.append_nil] at decimals
      simp [number?, parts.1, parts.2, decimals.1, decimals.2, present, decimal]

theorem stopped_caret (k : List Char) : Stopped endsTerm ('^' :: k) := by
  rintro c ⟨⟩
  decide

theorem word?_caret (words : List (List Char)) (plain : ∀ word ∈ words, '^' ∉ word) (s k : List Char) :
    word? words (s ++ '^' :: k) = (word? words s).map (· ++ '^' :: k) := by
  apply word?_append_of_stop rfl
  intro word listed c first
  cases first
  exact plain word listed

theorem word?_notWords_of_keywords (free : word? keywords s = none) : word? notWords s = none := by
  cases found : word? notWords s with
  | none => rfl
  | some rest =>
      obtain ⟨word, listed, rfl, ends⟩ := eq_of_word? found
      rw [List.mem_singleton.1 listed] at free
      change (if startsTerm rest then none else some rest) = none at free
      rw [ends] at free
      cases free

theorem word?_andWords_escape (word : isWord s = true) : word? andWords (escape s) = none := by
  obtain ⟨-, solid, free⟩ := isWord_iff.1 word
  have keyword := word?_keywords_escape solid free
  have guarded : Guarded (· == '&') (escape s) := by
    apply guarded_escape
    intro c _ unneeded
    rw [beq_eq_false_iff_ne]
    rintro rfl
    exact absurd unneeded (by decide)
  cases found : word? andWords (escape s) with
  | none => rfl
  | some rest =>
      obtain ⟨joined, listed, whole, ends⟩ := eq_of_word? found
      rw [whole] at keyword guarded
      simp only [andWords, List.mem_cons, List.not_mem_nil, or_false] at listed
      rcases listed with rfl | rfl
      · change (if startsTerm rest then none else some rest) = none at keyword
        rw [ends] at keyword
        cases keyword
      · exact absurd rfl (guarded.head_ne rfl (by decide))

def weighted (s number : List Char) : List Char := escape s ++ '^' :: number

theorem weighted_append (s number k : List Char) :
    weighted s number ++ k = escape s ++ '^' :: (number ++ k) := by
  simp [weighted]

theorem boost_numeric (numeric : Numeric number) (factor : Decimal.readFloat? number = some x)
    (follows : Follows k) : boost ('^' :: (number ++ k)) = (some x, k) := by
  have alone : boost ('^' :: number) = (some x, []) := by
    simp only [boost, number?_numeric numeric, factor]
  rw [← List.cons_append, follows.boost_append, alone]
  rfl

theorem term?_weighted (field : Option String) (word : isWord s = true) (numeric : Numeric number)
    (factor : Decimal.readFloat? number = some x) (follows : Follows k) :
    term? field (weighted s number ++ k) = some (.boost (.term field (String.ofList s)) x, k) := by
  obtain ⟨present, solid, free⟩ := isWord_iff.1 word
  have whole : ¬ (escape s = [] ∨ escape s ∈ keywords) := by
    rw [escape_eq_nil_iff, escape_mem_keywords_iff]
    exact not_or.2 ⟨present, free⟩
  have exact : fuzziness ('^' :: (number ++ k)) = (none, '^' :: (number ++ k)) := rfl
  rw [weighted_append, term?_append_of_stopped (guarded_endsTerm_escape solid) (stopped_caret _),
    if_neg whole, exact, boost_numeric numeric factor follows, termClause_escape]
  rfl

theorem fieldName?_weighted (word : isWord s = true) (k : List Char) :
    fieldName? (weighted s number ++ k) = none := by
  obtain ⟨-, solid, -⟩ := isWord_iff.1 word
  have after : ∀ rest, skip ((escape s ++ '^' :: (number ++ k)).dropWhile isFieldChar) ≠
      ':' :: rest := by
    intro rest start
    rw [List.dropWhile_append] at start
    split at start
    · have same : skip (('^' :: (number ++ k)).dropWhile isFieldChar) = '^' :: (number ++ k) := rfl
      rw [same] at start
      cases start
    · rename_i left
      have mark : Guarded isMark ((escape s).dropWhile isFieldChar) := (guarded_isMark_escape s).dropWhile rfl
      have blank : Guarded isBlank ((escape s).dropWhile isFieldChar) :=
        (guarded_isBlank_escape solid).dropWhile rfl
      cases back : (escape s).dropWhile isFieldChar with
      | nil => exact left (by rw [back]; rfl)
      | cons c others =>
          rw [back] at start mark blank
          have begins : isBlank c = false := by
            rcases blank.head_fine with rfl | fine
            · decide
            · exact fine
          rw [List.cons_append, skip_of_head begins] at start
          exact mark.head_ne rfl (by decide) (List.cons.inj start).1
  rw [weighted_append, fieldName?]
  simp only
  split
  · rfl
  · rfl

theorem readUnary?_weighted (field : Option String) (word : isWord s = true)
    (numeric : Numeric number) (factor : Decimal.readFloat? number = some x) (follows : Follows k) :
    readUnary? field (weighted s number ++ k) =
      some (.boost (.term field (String.ofList s)) x, k) := by
  obtain ⟨present, solid, free⟩ := isWord_iff.1 word
  have negation : word? notWords (weighted s number ++ k) = none := by
    rw [weighted_append, word?_caret notWords (by decide),
      word?_notWords_of_keywords (word?_keywords_escape solid free)]
    rfl
  have star : Guarded (· == '*') (escape s) := by
    apply guarded_escape
    intro c _ unneeded
    rw [beq_eq_false_iff_ne]
    rintro rfl
    exact absurd unneeded (by decide)
  have mark := guarded_isMark_escape s
  rw [readUnary?_eq, negation, readField?_eq, fieldName?_weighted word,
    term?_weighted field word numeric factor follows]
  rw [weighted_append]
  cases escaped : escape s with
  | nil =>
      have empty : unescape (escape s) = s := unescape_escapeWhere rfl s
      rw [escaped] at empty
      exact absurd empty.symm present
  | cons c after =>
      rw [escaped] at star mark
      rw [List.cons_append, everything?_of_ne (star.head_ne rfl (by decide)),
        readGroup?_of_ne (mark.head_ne rfl (by decide)),
        range?_of_ne (mark.head_ne rfl (by decide)) (mark.head_ne rfl (by decide)),
        phrase?_of_ne (mark.head_ne rfl (by decide))]
      rfl

theorem head_weighted (word : isWord s = true) (number : List Char) :
    ∃ c t, weighted s number = c :: t ∧ isBlank c = false ∧ c ≠ ':' ∧ c ≠ '^' := by
  obtain ⟨-, solid, -⟩ := isWord_iff.1 word
  have blank := guarded_isBlank_escape solid
  have mark := guarded_isMark_escape s
  rw [weighted]
  cases escaped : escape s with
  | nil =>
      have whole : unescape (escape s) = s := unescape_escapeWhere rfl s
      rw [escaped] at whole
      exact absurd whole.symm (isWord_iff.1 word).1
  | cons c after =>
      rw [escaped] at blank mark
      refine ⟨c, after ++ '^' :: number, rfl, ?_, mark.head_ne rfl (by decide),
        mark.head_ne rfl (by decide)⟩
      rcases blank.head_fine with rfl | fine
      · decide
      · exact fine

end

structure Weighs (p : List Char) (clause : Clause) : Prop where
  reads : ∀ k, Follows k → readUnary? none (p ++ k) = some (clause, k)
  unjoined : ∀ k, word? andWords (p ++ k) = none
  head : ∃ c t, p = c :: t ∧ isBlank c = false ∧ c ≠ ':' ∧ c ≠ '^'
  isBoost : clause.isBoost = true

theorem exists_weighs {s number : List Char} (word : isWord s = true) (numeric : Numeric number) :
    ∃ clause, Weighs (weighted s number) clause := by
  obtain ⟨x, factor⟩ := Option.isSome_iff_exists.1 (Decimal.readFloat?_numeric numeric)
  refine ⟨.boost (.term none (String.ofList s)) x, ?_, ?_, head_weighted word number, rfl⟩
  · intro k follows
    exact readUnary?_weighted none word numeric factor follows
  · intro k
    rw [weighted_append, word?_caret andWords (by decide), word?_andWords_escape word]
    rfl

section

variable {part : List Char × Clause} {parts : List (List Char × Clause)}

def spaced (parts : List (List Char × Clause)) : List Char := [' '].intercalate (parts.map Prod.fst)

theorem spaced_cons (part next : List Char × Clause) (parts : List (List Char × Clause)) :
    spaced (part :: next :: parts) = part.1 ++ ' ' :: spaced (next :: parts) := by
  simp [spaced, List.intercalate_cons_cons]

theorem exists_spaced_eq_append (part : List Char × Clause) (parts : List (List Char × Clause)) :
    ∃ k, spaced (part :: parts) = part.1 ++ k := by
  cases parts with
  | nil => exact ⟨[], by simp [spaced]⟩
  | cons next parts => exact ⟨_, spaced_cons part next parts⟩

theorem skip_spaced (weighs : Weighs part.1 part.2) (parts : List (List Char × Clause)) :
    skip (' ' :: spaced (part :: parts)) = spaced (part :: parts) := by
  obtain ⟨k, front⟩ := exists_spaced_eq_append part parts
  obtain ⟨c, t, start, solid, -, -⟩ := weighs.head
  rw [front, start]
  exact skip_of_head solid _

theorem follows_spaced (weighs : Weighs part.1 part.2) (parts : List (List Char × Clause)) :
    Follows (' ' :: spaced (part :: parts)) := by
  constructor
  · rintro c ⟨⟩
    exact Or.inl rfl
  · obtain ⟨k, front⟩ := exists_spaced_eq_append part parts
    obtain ⟨c, t, start, -, colon, caret⟩ := weighs.head
    rw [skip_spaced weighs, front, start]
    rintro d ⟨⟩
    exact ⟨colon, caret⟩

theorem word?_andWords_spaced (weighs : Weighs part.1 part.2) (parts : List (List Char × Clause)) :
    word? andWords (spaced (part :: parts)) = none := by
  obtain ⟨k, front⟩ := exists_spaced_eq_append part parts
  rw [front]
  exact weighs.unjoined k

theorem readAnds?_spaced (weigh : ∀ p ∈ part :: parts, Weighs p.1 p.2) :
    readAnds? none (spaced (part :: parts)) = some ((part :: parts).map Prod.snd, []) := by
  induction parts generalizing part with
  | nil =>
      have found := (weigh part List.mem_cons_self).reads [] follows_nil
      have only : spaced [part] = part.1 ++ [] := by simp [spaced]
      rw [only, readAnds?_eq, found]
      rfl
  | cons next parts ih =>
      have second := weigh next (List.mem_cons_of_mem part List.mem_cons_self)
      have found := (weigh part List.mem_cons_self).reads _ (follows_spaced second parts)
      have others := ih fun p listed => weigh p (List.mem_cons_of_mem part listed)
      rw [spaced_cons, readAnds?_eq, found]
      simp only [skip_spaced second, word?_andWords_spaced second, Option.map_none,
        Option.getD_none, others]
      rfl

/-- A clause with weighted words behind it is read as the clause joined with them. -/
theorem readChars?_weighted {p : List Char} {clause : Clause} (stands : StandsFor p clause)
    (weigh : ∀ p ∈ part :: parts, Weighs p.1 p.2) :
    readChars? (p ++ ' ' :: spaced (part :: parts)) =
      some (.and (clause :: (part :: parts).map Prod.snd)) := by
  have first := weigh part List.mem_cons_self
  obtain ⟨rest, found, left⟩ := stands.reads _ (follows_spaced first parts)
  rw [skip_spaced first] at left
  have ands : readAnds? none (p ++ ' ' :: spaced (part :: parts)) =
      some (clause :: (part :: parts).map Prod.snd, []) := by
    rw [readAnds?_eq, found]
    simp only [left, word?_andWords_spaced first, Option.map_none, Option.getD_none,
      readAnds?_spaced weigh]
  rw [readChars?_eq, stands.skip_append, readOrs?_eq, ands]
  rfl

end

end RecordSearch.Lucene

namespace RecordSearch.Clause

variable {contentField : String} {r : Row}

theorem isSome_scoreAll_boosts {clauses : List Clause}
    (weighted : ∀ clause ∈ clauses, clause.isBoost = true) (total : Float) :
    (scoreAll contentField r false total clauses).isSome = true := by
  induction clauses generalizing total with
  | nil => rfl
  | cons clause rest ih =>
      have others := ih fun other listed => weighted other (List.mem_cons_of_mem clause listed)
      rw [scoreAll]
      cases clause.score contentField r with
      | some points => exact others _
      | none =>
          rw [weighted clause List.mem_cons_self]
          exact others total

theorem accepts_weighted {clause : Clause} (plain : clause.isBoost = false) {clauses : List Clause}
    (weighted : ∀ other ∈ clauses, other.isBoost = true) :
    (and (clause :: clauses)).accepts contentField r = clause.accepts contentField r := by
  rw [accepts, accepts, score, List.all_cons, plain, Bool.false_and, scoreAll]
  cases clause.score contentField r with
  | some points => exact isSome_scoreAll_boosts weighted _
  | none =>
      rw [plain]
      rfl

end RecordSearch.Clause
