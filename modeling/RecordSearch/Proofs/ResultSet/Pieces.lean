import RecordSearch.Proofs.Text.Split
import RecordSearch.ResultSet.Basic

namespace RecordSearch

namespace Text

open Unicode (isBlank)

/-- The words of a text, each as long as it can be, between characters that are blank. -/
inductive Separated : List Char → List (List Char) → Prop where
  | nil : Separated [] []
  | blank {c : Char} {s : List Char} {words : List (List Char)} : isBlank c = true → Separated s words →
      Separated (c :: s) words
  | word {word s : List Char} {words : List (List Char)} : word ≠ [] → (∀ c ∈ word, isBlank c = false) →
      (∀ c ∈ s.head?, isBlank c = true) → Separated s words → Separated (word ++ s) (word :: words)

theorem blankSeparated_blank {c : Char} (blank : isBlank c = true) (s : List Char) :
    blankSeparated (c :: s) = blankSeparated s := by
  rw [blankSeparated, splitWhere, if_pos blank, List.filter_cons_of_neg (by decide)]
  rfl

theorem splitWhere_append {p : Char → Bool} {word s : List Char} (solid : ∀ c ∈ word, p c = false)
    {run : List Char} {runs : List (List Char)} (rest : splitWhere p s = run :: runs) :
    splitWhere p (word ++ s) = (word ++ run) :: runs := by
  induction word with
  | nil => exact rest
  | cons c word ih =>
      have inner := ih fun d there => solid d (List.mem_cons_of_mem c there)
      rw [List.cons_append, splitWhere, solid c List.mem_cons_self, if_neg Bool.false_ne_true]
      simp only [inner, List.cons_append]

theorem blankSeparated_word {word s : List Char} (present : word ≠ [])
    (solid : ∀ c ∈ word, isBlank c = false) (ends : ∀ c ∈ s.head?, isBlank c = true) :
    blankSeparated (word ++ s) = word :: blankSeparated s := by
  have filled : (!word.isEmpty) = true := by
    rw [List.isEmpty_eq_false_iff.2 present]
    rfl
  cases s with
  | nil =>
      have rest : splitWhere isBlank [] = [[]] := rfl
      rw [blankSeparated, splitWhere_append solid rest, List.append_nil,
        List.filter_cons_of_pos (by exact filled)]
      rfl
  | cons c s =>
      have blank : isBlank c = true := ends c rfl
      have rest : splitWhere isBlank (c :: s) = [] :: splitWhere isBlank s := by
        rw [splitWhere, if_pos blank]
      rw [blankSeparated_blank blank, blankSeparated, splitWhere_append solid rest, List.append_nil,
        List.filter_cons_of_pos (by exact filled)]
      rfl

theorem separated_blankSeparated : ∀ s : List Char, Separated s (blankSeparated s)
  | [] => .nil
  | c :: s => by
      cases start : isBlank c with
      | true =>
          rw [blankSeparated_blank start]
          exact .blank start (separated_blankSeparated s)
      | false =>
          -- the word goes on until the first blank
          have solid : ∀ d ∈ c :: s.takeWhile (fun d => !isBlank d), isBlank d = false := by
            intro d there
            rcases List.mem_cons.1 there with rfl | later
            · exact start
            · have goes := List.all_eq_true.1 List.all_takeWhile d later
              rw [Bool.not_eq_true'] at goes
              exact goes
          have ends : ∀ d ∈ (s.dropWhile fun d => !isBlank d).head?, isBlank d = true := by
            intro d first
            have stops := List.head?_dropWhile_not (fun d => !isBlank d) s
            rw [Option.mem_def.1 first] at stops
            simpa using stops
          have whole : c :: s =
              (c :: s.takeWhile fun d => !isBlank d) ++ s.dropWhile fun d => !isBlank d := by
            rw [List.cons_append, List.takeWhile_append_dropWhile]
          have rest := separated_blankSeparated (s.dropWhile fun d => !isBlank d)
          rw [whole, blankSeparated_word (List.cons_ne_nil _ _) solid ends]
          exact .word (List.cons_ne_nil _ _) solid ends rest
termination_by s => s.length
decreasing_by
  · exact Nat.lt_succ_of_le (List.dropWhile_suffix _).length_le
  · exact Nat.lt_succ_self _

theorem separated_iff {s : List Char} {words : List (List Char)} :
    Separated s words ↔ blankSeparated s = words := by
  constructor
  · intro separated
    induction separated with
    | nil => rfl
    | blank blank _ ih => rw [blankSeparated_blank blank, ih]
    | word present solid ends _ ih => rw [blankSeparated_word present solid ends, ih]
  · rintro rfl
    exact separated_blankSeparated s

end Text

namespace ResultSet

def isQuote (c : Char) : Bool := c = '"' || c = '\''

/-- The quoted phrases of a text, and the text with a blank in place of each. A quote opens a phrase where
it is closed by a quote like it. -/
inductive Quoted : List Char → List (List Char) → List Char → Prop where
  | nil : Quoted [] [] []
  | plain {c : Char} {s rest : List Char} {phrases : List (List Char)} :
      (isQuote c = true → c ∉ s) → Quoted s phrases rest → Quoted (c :: s) phrases (c :: rest)
  | phrase {c : Char} {phrase s rest : List Char} {phrases : List (List Char)} :
      isQuote c = true → c ∉ phrase → Quoted s phrases rest →
      Quoted (c :: (phrase ++ c :: s)) (phrase :: phrases) (' ' :: rest)

theorem cutPhrases_plain {c : Char} {s : List Char} (plain : isQuote c = true → c ∉ s) :
    cutPhrases (c :: s) = ((cutPhrases s).1, c :: (cutPhrases s).2) := by
  have opens : (if isQuote c = true then Text.splitFirst? [c] s else none) = none := by
    split
    · rename_i quote
      exact Text.splitFirst?_eq_none_iff.2 (plain quote)
    · rfl
  rw [cutPhrases]
  split
  · rename_i found
    cases opens.symm.trans found
  · rfl

theorem cutPhrases_phrase {c : Char} (quote : isQuote c = true) {phrase : List Char}
    (single : c ∉ phrase) (s : List Char) :
    cutPhrases (c :: (phrase ++ c :: s)) = (phrase :: (cutPhrases s).1, ' ' :: (cutPhrases s).2) := by
  have opens : (if isQuote c = true then Text.splitFirst? [c] (phrase ++ c :: s) else none) =
      some (phrase, s) := by
    rw [if_pos quote, Text.splitFirst?_append single]
  rw [cutPhrases]
  split
  · rename_i found
    cases opens.symm.trans found
    rfl
  · rename_i found
    cases opens.symm.trans found

theorem quoted_cutPhrases (s : List Char) : Quoted s (cutPhrases s).1 (cutPhrases s).2 := by
  induction s using cutPhrases.induct with
  | case1 =>
      rw [cutPhrases]
      exact .nil
  | case2 c s phrase after found phrases rest cut ih =>
      split at found
      · rename_i quote
        have whole := Text.eq_of_splitFirst? found
        have single := Text.not_mem_of_splitFirst? found
        rw [List.append_assoc, List.singleton_append] at whole
        rw [whole, cutPhrases_phrase quote single]
        exact .phrase quote single ih
      · cases found
  | case3 c s found phrases rest cut ih =>
      have plain : isQuote c = true → c ∉ s := by
        intro quote
        rw [dif_pos (by exact quote)] at found
        exact Text.splitFirst?_eq_none_iff.1 found
      rw [cutPhrases_plain plain]
      exact .plain plain ih

/-- A text is cut at its quotes in just one way. -/
theorem quoted_iff {s rest : List Char} {phrases : List (List Char)} :
    Quoted s phrases rest ↔ cutPhrases s = (phrases, rest) := by
  constructor
  · intro quoted
    induction quoted with
    | nil => rw [cutPhrases]
    | plain plain _ ih => rw [cutPhrases_plain plain, ih]
    | phrase quote single _ ih => rw [cutPhrases_phrase quote single, ih]
  · intro cut
    have quoted := quoted_cutPhrases s
    rw [cut] at quoted
    exact quoted

/-- What a part of a user's query asks for: that its text is there, or that it is not. -/
structure Piece where
  text : List Char
  excluded : Bool

namespace Piece

def phrase (text : List Char) : Piece := ⟨text, false⟩

def word : List Char → Piece
  | ['-'] => ⟨['-'], false⟩
  | '-' :: text => ⟨text, true⟩
  | text => ⟨text, false⟩

def condition (contentField : String) (piece : Piece) : Condition :=
  let lookup := Condition.lookup contentField (.text (String.ofList piece.text))
  if piece.excluded then lookup.inverted else lookup

theorem condition_word (contentField : String) (text : List Char) :
    (word text).condition contentField = wordCondition contentField text := by
  unfold word
  split
  · rfl
  · rename_i excluded present
    cases excluded with
    | nil => exact absurd rfl present
    | cons c excluded => rfl
  · rename_i alone dashed
    unfold wordCondition
    simp only
    rfl

end Piece

/-- The pieces of a user's query: its phrases, then the words that are left. -/
def IsCut (query : List Char) (pieces : List Piece) : Prop :=
  ∃ phrases rest words, Quoted query phrases rest ∧ Text.Separated rest words ∧
    pieces = phrases.map Piece.phrase ++ words.map Piece.word

theorem exists_isCut_iff (query : List Char) : ∃ pieces, ∀ other, IsCut query other ↔ other = pieces := by
  refine ⟨(cutPhrases query).1.map Piece.phrase ++
    (Text.blankSeparated (cutPhrases query).2).map Piece.word, ?_⟩
  intro other
  constructor
  · rintro ⟨phrases, rest, words, quoted, separated, rfl⟩
    rw [quoted_iff.1 quoted, Text.separated_iff.1 separated]
  · rintro rfl
    exact ⟨_, _, _, quoted_cutPhrases query, Text.separated_blankSeparated _, rfl⟩

theorem autoConditions_eq {contentField query : String} {pieces : List Piece}
    (cut : IsCut query.toList pieces) :
    autoConditions contentField query = pieces.map (Piece.condition contentField) := by
  obtain ⟨phrases, rest, words, quoted, separated, rfl⟩ := cut
  rw [autoConditions, quoted_iff.1 quoted]
  have words : ∀ word, wordCondition contentField word = (Piece.word word).condition contentField :=
    fun word => (Piece.condition_word contentField word).symm
  simp only [Text.separated_iff.1 separated, List.map_append, List.map_map, funext words]
  rfl

end ResultSet

end RecordSearch
