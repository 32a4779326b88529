import RecordSearch.Proofs.Query.Phrases
import RecordSearch.Proofs.Table.Proximity
import RecordSearch.Table.Checked

/-!
Scores for which every distance has to fit a machine word. There is one, and it is the score, unless a phrase
asks for a distance that is too long. A query asks for such a distance only by a phrase whose number comes
close to the greatest word: larger numbers are dropped when it is read.
-/

namespace RecordSearch

namespace Text

theorem length_words_le (s : List Char) : (words s).length ≤ s.length := by
  have nonempty : ∀ pieces : List (List Char),
      (pieces.filter fun piece => piece.any isAlphanumeric).length ≤ pieces.flatten.length := by
    intro pieces
    induction pieces with
    | nil => exact Nat.le_refl 0
    | cons piece rest ih =>
        rw [List.filter_cons, List.flatten_cons, List.length_append]
        split
        · rename_i word
          have filled : piece ≠ [] := by
            rintro rfl
            cases word
          have positive := List.length_pos_iff.2 filled
          rw [List.length_cons]
          omega
        · exact Nat.le_add_left_of_le ih
  have bound := nonempty (segments s)
  rw [flatten_segments] at bound
  rw [words, List.length_map]
  exact bound

end Text

/-- What was worked out is the right result, or it is missing, which has a fault for a reason. -/
def RightUnless {β : Type} (fault : Prop) (worked : Option β) (right : β) : Prop :=
  worked = some right ∨ worked = none ∧ fault

namespace RightUnless

variable {β γ : Type} {fault other : Prop} {worked : Option β} {right : β}

theorem of_right (fault : Prop) (right : β) : RightUnless fault (some right) right := .inl rfl

theorem map (either : RightUnless fault worked right) (f : β → γ) : RightUnless fault (worked.map f) (f right) := by
  rcases either with rfl | ⟨rfl, reason⟩
  · exact .inl rfl
  · exact .inr ⟨rfl, reason⟩

theorem mono (either : RightUnless fault worked right) (reason : fault → other) : RightUnless other worked right :=
  either.imp_right fun missing => ⟨missing.1, reason missing.2⟩

end RightUnless

namespace Clause

/-- A text whose first and last word may stand further apart than a machine word tells. -/
def IsTooWide (p : String × Nat) : Prop :=
  Text.words p.1.toList ≠ [] ∧ UInt64.size ≤ Match.spanLimit (Text.words p.1.toList) p.2

def HasTooWide (texts : List (String × Nat)) : Prop := ∃ p ∈ texts, IsTooWide p

theorem hasTooWide_append_iff {texts more : List (String × Nat)} :
    HasTooWide (texts ++ more) ↔ HasTooWide texts ∨ HasTooWide more := by
  simp only [HasTooWide, List.mem_append, or_and_right, exists_or]

end Clause

namespace Match

open Clause (IsTooWide HasTooWide)

theorem containsWords?_eq_none_iff {words needle : List (List Char)} {slop : Nat} :
    containsWords? words needle slop = none ↔ needle ≠ [] ∧ UInt64.size ≤ spanLimit needle slop := by
  unfold containsWords? spanLimit?
  split
  · rename_i empty
    exact iff_of_false nofun fun wide => wide.1 (List.isEmpty_iff.1 empty)
  · rename_i filled
    rw [List.isEmpty_iff] at filled
    split
    · rename_i short
      exact iff_of_false nofun fun wide => Nat.not_le.2 short wide.2
    · rename_i long
      exact iff_of_true rfl ⟨filled, Nat.not_lt.1 long⟩

theorem rightUnless_containsWords? (words needle : List (List Char)) (slop : Nat) :
    RightUnless (needle ≠ [] ∧ UInt64.size ≤ spanLimit needle slop) (containsWords? words needle slop)
      (containsWords words needle slop) := by
  cases worked : containsWords? words needle slop with
  | none => exact .inr ⟨rfl, containsWords?_eq_none_iff.1 worked⟩
  | some found =>
      unfold containsWords? spanLimit? at worked
      split at worked
      · rename_i empty
        rw [List.isEmpty_iff.1 empty, containsWords_nil]
        exact .inl worked.symm
      · split at worked
        · exact .inl worked.symm
        · cases worked

theorem equals?_text_eq_none_iff {s text : String} {slop : Nat} :
    equals? (.text s) text slop = none ↔
      Text.lower s.toList ≠ Text.lower text.toList ∧ IsTooWide (text, slop) := by
  rw [equals?]
  split
  · rename_i same
    exact iff_of_false nofun fun wide => wide.1 (beq_iff_eq.1 same)
  · rename_i other
    rw [containsWords?_eq_none_iff]
    exact ⟨fun wide => ⟨fun same => other (beq_iff_eq.2 same), wide⟩, And.right⟩

theorem rightUnless_equals? (v : Value) (text : String) (slop : Nat) :
    RightUnless (IsTooWide (text, slop)) (equals? v text slop) (equals v text slop) := by
  cases v with
  | text s =>
      rw [equals?, equals]
      split
      · rename_i same
        rw [same]
        exact .of_right _ _
      · rename_i other
        rw [Bool.not_eq_true] at other
        rw [other, Bool.false_or]
        exact rightUnless_containsWords? _ _ slop
  | _ => exact .of_right _ _

theorem rightUnless_scalar? (clause : Clause) (v : Value) :
    RightUnless (HasTooWide clause.phrases) (scalar? clause v) (scalar clause v) := by
  cases clause with
  | term field text =>
      exact (rightUnless_equals? v text 0).mono fun wide => ⟨(text, 0), List.mem_singleton_self _, wide⟩
  | phrase field text slop =>
      exact (rightUnless_equals? v text (slop.getD 0)).mono fun wide =>
        ⟨(text, slop.getD 0), List.mem_singleton_self _, wide⟩
  | _ => exact .of_right _ _

theorem rightUnless_anyScalar? (clause : Clause) (values : List Value) :
    RightUnless (HasTooWide clause.phrases) (anyScalar? clause values) (values.any (scalar clause)) := by
  induction values with
  | nil => exact .of_right _ _
  | cons v rest ih =>
      rw [anyScalar?, List.any_cons]
      rcases rightUnless_scalar? clause v with right | ⟨missing, wide⟩
      · rw [right]
        cases scalar clause v with
        | true => exact .of_right _ _
        | false => exact ih
      · rw [missing]
        exact .inr ⟨rfl, wide⟩

theorem anyScalar?_singleton (clause : Clause) (v : Value) : anyScalar? clause [v] = scalar? clause v := by
  rw [anyScalar?]
  cases scalar? clause v with
  | none => rfl
  | some matched => cases matched <;> rfl

theorem rightUnless_value? (clause : Clause) (v : Value) :
    RightUnless (HasTooWide clause.phrases) (value? clause v) (value clause v) := by
  cases clause with
  | range field lower upper lowerIncluded upperIncluded =>
      cases lower with
      | some lower => exact rightUnless_anyScalar? _ v.scalars
      | none =>
          cases upper with
          | some upper => exact rightUnless_anyScalar? _ v.scalars
          | none => exact .of_right _ _
  | _ => exact rightUnless_anyScalar? _ v.scalars

end Match

namespace Clause

variable {contentField : String} {r : Row}

theorem rightUnless_leaf (clause : Clause) (field : Option String) :
    RightUnless (HasTooWide clause.phrases)
      (match r.searched? contentField field with
        | some v => (Match.value? clause v).map fun matched => if matched then some (1 : Float) else none
        | none => some none)
      (match r.searched? contentField field with
        | some v => if Match.value clause v then some (1 : Float) else none
        | none => none) := by
  cases r.searched? contentField field with
  | none => exact .of_right _ _
  | some v => exact (Match.rightUnless_value? clause v).map fun matched => if matched then some (1 : Float) else none

mutual

/-- The score of a row is worked out, unless a text of the query is too wide. -/
theorem rightUnless_score? (clause : Clause) :
    RightUnless (HasTooWide clause.phrases) (clause.score? contentField r) (clause.score contentField r) := by
  cases clause with
  | all => exact .of_right _ _
  | and clauses => exact rightUnless_scoreAll? clauses (clauses.all isBoost) 0
  | or clauses => exact rightUnless_scoreAny? clauses none
  | not clause =>
      rw [score?, score]
      rcases rightUnless_score? clause with right | ⟨missing, wide⟩
      · rw [right]
        cases clause.score contentField r <;> exact .of_right _ _
      · rw [missing]
        exact .inr ⟨rfl, wide⟩
  | boost clause factor => exact (rightUnless_score? clause).map fun points => points.map (· * factor)
  | term field text => exact rightUnless_leaf _ field
  | wildcard field pattern => exact rightUnless_leaf _ field
  | fuzzy field term maxEdits => exact rightUnless_leaf _ field
  | phrase field text slop => exact rightUnless_leaf _ field
  | range field lower upper lowerIncluded upperIncluded => exact rightUnless_leaf _ field

theorem rightUnless_scoreAll? (clauses : List Clause) (strict : Bool) (total : Float) :
    RightUnless (HasTooWide (phrasesAll clauses)) (scoreAll? contentField r strict total clauses)
      (scoreAll contentField r strict total clauses) := by
  cases clauses with
  | nil => exact .of_right _ _
  | cons clause rest =>
      have others : ∀ total, RightUnless (HasTooWide (clause.phrases ++ phrasesAll rest))
          (scoreAll? contentField r strict total rest) (scoreAll contentField r strict total rest) :=
        fun total => (rightUnless_scoreAll? rest strict total).mono fun wide => hasTooWide_append_iff.2 (.inr wide)
      rw [scoreAll?, scoreAll]
      rcases rightUnless_score? clause with right | ⟨missing, wide⟩
      · rw [right]
        cases clause.score contentField r with
        | some points => exact others (total + points)
        | none =>
            simp only
            split
            · exact others total
            · exact .of_right _ _
      · rw [missing]
        exact .inr ⟨rfl, hasTooWide_append_iff.2 (.inl wide)⟩

theorem rightUnless_scoreAny? (clauses : List Clause) (total : Option Float) :
    RightUnless (HasTooWide (phrasesAll clauses)) (scoreAny? contentField r total clauses)
      (scoreAny contentField r total clauses) := by
  cases clauses with
  | nil => exact .of_right _ _
  | cons clause rest =>
      have others : ∀ total, RightUnless (HasTooWide (clause.phrases ++ phrasesAll rest))
          (scoreAny? contentField r total rest) (scoreAny contentField r total rest) :=
        fun total => (rightUnless_scoreAny? rest total).mono fun wide => hasTooWide_append_iff.2 (.inr wide)
      unfold scoreAny? scoreAny
      rcases rightUnless_score? clause with right | ⟨missing, wide⟩
      · rw [right]
        exact others _
      · rw [missing]
        exact .inr ⟨rfl, hasTooWide_append_iff.2 (.inl wide)⟩

end

theorem isTooWide_iff {text : String} {slop : Nat} :
    IsTooWide (text, slop) ↔
      Text.words text.toList ≠ [] ∧ UInt64.size < (Text.words text.toList).length + slop := by
  change Text.words text.toList ≠ [] ∧ UInt64.size ≤ (Text.words text.toList).length - 1 + slop ↔ _
  constructor
  · rintro ⟨filled, wide⟩
    have positive := List.length_pos_iff.2 filled
    exact ⟨filled, by omega⟩
  · rintro ⟨filled, wide⟩
    exact ⟨filled, by omega⟩

/-- A phrase by itself is too wide for a text just if it is not the whole of it. -/
theorem score?_phrase_eq_none_iff {field : Option String} {text content : String} {slop : Option Nat}
    (found : r.searched? contentField field = some (.text content)) :
    (phrase field text slop).score? contentField r = none ↔
      Text.lower content.toList ≠ Text.lower text.toList ∧ IsTooWide (text, slop.getD 0) := by
  have asked : (phrase field text slop).score? contentField r =
      (Match.value? (phrase field text slop) (.text content)).map fun matched =>
        if matched then some 1 else none := by
    rw [score?, found]
  have alone : Match.value? (phrase field text slop) (.text content) =
      Match.equals? (.text content) text (slop.getD 0) :=
    Match.anyScalar?_singleton (phrase field text slop) (.text content)
  rw [asked, Option.map_eq_none_iff, alone, Match.equals?_text_eq_none_iff]

/-- The score of a row is worked out, or a text that the query asks for is too wide. Only a number close to the
greatest word makes one so wide, as there are no more words than the query has characters and larger numbers
are dropped. A phrase by itself that is so wide has no score for any text but its own. -/
theorem score?_of_read {query : String} {clause : Clause} (read : Lucene.read query = .ok clause) :
    (∀ p ∈ clause.phrases, (Text.words p.1.toList).length ≤ query.length ∧ p.2 < UInt64.size) ∧
    (∀ contentField r, clause.score? contentField r = some (clause.score contentField r) ∨
      clause.score? contentField r = none ∧
        ∃ p ∈ clause.phrases, UInt64.size < (Text.words p.1.toList).length + p.2) ∧
    ∀ contentField r field text slop content, clause = phrase field text slop →
      r.searched? contentField field = some (.text content) →
        (clause.score? contentField r = none ↔
          Text.lower content.toList ≠ Text.lower text.toList ∧ Text.words text.toList ≠ [] ∧
            UInt64.size < (Text.words text.toList).length + slop.getD 0) := by
  refine ⟨?_, ?_, ?_⟩
  · intro p listed
    obtain ⟨short, small⟩ := Lucene.keepsTo_read read p listed
    have words := Text.length_words_le p.1.toList
    rw [String.length_toList] at words
    exact ⟨Nat.le_trans words short, small⟩
  · intro contentField r
    refine (rightUnless_score? clause).mono ?_
    rintro ⟨p, listed, wide⟩
    exact ⟨p, listed, (isTooWide_iff.1 wide).2⟩
  · rintro contentField r field text slop content rfl found
    rw [score?_phrase_eq_none_iff found, isTooWide_iff]

def sideBySide : Clause := phrase none "a b" (some 18446744073709551615)

def apart : Row := ⟨"app.note.1", "app.note", "text", .ofList [("text", .text "a x b")], .empty⟩

def asked? : Clause → Option (Option String × String × Option Nat)
  | phrase field text slop => some (field, text, slop)
  | _ => none

theorem eq_phrase_of_asked? {clause : Clause} {field : Option String} {text : String} {slop : Option Nat}
    (asked : clause.asked? = some (field, text, slop)) : clause = phrase field text slop := by
  cases clause with
  | phrase => cases asked; rfl
  | _ => cases asked

theorem read_sideBySide : Lucene.read "\"a b\"~18446744073709551615" = .ok sideBySide := by
  have asked : (Lucene.read "\"a b\"~18446744073709551615").toOption.bind asked? =
      some (none, "a b", some 18446744073709551615) := by decide +kernel
  obtain ⟨clause, read, phrase⟩ := Option.bind_eq_some_iff.1 asked
  cases outcome : Lucene.read "\"a b\"~18446744073709551615" with
  | error e =>
      rw [outcome] at read
      cases read
  | ok found =>
      rw [outcome] at read
      cases read
      rw [eq_phrase_of_asked? phrase, sideBySide]

theorem score?_sideBySide : sideBySide.score? "text" apart = none := by
  have found : apart.searched? "text" none = some (.text "a x b") := by with_unfolding_all rfl
  have two : (Text.words "a b".toList).length = 2 := by decide
  have filled : Text.words "a b".toList ≠ [] := List.length_pos_iff.1 (by rw [two]; exact Nat.two_pos)
  refine (score?_phrase_eq_none_iff found).2 ⟨by decide, isTooWide_iff.2 ⟨filled, ?_⟩⟩
  rw [two, Option.getD_some]
  decide

theorem score?_of_read_sideBySide :
    Lucene.read "\"a b\"~18446744073709551615" = .ok sideBySide ∧ sideBySide.score? "text" apart = none ∧
      ∃ p ∈ sideBySide.phrases, UInt64.size < (Text.words p.1.toList).length + p.2 := by
  obtain ⟨-, worked, -⟩ := score?_of_read read_sideBySide
  refine ⟨read_sideBySide, score?_sideBySide, ?_⟩
  rcases worked "text" apart with right | ⟨-, wide⟩
  · rw [score?_sideBySide] at right
    cases right
  · exact wide

/-- Two words with the greatest number behind them are read, and no score is worked out for them. -/
theorem not_score?_of_read :
    ¬ ∀ (query : String) (clause : Clause) (contentField : String) (r : Row), Lucene.read query = .ok clause →
      (∀ p ∈ clause.phrases, Match.spanLimit (Text.words p.1.toList) p.2 < UInt64.size) ∧
        clause.score? contentField r = some (clause.score contentField r) := by
  intro worked
  obtain ⟨-, right⟩ := worked _ sideBySide "text" apart read_sideBySide
  rw [score?_sideBySide] at right
  cases right

end Clause

end RecordSearch
