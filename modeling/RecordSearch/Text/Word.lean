import RecordSearch.Text.Case
import RecordSearch.Unicode.Alphabetic
import RecordSearch.Unicode.Number
import RecordSearch.Unicode.Pictographic
import RecordSearch.Unicode.WordBreak

/-! Words of a text, by the default word boundaries of Unicode. -/

namespace RecordSearch.Text

open Unicode

namespace Boundary

def isLetter (k : WordBreak) : Bool := k == .letter || k == .hebrewLetter

def isMidLetter (k : WordBreak) : Bool :=
  k == .midLetter || k == .midNumberLetter || k == .singleQuote

def isMidNumber (k : WordBreak) : Bool :=
  k == .midNumber || k == .midNumberLetter || k == .singleQuote

def isLineEnd (k : WordBreak) : Bool := k == .carriageReturn || k == .lineFeed || k == .newline

def isAttached (k : WordBreak) : Bool := k == .extend || k == .format || k == .joiner

/-- What the characters read so far say about the next boundary. -/
structure State where
  last : WordBreak
  base : WordBreak
  earlier : WordBreak
  /-- Whether an odd number of regional indicators ends here. -/
  oddRegional : Bool

def State.start (k : WordBreak) : State := ⟨k, k, .other, k == .regional⟩

/-- Whether a joiner ties the character to what precedes it, as in a pictograph made of several. -/
def State.ties (st : State) (c : Char) : Bool := st.last == .joiner && isPictographic c

/-- A tied pictograph counts as no letter, number or mark, whatever its class. -/
def State.next (st : State) (c : Char) : State :=
  let k := wordBreak c
  if isAttached k && !isLineEnd st.last then { st with last := k }
  else if st.ties c then .start .other
  else ⟨k, k, st.base, k == .regional && !(st.base == .regional && st.oddRegional)⟩

def nextBase (s : List Char) : WordBreak :=
  match s.dropWhile fun c => isAttached (wordBreak c) with
  | [] => .other
  | c :: _ => wordBreak c

def tiesAhead : List Char → Bool
  | a :: c :: rest =>
    isAttached (wordBreak a) &&
      ((wordBreak a == .joiner && isPictographic c) || tiesAhead (c :: rest))
  | _ => false

/-- Whether letters, digits and their inner punctuation hold together here. Punctuation is inner before a
letter or digit that suits it, or when a pictograph is tied to it. -/
def joinsBases (st : State) (k : WordBreak) (rest : List Char) : Bool :=
  (isLetter st.base && isLetter k) ||
  (isLetter st.base && isMidLetter k && (isLetter (nextBase rest) || tiesAhead rest)) ||
  (isLetter st.earlier && isMidLetter st.base && isLetter k) ||
  (st.base == .hebrewLetter && k == .singleQuote) ||
  (st.base == .hebrewLetter && k == .doubleQuote &&
    (nextBase rest == .hebrewLetter || tiesAhead rest)) ||
  (st.earlier == .hebrewLetter && st.base == .doubleQuote && k == .hebrewLetter) ||
  (st.base == .numeric && k == .numeric) ||
  (isLetter st.base && k == .numeric) ||
  (st.base == .numeric && isLetter k) ||
  (st.earlier == .numeric && isMidNumber st.base && k == .numeric) ||
  (st.base == .numeric && isMidNumber k && (nextBase rest == .numeric || tiesAhead rest)) ||
  (st.base == .katakana && k == .katakana) ||
  ((isLetter st.base || st.base == .numeric || st.base == .katakana || st.base == .connector) &&
    k == .connector) ||
  (st.base == .connector && (isLetter k || k == .numeric || k == .katakana)) ||
  (st.base == .regional && st.oddRegional && k == .regional)

def joins (st : State) (c : Char) (rest : List Char) : Bool :=
  let k := wordBreak c
  if st.last == .carriageReturn && k == .lineFeed then true
  else if isLineEnd st.last || isLineEnd k then false
  else if st.ties c then true
  else if st.last == .space && k == .space then true
  else if isAttached k then true
  else joinsBases st k rest

def segmentsFrom (st : State) (current : List Char) : List Char → List (List Char)
  | [] => [current.reverse]
  | c :: rest =>
    let next := st.next c
    if joins st c rest then segmentsFrom next (c :: current) rest
    else current.reverse :: segmentsFrom next [c] rest

end Boundary

def segments : List Char → List (List Char)
  | [] => []
  | c :: rest => Boundary.segmentsFrom (.start (wordBreak c)) [c] rest

theorem flatten_segments (s : List Char) : (segments s).flatten = s := by
  have open_segment : ∀ (rest current : List Char) (st : Boundary.State),
      (Boundary.segmentsFrom st current rest).flatten = current.reverse ++ rest := by
    intro rest
    induction rest with
    | nil => intro current st; simp [Boundary.segmentsFrom]
    | cons c rest ih =>
      intro current st
      simp only [Boundary.segmentsFrom]
      split <;> simp [ih]
  cases s with
  | nil => rfl
  | cons c rest => simp [segments, open_segment]

def isAlphanumeric (c : Char) : Bool := isAlphabetic c || isNumber c

def byteLength : List Char → Nat
  | [] => 0
  | c :: s => c.utf8Size + byteLength s

/-- Pieces of a text with the byte offsets at which they stand. -/
def withOffsets (offset : Nat) : List (List Char) → List (Nat × List Char)
  | [] => []
  | piece :: rest => (offset, piece) :: withOffsets (offset + byteLength piece) rest

def wordOffsets (s : List Char) : List (Nat × List Char) :=
  (withOffsets 0 (segments s)).filter fun piece => piece.2.any isAlphanumeric

def words (s : List Char) : List (List Char) :=
  ((segments s).filter fun piece => piece.any isAlphanumeric).map lower

end RecordSearch.Text
