import RecordSearch.Text.Case

namespace RecordSearch.Text

/-- Distances of a text with `a` appended, to the first texts of `b` after `left`. -/
def rowAfter (a : Char) (left : Nat) : List Char → List Nat → List Nat
  | b :: bs, diagonal :: above :: row =>
    let here := min (min (above + 1) (left + 1)) (diagonal + if a = b then 0 else 1)
    here :: rowAfter a here bs (above :: row)
  | _, _ => []

def nextRow (b : List Char) (row : List Nat) (a : Char) : List Nat :=
  match row with
  | [] => []
  | first :: _ => (first + 1) :: rowAfter a (first + 1) b row

def firstRow (b : List Char) : List Nat := List.range (b.length + 1)

def editDistance (a b : List Char) : Nat :=
  ((a.foldl (nextRow b) (firstRow b)).getLast?).getD 0

/-- Goes on as long as the row holds a distance within the bound. -/
def boundedRows (b : List Char) (bound : Nat) (row : List Nat) : List Char → Option (List Nat)
  | [] => some row
  | c :: a =>
    let next := nextRow b row c
    if next.any (· ≤ bound) then boundedRows b bound next a else none

/-- The edit distance, if it is within the bound. -/
def boundedEditDistance? (a b : List Char) (bound : Nat) : Option Nat :=
  if a.length - b.length > bound || b.length - a.length > bound then none
  else
    match boundedRows b bound (firstRow b) a with
    | none => none
    | some row =>
      let distance := row.getLast?.getD 0
      if distance ≤ bound then some distance else none

def defaultMaxEdits : Nat := 2

structure FuzzyTerm where
  term : List Char
  maxEdits : Nat
  deriving DecidableEq, Repr

def FuzzyTerm.of (text : List Char) (maxEdits : Nat) : FuzzyTerm := ⟨lower text, maxEdits⟩

def FuzzyTerm.accepts (fuzzy : FuzzyTerm) (candidate : List Char) : Bool :=
  (boundedEditDistance? fuzzy.term (lower candidate) fuzzy.maxEdits).isSome

end RecordSearch.Text
