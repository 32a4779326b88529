import RecordSearch.Sorting.Insertion

/-!
Sorting of short lists. The halves of a list are brought in order and merged from both ends at once. Where the
comparison is no order the ends may take an element twice and leave another one out; the sort breaks off then.
-/

namespace RecordSearch.Sorting

variable {α : Type}

/-- The first `n` elements of a merge, and how many of them come from the left. -/
def mergeFirst (leftFirst : α → α → Bool) : Nat → List α → List α → List α × Nat
  | n + 1, a :: left, b :: right =>
    if leftFirst a b then
      let (merged, taken) := mergeFirst leftFirst n left (b :: right)
      (a :: merged, taken + 1)
    else
      let (merged, taken) := mergeFirst leftFirst n (a :: left) right
      (b :: merged, taken)
  | _, _, _ => ([], 0)

/-- Each end takes as many elements as a half has. What neither takes stands between them, one element at most;
an element that both take is a fault. -/
def mergeHalves? (lt : α → α → Bool) (s : List α) : Option (List α) :=
  let half := s.length / 2
  let left := s.take half
  let right := s.drop half
  let (front, i) := mergeFirst (fun a b => !lt b a) half left right
  let (back, j) := mergeFirst (fun a b => lt b a) half left.reverse right.reverse
  let fromLeft := i + j
  let fromRight := (half - i) + (half - j)
  if fromLeft ≤ half ∧ fromRight ≤ right.length then
    some (front ++ (left.drop i).take (half - fromLeft) ++
      (right.drop (half - i)).take (right.length - fromRight) ++ back.reverse)
  else none

def sortPair (lt : α → α → Bool) (a b : α) : α × α := if lt b a then (b, a) else (a, b)

def sortFour (lt : α → α → Bool) : List α → List α
  | [v, w, x, y] =>
    let (a, b) := sortPair lt v w
    let (c, d) := sortPair lt x y
    let between (least other another greatest : α) : List α :=
      let (less, more) := sortPair lt other another
      [least, less, more, greatest]
    match lt c a, lt d b with
    | false, false => between a b c d
    | false, true => between a c d b
    | true, false => between c a b d
    | true, true => between c a d b
  | s => s

def sortEight? (lt : α → α → Bool) (s : List α) : Option (List α) :=
  mergeHalves? lt (sortFour lt (s.take 4) ++ sortFour lt (s.drop 4))

def presorted (length : Nat) : Nat := if 16 ≤ length then 8 else if 8 ≤ length then 4 else 1

def presort? (lt : α → α → Bool) (length : Nat) (s : List α) : Option (List α) :=
  if 16 ≤ length then sortEight? lt s else if 8 ≤ length then some (sortFour lt s) else some s

def sortHalf? (lt : α → α → Bool) (length : Nat) (s : List α) : Option (List α) :=
  (presort? lt length (s.take (presorted length))).map fun front =>
    insertAll lt front (s.drop (presorted length))

def sortShort? (lt : α → α → Bool) (s : List α) : Option (List α) :=
  if s.length < 2 then some s
  else do
    let half := s.length / 2
    let left ← sortHalf? lt s.length (s.take half)
    let right ← sortHalf? lt s.length (s.drop half)
    mergeHalves? lt (left ++ right)

end RecordSearch.Sorting
