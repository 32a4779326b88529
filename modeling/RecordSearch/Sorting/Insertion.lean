namespace RecordSearch.Sorting

variable {α : Type}

/-- Puts `a` before the elements at the front that are greater; the list is in descending order. -/
def placeBehind (lt : α → α → Bool) (a : α) : List α → List α
  | [] => [a]
  | b :: rest => if lt a b then b :: placeBehind lt a rest else a :: b :: rest

def insertAll (lt : α → α → Bool) (front rest : List α) : List α :=
  (rest.foldl (fun placed a => placeBehind lt a placed) front.reverse).reverse

/-- The list in ascending order; elements of which none is less keep their order. -/
def sorted (lt : α → α → Bool) (s : List α) : List α := insertAll lt [] s

end RecordSearch.Sorting
