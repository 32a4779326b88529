import RecordSearch.Sorting.Stable
import RecordSearch.Table.Row

namespace RecordSearch.Table

structure Scored where
  row : Row
  score : Float

/-- Order of values of any kinds: text, booleans, numbers and dates by what they are, other pairs as
they are displayed. -/
def compareValues (a b : Value) : Ordering :=
  match a, b with
  | .text x, .text y => compare x y
  | .boolean x, .boolean y => compare x y
  | a, b =>
    match a.float?, b.float? with
    | some x, some y => (Match.compareFloats? x y).getD .eq
    | _, _ =>
      match a.dateTime?, b.dateTime? with
      | some x, some y => compare x y
      | _, _ => compare a.display b.display

def sortKey (key : String) : String × Bool :=
  match key.toList with
  | '-' :: name => (String.ofList name, true)
  | _ => (key, false)

/-- Rows without the field come last in either direction. -/
def compareBy (key : String) (a b : Row) : Ordering :=
  let (name, descending) := sortKey key
  match a.value? name, b.value? name with
  | some x, some y => if descending then compareValues y x else compareValues x y
  | some _, none => .lt
  | none, some _ => .gt
  | none, none => .eq

def compareRows (keys : List String) (a b : Row) : Ordering :=
  match keys with
  | [] => .eq
  | key :: keys => (compareBy key a b).then (compareRows keys a b)

/-- Sorts by the keys, or without any by score, the greatest first. Values of several kinds under one key stand in
no order; sorting more than a few rows by them may break off. -/
def sortMatches? (sortBy : List String) (rows : List Scored) : Option (List Scored) :=
  if sortBy.isEmpty then
    Sorting.stable? (fun a b => Match.compareFloats? b.score a.score == some .lt) rows
  else Sorting.stable? (fun a b => compareRows sortBy a.row b.row == .lt) rows

/-- The rows in order. Where sorting breaks off there are none, and a search breaks off with it; a total function
has to leave them as they stand. -/
def sortMatches (sortBy : List String) (rows : List Scored) : List Scored :=
  (sortMatches? sortBy rows).getD rows

end RecordSearch.Table
