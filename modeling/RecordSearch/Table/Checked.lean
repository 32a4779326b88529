import RecordSearch.Table.Score

/-! Scores for which every distance has to fit a machine word. Where one does not, there is no result. -/

namespace RecordSearch

namespace Match

def spanLimit? (needle : List (List Char)) (slop : Nat) : Option Nat :=
  if spanLimit needle slop < UInt64.size then some (spanLimit needle slop) else none

/-- The limit is worked out for every needle that has a word. -/
def containsWords? (words needle : List (List Char)) (slop : Nat) : Option Bool :=
  if needle.isEmpty then some false
  else (spanLimit? needle slop).map fun _ => containsWords words needle slop

def equals? (v : Value) (text : String) (slop : Nat) : Option Bool :=
  match v with
  | .text s =>
    if Text.lower s.toList == Text.lower text.toList then some true
    else containsWords? (Text.words s.toList) (Text.words text.toList) slop
  | v => some (equals v text slop)

def scalar? (clause : Clause) (v : Value) : Option Bool :=
  match clause with
  | .term _ text => equals? v text 0
  | .phrase _ text slop => equals? v text (slop.getD 0)
  | clause => some (scalar clause v)

/-- Whether one of the values matches; those after it are not looked at. -/
def anyScalar? (clause : Clause) : List Value → Option Bool
  | [] => some false
  | v :: rest =>
    match scalar? clause v with
    | none => none
    | some true => some true
    | some false => anyScalar? clause rest

def value? (clause : Clause) (v : Value) : Option Bool :=
  match clause with
  | .range _ none none _ _ => some true
  | clause => anyScalar? clause v.scalars

end Match

namespace Clause

mutual

def score? (contentField : String) (r : Row) : Clause → Option (Option Float)
  | all => some (some 1)
  | and clauses => scoreAll? contentField r (clauses.all isBoost) 0 clauses
  | or clauses => scoreAny? contentField r none clauses
  | not clause =>
    match score? contentField r clause with
    | none => none
    | some (some _) => some none
    | some none => some (some 0)
  | boost clause factor => (score? contentField r clause).map fun points => points.map (· * factor)
  | clause@(term field _) | clause@(wildcard field _) | clause@(fuzzy field _ _)
  | clause@(phrase field _ _) | clause@(range field _ _ _ _) =>
    match r.searched? contentField field with
    | some v => (Match.value? clause v).map fun matched => if matched then some 1 else none
    | none => some none

/-- Clauses behind one that has to match and does not are not looked at. -/
def scoreAll? (contentField : String) (r : Row) (strict : Bool) (total : Float) :
    List Clause → Option (Option Float)
  | [] => some (some total)
  | clause :: rest =>
    match score? contentField r clause with
    | none => none
    | some (some points) => scoreAll? contentField r strict (total + points) rest
    | some none =>
      if clause.isBoost && !strict then scoreAll? contentField r strict total rest else some none

def scoreAny? (contentField : String) (r : Row) (total : Option Float) :
    List Clause → Option (Option Float)
  | [] => some total
  | clause :: rest =>
    match score? contentField r clause with
    | none => none
    | some points =>
      let sum := match total, points with
        | some a, some b => some (a + b)
        | some a, none => some a
        | none, b => b
      scoreAny? contentField r sum rest

end

end Clause

end RecordSearch
