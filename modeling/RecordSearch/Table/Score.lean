import RecordSearch.Table.Row

namespace RecordSearch.Clause

mutual

/-- The score of a row, none if it does not match. Joined clauses add their scores up; next to
others, a boosted clause need not match. -/
def score (contentField : String) (r : Row) : Clause → Option Float
  | all => some 1
  | and clauses => scoreAll contentField r (clauses.all isBoost) 0 clauses
  | or clauses => scoreAny contentField r none clauses
  | not clause =>
    match score contentField r clause with
    | some _ => none
    | none => some 0
  | boost clause factor => (score contentField r clause).map (· * factor)
  | clause@(term field _) | clause@(wildcard field _) | clause@(fuzzy field _ _)
  | clause@(phrase field _ _) | clause@(range field _ _ _ _) =>
    match r.searched? contentField field with
    | some v => if Match.value clause v then some 1 else none
    | none => none

/-- The sum of the scores on top of `total`; `strict` asks every clause to match. -/
def scoreAll (contentField : String) (r : Row) (strict : Bool) (total : Float) :
    List Clause → Option Float
  | [] => some total
  | clause :: rest =>
    match score contentField r clause with
    | some points => scoreAll contentField r strict (total + points) rest
    | none =>
      if clause.isBoost && !strict then scoreAll contentField r strict total rest else none

def scoreAny (contentField : String) (r : Row) (total : Option Float) :
    List Clause → Option Float
  | [] => total
  | clause :: rest =>
    let sum := match total, score contentField r clause with
      | some a, some b => some (a + b)
      | some a, none => some a
      | none, b => b
    scoreAny contentField r sum rest

end

def accepts (contentField : String) (clause : Clause) (r : Row) : Bool :=
  (clause.score contentField r).isSome

end RecordSearch.Clause
