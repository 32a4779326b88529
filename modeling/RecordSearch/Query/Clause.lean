import RecordSearch.Query.Pattern

namespace RecordSearch

/-- A query. A clause without a field is about the text of a document. -/
inductive Clause where
  | all
  | and (clauses : List Clause)
  | or (clauses : List Clause)
  | not (clause : Clause)
  /-- Multiplies the score of a clause; next to other clauses it need not match. -/
  | boost (clause : Clause) (factor : Float)
  | term (field : Option String) (text : String)
  | wildcard (field : Option String) (pattern : List Wild)
  | fuzzy (field : Option String) (term : String) (maxEdits : Nat)
  | phrase (field : Option String) (text : String) (slop : Option Nat)
  | range (field : Option String) (lower upper : Option String) (lowerIncluded upperIncluded : Bool)
  deriving Inhabited

namespace Clause

def nothing : Clause := or []

def isBoost : Clause → Bool
  | boost _ _ => true
  | _ => false

def boosted (clause : Clause) : Option Float → Clause
  | some factor => boost clause factor
  | none => clause

/-- A single clause stands for itself. -/
def joined (join : List Clause → Clause) : List Clause → Clause
  | [clause] => clause
  | clauses => join clauses

end Clause

end RecordSearch
