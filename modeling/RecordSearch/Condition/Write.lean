import RecordSearch.Condition.Tree

namespace RecordSearch

structure QuerySyntax where
  contentField : String
  lookup : String → Comparison → Value → String
  presence : String → String
  everything : String
  clean : String → String

def QuerySyntax.boosted (syn : QuerySyntax) (term : String) (boost : Float) : String :=
  syn.clean term ++ "^" ++ String.ofList (Decimal.floatText boost)

namespace Condition

def target (syn : QuerySyntax) (expression : String) : String × Comparison :=
  let (field, comparison) := Lookup.split expression
  (if field = contentKey then syn.contentField else field, comparison)

/-- A lookup; one of null asks for the absence of its field. -/
def writeLeaf (syn : QuerySyntax) (expression : String) (v : Value) : String :=
  let (field, comparison) := target syn expression
  match v with
  | .null => "NOT (" ++ syn.presence field ++ ")"
  | v => syn.lookup field comparison v

/-- Joins what the children wrote; parentheses stand around all but a single part. -/
def writeNode (connector : Connector) (negated : Bool) (parts : List String) : String :=
  let joined := (" " ++ connector.text ++ " ").intercalate parts
  if joined.isEmpty then joined
  else if negated then "NOT (" ++ joined ++ ")"
  else if parts.length = 1 then joined
  else "(" ++ joined ++ ")"

mutual

/-- The query text of a tree; that a single field is not null is written as its presence. -/
def write (syn : QuerySyntax) : Condition → String
  | node _ true [.leaf expression .null] => syn.presence (target syn expression).1
  | node connector negated children =>
    writeNode connector negated ((writeChildren syn children).filter fun part => !part.isEmpty)

def writeChildren (syn : QuerySyntax) : List Child → List String
  | [] => []
  | .node inner :: rest => write syn inner :: writeChildren syn rest
  | .leaf expression v :: rest => writeLeaf syn expression v :: writeChildren syn rest

end

def plainSyntax : QuerySyntax where
  contentField := "content"
  lookup field comparison v :=
    field ++ String.ofList Lookup.mark ++ comparison.keyword ++ "=" ++ v.display
  presence field := field ++ ":[* TO *]"
  everything := "*:*"
  clean text := text

def display (c : Condition) : String :=
  "<SQ: " ++ c.connector.text ++ " " ++ c.write plainSyntax ++ ">"

end Condition

end RecordSearch
