import RecordSearch.Calendar.Text
import RecordSearch.Decimal.Shortest
import RecordSearch.Text.Quoted

namespace RecordSearch

open Calendar (Date DateTime)

inductive Value where
  | null
  | text (s : String)
  | integer (n : Int64)
  | float (x : Double)
  | boolean (b : Bool)
  | date (d : Date)
  | dateTime (t : DateTime)
  | list (items : List Value)
  deriving Inhabited

namespace Value

def text? : Value → Option String
  | text s => some s
  | _ => none

def integer? : Value → Option Int64
  | integer n => some n
  | _ => none

def float? : Value → Option Float
  | float x => some x.toFloat
  | integer n => some (Double.nearestFloat n)
  | _ => none

def boolean? : Value → Option Bool
  | boolean b => some b
  | _ => none

def date? : Value → Option Date
  | date d => some d
  | dateTime t => some t.date
  | _ => none

def dateTime? : Value → Option DateTime
  | dateTime t => some t
  | date d => some (.atMidnight d)
  | _ => none

def list? : Value → Option (List Value)
  | list items => some items
  | _ => none

def isNull : Value → Bool
  | null => true
  | _ => false

def isTruthy : Value → Bool
  | null => false
  | text s => !s.isEmpty
  | integer n => n != 0
  | float x => x.toFloat != 0
  | boolean b => b
  | date _ | dateTime _ => true
  | list items => !items.isEmpty

def typeName : Value → String
  | null => "null"
  | text _ => "text"
  | integer _ => "integer"
  | float _ => "float"
  | boolean _ => "boolean"
  | date _ => "date"
  | dateTime _ => "datetime"
  | list _ => "list"

mutual

/-- Equality of kind and content; floats compare as numbers, so none equals itself when it is no number. -/
def beq : Value → Value → Bool
  | null, null => true
  | text a, text b => a == b
  | integer a, integer b => a == b
  | float a, float b => a.toFloat == b.toFloat
  | boolean a, boolean b => a == b
  | date a, date b => a == b
  | dateTime a, dateTime b => a == b
  | list a, list b => beqItems a b
  | _, _ => false

def beqItems : List Value → List Value → Bool
  | [], [] => true
  | a :: as, b :: bs => beq a b && beqItems as bs
  | _, _ => false

end

instance : BEq Value := ⟨beq⟩

def integerText (n : Int64) : String := toString n.toInt

def booleanText (b : Bool) : String := if b then "true" else "false"

mutual

def display : Value → String
  | null => "None"
  | text s => s
  | integer n => integerText n
  | float x => String.ofList (Decimal.doubleText x)
  | boolean b => booleanText b
  | date d => String.ofList d.text
  | dateTime t => String.ofList t.text
  | list items => "[" ++ ", ".intercalate (displayItems items) ++ "]"

def displayItems : List Value → List String
  | [] => []
  | item :: items => display item :: displayItems items

end

mutual

def debug : Value → String
  | null => "Null"
  | text s => "Text(" ++ Text.quoted s ++ ")"
  | integer n => "Integer(" ++ integerText n ++ ")"
  | float x => "Float(" ++ String.ofList (Decimal.doubleDebug x) ++ ")"
  | boolean b => "Boolean(" ++ booleanText b ++ ")"
  | date d => "Date(" ++ String.ofList d.text ++ ")"
  | dateTime t => "DateTime(" ++ String.ofList t.fullText ++ ")"
  | list items => "List([" ++ ", ".intercalate (debugItems items) ++ "])"

def debugItems : List Value → List String
  | [] => []
  | item :: items => debug item :: debugItems items

end

mutual

/-- The values that are no lists, at any depth. -/
def scalars : Value → List Value
  | list items => scalarItems items
  | v => [v]

def scalarItems : List Value → List Value
  | [] => []
  | item :: items => scalars item ++ scalarItems items

end

end Value

end RecordSearch
