import RecordSearch.Index.Basic
import RecordSearch.Query.Read
import RecordSearch.Text.Word

namespace RecordSearch

open Calendar (DateTime)

structure Row where
  identity : String
  model : String
  documentField : String
  indexed : SortedMap String Value
  stored : SortedMap String Value

namespace Row

def textOf (d : Document) (name : String) : Except Error String :=
  match (d.find? name).bind Value.text? with
  | some text => .ok text
  | none => .error (.documentLacks name)

/-- The row of a document; fields that are not declared are both searched and returned. -/
def ofDocument (settings : Settings) (schema : Schema) (d : Document) : Except Error Row := do
  let identity ← textOf d settings.idField
  let model ← textOf d settings.typeField
  match schema.documentField? with
  | none => .error (.noTextField schema.model)
  | some documentField =>
    .ok {
      identity := identity
      model := model
      documentField := documentField
      indexed := d.fields.filterKeys fun name => ((schema.field? name).map Field.isIndexed).getD true
      stored := d.fields.filterKeys fun name => ((schema.field? name).map Field.isStored).getD true }

def value? (r : Row) (name : String) : Option Value :=
  match r.indexed.find? name with
  | some v => some v
  | none => r.stored.find? name

def text (r : Row) : String := ((r.value? r.documentField).map Value.display).getD ""

def fieldName (r : Row) (contentField : String) (field : Option String) : String :=
  match field with
  | some name => if name = contentField then r.documentField else name
  | none => r.documentField

/-- The value that a clause is about. -/
def searched? (r : Row) (contentField : String) (field : Option String) : Option Value :=
  r.indexed.find? (r.fieldName contentField field)

end Row

namespace Match

/-- The position after the first occurrence of a word; without slop it has to be the next one. -/
def nextPosition? (slop : Nat) (word : List Char) (words : List (List Char)) : Option Nat :=
  match words.findIdx? (· = word) with
  | some position => if 0 < slop || position = 0 then some position else none
  | none => none

/-- The number of words from here to the last word of the needle, found one after the other. -/
def span? (slop : Nat) : List (List Char) → List (List Char) → Option Nat
  | [], _ => some 0
  | word :: needle, words =>
    match nextPosition? slop word words with
    | some skipped => (span? slop needle (words.drop (skipped + 1))).map (skipped + 1 + ·)
    | none => none

def spanLimit (needle : List (List Char)) (slop : Nat) : Nat := needle.length - 1 + slop

def beginsWith (words needle : List (List Char)) (slop : Nat) : Bool :=
  match words, needle with
  | word :: after, first :: rest =>
    word == first &&
      match span? slop rest after with
      | some span => span ≤ spanLimit needle slop
      | none => false
  | _, _ => false

/-- Whether the needle's words stand in order among the words, with at most `slop` more between them. -/
def containsWords (words needle : List (List Char)) (slop : Nat) : Bool :=
  match words with
  | [] => false
  | word :: rest => beginsWith (word :: rest) needle slop || containsWords rest needle slop

/-- Whether a single value equals what a query writes as `text`. -/
def equals (v : Value) (text : String) (slop : Nat) : Bool :=
  match v with
  | .text s =>
    Text.lower s.toList == Text.lower text.toList ||
      containsWords (Text.words s.toList) (Text.words text.toList) slop
  | .integer _ | .float _ =>
    match Decimal.readFloat? text.toList, v.float? with
    | some a, some b => a == b
    | _, _ => false
  | .boolean b => Text.sameAscii text.toList (Value.booleanText b).toList
  | .date _ | .dateTime _ => Calendar.readInstant? text.toList == v.dateTime?
  | .null | .list _ => false

def compareFloats? (a b : Float) : Option Ordering :=
  if a < b then some .lt else if a == b then some .eq else if b < a then some .gt else none

def compareToBound? (v : Value) (bound : String) : Option Ordering :=
  match v with
  | .integer _ | .float _ =>
    match Decimal.readFloat? bound.toList, v.float? with
    | some b, some a => compareFloats? a b
    | _, _ => none
  | .date _ | .dateTime _ =>
    match v.dateTime?, Calendar.readInstant? bound.toList with
    | some a, some b => some (compare a b)
    | _, _ => none
  | .text s => some (compare s bound)
  | .boolean b => some (compare (Value.booleanText b) bound)
  | .null | .list _ => none

def aboveLower (v : Value) (included : Bool) : Option String → Bool
  | none => true
  | some bound =>
    match compareToBound? v bound with
    | some .gt => true
    | some .eq => included
    | _ => false

def belowUpper (v : Value) (included : Bool) : Option String → Bool
  | none => true
  | some bound =>
    match compareToBound? v bound with
    | some .lt => true
    | some .eq => included
    | _ => false

def wholeOrWord (accepts : List Char → Bool) (v : Value) : Bool :=
  match v with
  | .text s => accepts s.toList || (Text.words s.toList).any accepts
  | v => accepts v.display.toList

def scalar (clause : Clause) (v : Value) : Bool :=
  match clause with
  | .term _ text => equals v text 0
  | .phrase _ text slop => equals v text (slop.getD 0)
  | .wildcard _ pattern => wholeOrWord (Wild.fits pattern) v
  | .fuzzy _ term maxEdits => wholeOrWord (Text.FuzzyTerm.of term.toList maxEdits).accepts v
  | .range _ lower upper lowerIncluded upperIncluded =>
    aboveLower v lowerIncluded lower && belowUpper v upperIncluded upper
  | _ => false

/-- Whether the value of a field matches a clause; a range without bounds asks for nothing more. -/
def value (clause : Clause) (v : Value) : Bool :=
  match clause with
  | .range _ none none _ _ => true
  | clause => v.scalars.any (scalar clause)

end Match

end RecordSearch
