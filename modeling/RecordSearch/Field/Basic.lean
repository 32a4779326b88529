import RecordSearch.Object.Source

namespace RecordSearch

inductive FieldKind where
  | char
  | simpleChar
  | integer
  | float
  | boolean
  | date
  | dateTime
  | multiValue
  | multiValueInteger
  | packed
  deriving DecidableEq, Repr

namespace FieldKind

def schemaType : FieldKind → String
  | char | multiValue => "text"
  | simpleChar | packed => "string"
  | integer | multiValueInteger => "long"
  | float => "double"
  | boolean => "boolean"
  | date | dateTime => "date"

def isMultiValued : FieldKind → Bool
  | multiValue | multiValueInteger => true
  | _ => false

end FieldKind

/-- How one indexed field comes from an object. -/
structure Field where
  kind : FieldKind
  attrPath : Option String
  useTemplate : Bool
  templateName : Option String
  isDocument : Bool
  isIndexed : Bool
  isStored : Bool
  default : Option Value
  allowsNull : Bool
  name : Option String

namespace Field

def ofKind (kind : FieldKind) : Field where
  kind := kind
  attrPath := none
  useTemplate := false
  templateName := none
  isDocument := false
  isIndexed := true
  isStored := true
  default := none
  allowsNull := false
  name := none

/-- Binds a field to its name, once and for all. -/
def bind (f : Field) (name : String) : Except Error Field :=
  match f.name with
  | some bound =>
    if bound = name then .ok f else .error (.rebound bound name)
  | none => .ok { f with name := some name }

end Field

abbrev Renderer (Obj : Type) := String → Obj → Except Error String

end RecordSearch
