import RecordSearch.Object.Source
import RecordSearch.Text.Split

/-!
Reading nested data by path. Nested values are stored under flattened names, whose parts are joined by
`0_0_0`; a path written with points or with double underscores finds them too.
-/

namespace RecordSearch.Path

def separator : String := "0_0_0"

def relation : String := "__"

variable {Obj : Type} [Source Obj]

/-- Appends a part to a name where an attribute has the longer name. -/
def extendName (o : Obj) (sep name part : String) : String :=
  let longer := name ++ sep ++ part
  if Source.hasAttr o longer then longer else name

/-- The attribute that a path starts with: the path as a whole, or parts joined from the left. -/
def leadingAttr? (o : Obj) (path sep : String) : Option String :=
  if Source.hasAttr o path then some path
  else
    match (Text.pieces sep.toList path.toList).map String.ofList with
    | [] => none
    | first :: parts =>
      let name := parts.foldl (extendName o sep) first
      if Source.hasAttr o name then some name else none

/-- Whether some attribute is stored under a flattened name that continues `name`. -/
def isFlattened (o : Obj) (name : String) : Bool :=
  (Source.attrNames o).any fun attr =>
    (Text.splitFirst? (name ++ separator).toList attr.toList).isSome

def flattenRelations (path : List Char) : List Char :=
  Text.replaceAll relation.toList separator.toList path

def flatten (path : String) : String :=
  String.ofList (flattenRelations (Text.replaceAll ['.'] separator.toList path.toList))

inductive HandleKind where
  | null
  | numeric
  | text
  | sequence
  | object
  | callable
  | opaqueValue
  deriving DecidableEq, Repr

/-- An attribute found by a path; none stands for a name that only leads to others. -/
structure Handle (Obj : Type) where
  attr : Option (Attr Obj)
  /-- The flattened path that leads to the attribute. -/
  path : String
  root : Obj

namespace Handle

def of (attr : Option (Attr Obj)) (path : String) (root : Obj) : Handle Obj :=
  match attr with
  | some (.value .null) => ⟨none, path, root⟩
  | attr => ⟨attr, path, root⟩

def stored (root : Obj) (name : String) : Except Error (Handle Obj) :=
  if isFlattened root name then .ok (.of (Source.attr? root name) name root)
  else
    match Source.attr? root name with
    | some attr => .ok (.of (some attr) name root)
    | none => .error (.noAttribute (Source.describe root) name)

def first (root : Obj) (name : String) : Except Error (Handle Obj) :=
  if isFlattened root name then .ok (.of (Source.attr? root name) name root)
  else
    let flat := String.ofList (flattenRelations name.toList)
    match Source.attr? root flat with
    | some attr => .ok (.of (some attr) flat root)
    | none => .error (.noAttribute (Source.describe root) name)

/-- The attribute of the related object, if this is one, or what is stored under the longer name. -/
def get (h : Handle Obj) (name : String) : Except Error (Handle Obj) :=
  let longer := h.path ++ separator ++ name
  let related := match h.attr with
    | some (.object o) => Source.attr? o name
    | _ => none
  match related with
  | some attr => .ok (.of (some attr) longer h.root)
  | none => stored h.root longer

def getAll (h : Handle Obj) : List String → Except Error (Handle Obj)
  | [] => .ok h
  | name :: names =>
    match h.get name with
    | .ok h => h.getAll names
    | .error e => .error e

def dotParts (path : String) : List String := (Text.splitAll ['.'] path.toList).map String.ofList

def getPath (h : Handle Obj) (path : String) : Except Error (Handle Obj) := h.getAll (dotParts path)

def kind (h : Handle Obj) : HandleKind :=
  match h.attr with
  | none => .null
  | some (.object _) => .object
  | some (.method _) => .callable
  | some (.value v) =>
    match v with
    | .null => .null
    | .integer _ | .float _ => .numeric
    | .text _ => .text
    | .list _ => .sequence
    | .boolean _ | .date _ | .dateTime _ => .opaqueValue

def isNull (h : Handle Obj) : Bool := h.kind == .null

def value? (h : Handle Obj) : Option Value := h.attr.bind Attr.value?

def toValue (h : Handle Obj) : Value := h.value?.getD .null

def length? (h : Handle Obj) : Option Nat :=
  match h.value? with
  | some (.text s) => some s.length
  | some (.list items) => some items.length
  | _ => none

def isTruthy (h : Handle Obj) : Bool :=
  match h.attr with
  | none => false
  | some (.value v) => v.isTruthy
  | some _ => true

def call (h : Handle Obj) : Except Error (Handle Obj) :=
  match h.attr with
  | some (.method result) => .ok (.of (some result.called) h.path h.root)
  | _ => .error (.notCallable h.path)

def display (h : Handle Obj) : String :=
  match h.attr with
  | none => ""
  | some (.value v) => v.display
  | some (.object o) => Source.describe o
  | some (.method _) => "<method " ++ h.path ++ ">"

def debug (h : Handle Obj) : String :=
  match h.attr with
  | none => "<Null>"
  | some (.value v) => h.path ++ "=Value(" ++ v.debug ++ ")"
  | some (.object o) => h.path ++ "=Object(" ++ Source.describe o ++ ")"
  | some (.method _) => h.path ++ "=Method(..)"

def equals (h : Handle Obj) (other : Value) : Bool :=
  match h.value? with
  | some v => v == other
  | none => h.isNull && other.isNull

def equalsText (h : Handle Obj) (other : String) : Bool := h.value?.bind Value.text? == some other

def equalsInteger (h : Handle Obj) (other : Int64) : Bool :=
  match h.value? with
  | some (.integer n) => n == other
  | some (.float x) => x.toFloat == Double.nearestFloat other
  | _ => false

end Handle

/-- The attribute of that name or of the flattened name; else the parts between points one by one. -/
def resolve (root : Obj) (path : String) : Except Error (Handle Obj) :=
  match Source.attr? root path with
  | some attr => .ok (.of (some attr) path root)
  | none =>
    let flat := flatten path
    match Source.attr? root flat with
    | some attr => .ok (.of (some attr) flat root)
    | none =>
      match Handle.dotParts path with
      | [] => Handle.first root ""
      | name :: names =>
        match Handle.first root name with
        | .ok h => h.getAll names
        | .error e => .error e

end RecordSearch.Path
