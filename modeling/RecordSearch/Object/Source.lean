import RecordSearch.Error
import RecordSearch.Value

namespace RecordSearch

/-- An attribute of an object: a plain value, a related object, or a method, by what it returns. -/
inductive Attr (Obj : Type) where
  | value (v : Value)
  | object (o : Obj)
  | method (result : Attr Obj)

/-- The attribute left when methods are called until none is left. -/
def Attr.called {Obj : Type} : Attr Obj → Attr Obj
  | .method result => result.called
  | attr => attr

def Attr.value? {Obj : Type} : Attr Obj → Option Value
  | .value v => some v
  | _ => none

class Source (Obj : Type) where
  attr? : Obj → String → Option (Attr Obj)
  attrNames : Obj → List String
  model? : Obj → Option ModelType
  pk? : Obj → Option String
  describe : Obj → String

namespace Source

variable {Obj : Type} [Source Obj]

def hasAttr (o : Obj) (name : String) : Bool := (attr? o name).isSome

def identity? (o : Obj) : Option (ModelType × String) :=
  match model? o, pk? o with
  | some model, some pk => some (model, pk)
  | _, _ => none

def identity (o : Obj) : Except Error String :=
  match identity? o with
  | some (model, pk) => .ok (model.identity pk)
  | none => .error (.noIdentity (describe o))

end Source

end RecordSearch
