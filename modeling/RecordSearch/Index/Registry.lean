import RecordSearch.Index.Basic
import RecordSearch.Object.Store

namespace RecordSearch

structure Registration (Obj : Type) where
  index : SearchIndex Obj
  store : ObjectStore Obj

structure Registry (Obj : Type) where
  entries : List (Registration Obj)

namespace Registry

variable {Obj : Type}

def empty : Registry Obj := ⟨[]⟩

def entry? (r : Registry Obj) (model : ModelType) : Option (Registration Obj) :=
  r.entries.find? fun entry => entry.index.model = model

def isRegistered (r : Registry Obj) (model : ModelType) : Bool :=
  r.entries.any fun entry => entry.index.model = model

/-- Registers an index once for its model type, with its fields bound to their names. -/
def register (r : Registry Obj) (index : SearchIndex Obj) (store : ObjectStore Obj) :
    Except Error (Registry Obj) :=
  match index.validate with
  | .error e => .error e
  | .ok _ =>
    match Schema.bindAll index.fields with
    | .error e => .error e
    | .ok fields =>
      if r.isRegistered index.model then .error (.modelRegistered index.model)
      else .ok ⟨r.entries ++ [⟨{ index with fields := fields }, store⟩]⟩

def entry (r : Registry Obj) (model : ModelType) : Except Error (Registration Obj) :=
  match r.entry? model with
  | some entry => .ok entry
  | none => .error (.notRegistered model)

def index (r : Registry Obj) (model : ModelType) : Except Error (SearchIndex Obj) :=
  (r.entry model).map Registration.index

def store (r : Registry Obj) (model : ModelType) : Except Error (ObjectStore Obj) :=
  (r.entry model).map Registration.store

def models (r : Registry Obj) : List ModelType := r.entries.map fun entry => entry.index.model

def addNew (fields : List (String × Field)) : List (String × Field) → List (String × Field)
  | [] => fields
  | field :: rest =>
    if fields.any fun seen => seen.1 = field.1 then addNew fields rest
    else addNew (fields ++ [field]) rest

/-- Every field of every index, each name once, as it was declared first. -/
def allFields (r : Registry Obj) : List (String × Field) :=
  r.entries.foldl (fun fields entry => addNew fields entry.index.fields) []

def field? (r : Registry Obj) (model : ModelType) (name : String) : Option Field :=
  (r.entry? model).bind fun entry => entry.index.field? name

end Registry

end RecordSearch
