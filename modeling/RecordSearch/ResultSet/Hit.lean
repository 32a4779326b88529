import RecordSearch.Engine.Connection
import RecordSearch.Field.Convert
import RecordSearch.Text.Case

namespace RecordSearch

structure Hit (Obj : Type) where
  model : ModelType
  pk : String
  score : Float
  fields : SortedMap String Value
  additional : List String
  highlighted : SortedMap String (List String)
  /-- The outcome of loading the object, once it was tried. -/
  object : Option (Option Obj)

namespace Hit

variable {Obj : Type}

/-- The value as its field declares it, or as it is if it cannot be converted. -/
def restore (registry : Registry Obj) (model : ModelType) (name : String) (v : Value) : Value :=
  match registry.field? model name with
  | none => v
  | some field =>
    match field.convert v with
    | .ok converted => converted
    | .error _ => v

def isDeclared (registry : Registry Obj) (model : ModelType) (name : String) : Bool :=
  (registry.field? model name).isSome

def modelOf? (settings : Settings) (raw : RawHit) : Option ModelType :=
  ((raw.fields.find? settings.typeField).bind Value.text?).bind ModelType.ofLabel?

def withoutType (settings : Settings) (raw : RawHit) : SortedMap String Value :=
  raw.fields.erase settings.typeField

def pkOf? (settings : Settings) (raw : RawHit) : Option String :=
  match (withoutType settings raw).find? settings.pkField with
  | some .null => none
  | some v => some v.display
  | none => none

/-- What a raw hit stands for; nothing without model type or key. -/
def ofRaw? (registry : Registry Obj) (settings : Settings) (raw : RawHit) : Option (Hit Obj) :=
  match modelOf? settings raw, pkOf? settings raw with
  | some model, some pk =>
    let fields := ((withoutType settings raw).erase settings.pkField).mapValues
      (restore registry model)
    some {
      model := model
      pk := pk
      score := raw.score
      fields := fields
      additional := fields.keys.filter fun name => !isDeclared registry model name
      highlighted := raw.highlighted
      object := none }
  | _, _ => none

def label (h : Hit Obj) : String := h.model.identity h.pk

def verboseName (h : Hit Obj) : String := String.ofList (Text.capitalize h.model.name.toList)

def isLoaded (h : Hit Obj) : Bool := h.object.isSome

def withObject (h : Hit Obj) (o : Obj) : Hit Obj := { h with object := some (some o) }

def describe (h : Hit Obj) : String :=
  "<SearchResult: " ++ h.model.label ++ " (pk=" ++ Text.quoted h.pk ++ ")>"

def builtin? (h : Hit Obj) (name : String) : Option Value :=
  if name = "pk" then some (.text h.pk)
  else if name = "score" then some (.float (.ofFloat h.score))
  else if name = "app_label" then some (.text h.model.app)
  else if name = "model_name" then some (.text h.model.name)
  else none

def builtinNames : List String := ["pk", "score", "app_label", "model_name"]

instance : Source (Hit Obj) where
  attr? h name :=
    match h.fields.find? name with
    | some v => some (.value v)
    | none => (h.builtin? name).map .value
  attrNames h := h.fields.keys ++ builtinNames.filter fun name => !h.fields.contains name
  model? h := some h.model
  pk? h := some h.pk
  describe := describe

def storedFields (registry : Registry Obj) (h : Hit Obj) : SortedMap String Value :=
  match registry.entry? h.model with
  | none => .empty
  | some entry =>
    .ofList (entry.index.storedFields.map fun name => (name, (h.fields.find? name).getD .null))

def additionalFields (h : Hit Obj) : SortedMap String Value :=
  h.fields.filterKeys h.additional.contains

def lookUp {σ : Type} (c : Connection σ Obj) (h : Hit Obj) : Option Obj × Connection σ Obj :=
  match c.registry.entry? h.model with
  | none => (none, c)
  | some entry =>
    let found := match entry.store.get h.pk with
      | .ok found => found
      | .error _ => none
    (found, c.noteCall (.get h.model h.pk))

/-- The hit with its object, which is looked up once. -/
def load {σ : Type} (c : Connection σ Obj) (h : Hit Obj) : Hit Obj × Connection σ Obj :=
  match h.object with
  | some _ => (h, c)
  | none =>
    let (found, c) := h.lookUp c
    ({ h with object := some found }, c)

end Hit

end RecordSearch
