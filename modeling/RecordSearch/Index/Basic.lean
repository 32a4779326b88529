import RecordSearch.Document
import RecordSearch.Field.Prepare
import RecordSearch.Settings.Basic

namespace RecordSearch

structure Schema where
  model : ModelType
  fields : List (String × Field)

namespace Schema

def field? (s : Schema) (name : String) : Option Field :=
  (s.fields.find? fun field => field.1 = name).map Prod.snd

/-- The name of the first field that holds the text of a document. -/
def documentField? (s : Schema) : Option String :=
  (s.fields.find? fun field => field.2.isDocument).map Prod.fst

def documentField (s : Schema) : Except Error String :=
  match s.documentField? with
  | some name => .ok name
  | none => .error (.noDocumentField s.model)

def storedFields (s : Schema) : List String :=
  (s.fields.filter fun field => field.2.isStored).map Prod.fst

def validate (s : Schema) : Except Error Unit :=
  match (s.fields.filter fun field => field.2.isDocument).length with
  | 0 => .error (.noDocumentField s.model)
  | 1 => .ok ⟨⟩
  | count => .error (.manyDocumentFields s.model count)

def bindAll : List (String × Field) → Except Error (List (String × Field))
  | [] => .ok []
  | (name, field) :: rest =>
    match field.bind name with
    | .error e => .error e
    | .ok bound =>
      match bindAll rest with
      | .error e => .error e
      | .ok rest => .ok ((name, bound) :: rest)

end Schema

/-- A schema, with custom preparation of some fields and the renderer of templates. -/
structure SearchIndex (Obj : Type) extends Schema where
  overrides : SortedMap String (Obj → Except Error Value)
  renderer : Option (Renderer Obj)

namespace SearchIndex

variable {Obj : Type} [Source Obj]

def prepareField (index : SearchIndex Obj) (name : String) (o : Obj) : Except Error Value :=
  match index.overrides.find? name with
  | some prepare => prepare o
  | none =>
    match index.field? name with
    | some field => field.prepare o index.renderer
    | none => .error (.unknownField index.model name)

/-- Adds the values of the named fields to a document. -/
def addFields (index : SearchIndex Obj) (o : Obj) (d : Document) :
    List String → Except Error Document
  | [] => .ok d
  | name :: names =>
    match index.prepareField name o with
    | .error e => .error e
    | .ok v => index.addFields o (d.add name v) names

def prepare (index : SearchIndex Obj) (o : Obj) (settings : Settings) : Except Error Document :=
  match Source.pk? o with
  | none => .error (.noPrimaryKey (Source.describe o))
  | some pk =>
    let d := Document.empty
      |>.add settings.idField (.text (index.model.identity pk))
      |>.add settings.typeField (.text index.model.label)
      |>.add settings.pkField (.text pk)
    index.addFields o d (index.fields.map Prod.fst)

def prepareAll (index : SearchIndex Obj) (settings : Settings) :
    List Obj → Except Error (List Document)
  | [] => .ok []
  | o :: os =>
    match index.prepare o settings with
    | .error e => .error e
    | .ok d =>
      match index.prepareAll settings os with
      | .error e => .error e
      | .ok ds => .ok (d :: ds)

end SearchIndex

end RecordSearch
