import RecordSearch.Condition.Write
import RecordSearch.Index.Basic
import RecordSearch.Search.Options

/-!
Search engines, and calls to them whose failures give neutral results. Errors in the preparation of
documents are no failures of the engine and reach the caller.
-/

namespace RecordSearch

/-- What a search engine does; a search may change its state. -/
class Engine (σ : Type) where
  querySyntax : σ → QuerySyntax
  update : σ → Schema → List Document → Except Error σ
  remove : σ → String → Except Error σ
  clear : σ → List ModelType → Except Error σ
  search : σ → String → SearchOptions → Except Error RawResults × σ
  similar : σ → String → SearchOptions → Except Error RawResults × σ

structure FieldDefinition where
  name : String
  type : String
  indexed : Bool
  stored : Bool
  multiValued : Bool
  deriving DecidableEq, Repr

def FieldDefinition.of (name : String) (field : Field) : FieldDefinition :=
  { name := name
    type := field.kind.schemaType
    indexed := field.isIndexed
    stored := field.isStored
    multiValued := field.kind.isMultiValued }

namespace Engine

/-- The last field that holds the text of documents, and the definitions of all fields. -/
def schemaOf (fields : List (String × Field)) : Except Error (String × List FieldDefinition) :=
  match fields.reverse.find? fun field => field.2.isDocument with
  | some document => .ok (document.1, fields.map fun field => .of field.1 field.2)
  | none => .error .noSchemaDocument

variable {σ : Type} [Engine σ] {Obj : Type} [Source Obj]

def index (e : σ) (settings : Settings) (index : SearchIndex Obj) (objects : List Obj) :
    Except Error σ :=
  match index.prepareAll settings objects with
  | .error err => .error err
  | .ok documents =>
    match update e index.toSchema documents with
    | .ok e => .ok e
    | .error _ => .ok e

def removeIdentity (e : σ) (identity : String) : Except Error σ :=
  match ModelType.ofIdentity identity with
  | .error err => .error err
  | .ok _ =>
    match remove e identity with
    | .ok e => .ok e
    | .error _ => .ok e

def removeObject (e : σ) (o : Obj) : Except Error σ :=
  match Source.identity o with
  | .error err => .error err
  | .ok identity => removeIdentity e identity

def clearModels (e : σ) (models : List ModelType) : σ :=
  match clear e models with
  | .ok e => e
  | .error _ => e

def orEmpty : Except Error RawResults × σ → RawResults × σ
  | (.ok results, e) => (results, e)
  | (.error _, e) => (.empty, e)

def find (e : σ) (query : String) (options : SearchOptions) : RawResults × σ :=
  if query.isEmpty then (.empty, e) else orEmpty (search e query options)

def findSimilar (e : σ) (identity : String) (options : SearchOptions) : RawResults × σ :=
  orEmpty (similar e identity options)

def schemaOrEmpty (settings : Settings) (fields : List (String × Field)) :
    String × List FieldDefinition :=
  match schemaOf fields with
  | .ok schema => schema
  | .error _ => (settings.contentField, [])

end Engine

end RecordSearch
