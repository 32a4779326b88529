import RecordSearch.Field.Convert
import RecordSearch.Object.Path

/-!
Producing the value of a field from an object: a rendered template, else the attribute at the end of a
path, else the default.
-/

namespace RecordSearch.Field

variable {Obj : Type} [Source Obj]

def path (f : Field) : String := f.attrPath.getD ""

def missingAttr (f : Field) (o : Obj) : Error := .missingAttr (Source.describe o) f.path

/-- What stands for a null value: the default, or null where it is allowed. -/
def ofNull (f : Field) (o : Obj) : Except Error Value :=
  match f.default with
  | some v => .ok v
  | none => if f.allowsNull then .ok .null else .error (.nullAttr (Source.describe o) f.path)

/-- What is left of a path behind an attribute name; nothing, if the path does not start with it. -/
def restOfPath (name path : List Char) : List Char :=
  match Text.dropLead? name path with
  | some rest => (Text.dropLead? Path.relation.toList rest).getD rest
  | none => []

/-- Follows the attributes along a path, from object to related object. -/
def walk (f : Field) (o : Obj) (path : List Char) : Except Error Value :=
  match Path.leadingAttr? o (String.ofList path) Path.relation with
  | none => .error (f.missingAttr o)
  | some name =>
    let rest := restOfPath name.toList path
    match (Source.attr? o name).map Attr.called with
    | none => .error (f.missingAttr o)
    | some (.value v) =>
      if v.isNull then f.ofNull o
      else if rest.isEmpty then .ok v
      else .error (f.missingAttr o)
    | some (.object related) =>
      if rest.isEmpty then .ok (.text (Source.describe related))
      else if rest.length < path.length then f.walk related rest
      else .error (f.missingAttr o)
    | some (.method _) => .error (f.missingAttr o)
termination_by path.length

/-- The template given, or the one named for the type of the object and the field. -/
def templateFor (f : Field) (o : Obj) : Except Error String :=
  match f.templateName, f.name with
  | some template, _ => .ok template
  | none, some name =>
    match Source.model? o with
    | some model =>
      .ok ("search/indexes/" ++ model.app ++ "/" ++ model.name ++ "_" ++ name ++ ".txt")
    | none => .error (.noModelType (Source.describe o))
  | none, none => .error .noTemplateName

def renderTemplate (f : Field) (o : Obj) (renderer : Option (Renderer Obj)) : Except Error Value :=
  match f.templateFor o with
  | .error e => .error e
  | .ok template =>
    match renderer with
    | none => .error (.noRenderer template)
    | some render => (render template o).map .text

def prepareRaw (f : Field) (o : Obj) (renderer : Option (Renderer Obj)) : Except Error Value :=
  if f.useTemplate then f.renderTemplate o renderer
  else
    match f.attrPath with
    | some path => f.walk o path.toList
    | none => .ok (f.default.getD .null)

def prepare (f : Field) (o : Obj) (renderer : Option (Renderer Obj)) : Except Error Value :=
  match f.prepareRaw o renderer with
  | .error e => .error e
  | .ok raw => if f.kind = .packed then .ok (.text (Opaque.encode raw)) else f.convert raw

end RecordSearch.Field
