import RecordSearch.Field.Basic
import RecordSearch.Object.Path
import RecordSearch.SortedMap

namespace RecordSearch

inductive TemplatePart where
  | text (s : String)
  | attr (path : String)
  deriving DecidableEq, Repr

abbrev Template := List TemplatePart

variable {Obj : Type} [Source Obj]

def Template.render (o : Obj) : Template → Except Error String
  | [] => .ok ""
  | .text s :: rest => (render o rest).map (s ++ ·)
  | .attr path :: rest =>
    match Path.resolve o path with
    | .error e => .error e
    | .ok h => (render o rest).map (h.display ++ ·)

def Renderer.ofTemplates (templates : SortedMap String Template) : Renderer Obj := fun name o =>
  match templates.find? name with
  | some template => template.render o
  | none => .error (.noTemplate name)

end RecordSearch
