import RecordSearch.Object.Source
import RecordSearch.SortedMap

namespace RecordSearch

structure Record where
  model : Option ModelType
  pk : Option String
  attrs : List (String × Attr Record)

namespace Record

def empty : Record := ⟨none, none, []⟩

instance : Inhabited Record := ⟨empty⟩

def set (r : Record) (name : String) (attr : Attr Record) : Record :=
  { r with attrs := SortedMap.insertEntry name attr r.attrs }

def stored (model : ModelType) (pk : String) : Record :=
  Record.set ⟨some model, some pk, []⟩ "pk" (.value (.text pk))

def describe (r : Record) : String :=
  match r.model, r.pk with
  | some model, some pk => "<" ++ model.label ++ ": pk=" ++ pk ++ ">"
  | _, _ =>
    let names := r.attrs.map fun attr => Text.quoted attr.1
    "Record \x7b attrs: [" ++ ", ".intercalate names ++ "] \x7d"

instance : Source Record where
  attr? r name := (r.attrs.find? fun attr => attr.1 = name).map Prod.snd
  attrNames r := r.attrs.map Prod.fst
  model? := Record.model
  pk? := Record.pk
  describe := Record.describe

theorem mem_attrs_of_attr? {r : Record} {name : String} {attr : Attr Record}
    (found : Source.attr? r name = some attr) : (name, attr) ∈ r.attrs := by
  obtain ⟨entry, listed, rfl⟩ := Option.map_eq_some_iff.1 found
  have same := List.find?_some listed
  rw [decide_eq_true_eq] at same
  rw [← same]
  exact List.mem_of_find?_eq_some listed

end Record

end RecordSearch
