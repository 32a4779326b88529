import RecordSearch.SortedMap
import RecordSearch.Value

namespace RecordSearch

/-- Values by field name; a field whose value is null is not there. -/
structure Document where
  fields : SortedMap String Value

namespace Document

def empty : Document := ⟨.empty⟩

/-- Puts the value of a field, in place of the one it had; null changes nothing. -/
def add (d : Document) (name : String) (v : Value) : Document :=
  if v.isNull then d else ⟨d.fields.insert name v⟩

def find? (d : Document) (name : String) : Option Value := d.fields.find? name

theorem find?_empty (name : String) : empty.find? name = none := rfl

theorem find?_add (d : Document) (name other : String) (v : Value) :
    (d.add name v).find? other =
      if other = name ∧ v.isNull = false then some v else d.find? other := by
  unfold add find?
  by_cases null : v.isNull = true
  · simp [null]
  · simp [null, SortedMap.find?_insert]

end Document

end RecordSearch
