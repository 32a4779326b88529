import RecordSearch.Error

namespace RecordSearch

structure Settings where
  debug : Bool
  pageSize : Nat
  contentField : String
  typeField : String
  pkField : String
  idField : String
  deriving DecidableEq, Repr

namespace Settings

def default : Settings where
  debug := false
  pageSize := 10
  contentField := "content"
  typeField := "model_type"
  pkField := "model_pk"
  idField := "id"

instance : Inhabited Settings := ⟨default⟩

def fieldNames (s : Settings) : List String := [s.contentField, s.typeField, s.pkField, s.idField]

/-- Settings with a page size and names for all fields. -/
def check (s : Settings) : Except Error Settings :=
  if s.pageSize = 0 then .error .zeroPageSize
  else if s.fieldNames.any String.isEmpty then .error .emptyFieldName
  else .ok s

end Settings

end RecordSearch
