import RecordSearch.Text.Split
import RecordSearch.Unicode.WordCharacter

namespace RecordSearch

structure ModelType where
  app : String
  name : String
  deriving DecidableEq, Repr

namespace ModelType

instance : LT ModelType := ⟨fun a b => a.app < b.app ∨ (a.app = b.app ∧ a.name < b.name)⟩

instance (a b : ModelType) : Decidable (a < b) :=
  inferInstanceAs (Decidable (a.app < b.app ∨ (a.app = b.app ∧ a.name < b.name)))

def label (m : ModelType) : String := m.app ++ "." ++ m.name

/-- Reads a label: two parts, both with characters, around its only point. -/
def ofLabel? (text : String) : Option ModelType :=
  match Text.splitFirst? ['.'] text.toList with
  | some (app, name) =>
    if app.isEmpty || name.isEmpty || name.contains '.' then none
    else some ⟨String.ofList app, String.ofList name⟩
  | none => none

def identity (m : ModelType) (pk : String) : String := m.app ++ "." ++ m.name ++ "." ++ pk

/-- Reads an identity: two parts of word characters and a key of digits. -/
def ofIdentity? (text : String) : Option (ModelType × String) :=
  match Text.splitAll ['.'] text.toList with
  | [app, name, pk] =>
    if !app.isEmpty && app.all Unicode.isWordCharacter &&
        !name.isEmpty && name.all Unicode.isWordCharacter && !pk.isEmpty && pk.all Unicode.isDigit
    then some (⟨String.ofList app, String.ofList name⟩, String.ofList pk)
    else none
  | _ => none

end ModelType

end RecordSearch
