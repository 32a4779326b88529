import RecordSearch.Decimal.Read
import RecordSearch.Settings.Basic
import RecordSearch.Settings.Json

namespace RecordSearch.Settings

namespace Json

def boolean? : Json → Option Bool
  | boolean b => some b
  | _ => none

/-- A natural number that fits 64 bits, written without sign, fraction or exponent. -/
def size? : Json → Option Nat
  | number written => Decimal.readWord? written
  | _ => none

def string? : Json → Option String
  | text s => s
  | _ => none

def hasKeys (members : List (Option String × Json)) : Bool := members.all fun m => m.1.isSome

/-- The value of an optional member that stands there once at most; otherwise there is none. -/
def member? {α : Type} (members : List (Option String × Json)) (key : String) (otherwise : α)
    (read : Json → Option α) : Option α :=
  match members.filter fun m => m.1 = some key with
  | [] => some otherwise
  | [m] => read m.2
  | _ => none

def item? {α : Type} (items : List Json) (position : Nat) (otherwise : α)
    (read : Json → Option α) : Option α :=
  match items[position]? with
  | none => some otherwise
  | some item => read item

end Json

open Json

def ofMembers? (members : List (Option String × Json)) : Option Settings := do
  let debug ← member? members "debug" default.debug boolean?
  let pageSize ← member? members "page_size" default.pageSize size?
  let contentField ← member? members "content_field" default.contentField string?
  let typeField ← member? members "type_field" default.typeField string?
  let pkField ← member? members "pk_field" default.pkField string?
  let idField ← member? members "id_field" default.idField string?
  if hasKeys members then some ⟨debug, pageSize, contentField, typeField, pkField, idField⟩ else none

def ofItems? (items : List Json) : Option Settings := do
  let debug ← item? items 0 default.debug boolean?
  let pageSize ← item? items 1 default.pageSize size?
  let contentField ← item? items 2 default.contentField string?
  let typeField ← item? items 3 default.typeField string?
  let pkField ← item? items 4 default.pkField string?
  let idField ← item? items 5 default.idField string?
  if items.length ≤ 6 then some ⟨debug, pageSize, contentField, typeField, pkField, idField⟩ else none

def ofJson? : Json → Option Settings
  | .object members => ofMembers? members
  | .array items => ofItems? items
  | _ => none

def read (text : String) : Except Error Settings :=
  match (Json.read? text).bind ofJson? with
  | some settings => settings.check
  | none => .error .malformedSettings

end RecordSearch.Settings
