import RecordSearch.Error
import RecordSearch.Opaque.Base64
import RecordSearch.Opaque.Layout

namespace RecordSearch.Opaque

/-- Marks a payload; its colon is none of the characters that follow it. -/
def mark : String := "opaque:"

def encode (v : Value) : String := mark ++ String.ofList (Base64.encode (Layout.encode v))

def isPayload (text : String) : Bool := (Text.dropLead? mark.toList text.toList).isSome

def decode (text : String) : Except Error Value :=
  match Text.dropLead? mark.toList text.toList with
  | none => .error (.notOpaque text)
  | some encoded =>
    match (Base64.decode? encoded).bind Layout.decode? with
    | some v => .ok v
    | none => .error .malformedPayload

end RecordSearch.Opaque
