import RecordSearch.Decimal.Read
import RecordSearch.Field.Basic
import RecordSearch.Opaque.Payload
import RecordSearch.Text.Blank
import RecordSearch.Unicode.Number

namespace RecordSearch.Field

open Calendar (Date TimeOfDay DateTime)

def notConvertible (f : Field) (target value : String) : Error :=
  .notConvertible f.name target value

def toInteger (f : Field) : Value → Except Error Value
  | .integer n => .ok (.integer n)
  | .float x => .ok (.integer x.toFloat.toInt64)
  | .boolean b => .ok (.integer (if b then 1 else 0))
  | .text s =>
    match Decimal.readInt64? (Text.trim s.toList) with
    | some n => .ok (.integer n)
    | none => .error (f.notConvertible "integer" s)
  | v => .error (f.notConvertible "integer" v.display)

def toIntegers (f : Field) : List Value → Except Error (List Value)
  | [] => .ok []
  | item :: items =>
    match f.toInteger item with
    | .error e => .error e
    | .ok n =>
      match f.toIntegers items with
      | .error e => .error e
      | .ok ns => .ok (n :: ns)

def toFloat (f : Field) : Value → Except Error Value
  | .float x => .ok (.float x)
  | .integer n => .ok (.float (.ofFloat (Double.nearestFloat n)))
  | .boolean b => .ok (.float (.ofFloat (if b then 1 else 0)))
  | .text s =>
    match Decimal.readDouble? (Text.trim s.toList) with
    | some x => .ok (.float x)
    | none => .error (f.notConvertible "float" s)
  | v => .error (f.notConvertible "float" v.display)

def toBoolean : Value → Bool
  | .text s =>
    if Text.sameAscii s.toList "false".toList then false
    else if Text.sameAscii s.toList "true".toList then true
    else !s.isEmpty
  | v => v.isTruthy

/-- A run of exactly so many digits, of any script, and the rest. -/
def takeDigits? : Nat → List Char → Option (List Char × List Char)
  | 0, s => some ([], s)
  | _ + 1, [] => none
  | n + 1, c :: s =>
    if Unicode.isDigit c then (takeDigits? n s).map fun (digits, rest) => (c :: digits, rest)
    else none

/-- The number of a run of digits; only the digits `0` to `9` write one. -/
def numberOr (otherwise : Nat) (digits : List Char) : Nat :=
  (Decimal.readNat? digits).getD otherwise

def takePart? (count : Nat) (sep : Char) (s : List Char) : Option (List Char × List Char) :=
  match takeDigits? count s with
  | some (digits, c :: rest) => if c = sep then some (digits, rest) else none
  | _ => none

/-- The hour, minute and second after a date, with anything else on the same line after them. -/
def readClock? (s : List Char) : Option (Nat × Nat × Nat) :=
  let clock := match s with
    | 'T' :: rest => rest
    | s => s.dropWhile Unicode.isBlank
  if clock.length = s.length then none
  else
    match takePart? 2 ':' clock with
    | none => none
    | some (hour, rest) =>
      match takePart? 2 ':' rest with
      | none => none
      | some (minute, rest) =>
        match takeDigits? 2 rest with
        | none => none
        | some (second, rest) =>
          if rest.contains '\n' then none
          else some (numberOr 0 hour, numberOr 0 minute, numberOr 0 second)

/-- A date, and a time after `T` or white space; the date alone stands for its midnight. -/
def readDateTime? (s : List Char) : Option DateTime :=
  match takePart? 4 '-' s with
  | none => none
  | some (year, rest) =>
    match takePart? 2 '-' rest with
    | none => none
    | some (month, rest) =>
      match takeDigits? 2 rest with
      | none => none
      | some (day, rest) =>
        let date := (Decimal.readNat? year).bind fun year =>
          Date.of? year (numberOr 0 month) (numberOr 0 day)
        let time := if rest.isEmpty then some .midnight else
          (readClock? rest).bind fun (hour, minute, second) => TimeOfDay.of? hour minute second 0
        match date, time with
        | some date, some time => some ⟨date, time⟩
        | _, _ => none

def toDateTime (f : Field) (s : String) : Except Error DateTime :=
  match readDateTime? s.toList with
  | some t => .ok t
  | none => .error (f.notConvertible "date" s)

/-- Coerces a value into the kind of the field; null stays null. -/
def convert (f : Field) (v : Value) : Except Error Value :=
  if v.isNull then .ok .null
  else
    match f.kind with
    | .char | .simpleChar => .ok (.text v.display)
    | .integer => f.toInteger v
    | .float => f.toFloat v
    | .boolean => .ok (.boolean (toBoolean v))
    | .date =>
      match v with
      | .date d => .ok (.date d)
      | .dateTime t => .ok (.date t.date)
      | .text s => (f.toDateTime s).map fun t => .date t.date
      | v => .error (f.notConvertible "date" v.display)
    | .dateTime =>
      match v with
      | .dateTime t => .ok (.dateTime t)
      | .date d => .ok (.dateTime (.atMidnight d))
      | .text s => (f.toDateTime s).map .dateTime
      | v => .error (f.notConvertible "datetime" v.display)
    | .multiValue =>
      match v with
      | .list items => .ok (.list items)
      | .text s => .ok (.list (s.toList.map fun c => .text (String.ofList [c])))
      | v => .error (f.notConvertible "list" v.display)
    | .multiValueInteger =>
      match v with
      | .list items => (f.toIntegers items).map .list
      | v => .error (f.notConvertible "list" v.display)
    | .packed =>
      match v with
      | .text s =>
        if Opaque.isPayload s then
          match Opaque.decode s with
          | .ok v => .ok v
          | .error e => .error (f.notConvertible "opaque" e.message)
        else .ok (.text s)
      | v => .ok v

end RecordSearch.Field
