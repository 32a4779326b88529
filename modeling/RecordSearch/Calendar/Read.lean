import RecordSearch.Calendar.DateTime
import RecordSearch.Decimal.Read
import RecordSearch.Text.Blank

namespace RecordSearch.Calendar

open Text (trimStart)

inductive Part where
  | year
  | month
  | day
  | hour
  | minute
  | second
  | fraction
  | literal (c : Char)
  | blanks
  deriving DecidableEq, Repr

structure Reading where
  year : Int
  month : Nat
  day : Nat
  hour : Nat
  minute : Nat
  second : Nat
  nano : Nat
  deriving DecidableEq, Repr

def Reading.empty : Reading := ⟨0, 0, 0, 0, 0, 0, 0⟩

def readDigits? (limit : Nat) (s : List Char) : Option (Nat × List Char) :=
  let digits := (s.take limit).takeWhile Char.isDigit
  if digits.isEmpty then none else some (Decimal.digitsValue 0 digits, s.drop digits.length)

/-- A year of at most four digits, or of any number of them after a sign. -/
def readYear? : List Char → Option (Int × List Char)
  | '-' :: s => (readDigits? s.length s).map fun (n, rest) => (-(n : Int), rest)
  | '+' :: s => (readDigits? s.length s).map fun (n, rest) => ((n : Int), rest)
  | s => (readDigits? 4 s).map fun (n, rest) => ((n : Int), rest)

/-- A fraction of a second in nanoseconds; digits after the ninth are dropped. -/
def readFraction? (s : List Char) : Option (Nat × List Char) :=
  let digits := s.takeWhile Char.isDigit
  if digits.isEmpty then none
  else
    let kept := digits.take 9
    some (Decimal.digitsValue 0 kept * Nat.pow 10 (9 - kept.length), s.dropWhile Char.isDigit)

def readPart? (r : Reading) (s : List Char) : Part → Option (Reading × List Char)
  | .year => (readYear? (trimStart s)).map fun (n, rest) => ({ r with year := n }, rest)
  | .month => (readDigits? 2 (trimStart s)).map fun (n, rest) => ({ r with month := n }, rest)
  | .day => (readDigits? 2 (trimStart s)).map fun (n, rest) => ({ r with day := n }, rest)
  | .hour => (readDigits? 2 (trimStart s)).map fun (n, rest) => ({ r with hour := n }, rest)
  | .minute => (readDigits? 2 (trimStart s)).map fun (n, rest) => ({ r with minute := n }, rest)
  | .second => (readDigits? 2 (trimStart s)).map fun (n, rest) => ({ r with second := n }, rest)
  | .fraction =>
    match s with
    | '.' :: s => (readFraction? s).map fun (n, rest) => ({ r with nano := n }, rest)
    | s => some (r, s)
  | .literal c =>
    match s with
    | [] => none
    | a :: s => if a = c then some (r, s) else none
  | .blanks => some (r, trimStart s)

def readParts? (r : Reading) (s : List Char) : List Part → Option Reading
  | [] => if s.isEmpty then some r else none
  | part :: parts =>
    match readPart? r s part with
    | some (r, s) => readParts? r s parts
    | none => none

def Reading.date? (r : Reading) : Option Date := Date.of? r.year r.month r.day

/-- Second 60 is the leap second after second 59. -/
def Reading.time? (r : Reading) : Option TimeOfDay :=
  if r.second = 60 then TimeOfDay.of? r.hour r.minute 59 (1000000000 + r.nano)
  else TimeOfDay.of? r.hour r.minute r.second r.nano

def Reading.dateTime? (r : Reading) : Option DateTime :=
  match r.date?, r.time? with
  | some date, some time => some ⟨date, time⟩
  | _, _ => none

def dateParts : List Part := [.year, .literal '-', .month, .literal '-', .day]

def clockParts : List Part := [.hour, .literal ':', .minute, .literal ':', .second]

def instantFormats : List (List Part) :=
  [dateParts ++ .literal 'T' :: clockParts ++ [.literal 'Z'],
   dateParts ++ .literal 'T' :: clockParts,
   dateParts ++ .blanks :: clockParts]

/-- An instant in one of the formats, or a date, which stands for its midnight. -/
def readInstant? (s : List Char) : Option DateTime :=
  let instant := instantFormats.findSome? fun format =>
    (readParts? .empty s format).bind Reading.dateTime?
  match instant with
  | some t => some t
  | none => ((readParts? .empty s dateParts).bind Reading.date?).map DateTime.atMidnight

def payloadDateParts : List Part :=
  [.year, .blanks, .literal '-', .month, .blanks, .literal '-', .day]

def readPayloadDate? (s : List Char) : Option Date :=
  (readParts? .empty s (payloadDateParts ++ [.blanks])).bind Reading.date?

def readPayloadDateTime? (s : List Char) : Option DateTime :=
  let clock : List Part :=
    [.hour, .blanks, .literal ':', .minute, .blanks, .literal ':', .second, .fraction, .blanks]
  (readParts? .empty s (payloadDateParts ++ .blanks :: .literal 'T' :: clock)).bind
    Reading.dateTime?

end RecordSearch.Calendar
