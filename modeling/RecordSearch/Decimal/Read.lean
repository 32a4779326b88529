import RecordSearch.Double
import RecordSearch.Text.Case

namespace RecordSearch.Decimal

def digitValue (c : Char) : Nat := c.toNat - '0'.toNat

def digitsValue (seen : Nat) (s : List Char) : Nat :=
  s.foldl (fun n c => 10 * n + digitValue c) seen

/-- A natural number: one digit or more and nothing else. -/
def readNat? (s : List Char) : Option Nat :=
  if s.isEmpty || !s.all Char.isDigit then none else some (digitsValue 0 s)

def splitSign : List Char → Bool × List Char
  | '-' :: s => (true, s)
  | '+' :: s => (false, s)
  | s => (false, s)

def readInt? (s : List Char) : Option Int :=
  let (negative, s) := splitSign s
  (readNat? s).map fun n => if negative then -(n : Int) else n

def readInt64? (s : List Char) : Option Int64 :=
  match readInt? s with
  | some n => if Int64.minValue.toInt ≤ n && n ≤ Int64.maxValue.toInt then some (Int64.ofInt n) else none
  | none => none

def readWord? (s : List Char) : Option Nat :=
  match readNat? s with
  | some n => if n < UInt64.size then some n else none
  | none => none

structure Numeral where
  whole : List Char
  fraction : List Char
  exponent : Int
  deriving DecidableEq, Repr

def readExponent? : List Char → Option Int
  | [] => some 0
  | c :: s => if c = 'e' || c = 'E' then readInt? s else none

def readNumeral? (s : List Char) : Option Numeral :=
  let whole := s.takeWhile Char.isDigit
  let rest := s.dropWhile Char.isDigit
  let (fraction, rest) := match rest with
    | '.' :: after => (after.takeWhile Char.isDigit, after.dropWhile Char.isDigit)
    | rest => ([], rest)
  if whole.isEmpty && fraction.isEmpty then none
  else (readExponent? rest).map fun exponent => ⟨whole, fraction, exponent⟩

/-- The double nearest to a numeral; the bounds lie outside what a double can tell from infinity and zero. -/
def Numeral.toFloat (n : Numeral) : Float :=
  let digits := digitsValue 0 (n.whole ++ n.fraction)
  let exponent := n.exponent - n.fraction.length
  if digits = 0 then 0
  else
    let magnitude := exponent + (Nat.toDigits 10 digits).length
    if 320 < magnitude then 1 / 0
    else if magnitude < -340 then 0
    else match exponent with
      | .ofNat e => Float.ofScientific digits false e
      | .negSucc e => Float.ofScientific digits true (e + 1)

/-- A double: a numeral, or the names of infinity and of no number in any case, after an optional sign. -/
def readDouble? (s : List Char) : Option Double :=
  let (negative, s) := splitSign s
  let size :=
    if Text.sameAscii s "inf".toList || Text.sameAscii s "infinity".toList then some (1 / 0)
    else if Text.sameAscii s "nan".toList then some (0 / 0)
    else (readNumeral? s).map Numeral.toFloat
  size.map fun x => if negative then (Double.ofFloat x).negate else .ofFloat x

def readFloat? (s : List Char) : Option Float := (readDouble? s).map Double.toFloat

end RecordSearch.Decimal
