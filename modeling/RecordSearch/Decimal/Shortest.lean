import RecordSearch.Double

/-!
The shortest decimal that reads back as a given binary number, computed exactly, and its positional
and scientific forms.
-/

namespace RecordSearch.Decimal

structure Scaled where
  coefficient : Nat
  exponent : Int
  deriving DecidableEq, Repr

structure Binary where
  mantissa : Nat
  exponent : Int
  /-- Whether the double below is half as far away as the one above. -/
  narrowBelow : Bool
  deriving DecidableEq, Repr

structure Ratio where
  num : Nat
  den : Nat
  deriving DecidableEq, Repr

def Ratio.scale (r : Ratio) (base : Nat) (exponent : Int) : Ratio :=
  match exponent with
  | .ofNat n => ⟨r.num * Nat.pow base n, r.den⟩
  | .negSucc n => ⟨r.num, r.den * Nat.pow base (n + 1)⟩

def Ratio.le (a b : Ratio) : Bool := a.num * b.den ≤ b.num * a.den

def Ratio.lt (a b : Ratio) : Bool := a.num * b.den < b.num * a.den

def Binary.low (b : Binary) : Ratio :=
  Ratio.scale ⟨4 * b.mantissa - (if b.narrowBelow then 1 else 2), 4⟩ 2 b.exponent

def Binary.high (b : Binary) : Ratio := Ratio.scale ⟨4 * b.mantissa + 2, 4⟩ 2 b.exponent

def Binary.ratio (b : Binary) : Ratio := Ratio.scale ⟨b.mantissa, 1⟩ 2 b.exponent

/-- Whether a number reads as `b`; the ends belong to an even mantissa. -/
def Binary.holds (b : Binary) (r : Ratio) : Bool :=
  if b.mantissa % 2 = 0 then b.low.le r && r.le b.high else b.low.lt r && r.lt b.high

def Scaled.ratio (d : Scaled) : Ratio := Ratio.scale ⟨d.coefficient, 1⟩ 10 d.exponent

def Ratio.magnitude (r : Ratio) : Int :=
  if r.den ≤ r.num then (Nat.toDigits 10 (r.num / r.den)).length
  else 1 - (Nat.toDigits 10 ((r.den - 1) / r.num)).length

/-- The nearer of the two neighbours of `b` on a decimal grid that reads as `b`, the greater of two
equally near. -/
def Binary.onGrid? (b : Binary) (exponent : Int) : Option Scaled :=
  let r := b.ratio.scale 10 (-exponent)
  let below := r.num / r.den
  let down : Scaled := ⟨below, exponent⟩
  let up : Scaled := ⟨below + 1, exponent⟩
  if b.holds down.ratio && (2 * (r.num % r.den) < r.den || !b.holds up.ratio) then some down
  else if b.holds up.ratio then some up
  else none

def Binary.searchGrids (b : Binary) (magnitude : Int) : (finer digits : Nat) → Scaled
  | 0, digits => ⟨(b.ratio.scale 10 (digits - magnitude)).num, magnitude - digits⟩
  | finer + 1, digits =>
    match b.onGrid? (magnitude - digits) with
    | some d => d
    | none => b.searchGrids magnitude finer (digits + 1)

def Binary.shortest (b : Binary) : Scaled := b.searchGrids b.ratio.magnitude 17 1

def Scaled.normal (d : Scaled) : List Char × Int :=
  let digits := Nat.toDigits 10 d.coefficient
  let kept := (digits.reverse.dropWhile (· = '0')).reverse
  (kept, d.exponent + digits.length)

def Scaled.positional (d : Scaled) : List Char :=
  let (digits, point) := d.normal
  match point with
  | .negSucc n => '0' :: '.' :: List.replicate (n + 1) '0' ++ digits
  | .ofNat 0 => '0' :: '.' :: digits
  | .ofNat n =>
    if digits.length ≤ n then digits ++ List.replicate (n - digits.length) '0'
    else digits.take n ++ '.' :: digits.drop n

def Scaled.scientific (d : Scaled) : List Char :=
  let (digits, point) := d.normal
  let lead := match digits with
    | [] => ['0']
    | [only] => [only]
    | first :: rest => first :: '.' :: rest
  lead ++ 'e' :: (toString (point - 1)).toList

inductive Size where
  | nan
  | infinite
  | zero
  | finite (b : Binary)

def hiddenBit : Nat := Nat.pow 2 52

def sizeOf (x : Double) : Size :=
  let bits := x.bits.toNat
  let fraction := bits % hiddenBit
  let biased := bits / hiddenBit % 2048
  if biased = 2047 then (if fraction = 0 then .infinite else .nan)
  else if biased = 0 then (if fraction = 0 then .zero else .finite ⟨fraction, -1074, false⟩)
  else .finite ⟨hiddenBit + fraction, Int.ofNat biased - 1075, fraction == 0 && biased != 1⟩

def signed (x : Double) (s : List Char) : List Char := if x.isNegative then '-' :: s else s

/-- The shortest digits that read back, in full and without exponent. -/
def doubleText (x : Double) : List Char :=
  match sizeOf x with
  | .nan => ['N', 'a', 'N']
  | .infinite => signed x ['i', 'n', 'f']
  | .zero => signed x ['0']
  | .finite b => signed x b.shortest.positional

def floatText (x : Float) : List Char := doubleText (.ofFloat x)

/-- The shortest digits with a fraction always shown, in powers of ten below 1e-4 and from 1e16 on. -/
def doubleDebug (x : Double) : List Char :=
  match sizeOf x with
  | .nan => ['N', 'a', 'N']
  | .infinite => signed x ['i', 'n', 'f']
  | .zero => signed x ['0', '.', '0']
  | .finite b =>
    let d := b.shortest
    let point := d.normal.2
    if point ≤ -4 || 17 ≤ point then signed x d.scientific
    else
      let s := d.positional
      signed x (if s.contains '.' then s else s ++ ['.', '0'])

end RecordSearch.Decimal
