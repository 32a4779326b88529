import RecordSearch.Calendar.Read
import RecordSearch.Value

/-!
The layout of a value in bytes: the number of its kind, then its content. Numbers are little-endian,
texts and lists begin with their length, and dates are texts.
-/

namespace RecordSearch.Opaque.Layout

def numberBytes : (count n : Nat) → List UInt8
  | 0, _ => []
  | count + 1, n => UInt8.ofNat (n % 256) :: numberBytes count (n / 256)

def bytesNumber : List UInt8 → Nat
  | [] => 0
  | b :: rest => b.toNat + 256 * bytesNumber rest

theorem bytesNumber_numberBytes (count n : Nat) :
    bytesNumber (numberBytes count n) = n % Nat.pow 256 count := by
  induction count generalizing n with
  | zero => simp [numberBytes, bytesNumber, Nat.mod_one]
  | succ count ih =>
    simp only [numberBytes, bytesNumber, ih, UInt8.toNat_ofNat']
    change n % 256 % 256 + 256 * (n / 256 % Nat.pow 256 count) = n % (Nat.pow 256 count * 256)
    rw [Nat.mod_mod, Nat.mul_comm (Nat.pow 256 count) 256, Nat.mod_mul]

theorem length_numberBytes (count n : Nat) : (numberBytes count n).length = count := by
  induction count generalizing n with
  | zero => rfl
  | succ count ih => simp [numberBytes, ih]

def tag (n : Nat) : List UInt8 := numberBytes 4 n

def textBytes (s : String) : List UInt8 :=
  let bytes := s.toUTF8.data.toList
  numberBytes 8 bytes.length ++ bytes

mutual

def encode : Value → List UInt8
  | .null => tag 0
  | .text s => tag 1 ++ textBytes s
  | .integer n => tag 2 ++ numberBytes 8 n.toUInt64.toNat
  | .float x => tag 3 ++ numberBytes 8 x.bits.toNat
  | .boolean b => tag 4 ++ [if b then 1 else 0]
  | .date d => tag 5 ++ textBytes (String.ofList d.text)
  | .dateTime t => tag 6 ++ textBytes (String.ofList t.fullText)
  | .list items => tag 7 ++ numberBytes 8 items.length ++ encodeItems items

def encodeItems : List Value → List UInt8
  | [] => []
  | item :: items => encode item ++ encodeItems items

end

def take? (count : Nat) (bytes : List UInt8) : Option (List UInt8 × List UInt8) :=
  let taken := bytes.take count
  if taken.length < count then none else some (taken, bytes.drop count)

def readNumber? (count : Nat) (bytes : List UInt8) : Option (Nat × List UInt8) :=
  (take? count bytes).map fun (taken, rest) => (bytesNumber taken, rest)

def readText? (bytes : List UInt8) : Option (String × List UInt8) :=
  match readNumber? 8 bytes with
  | some (length, rest) =>
    match take? length rest with
    | some (taken, rest) => (String.fromUTF8? ⟨taken.toArray⟩).map fun s => (s, rest)
    | none => none
  | none => none

mutual

/-- Reads a value; the fuel bounds the number of values and lists within it. -/
def read? : Nat → List UInt8 → Option (Value × List UInt8)
  | 0, _ => none
  | fuel + 1, bytes =>
    match readNumber? 4 bytes with
    | some (0, rest) => some (.null, rest)
    | some (1, rest) => (readText? rest).map fun (s, rest) => (.text s, rest)
    | some (2, rest) =>
      (readNumber? 8 rest).map fun (n, rest) => (.integer (UInt64.ofNat n).toInt64, rest)
    | some (3, rest) =>
      (readNumber? 8 rest).map fun (n, rest) => (.float ⟨UInt64.ofNat n⟩, rest)
    | some (4, rest) =>
      match readNumber? 1 rest with
      | some (0, rest) => some (.boolean false, rest)
      | some (1, rest) => some (.boolean true, rest)
      | _ => none
    | some (5, rest) =>
      match readText? rest with
      | some (s, rest) =>
        (Calendar.readPayloadDate? s.toList).map fun d => (.date d, rest)
      | none => none
    | some (6, rest) =>
      match readText? rest with
      | some (s, rest) =>
        (Calendar.readPayloadDateTime? s.toList).map fun t => (.dateTime t, rest)
      | none => none
    | some (7, rest) =>
      match readNumber? 8 rest with
      | some (count, rest) =>
        (readItems? fuel count rest).map fun (items, rest) => (.list items, rest)
      | none => none
    | _ => none

def readItems? : Nat → Nat → List UInt8 → Option (List Value × List UInt8)
  | _, 0, bytes => some ([], bytes)
  | 0, _ + 1, _ => none
  | fuel + 1, count + 1, bytes =>
    match read? fuel bytes with
    | some (item, rest) =>
      (readItems? fuel count rest).map fun (items, rest) => (item :: items, rest)
    | none => none

end

/-- The value at the start of the bytes; what follows it is ignored. -/
def decode? (bytes : List UInt8) : Option Value := (read? (bytes.length + 1) bytes).map Prod.fst

end RecordSearch.Opaque.Layout
