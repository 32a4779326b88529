namespace RecordSearch.Opaque.Base64

def sextetChar (n : Nat) : Char :=
  if n < 26 then Char.ofNat ('A'.toNat + n)
  else if n < 52 then Char.ofNat ('a'.toNat + (n - 26))
  else if n < 62 then Char.ofNat ('0'.toNat + (n - 52))
  else if n = 62 then '+' else '/'

def sextet? (c : Char) : Option Nat :=
  if c.isUpper then some (c.toNat - 'A'.toNat)
  else if c.isLower then some (c.toNat - 'a'.toNat + 26)
  else if c.isDigit then some (c.toNat - '0'.toNat + 52)
  else if c = '+' then some 62
  else if c = '/' then some 63
  else none

theorem sextet?_sextetChar {n : Nat} (small : n < 64) : sextet? (sextetChar n) = some n := by
  have every : ∀ m ∈ List.range 64, sextet? (sextetChar m) = some m := by decide
  exact every n (List.mem_range.2 small)

def encode : List UInt8 → List Char
  | a :: b :: c :: rest =>
    let n := (a.toNat * 256 + b.toNat) * 256 + c.toNat
    sextetChar (n / 262144) :: sextetChar (n / 4096 % 64) :: sextetChar (n / 64 % 64) ::
      sextetChar (n % 64) :: encode rest
  | [a, b] =>
    let n := (a.toNat * 256 + b.toNat) * 4
    [sextetChar (n / 4096), sextetChar (n / 64 % 64), sextetChar (n % 64), '=']
  | [a] =>
    let n := a.toNat * 16
    [sextetChar (n / 64), sextetChar (n % 64), '=', '=']
  | [] => []

def bytes (count n : Nat) : List UInt8 :=
  match count with
  | 0 => []
  | count + 1 => UInt8.ofNat (n / Nat.pow 256 count % 256) :: bytes count n

/-- The bytes of a last group; bits that belong to no byte are zero. -/
def decodeLast? (w x y z : Char) : Option (List UInt8) :=
  match sextet? w, sextet? x with
  | some a, some b =>
    if y = '=' && z = '=' then
      if b % 16 = 0 then some (bytes 1 ((a * 64 + b) / 16)) else none
    else
      match sextet? y with
      | some c =>
        if z = '=' then
          if c % 4 = 0 then some (bytes 2 (((a * 64 + b) * 64 + c) / 4)) else none
        else (sextet? z).map fun d => bytes 3 (((a * 64 + b) * 64 + c) * 64 + d)
      | none => none
  | _, _ => none

def decode? : List Char → Option (List UInt8)
  | [] => some []
  | [w, x, y, z] => decodeLast? w x y z
  | w :: x :: y :: z :: rest =>
    match sextet? w, sextet? x, sextet? y, sextet? z with
    | some a, some b, some c, some d =>
      (decode? rest).map fun tail => bytes 3 (((a * 64 + b) * 64 + c) * 64 + d) ++ tail
    | _, _, _, _ => none
  | _ => none

end RecordSearch.Opaque.Base64
