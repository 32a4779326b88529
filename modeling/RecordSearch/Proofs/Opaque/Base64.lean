import RecordSearch.Opaque.Base64

namespace RecordSearch.Opaque.Base64

theorem sextetChar_ne_pad {n : Nat} (small : n < 64) : sextetChar n ≠ '=' := by
  intro same
  have read := sextet?_sextetChar small
  rw [same] at read
  cases read

theorem bytes_one (a : UInt8) : bytes 1 a.toNat = [a] := by
  have bound := a.toNat_lt
  have low : a.toNat / Nat.pow 256 0 % 256 = a.toNat := by
    change a.toNat / 1 % 256 = a.toNat
    omega
  rw [bytes, bytes, low, UInt8.ofNat_toNat]

theorem bytes_two (a b : UInt8) : bytes 2 (a.toNat * 256 + b.toNat) = [a, b] := by
  have boundA := a.toNat_lt
  have boundB := b.toNat_lt
  have high : (a.toNat * 256 + b.toNat) / Nat.pow 256 1 % 256 = a.toNat := by
    change (a.toNat * 256 + b.toNat) / 256 % 256 = a.toNat
    omega
  have low : (a.toNat * 256 + b.toNat) / Nat.pow 256 0 % 256 = b.toNat := by
    change (a.toNat * 256 + b.toNat) / 1 % 256 = b.toNat
    omega
  rw [bytes, bytes, bytes, high, low, UInt8.ofNat_toNat, UInt8.ofNat_toNat]

theorem bytes_three (a b c : UInt8) :
    bytes 3 ((a.toNat * 256 + b.toNat) * 256 + c.toNat) = [a, b, c] := by
  have boundA := a.toNat_lt
  have boundB := b.toNat_lt
  have boundC := c.toNat_lt
  have high : ((a.toNat * 256 + b.toNat) * 256 + c.toNat) / Nat.pow 256 2 % 256 = a.toNat := by
    change ((a.toNat * 256 + b.toNat) * 256 + c.toNat) / 65536 % 256 = a.toNat
    omega
  have middle : ((a.toNat * 256 + b.toNat) * 256 + c.toNat) / Nat.pow 256 1 % 256 = b.toNat := by
    change ((a.toNat * 256 + b.toNat) * 256 + c.toNat) / 256 % 256 = b.toNat
    omega
  have low : ((a.toNat * 256 + b.toNat) * 256 + c.toNat) / Nat.pow 256 0 % 256 = c.toNat := by
    change ((a.toNat * 256 + b.toNat) * 256 + c.toNat) / 1 % 256 = c.toNat
    omega
  rw [bytes, bytes, bytes, bytes, high, middle, low, UInt8.ofNat_toNat, UInt8.ofNat_toNat,
    UInt8.ofNat_toNat]

theorem sextets_eq {n : Nat} (small : n < 16777216) :
    ((n / 262144 * 64 + n / 4096 % 64) * 64 + n / 64 % 64) * 64 + n % 64 = n := by
  omega

theorem decodeLast?_one (a : UInt8) :
    decodeLast? (sextetChar (a.toNat * 16 / 64)) (sextetChar (a.toNat * 16 % 64)) '=' '=' =
      some [a] := by
  have bound := a.toNat_lt
  have even : a.toNat * 16 % 64 % 16 = 0 := by omega
  have number : (a.toNat * 16 / 64 * 64 + a.toNat * 16 % 64) / 16 = a.toNat := by omega
  rw [decodeLast?, sextet?_sextetChar (by omega), sextet?_sextetChar (by omega)]
  simp only [decide_true, Bool.and_self, if_true, if_pos even]
  rw [number, bytes_one]

theorem decodeLast?_two (a b : UInt8) :
    let n := (a.toNat * 256 + b.toNat) * 4
    decodeLast? (sextetChar (n / 4096)) (sextetChar (n / 64 % 64)) (sextetChar (n % 64)) '=' =
      some [a, b] := by
  intro n
  have boundA := a.toNat_lt
  have boundB := b.toNat_lt
  have small : n < 262144 := by omega
  have pad := sextetChar_ne_pad (n := n % 64) (by omega)
  have even : n % 64 % 4 = 0 := by omega
  have number : ((n / 4096 * 64 + n / 64 % 64) * 64 + n % 64) / 4 = a.toNat * 256 + b.toNat := by omega
  rw [decodeLast?, sextet?_sextetChar (by omega), sextet?_sextetChar (by omega)]
  simp only [pad, decide_false, Bool.false_and, Bool.false_eq_true, if_false, if_true,
    sextet?_sextetChar (Nat.mod_lt n (by decide : 64 > 0)), if_pos even]
  rw [number, bytes_two]

theorem decodeLast?_three {n : Nat} (small : n < 16777216) :
    decodeLast? (sextetChar (n / 262144)) (sextetChar (n / 4096 % 64)) (sextetChar (n / 64 % 64))
      (sextetChar (n % 64)) = some (bytes 3 n) := by
  have third := sextetChar_ne_pad (n := n / 64 % 64) (by omega)
  have last := sextetChar_ne_pad (n := n % 64) (by omega)
  rw [decodeLast?, sextet?_sextetChar (by omega), sextet?_sextetChar (by omega)]
  simp only [third, last, decide_false, Bool.false_and, Bool.false_eq_true, if_false,
    sextet?_sextetChar (Nat.mod_lt _ (by decide : 64 > 0)), Option.map_some]
  rw [sextets_eq small]

theorem encode_eq_nil_iff {s : List UInt8} : encode s = [] ↔ s = [] := by
  fun_cases encode s with
  | case1 a b c rest => simp
  | case2 a b => simp
  | case3 a => simp
  | case4 => simp

theorem decode?_group {n : Nat} (small : n < 16777216) {text : List Char} (more : text ≠ []) :
    decode? (sextetChar (n / 262144) :: sextetChar (n / 4096 % 64) :: sextetChar (n / 64 % 64) ::
      sextetChar (n % 64) :: text) = (decode? text).map (bytes 3 n ++ ·) := by
  cases text with
  | nil => exact absurd rfl more
  | cons c text =>
      rw [decode?, sextet?_sextetChar (by omega), sextet?_sextetChar (by omega),
        sextet?_sextetChar (by omega), sextet?_sextetChar (by omega)]
      · simp only [sextets_eq small]
      · exact more

theorem decode?_encode (s : List UInt8) : decode? (encode s) = some s := by
  induction s using encode.induct with
  | case1 a b c rest ih =>
      have small : (a.toNat * 256 + b.toNat) * 256 + c.toNat < 16777216 := by
        have boundA := a.toNat_lt
        have boundB := b.toNat_lt
        have boundC := c.toNat_lt
        omega
      rw [encode]
      by_cases last : rest = []
      · subst last
        rw [encode, decode?, decodeLast?_three small, bytes_three]
      · have more : encode rest ≠ [] := fun empty => last (encode_eq_nil_iff.1 empty)
        rw [decode?_group small more, ih, Option.map_some, bytes_three]
        rfl
  | case2 a b => exact decodeLast?_two a b
  | case3 a => exact decodeLast?_one a
  | case4 => rfl

end RecordSearch.Opaque.Base64
