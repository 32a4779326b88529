import RecordSearch.Proofs.Decimal.Positional
import RecordSearch.Proofs.Double.Nearest

namespace RecordSearch.Decimal

open Double (Denotes Writes rounded roundedNat roundedNat_of_le denotes_pack denotes_toFloat
  denotes_roundWithAccuracy unpack_pack)
open Float.Model (Format UnpackedFloat)
open Float.Model.UnpackedFloat (Sign)

theorem digitsValue_toDigits (n : Nat) : digitsValue 0 (Nat.toDigits 10 n) = n := by
  calc
    digitsValue 0 (Nat.toDigits 10 n) = Nat.ofDigitChars 10 (Nat.toDigits 10 n) 0 :=
      Nat.ofDigitChars_eq_foldl.symm
    _ = n := Nat.ofDigitChars_ten_toDigits

theorem isDigit_toDigits (n : Nat) : ∀ c ∈ Nat.toDigits 10 n, c.isDigit = true :=
  fun _ listed => Nat.isDigit_of_mem_toDigits (by decide) (by decide) listed

theorem exists_toDigits_eq_cons (n : Nat) : ∃ c s, Nat.toDigits 10 n = c :: s ∧ c.isDigit = true :=
  (Numeric.whole Nat.toDigits_ne_nil (isDigit_toDigits n)).head

theorem readNumeral?_toDigits (n : Nat) :
    readNumeral? (Nat.toDigits 10 n) = some ⟨Nat.toDigits 10 n, [], 0⟩ := by
  have parts := span_digits (k := []) (isDigit_toDigits n) (by rintro c ⟨⟩)
  rw [List.append_nil] at parts
  simp [readNumeral?, parts.1, parts.2, readExponent?, Nat.toDigits_ne_nil]

theorem not_sameAscii_digit {c d : Char} (digit : c.isDigit = true) (letter : d.isAlpha = true)
    (s t : List Char) : Text.sameAscii (c :: s) (d :: t) = false := by
  have other : c.isAlpha = false := by
    obtain ⟨first, last⟩ := Char.isDigit_iff_toNat.1 digit
    have below : '9'.toNat < 'A'.toNat := by decide
    have apart : '9'.toNat < 'a'.toNat := by decide
    simp [Char.isAlpha, Char.isUpper, Char.isLower, UInt32.le_iff_toNat_le] at *
    omega
  rw [Text.sameAscii, beq_eq_false_iff_ne]
  intro same
  have heads : c.toLower = d.toLower := (List.cons.inj same).1
  have kinds := congrArg Char.isAlpha heads
  rw [Char.isAlpha_toLower_eq_isAlpha, Char.isAlpha_toLower_eq_isAlpha, other, letter] at kinds
  cases kinds

/-- Multiplied with the float 1, an integer of at most 53 digits stays the same. -/
theorem denotes_mul_one {u : UnpackedFloat} {n : Nat} (small : n < 2 ^ 53) (positive : 0 < n)
    {a : Int} (denotes : Denotes u a) (same : a = n) :
    Denotes (UnpackedFloat.mul .binary64 u (.finite .positive (2 ^ 52) (-52) (by decide))) n := by
  cases denotes with
  | zero s => omega
  | @finite s m k e factor writes =>
      cases s with
      | negative =>
          simp only [Sign.apply] at same
          omega
      | positive =>
          have equal : k = n := Int.natCast_inj.1 same
          subst equal
          have value := writes.value
          have exponent : (e + 52).toNat < 53 := by
            apply (Nat.pow_lt_pow_iff_right (a := 2) (by decide)).1
            apply Nat.lt_of_mul_lt_mul_left (a := 2 ^ 52)
            calc
              2 ^ 52 * 2 ^ (e + 52).toNat ≤ m * 2 ^ (e + 52).toNat := Nat.mul_le_mul_right _ writes.full
              _ = k * 2 ^ 52 := value
              _ < 2 ^ 53 * 2 ^ 52 := Nat.mul_lt_mul_of_pos_right small (by decide)
              _ = 2 ^ 52 * 2 ^ 53 := Nat.mul_comm _ _
          -- the product of the mantissas is the integer with zeros behind it
          have product : m * 2 ^ 52 = k * 2 ^ (104 - (e + 52).toNat) := by
            apply Nat.mul_right_cancel (Nat.two_pow_pos (e + 52).toNat)
            calc
              m * 2 ^ 52 * 2 ^ (e + 52).toNat = k * 2 ^ 52 * 2 ^ 52 := by rw [Nat.mul_right_comm, value]
              _ = k * 2 ^ (104 - (e + 52).toNat + (e + 52).toNat) := by
                rw [Nat.mul_assoc, ← Nat.pow_add, Nat.sub_add_cancel (by omega)]
              _ = _ := by rw [Nat.pow_add, Nat.mul_assoc]
          have shift : e + -52 = -((104 - (e + 52).toNat : Nat) : Int) := by
            have above := writes.above
            omega
          have length : k.log2 < 53 := (Nat.log2_lt (Nat.ne_of_gt positive)).2 small
          have rounds := denotes_roundWithAccuracy .positive (Nat.ne_of_gt positive) (n := k)
            (k := 104 - (e + 52).toNat) (by omega) (by omega)
          rw [← product, ← shift, roundedNat_of_le (Nat.le_of_lt small)] at rounds
          exact rounds

theorem denotes_ofScientific {n : Nat} (positive : 0 < n) (small : n.log2 ≤ 800) :
    Denotes (Float.ofScientific n false 0).toModel.unpack (roundedNat n) := by
  by_cases short : n < 2 ^ 53
  · have one : Float.exactlyRepresentablePowersOfTen[0].toModel.unpack =
        .finite .positive (2 ^ 52) (-52) (by decide) := rfl
    have word : n.toUInt64.toNat = n := by
      rw [Nat.toUInt64_eq, UInt64.toNat_ofNat', Nat.mod_eq_of_lt (by omega)]
    have factor := denotes_toFloat n.toUInt64
    rw [word, roundedNat_of_le (Nat.le_of_lt short)] at factor
    have product := denotes_pack (denotes_mul_one short positive factor rfl)
    rw [Float.ofScientific, dif_pos ⟨short, by decide⟩, roundedNat_of_le (Nat.le_of_lt short)]
    rw [← one] at product
    exact product
  · have model : Float.ofScientific n false 0 =
        .ofModel (.pack (UnpackedFloat.ofScientific .binary64 n 0)) := by
      rw [Float.ofScientific, dif_neg fun both => short both.1]
      rfl
    have present : n ≠ 0 := Nat.ne_of_gt positive
    have near : ¬ (0 : Int) < -((2 ^ Format.binary64.exponentBits : Int) + n.log2) := by
      change ¬ (0 : Int) < -((2048 : Int) + n.log2)
      omega
    have bits : Format.binary64.mantissaBits = 53 := rfl
    have rounds := denotes_roundWithAccuracy .positive present small (k := 53) (by omega)
    rw [model]
    apply denotes_pack
    rw [UnpackedFloat.ofScientific, dif_neg present, if_neg (by decide), if_neg near, if_pos (by decide)]
    simp only [UnpackedFloat.mul, bits, Nat.shiftLeft_eq, Int.toNat_zero, Nat.pow_zero, Nat.mul_one,
      Int.add_zero]
    exact rounds

theorem denotes_toFloat_numeral {n : Nat} (small : n < 2 ^ 64) :
    Denotes (Numeral.toFloat ⟨Nat.toDigits 10 n, [], 0⟩).toModel.unpack (roundedNat n) := by
  have written : digitsValue 0 (Nat.toDigits 10 n ++ []) = n := by
    rw [List.append_nil, digitsValue_toDigits]
  have length : (Nat.toDigits 10 n).length ≤ 20 :=
    (Nat.length_toDigits_le_iff (by decide) (by decide)).2 (by omega)
  simp only [Numeral.toFloat, written, List.length_nil]
  rcases Nat.eq_zero_or_pos n with rfl | positive
  · exact .zero .positive
  · have short : n.log2 < 64 := (Nat.log2_lt (Nat.ne_of_gt positive)).2 small
    rw [if_neg (Nat.ne_of_gt positive), if_neg (by omega), if_neg (by omega)]
    exact denotes_ofScientific positive (by omega)

theorem ofBitVec_xor_one (b : BitVec 1) : Sign.ofBitVec (b ^^^ 1#1) = -Sign.ofBitVec b := by
  rcases BitVec.eq_zero_or_eq_one b with rfl | rfl
  · rfl
  · rfl

theorem unpack_xor_signBit (b : BitVec 64) :
    UnpackedFloat.unpack .binary64 (b ^^^ 0x8000000000000000#64) =
      (UnpackedFloat.unpack .binary64 b).neg := by
  have sign : @UnpackedFloat.unpackSign .binary64 (b ^^^ 0x8000000000000000#64) =
      @UnpackedFloat.unpackSign .binary64 b ^^^ 1#1 := by
    rw [UnpackedFloat.unpackSign_def, UnpackedFloat.unpackSign_def, BitVec.extractLsb'_xor]
    rfl
  have exponent : @UnpackedFloat.unpackExponent .binary64 (b ^^^ 0x8000000000000000#64) =
      @UnpackedFloat.unpackExponent .binary64 b := by
    rw [UnpackedFloat.unpackExponent_def, UnpackedFloat.unpackExponent_def, BitVec.extractLsb'_xor]
    exact BitVec.xor_zero
  have mantissa : @UnpackedFloat.unpackMantissa .binary64 (b ^^^ 0x8000000000000000#64) =
      @UnpackedFloat.unpackMantissa .binary64 b := by
    rw [UnpackedFloat.unpackMantissa_def, UnpackedFloat.unpackMantissa_def, BitVec.extractLsb'_xor]
    exact BitVec.xor_zero
  simp only [UnpackedFloat.unpack, sign, exponent, mantissa, ofBitVec_xor_one]
  split_ifs <;> rfl

theorem denotes_negate {x : Float} {a : Int} (denotes : Denotes x.toModel.unpack a) :
    Denotes (Double.ofFloat x).negate.toFloat.toModel.unpack (-a) := by
  have bits : (Double.ofFloat x).negate.toFloat.toModel.unpack =
      (Float.Model.pack (UnpackedFloat.unpack .binary64 (x.toBits.toBitVec ^^^ 0x8000000000000000#64))).unpack :=
    rfl
  rw [bits, unpack_xor_signBit]
  exact denotes_pack denotes.neg

theorem readDouble?_of_splitSign {s : List Char} {negative : Bool} {n : Nat}
    (split : splitSign s = (negative, Nat.toDigits 10 n)) :
    readDouble? s = some (if negative then
      (Double.ofFloat (Numeral.toFloat ⟨Nat.toDigits 10 n, [], 0⟩)).negate
      else .ofFloat (Numeral.toFloat ⟨Nat.toDigits 10 n, [], 0⟩)) := by
  obtain ⟨c, t, start, digit⟩ := exists_toDigits_eq_cons n
  have infinity : Text.sameAscii (Nat.toDigits 10 n) "inf".toList = false := by
    rw [start]
    exact not_sameAscii_digit digit (by decide) _ _
  have infinityWord : Text.sameAscii (Nat.toDigits 10 n) "infinity".toList = false := by
    rw [start]
    exact not_sameAscii_digit digit (by decide) _ _
  have nan : Text.sameAscii (Nat.toDigits 10 n) "nan".toList = false := by
    rw [start]
    exact not_sameAscii_digit digit (by decide) _ _
  simp only [readDouble?, split, infinity, infinityWord, nan, Bool.or_self, Bool.false_eq_true, if_false,
    readNumeral?_toDigits, Option.map_some]

theorem toList_integerText (n : Int64) :
    (Value.integerText n).toList =
      if n.toInt < 0 then '-' :: Nat.toDigits 10 n.toInt.natAbs else Nat.toDigits 10 n.toInt.natAbs := by
  have natural : ∀ m : Nat, (toString m).toList = Nat.toDigits 10 m := by
    intro m
    rw [Nat.toString_eq_ofList_toDigits, String.toList_ofList]
  rw [Value.integerText]
  cases n.toInt with
  | ofNat m =>
      have other : ¬ Int.ofNat m < 0 := Int.not_lt.2 (Int.natCast_nonneg m)
      rw [if_neg other]
      exact natural m
  | negSucc m =>
      rw [if_pos (Int.negSucc_lt_zero m)]
      change ("-" ++ toString (m + 1)).toList = '-' :: Nat.toDigits 10 (m + 1)
      rw [String.toList_append, natural]
      rfl

theorem head_integerText (n : Int64) :
    ∃ c s, (Value.integerText n).toList = c :: s ∧ (c = '-' ∨ c.isDigit = true) := by
  obtain ⟨c, s, start, digit⟩ := exists_toDigits_eq_cons n.toInt.natAbs
  rw [toList_integerText]
  by_cases negative : n.toInt < 0
  · rw [if_pos negative]
    exact ⟨'-', _, rfl, .inl rfl⟩
  · rw [if_neg negative]
    exact ⟨c, s, start, .inr digit⟩

theorem integerText_ne_nil (n : Int64) : (Value.integerText n).toList ≠ [] := by
  obtain ⟨c, s, start, -⟩ := head_integerText n
  rw [start]
  exact List.cons_ne_nil c s

/-- The text of an integer is read as the integer rounded to 53 digits. -/
theorem exists_readFloat?_integerText (n : Int64) :
    ∃ x, readFloat? (Value.integerText n).toList = some x ∧ Denotes x.toModel.unpack (rounded n.toInt) := by
  have lower := n.le_toInt
  have upper := n.toInt_lt
  have number := denotes_toFloat_numeral (show n.toInt.natAbs < 2 ^ 64 by omega)
  rw [toList_integerText, readFloat?, rounded]
  by_cases negative : n.toInt < 0
  · rw [if_pos negative, if_pos negative, readDouble?_of_splitSign rfl]
    exact ⟨_, rfl, denotes_negate number⟩
  · obtain ⟨c, s, start, digit⟩ := exists_toDigits_eq_cons n.toInt.natAbs
    have unsigned : splitSign (Nat.toDigits 10 n.toInt.natAbs) = (false, Nat.toDigits 10 n.toInt.natAbs) := by
      rw [start, splitSign_digit digit]
    rw [if_neg negative, if_neg negative, readDouble?_of_splitSign unsigned]
    refine ⟨_, rfl, ?_⟩
    rw [if_neg Bool.false_ne_true, Double.toFloat, Double.ofFloat, Float.ofBits_toBits]
    exact number

end RecordSearch.Decimal
