import RecordSearch.Proofs.Double.Order
import RecordSearch.Proofs.Double.Rounding

/-!
Floats that are integers. The float nearest to an integer is the integer rounded to 53 digits, and floats
that are integers compare as these.
-/

namespace RecordSearch.Double

open Float.Model (Format UnpackedFloat totalExponent)
open Float.Model.UnpackedFloat (ExtendedMantissa Sign roundWithAccuracy shiftToExponent shiftToTargetExponent)

structure Writes (m : Nat) (e : Int) (n : Nat) : Prop where
  full : 2 ^ 52 ≤ m
  fits : m < 2 ^ 53
  above : -52 ≤ e
  below : e ≤ 900
  value : m * 2 ^ (e + 52).toNat = n * 2 ^ 52

/-- The integer that an unpacked float is. -/
inductive Denotes : UnpackedFloat → Int → Prop where
  | zero (s : Sign) : Denotes (.zero s) 0
  | finite (s : Sign) {m n : Nat} {e : Int} (positive : 0 < m) (writes : Writes m e n) :
      Denotes (.finite s m e positive) (s.apply n)

section

variable {m n k l : Nat} {e f : Int}

theorem Writes.positive (writes : Writes m e n) : 0 < n := by
  have value := writes.value
  have factor : 0 < m * 2 ^ (e + 52).toNat :=
    Nat.mul_pos (by have := writes.full; omega) (Nat.two_pow_pos _)
  omega

theorem Writes.lt_of_exponent_lt (first : Writes m e n) (second : Writes k f l) (less : e < f) : n < l := by
  have next : (e + 52).toNat + 1 ≤ (f + 52).toNat := by
    have above := first.above
    omega
  apply Nat.lt_of_mul_lt_mul_right (a := 2 ^ 52)
  calc
    n * 2 ^ 52 = m * 2 ^ (e + 52).toNat := first.value.symm
    _ < 2 ^ 53 * 2 ^ (e + 52).toNat := Nat.mul_lt_mul_of_pos_right first.fits (Nat.two_pow_pos _)
    _ = 2 ^ 52 * 2 ^ ((e + 52).toNat + 1) := by rw [← two_pow_mul_comm, Nat.mul_comm]
    _ ≤ 2 ^ 52 * 2 ^ (f + 52).toNat := Nat.mul_le_mul_left _ (Nat.pow_le_pow_right (by decide) next)
    _ ≤ k * 2 ^ (f + 52).toNat := Nat.mul_le_mul_right _ second.full
    _ = l * 2 ^ 52 := second.value

theorem Writes.lt_iff_of_exponent_eq (first : Writes m e n) (second : Writes k e l) : m < k ↔ n < l := by
  have scaled := Nat.mul_lt_mul_right (Nat.two_pow_pos (e + 52).toNat) (b := m) (c := k)
  rw [← scaled, first.value, second.value, Nat.mul_lt_mul_right (by decide)]

theorem Writes.compare_eq (first : Writes m e n) (second : Writes k f l) :
    (compare e f).then (compare (m : Int) k) = compare (n : Int) l := by
  rcases Int.lt_trichotomy e f with less | rfl | greater
  · have smaller : (n : Int) < l := Int.ofNat_lt.2 (first.lt_of_exponent_lt second less)
    rw [compare_lt_iff_lt.2 less, compare_lt_iff_lt.2 smaller]
    rfl
  · rw [compare_eq_iff_eq.2 rfl, compare_natCast, compare_natCast]
    have forth := first.lt_iff_of_exponent_eq second
    have back := second.lt_iff_of_exponent_eq first
    change compare m k = compare n l
    cases order : compare n l with
    | lt => exact compare_lt_iff_lt.2 (forth.2 (compare_lt_iff_lt.1 order))
    | gt => exact compare_gt_iff_gt.2 (back.2 (compare_gt_iff_gt.1 order))
    | eq =>
        have same := compare_eq_iff_eq.1 order
        apply compare_eq_iff_eq.2
        omega
  · have larger : (l : Int) < n := Int.ofNat_lt.2 (second.lt_of_exponent_lt first greater)
    rw [compare_gt_iff_gt.2 greater, compare_gt_iff_gt.2 larger]
    rfl

end

theorem comparePlaces_of_denotes {u v : UnpackedFloat} {a b : Int} (first : Denotes u a)
    (second : Denotes v b) : comparePlaces (place u) (place v) = compare a b := by
  cases first with
  | zero s =>
      cases second with
      | zero t => rfl
      | finite t positive writes =>
          have number := writes.positive
          cases t with
          | negative => exact (compare_gt_iff_gt.2 (by simp [Sign.apply, number])).symm
          | positive => exact (compare_lt_iff_lt.2 (by simp [Sign.apply, number])).symm
  | finite s positive writes =>
      have number := writes.positive
      cases second with
      | zero t =>
          cases s with
          | negative => exact (compare_lt_iff_lt.2 (by simp [Sign.apply, number])).symm
          | positive => exact (compare_gt_iff_gt.2 (by simp [Sign.apply, number])).symm
      | finite t other reads =>
          have another := reads.positive
          cases s with
          | negative =>
              cases t with
              | negative =>
                  have swapped := congrArg Ordering.swap (writes.compare_eq reads)
                  rw [Ordering.swap_then, ← compare_neg, ← compare_neg, ← compare_neg] at swapped
                  exact swapped
              | positive => exact (compare_lt_iff_lt.2 (by simp only [Sign.apply]; omega)).symm
          | positive =>
              cases t with
              | negative => exact (compare_gt_iff_gt.2 (by simp only [Sign.apply]; omega)).symm
              | positive => exact writes.compare_eq reads

structure IsShifted (m t : Nat) (x : ExtendedMantissa) : Prop where
  mantissa : x.mantissa = m / 2 ^ t
  roundBit : x.roundBit = true ↔ 2 ^ t ≤ 2 * (m % 2 ^ t)
  stickyBit : x.stickyBit = true ↔ m % 2 ^ t ≠ 0 ∧ 2 * (m % 2 ^ t) ≠ 2 ^ t

theorem IsShifted.shiftRightOne {m t : Nat} {x : ExtendedMantissa} (shifted : IsShifted m t x) :
    IsShifted m (t + 1) x.shiftRightOne := by
  have positive : 0 < 2 ^ t := Nat.two_pow_pos t
  have small : m % 2 ^ t < 2 ^ t := Nat.mod_lt _ positive
  have digit : m % 2 ^ (t + 1) = m % 2 ^ t + 2 ^ t * (m / 2 ^ t % 2) := by
    rw [Nat.pow_succ, Nat.mod_mul]
  have double : 2 ^ (t + 1) = 2 * 2 ^ t := Nat.pow_succ'
  obtain ⟨mantissa, roundBit, stickyBit⟩ := shifted
  constructor
  · simp only [ExtendedMantissa.shiftRightOne, mantissa, Nat.pow_succ, Nat.div_div_eq_div_mul]
  · rw [digit, double]
    simp only [ExtendedMantissa.shiftRightOne, mantissa, bne_iff_ne]
    rcases Nat.mod_two_eq_zero_or_one (m / 2 ^ t) with last | last <;> rw [last] <;> omega
  · rw [digit, double]
    simp only [ExtendedMantissa.shiftRightOne, Bool.or_eq_true, roundBit, stickyBit]
    rcases Nat.mod_two_eq_zero_or_one (m / 2 ^ t) with last | last <;> rw [last] <;> omega

theorem isShifted_shiftRight (m t : Nat) :
    IsShifted m t (ExtendedMantissa.ofMantissaAndAccuracy m .exact >>> t) := by
  induction t with
  | zero => constructor <;> simp [HShiftRight.hShiftRight, Nat.repeat,
      ExtendedMantissa.ofMantissaAndAccuracy, Nat.mod_one]
  | succ t ih => exact ih.shiftRightOne

theorem IsShifted.roundedMantissa {m t : Nat} {x : ExtendedMantissa} (shifted : IsShifted m t x) :
    x.roundedMantissa = halfEven m t := by
  have positive : 0 < 2 ^ t := Nat.two_pow_pos t
  obtain ⟨quotient, half, more⟩ := shifted
  obtain ⟨mantissa, roundBit, stickyBit⟩ := x
  simp only at quotient half more
  cases roundBit with
  | false =>
      have below : 2 * (m % 2 ^ t) < 2 ^ t := Nat.lt_of_not_le fun above => nomatch half.2 above
      rw [halfEven, if_pos below, ← quotient]
      cases stickyBit <;> rfl
  | true =>
      have above : 2 ^ t ≤ 2 * (m % 2 ^ t) := half.1 rfl
      rw [halfEven, if_neg (by omega), ← quotient]
      cases stickyBit with
      | false =>
          have tie : 2 * (m % 2 ^ t) = 2 ^ t := by
            by_contra other
            exact nomatch more.2 ⟨by omega, other⟩
          rw [if_pos tie]
          rfl
      | true =>
          rw [if_neg (more.1 rfl).2]
          rfl

theorem log2_mul_two_pow {n : Nat} (present : n ≠ 0) (k : Nat) : (n * 2 ^ k).log2 = n.log2 + k := by
  apply (Nat.log2_eq_iff (Nat.mul_ne_zero present (Nat.two_pow_pos k).ne')).2
  constructor
  · rw [Nat.pow_add]
    exact Nat.mul_le_mul_right _ (Nat.log2_self_le present)
  · rw [Nat.add_right_comm, Nat.pow_add]
    exact Nat.mul_lt_mul_of_pos_right Nat.lt_log2_self (Nat.two_pow_pos k)

theorem targetExponent_eq (m : Nat) (e : Int) :
    Format.binary64.targetExponent (totalExponent m e) = max (m.log2 + e - 52) (-1074) := by
  have bits : Format.binary64.mantissaBits = 53 := rfl
  have least : Format.binary64.minExponent = -1074 := by decide
  rw [Format.targetExponent, totalExponent, bits, least]
  omega

theorem shiftToTargetExponent_eq {m t : Nat} {e f : Int}
    (target : max (m.log2 + e - 52) (-1074) = f) (amount : (f - e).toNat = t) :
    shiftToTargetExponent .binary64 m e .exact =
      (ExtendedMantissa.ofMantissaAndAccuracy m .exact >>> t, e + t) := by
  rw [shiftToTargetExponent, targetExponent_eq, target, shiftToExponent, amount]

/-- A mantissa is shifted, rounded, and shifted once more where rounding made it longer. -/
theorem roundWithAccuracy_eq (s : Sign) {m n : Nat} {e f g : Int} {x y : ExtendedMantissa}
    (first : shiftToTargetExponent .binary64 m e .exact = (x, f)) (rounds : x.roundedMantissa = n)
    (second : shiftToTargetExponent .binary64 n f .exact = (y, g)) (positive : 0 < y.mantissa) :
    roundWithAccuracy .binary64 s m e .exact = .finite s y.mantissa g positive := by
  simp only [roundWithAccuracy, first, rounds, second]
  rw [dif_neg (Nat.ne_of_gt positive)]

theorem writes_mantissa {n : Nat} (present : n ≠ 0) (small : n.log2 ≤ 800) (fits : mantissa n < 2 ^ 53) :
    Writes (mantissa n) ((n.log2 : Int) - 52 + 0) (roundedNat n) where
  full := two_pow_le_mantissa present
  fits := fits
  above := by omega
  below := by omega
  value := by
    rw [← mantissa_mul n]
    congr 2
    omega

/-- Where rounding makes the mantissa longer, it is the least one, of the next exponent. -/
theorem writes_carry {n : Nat} (small : n.log2 ≤ 800) (carry : mantissa n = 2 ^ 53) :
    Writes (2 ^ 52) ((n.log2 : Int) - 52 + 1) (roundedNat n) where
  full := Nat.le_refl _
  fits := by decide
  above := by omega
  below := by omega
  value := by
    have exponent : ((n.log2 : Int) - 52 + 1 + 52).toNat = n.log2 + 1 := by omega
    rw [← mantissa_mul n, carry, exponent, Nat.mul_comm, two_pow_mul_comm]

theorem denotes_roundWithAccuracy (s : Sign) {n k : Nat} (present : n ≠ 0) (small : n.log2 ≤ 800)
    (enough : 52 ≤ n.log2 + k) :
    Denotes (roundWithAccuracy .binary64 s (n * 2 ^ k) (-k) .exact) (s.apply (roundedNat n)) := by
  have length : (n * 2 ^ k).log2 = n.log2 + k := log2_mul_two_pow present k
  have full := two_pow_le_mantissa present
  have first : shiftToTargetExponent .binary64 (n * 2 ^ k) (-k) .exact =
      (ExtendedMantissa.ofMantissaAndAccuracy (n * 2 ^ k) .exact >>> (n.log2 + k - 52),
        (n.log2 : Int) - 52) := by
    rw [shiftToTargetExponent_eq (f := (n.log2 : Int) - 52) (t := n.log2 + k - 52) (by omega) (by omega)]
    congr 1
    omega
  have rounds : (ExtendedMantissa.ofMantissaAndAccuracy (n * 2 ^ k) .exact >>>
      (n.log2 + k - 52)).roundedMantissa = mantissa n := by
    rw [(isShifted_shiftRight _ _).roundedMantissa, halfEven_eq_mantissa enough]
  rcases Nat.eq_or_lt_of_le (mantissa_le_two_pow n) with carry | fits
  · have second : shiftToTargetExponent .binary64 (mantissa n) ((n.log2 : Int) - 52) .exact =
        (ExtendedMantissa.ofMantissaAndAccuracy (2 ^ 53) .exact >>> 1, (n.log2 : Int) - 52 + 1) := by
      rw [carry]
      apply shiftToTargetExponent_eq (f := (n.log2 : Int) - 51)
      · rw [Nat.log2_two_pow]
        omega
      · omega
    rw [roundWithAccuracy_eq s first rounds second (by decide)]
    exact .finite s _ (writes_carry small carry)
  · have second : shiftToTargetExponent .binary64 (mantissa n) ((n.log2 : Int) - 52) .exact =
        (ExtendedMantissa.ofMantissaAndAccuracy (mantissa n) .exact >>> 0, (n.log2 : Int) - 52 + 0) := by
      have digits : (mantissa n).log2 = 52 :=
        (Nat.log2_eq_iff (by omega)).2 ⟨full, fits⟩
      apply shiftToTargetExponent_eq (f := (n.log2 : Int) - 52)
      · rw [digits]
        omega
      · omega
    rw [roundWithAccuracy_eq s first rounds second (Nat.lt_of_lt_of_le (by decide) full)]
    exact .finite s _ (writes_mantissa present small fits)

theorem denotes_ofNat {n : Nat} (small : n.log2 ≤ 800) :
    Denotes (UnpackedFloat.ofNat .binary64 n) (roundedNat n) := by
  rcases Nat.eq_zero_or_pos n with rfl | positive
  · exact .zero .positive
  · have present : n ≠ 0 := Nat.ne_of_gt positive
    have ordered : compare (n : Int) 0 = .gt := compare_gt_iff_gt.2 (Int.natCast_pos.2 positive)
    have zeros : (-max ((n.log2 : Int) + 0 - 52) (-1074)).toNat = 52 - n.log2 := by omega
    have rounds : UnpackedFloat.ofNat .binary64 n =
        roundWithAccuracy .binary64 .positive (n * 2 ^ (52 - n.log2)) (-(52 - n.log2 : Nat)) .exact := by
      simp only [UnpackedFloat.ofNat, UnpackedFloat.ofInt, UnpackedFloat.normalize, ordered,
        UnpackedFloat.round, UnpackedFloat.decreaseExponent, targetExponent_eq, Int.toNat_natCast,
        Nat.shiftLeft_eq, Int.zero_sub, zeros]
    rw [rounds]
    exact denotes_roundWithAccuracy .positive present small (by omega)

theorem Denotes.neg {u : UnpackedFloat} {a : Int} (denotes : Denotes u a) : Denotes u.neg (-a) := by
  cases denotes with
  | zero s => exact .zero (-s)
  | finite s positive writes =>
      cases s with
      | negative =>
          rw [Sign.apply, Int.neg_neg]
          exact .finite .positive positive writes
      | positive => exact .finite .negative positive writes

theorem pack_finite (s : Sign) {m n : Nat} {e : Int} (positive : 0 < m) (writes : Writes m e n) :
    UnpackedFloat.pack .binary64 (.finite s m e positive) =
      UnpackedFloat.packComponents .binary64 s (BitVec.ofNat 11 (e + 1075).toNat) (BitVec.ofNat 52 m) := by
  obtain ⟨full, fits, above, below, -⟩ := writes
  have digits : m.log2 + 1 = Format.binary64.mantissaBits :=
    congrArg (· + 1) ((Nat.log2_eq_iff (by omega)).2 ⟨full, fits⟩)
  have biased : (e + Format.binary64.exponentBias + Format.binary64.mantissaBitsWithoutImplicit).toNat =
      (e + 1075).toNat := by
    change (e + (1023 : Nat) + (52 : Nat)).toNat = _
    omega
  rw [UnpackedFloat.pack]
  simp only [biased]
  rw [if_neg (by omega), if_pos digits]

theorem unpack_pack {u : UnpackedFloat} {a : Int} (denotes : Denotes u a) :
    UnpackedFloat.unpack .binary64 (u.pack .binary64) = u := by
  cases denotes with
  | zero s => exact UnpackedFloat.unpack_packedZero
  | @finite s m n e positive writes =>
      rw [pack_finite s positive writes]
      obtain ⟨full, fits, above, below, -⟩ := writes
      have exponent : (BitVec.ofNat 11 (e + 1075).toNat).toNat = (e + 1075).toNat := by
        rw [BitVec.toNat_ofNat, Nat.mod_eq_of_lt (by omega)]
      have finite : BitVec.ofNat 11 (e + 1075).toNat ≠ -1#11 := by
        intro all
        rw [all] at exponent
        have ones : (-1#11).toNat = 2047 := rfl
        omega
      have normal : BitVec.ofNat 11 (e + 1075).toNat ≠ 0#11 := by
        intro none
        rw [none] at exponent
        have zeros : (0#11).toNat = 0 := rfl
        omega
      have mantissa : (1#1 ++ BitVec.ofNat 52 m).toNat = m := by
        rw [BitVec.toNat_append, ← Nat.shiftLeft_add_eq_or_of_lt (BitVec.isLt _), Nat.shiftLeft_eq,
          BitVec.toNat_ofNat, BitVec.toNat_ofNat]
        omega
      rw [UnpackedFloat.unpack]
      simp only [UnpackedFloat.unpackMantissa_packComponents, UnpackedFloat.unpackExponent_packComponents,
        UnpackedFloat.unpackSign_packComponents, UnpackedFloat.Sign.ofBitVec_toBitVec, if_neg finite,
        if_neg normal, mantissa, exponent]
      congr 1
      change ((e + 1075).toNat : Int) - ((1023 : Nat) + (52 : Nat)) = e
      omega

theorem denotes_pack {u : UnpackedFloat} {a : Int} (denotes : Denotes u a) :
    Denotes (Float.Model.pack u).unpack a := by
  have same : (Float.Model.pack u).unpack = u := unpack_pack denotes
  rw [same]
  exact denotes

theorem denotes_toFloat (n : UInt64) : Denotes n.toFloat.toModel.unpack (roundedNat n.toNat) := by
  apply denotes_pack
  apply denotes_ofNat
  have short : n.toNat.log2 < 64 := by
    rcases Nat.eq_zero_or_pos n.toNat with zero | positive
    · rw [zero]
      decide
    · exact (Nat.log2_lt (Nat.ne_of_gt positive)).2 n.toNat_lt
  omega

theorem denotes_neg {x : Float} {a : Int} (denotes : Denotes x.toModel.unpack a) :
    Denotes (-x).toModel.unpack (-a) := denotes_pack denotes.neg

section

variable {n : Int64}

theorem toNat_toUInt64 (other : ¬ n.toInt < 0) : n.toUInt64.toNat = n.toInt.natAbs := by
  have value : n.toInt = _ := BitVec.toInt_eq_toNat_cond n.toBitVec
  change n.toBitVec.toNat = _
  split at value <;> omega

theorem toNat_toUInt64_neg (negative : n.toInt < 0) : (-n).toUInt64.toNat = n.toInt.natAbs := by
  have value : n.toInt = _ := BitVec.toInt_eq_toNat_cond n.toBitVec
  have small := n.toBitVec.isLt
  change (-n).toBitVec.toNat = _
  rw [Int64.toBitVec_neg, BitVec.toNat_neg]
  split at value <;> omega

end

/-- The float nearest to an integer is the integer rounded to 53 digits. -/
theorem denotes_nearestFloat (n : Int64) : Denotes (nearestFloat n).toModel.unpack (rounded n.toInt) := by
  have sign : n < 0 ↔ n.toInt < 0 := Int64.lt_iff_toInt_lt
  rw [nearestFloat, rounded]
  by_cases negative : n < 0
  · rw [if_pos negative, if_pos (sign.1 negative), ← toNat_toUInt64_neg (sign.1 negative)]
    exact denotes_neg (denotes_toFloat _)
  · rw [if_neg negative, if_neg (mt sign.2 negative), ← toNat_toUInt64 (mt sign.2 negative)]
    exact denotes_toFloat _

section

variable {x y : Float} {a b : Int}

theorem isNaN_of_denotes (denotes : Denotes x.toModel.unpack a) : x.isNaN = false := by
  rw [Bool.eq_false_iff]
  intro isNaN
  have none : x.toModel.unpack = .notANumber := UnpackedFloat.isNaN_iff.1 isNaN
  rw [none] at denotes
  cases denotes

theorem compareFloats?_of_denotes (first : Denotes x.toModel.unpack a) (second : Denotes y.toModel.unpack b) :
    Match.compareFloats? x y = some (compare a b) := by
  rw [compareFloats?_eq (isNaN_of_denotes first) (isNaN_of_denotes second)]
  exact congrArg some (comparePlaces_of_denotes first second)

theorem beq_iff_of_denotes (first : Denotes x.toModel.unpack a) (second : Denotes y.toModel.unpack b) :
    (x == y) = true ↔ a = b := by
  rw [beq_iff_comparePlaces (isNaN_of_denotes first) (isNaN_of_denotes second), placeOf, placeOf,
    comparePlaces_of_denotes first second, compare_eq_iff_eq]

end

end RecordSearch.Double
