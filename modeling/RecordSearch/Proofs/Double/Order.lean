import Mathlib
import RecordSearch.Table.Row

namespace RecordSearch.Double

open Float.Model (UnpackedFloat)

/-- Sign, exponent and mantissa of a number, the greater the greater the number is; infinities stand
outside of all others, and zeros of both signs between them. -/
def place : UnpackedFloat → Int × Int × Int
  | .infinity .negative => (-2, 0, 0)
  | .finite .negative mantissa exponent _ => (-1, -exponent, -mantissa)
  | .zero _ | .notANumber => (0, 0, 0)
  | .finite .positive mantissa exponent _ => (1, exponent, mantissa)
  | .infinity .positive => (2, 0, 0)

def comparePlaces : Int × Int × Int → Int × Int × Int → Ordering :=
  compareLex (compareOn fun p => p.1) (compareLex (compareOn fun p => p.2.1) (compareOn fun p => p.2.2))

instance : Std.TransCmp comparePlaces := by
  unfold comparePlaces
  infer_instance

theorem compare_neg (a b : Int) : compare (-a) (-b) = (compare a b).swap := by
  rw [← Std.OrientedOrd.eq_swap (a := b)]
  simp only [compare, compareOfLessAndEq, Int.neg_lt_neg_iff, Int.neg_inj, eq_comm]

theorem compare_natCast (a b : Nat) : compare (a : Int) (b : Int) = compare a b := by
  simp only [compare, compareOfLessAndEq, Int.ofNat_lt, Int.natCast_inj]

section

variable {u v : UnpackedFloat}

theorem compare_eq_comparePlaces (number : u ≠ .notANumber) (other : v ≠ .notANumber) :
    u.compare v = some (comparePlaces (place u) (place v)) := by
  cases u with
  | notANumber => exact absurd rfl number
  | infinity s =>
      cases v with
      | notANumber => exact absurd rfl other
      | infinity t => cases s <;> cases t <;> rfl
      | zero t => cases s <;> rfl
      | finite t n f _ => cases s <;> cases t <;> rfl
  | zero s =>
      cases v with
      | notANumber => exact absurd rfl other
      | infinity t => cases t <;> rfl
      | zero t => rfl
      | finite t n f _ => cases t <;> rfl
  | finite s m e _ =>
      cases v with
      | notANumber => exact absurd rfl other
      | infinity t => cases s <;> cases t <;> rfl
      | zero t => cases s <;> rfl
      | finite t n f _ =>
          cases s with
          | negative =>
              cases t with
              | negative =>
                  simp only [UnpackedFloat.compare, Ordering.swap_then, ← compare_neg, ← compare_natCast]
                  rfl
              | positive => rfl
          | positive =>
              cases t with
              | negative => rfl
              | positive =>
                  simp only [UnpackedFloat.compare, ← compare_natCast]
                  rfl

end

def placeOf (x : Float) : Int × Int × Int := place x.toModel.unpack

theorem unpack_ne_of_isNaN {x : Float} (number : x.isNaN = false) : x.toModel.unpack ≠ .notANumber := by
  intro none
  have isNaN : x.isNaN = true := UnpackedFloat.isNaN_iff.2 none
  rw [number] at isNaN
  cases isNaN

section

variable {x y : Float}

theorem compare_unpack (number : x.isNaN = false) (other : y.isNaN = false) :
    x.toModel.unpack.compare y.toModel.unpack = some (comparePlaces (placeOf x) (placeOf y)) :=
  compare_eq_comparePlaces (unpack_ne_of_isNaN number) (unpack_ne_of_isNaN other)

theorem lt_iff_comparePlaces (number : x.isNaN = false) (other : y.isNaN = false) :
    x < y ↔ comparePlaces (placeOf x) (placeOf y) = .lt := by
  change decide (x.toModel.unpack.lt y.toModel.unpack = true) = true ↔ _
  rw [decide_eq_true_iff, UnpackedFloat.lt, compare_unpack number other, beq_iff_eq, Option.some_inj]

theorem beq_iff_comparePlaces (number : x.isNaN = false) (other : y.isNaN = false) :
    (x == y) = true ↔ comparePlaces (placeOf x) (placeOf y) = .eq := by
  change x.toModel.unpack.beq y.toModel.unpack = true ↔ _
  rw [UnpackedFloat.beq, compare_unpack number other, beq_iff_eq, Option.some_inj]

/-- Floats that are numbers compare as their places do. -/
theorem compareFloats?_eq (number : x.isNaN = false) (other : y.isNaN = false) :
    Match.compareFloats? x y = some (comparePlaces (placeOf x) (placeOf y)) := by
  have less := lt_iff_comparePlaces number other
  have same := beq_iff_comparePlaces number other
  have greater : y < x ↔ comparePlaces (placeOf x) (placeOf y) = .gt := by
    rw [lt_iff_comparePlaces other number, Std.OrientedCmp.gt_iff_lt]
  rw [Match.compareFloats?]
  cases order : comparePlaces (placeOf x) (placeOf y) with
  | lt => rw [if_pos (less.2 order)]
  | eq => rw [if_neg (by rw [less, order]; decide), if_pos (same.2 order)]
  | gt =>
      rw [if_neg (by rw [less, order]; decide), if_neg (by rw [same, order]; decide),
        if_pos (greater.2 order)]

end

section

variable {u : UnpackedFloat}

theorem pack_ne_packedNaN (number : u ≠ .notANumber) :
    UnpackedFloat.pack .binary64 u ≠ UnpackedFloat.packedNaN .binary64 := by
  cases u with
  | notANumber => exact absurd rfl number
  | infinity s => cases s <;> decide
  | zero s => cases s <;> decide
  | finite s m e _ =>
      -- an exponent with all bits set belongs to no finite number
      have noExponent : ∀ biased : Nat, biased + 1 < 2048 → BitVec.ofNat 11 biased ≠ -1#11 := by
        intro biased small same
        have bits := congrArg BitVec.toNat same
        rw [BitVec.toNat_ofNat, Nat.mod_eq_of_lt (by omega)] at bits
        have all : (-1#11).toNat = 2047 := by decide
        omega
      rw [UnpackedFloat.pack]
      simp only
      split
      · cases s <;> decide
      · rename_i small
        have small := Nat.lt_of_not_le small
        split
        · intro same
          have exponents := congrArg UnpackedFloat.unpackExponent same
          rw [UnpackedFloat.unpackExponent_packComponents] at exponents
          exact noExponent _ small exponents
        · intro same
          have exponents := congrArg UnpackedFloat.unpackExponent same
          rw [UnpackedFloat.unpackExponent_packComponents] at exponents
          exact absurd exponents (by decide)

theorem isNaN_pack (number : u ≠ .notANumber) : (Float.ofModel (.pack u)).isNaN = false := by
  rw [Bool.eq_false_iff]
  intro isNaN
  have none := UnpackedFloat.isNaN_iff.1 isNaN
  rw [Float.Model.unpack, UnpackedFloat.unpack_eq_notANumber_iff_of_valid (Float.Model.pack u).valid] at none
  exact pack_ne_packedNaN number none

theorem round_ne_notANumber (s : UnpackedFloat.Sign) (mantissa : Nat) (exponent : Int) :
    UnpackedFloat.round .binary64 s mantissa exponent ≠ .notANumber := by
  unfold UnpackedFloat.round UnpackedFloat.roundWithAccuracy
  simp only
  split
  · rintro ⟨⟩
  · rintro ⟨⟩

theorem ofInt_ne_notANumber (n : Int) : UnpackedFloat.ofInt .binary64 n ≠ .notANumber := by
  unfold UnpackedFloat.ofInt UnpackedFloat.normalize
  split
  · exact round_ne_notANumber _ _ _
  · rintro ⟨⟩
  · exact round_ne_notANumber _ _ _

end

theorem isNaN_toFloat (n : UInt64) : n.toFloat.isNaN = false := isNaN_pack (ofInt_ne_notANumber _)

theorem isNaN_neg {x : Float} (number : x.isNaN = false) : (-x).isNaN = false := by
  apply isNaN_pack
  have present := unpack_ne_of_isNaN number
  cases unpacked : x.toModel.unpack with
  | notANumber => exact absurd unpacked present
  | infinity s => rintro ⟨⟩
  | zero s => rintro ⟨⟩
  | finite s m e _ => rintro ⟨⟩

theorem isNaN_nearestFloat (n : Int64) : (nearestFloat n).isNaN = false := by
  rw [nearestFloat]
  split
  · exact isNaN_neg (isNaN_toFloat _)
  · exact isNaN_toFloat _

end RecordSearch.Double
