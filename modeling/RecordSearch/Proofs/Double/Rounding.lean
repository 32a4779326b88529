import Mathlib.Algebra.Group.Nat.Defs
import Mathlib.Tactic.SplitIfs
import RecordSearch.Double

/-!
Integers rounded to 53 binary digits, ties to even. Rounding keeps the order of integers and changes none of
fewer digits, but greater ones may become equal.
-/

namespace RecordSearch.Double

/-- `n / 2 ^ t` rounded to the nearest; of two equally near, to the even one. -/
def halfEven (n t : Nat) : Nat :=
  if 2 * (n % 2 ^ t) < 2 ^ t then n / 2 ^ t
  else if 2 * (n % 2 ^ t) = 2 ^ t then n / 2 ^ t + n / 2 ^ t % 2
  else n / 2 ^ t + 1

def excess (n : Nat) : Nat := n.log2 - 52

def roundedNat (n : Nat) : Nat := halfEven n (excess n) * 2 ^ excess n

/-- The nearest integer of 53 binary digits with zeros behind them. -/
def rounded (a : Int) : Int := if a < 0 then -(roundedNat a.natAbs : Int) else roundedNat a.natAbs

section

variable {n m t k : Nat}

theorem halfEven_zero (n : Nat) : halfEven n 0 = n := by
  rw [halfEven, Nat.pow_zero, Nat.mod_one, Nat.div_one]
  rfl

theorem le_halfEven (n t : Nat) : n / 2 ^ t ≤ halfEven n t := by
  unfold halfEven
  split
  · exact Nat.le_refl _
  · split
    · exact Nat.le_add_right _ _
    · exact Nat.le_succ _

theorem halfEven_le (n t : Nat) : halfEven n t ≤ n / 2 ^ t + 1 := by
  unfold halfEven
  split
  · exact Nat.le_succ _
  · split
    · omega
    · exact Nat.le_refl _

theorem halfEven_mono (less : n ≤ m) (t : Nat) : halfEven n t ≤ halfEven m t := by
  have quotients : n / 2 ^ t ≤ m / 2 ^ t := Nat.div_le_div_right less
  rcases Nat.eq_or_lt_of_le quotients with same | fewer
  · have first := Nat.div_add_mod n (2 ^ t)
    have second := Nat.div_add_mod m (2 ^ t)
    rw [← same] at second
    have remainders : n % 2 ^ t ≤ m % 2 ^ t := by omega
    unfold halfEven
    rw [← same]
    split_ifs <;> omega
  · calc
      halfEven n t ≤ n / 2 ^ t + 1 := halfEven_le n t
      _ ≤ m / 2 ^ t := fewer
      _ ≤ halfEven m t := le_halfEven m t

theorem halfEven_mul (n t k : Nat) : halfEven (n * 2 ^ k) (t + k) = halfEven n t := by
  have positive : 0 < 2 ^ k := Nat.two_pow_pos k
  have scaled : ∀ a b : Nat, a * 2 ^ k < b * 2 ^ k ↔ a < b := fun a b =>
    Nat.mul_lt_mul_right positive
  have same : ∀ a b : Nat, a * 2 ^ k = b * 2 ^ k ↔ a = b := fun a b =>
    Nat.mul_left_inj (Nat.ne_of_gt positive)
  simp only [halfEven, Nat.pow_add, Nat.mul_div_mul_right _ _ positive, Nat.mul_mod_mul_right,
    ← Nat.mul_assoc, scaled, same]

theorem two_pow_mul_comm (l : Nat) : 2 ^ (l + 1) * 2 ^ 52 = 2 ^ 53 * 2 ^ l := by
  rw [Nat.pow_succ, Nat.mul_assoc, Nat.mul_comm, ← Nat.pow_succ']

def mantissa (n : Nat) : Nat := halfEven (n * 2 ^ 52) n.log2

/-- The zeros that stand behind a number before it is rounded do not matter, if they are enough. -/
theorem halfEven_eq_mantissa (enough : 52 ≤ n.log2 + k) :
    halfEven (n * 2 ^ k) (n.log2 + k - 52) = mantissa n := by
  rcases Nat.le_total 52 k with more | fewer
  · have zeros : n * 2 ^ k = n * 2 ^ 52 * 2 ^ (k - 52) := by
      rw [Nat.mul_assoc, ← Nat.pow_add, Nat.add_sub_cancel' more]
    rw [zeros, Nat.add_sub_assoc more, halfEven_mul]
    rfl
  · have zeros : n * 2 ^ 52 = n * 2 ^ k * 2 ^ (52 - k) := by
      rw [Nat.mul_assoc, ← Nat.pow_add, Nat.add_sub_cancel' fewer]
    have length : n.log2 = n.log2 + k - 52 + (52 - k) := by omega
    calc
      _ = halfEven (n * 2 ^ k * 2 ^ (52 - k)) (n.log2 + k - 52 + (52 - k)) := (halfEven_mul _ _ _).symm
      _ = mantissa n := by rw [← zeros, ← length, mantissa]

theorem two_pow_le_mantissa (present : n ≠ 0) : 2 ^ 52 ≤ mantissa n := by
  have quotient : 2 ^ 52 ≤ n * 2 ^ 52 / 2 ^ n.log2 := by
    rw [Nat.le_div_iff_mul_le (Nat.two_pow_pos _), Nat.mul_comm]
    exact Nat.mul_le_mul_right _ (Nat.log2_self_le present)
  exact Nat.le_trans quotient (le_halfEven _ _)

theorem mantissa_le_two_pow (n : Nat) : mantissa n ≤ 2 ^ 53 := by
  have quotient : n * 2 ^ 52 / 2 ^ n.log2 < 2 ^ 53 := by
    rw [Nat.div_lt_iff_lt_mul (Nat.two_pow_pos _)]
    calc
      n * 2 ^ 52 < 2 ^ (n.log2 + 1) * 2 ^ 52 := Nat.mul_lt_mul_of_pos_right Nat.lt_log2_self (by decide)
      _ = 2 ^ 53 * 2 ^ n.log2 := two_pow_mul_comm n.log2
  exact Nat.le_trans (halfEven_le _ _) quotient

theorem mantissa_mul (n : Nat) : mantissa n * 2 ^ n.log2 = roundedNat n * 2 ^ 52 := by
  rcases Nat.le_total 52 n.log2 with long | short
  · have length : excess n + 52 = n.log2 := Nat.sub_add_cancel long
    rw [mantissa, roundedNat, ← length, halfEven_mul, Nat.pow_add, Nat.mul_assoc]
  · have none : excess n = 0 := Nat.sub_eq_zero_of_le short
    have zeros : n * 2 ^ 52 = n * 2 ^ (52 - n.log2) * 2 ^ n.log2 := by
      rw [Nat.mul_assoc, ← Nat.pow_add, Nat.sub_add_cancel short]
    have kept : mantissa n = n * 2 ^ (52 - n.log2) := by
      have enough : n.log2 + (52 - n.log2) = 52 := Nat.add_sub_cancel' short
      rw [← halfEven_eq_mantissa (Nat.le_of_eq enough.symm), enough, Nat.sub_self, halfEven_zero]
    rw [kept, ← zeros, roundedNat, none, halfEven_zero, Nat.pow_zero, Nat.mul_one]

theorem two_pow_le_roundedNat (present : n ≠ 0) : 2 ^ n.log2 ≤ roundedNat n := by
  apply Nat.le_of_mul_le_mul_right _ (Nat.two_pow_pos 52)
  rw [← mantissa_mul, Nat.mul_comm]
  exact Nat.mul_le_mul_right _ (two_pow_le_mantissa present)

theorem roundedNat_le_two_pow (n : Nat) : roundedNat n ≤ 2 ^ (n.log2 + 1) := by
  apply Nat.le_of_mul_le_mul_right _ (Nat.two_pow_pos 52)
  calc
    roundedNat n * 2 ^ 52 = mantissa n * 2 ^ n.log2 := (mantissa_mul n).symm
    _ ≤ 2 ^ 53 * 2 ^ n.log2 := Nat.mul_le_mul_right _ (mantissa_le_two_pow n)
    _ = 2 ^ (n.log2 + 1) * 2 ^ 52 := (two_pow_mul_comm n.log2).symm

theorem roundedNat_mono (less : n ≤ m) : roundedNat n ≤ roundedNat m := by
  rcases Nat.eq_zero_or_pos n with rfl | positive
  · exact (by decide : roundedNat 0 = 0) ▸ Nat.zero_le _
  · have lengths : n.log2 ≤ m.log2 :=
      (Nat.le_log2 (by omega)).2 (Nat.le_trans (Nat.log2_self_le (by omega)) less)
    rcases Nat.eq_or_lt_of_le lengths with same | shorter
    · have equal : excess m = excess n := by rw [excess, excess, same]
      rw [roundedNat, roundedNat, equal]
      exact Nat.mul_le_mul_right _ (halfEven_mono less _)
    · -- a power of two lies between numbers of different lengths
      calc
        roundedNat n ≤ 2 ^ (n.log2 + 1) := roundedNat_le_two_pow n
        _ ≤ 2 ^ m.log2 := Nat.pow_le_pow_right (by decide) shorter
        _ ≤ roundedNat m := two_pow_le_roundedNat (by omega)

/-- Up to 53 digits nothing is rounded, and nothing of the least number of 54. -/
theorem roundedNat_of_le (small : n ≤ 2 ^ 53) : roundedNat n = n := by
  rcases Nat.eq_or_lt_of_le small with rfl | fewer
  · decide
  · have none : excess n = 0 := by
      rcases Nat.eq_zero_or_pos n with rfl | positive
      · rfl
      · have length := (Nat.log2_lt (by omega)).2 fewer
        unfold excess
        omega
    rw [roundedNat, none, halfEven_zero, Nat.pow_zero, Nat.mul_one]

end

section

variable {a b : Int}

theorem rounded_mono (less : a ≤ b) : rounded a ≤ rounded b := by
  unfold rounded
  split
  · split
    · have sizes := roundedNat_mono (show b.natAbs ≤ a.natAbs by omega)
      omega
    · omega
  · rw [if_neg (by omega)]
    have sizes := roundedNat_mono (show a.natAbs ≤ b.natAbs by omega)
    omega

theorem rounded_of_natAbs_le (small : a.natAbs ≤ 2 ^ 53) : rounded a = a := by
  unfold rounded
  rw [roundedNat_of_le small]
  split <;> omega

theorem rounded_lt_iff (small : a.natAbs < 2 ^ 53 ∨ b.natAbs < 2 ^ 53) : rounded a < rounded b ↔ a < b := by
  constructor
  · intro less
    apply Int.lt_of_not_ge
    intro other
    have back := rounded_mono other
    omega
  · intro less
    rcases small with first | second
    · calc
        rounded a = a := rounded_of_natAbs_le (by omega)
        _ < a + 1 := by omega
        _ = rounded (a + 1) := (rounded_of_natAbs_le (by omega)).symm
        _ ≤ rounded b := rounded_mono less
    · calc
        rounded a ≤ rounded (b - 1) := rounded_mono (by omega)
        _ = b - 1 := rounded_of_natAbs_le (by omega)
        _ < b := by omega
        _ = rounded b := (rounded_of_natAbs_le (by omega)).symm

theorem rounded_le_iff (small : a.natAbs < 2 ^ 53 ∨ b.natAbs < 2 ^ 53) : rounded a ≤ rounded b ↔ a ≤ b := by
  rw [← Int.not_lt, rounded_lt_iff small.symm, Int.not_lt]

theorem rounded_eq_iff (small : a.natAbs < 2 ^ 53 ∨ b.natAbs < 2 ^ 53) : rounded a = rounded b ↔ a = b := by
  rw [Int.le_antisymm_iff, Int.le_antisymm_iff, rounded_le_iff small, rounded_le_iff small.symm]

end

end RecordSearch.Double
