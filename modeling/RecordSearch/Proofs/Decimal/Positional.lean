import Mathlib.Data.List.TakeWhile
import RecordSearch.Decimal.Read
import RecordSearch.Decimal.Shortest

/-! Numbers in full: the shortest decimal of a positive double has a digit that is not zero, so its text is
digits with a fraction or without, which can be read. -/

namespace RecordSearch.Decimal

inductive Numeric : List Char → Prop where
  | whole {s : List Char} : s ≠ [] → (∀ c ∈ s, c.isDigit = true) → Numeric s
  | fraction {s t : List Char} : s ≠ [] → (∀ c ∈ s, c.isDigit = true) → t ≠ [] →
      (∀ c ∈ t, c.isDigit = true) → Numeric (s ++ '.' :: t)

theorem Numeric.head {s : List Char} (numeric : Numeric s) : ∃ c t, s = c :: t ∧ c.isDigit = true := by
  cases numeric with
  | whole present digits =>
      cases s with
      | nil => exact absurd rfl present
      | cons c t => exact ⟨c, t, rfl, digits c List.mem_cons_self⟩
  | @fraction s t present digits _ _ =>
      cases s with
      | nil => exact absurd rfl present
      | cons c s => exact ⟨c, _, rfl, digits c List.mem_cons_self⟩

theorem span_digits {s k : List Char} (digits : ∀ c ∈ s, c.isDigit = true)
    (stops : ∀ c ∈ k.head?, c.isDigit = false) :
    (s ++ k).takeWhile Char.isDigit = s ∧ (s ++ k).dropWhile Char.isDigit = k := by
  rw [List.takeWhile_append_of_pos digits, List.dropWhile_append_of_pos digits]
  cases k with
  | nil => simp
  | cons c k =>
      have stop := stops c rfl
      simp [stop]

theorem readNumeral?_numeric {s : List Char} (numeric : Numeric s) : (readNumeral? s).isSome = true := by
  cases numeric with
  | whole present digits =>
      have parts := span_digits (k := []) digits (by rintro c ⟨⟩)
      rw [List.append_nil] at parts
      simp [readNumeral?, parts.1, parts.2, present, readExponent?]
  | @fraction s t present digits _ others =>
      have parts := span_digits (k := '.' :: t) digits (by rintro c ⟨⟩; decide)
      have decimals := span_digits (k := []) others (by rintro c ⟨⟩)
      rw [List.append_nil] at decimals
      simp [readNumeral?, parts.1, parts.2, decimals.1, decimals.2, present, readExponent?]

theorem splitSign_digit {c : Char} (digit : c.isDigit = true) (s : List Char) :
    splitSign (c :: s) = (false, c :: s) := by
  unfold splitSign
  split
  · rename_i start
    rw [(List.cons.inj start).1] at digit
    exact absurd digit (by decide)
  · rename_i start
    rw [(List.cons.inj start).1] at digit
    exact absurd digit (by decide)
  · rfl

theorem readFloat?_numeric {s : List Char} (numeric : Numeric s) : (readFloat? s).isSome = true := by
  have read := readNumeral?_numeric numeric
  obtain ⟨c, t, rfl, digit⟩ := numeric.head
  rw [readFloat?, Option.isSome_map, readDouble?, splitSign_digit digit]
  simp only [Bool.false_eq_true, if_false, Option.isSome_map]
  split
  · rfl
  · split
    · rfl
    · rw [Option.isSome_map]
      exact read

theorem exists_digit_ne_zero {n : Nat} (positive : 0 < n) : ∃ c ∈ Nat.toDigits 10 n, c ≠ '0' := by
  by_contra none_other
  have every : ∀ c ∈ Nat.toDigits 10 n, c = '0' := by
    intro c listed
    by_contra other
    exact none_other ⟨c, listed, other⟩
  have zeros : Nat.toDigits 10 n = List.replicate (Nat.toDigits 10 n).length '0' :=
    List.eq_replicate_of_mem every
  have value : Nat.ofDigitChars 10 (Nat.toDigits 10 n) 0 = n := Nat.ofDigitChars_ten_toDigits
  rw [zeros, Nat.ofDigitChars_replicate_zero, Nat.mul_zero] at value
  omega

theorem normal_ne_nil {d : Scaled} (positive : 0 < d.coefficient) : d.normal.1 ≠ [] := by
  obtain ⟨c, listed, other⟩ := exists_digit_ne_zero positive
  intro empty
  have zeros : (Nat.toDigits 10 d.coefficient).reverse.dropWhile (· = '0') = [] :=
    List.reverse_eq_nil_iff.1 empty
  simp only [List.dropWhile_eq_nil_iff, List.mem_reverse, decide_eq_true_eq] at zeros
  exact other (zeros c listed)

theorem isDigit_normal (d : Scaled) : ∀ c ∈ d.normal.1, c.isDigit = true := by
  intro c listed
  have kept := (List.dropWhile_suffix _).subset (List.mem_reverse.1 listed)
  exact Nat.isDigit_of_mem_toDigits (by decide) (by decide) (List.mem_reverse.1 kept)

theorem isDigit_zero : ∀ c ∈ ['0'], c.isDigit = true := by
  intro c listed
  rw [List.mem_singleton.1 listed]
  rfl

theorem numeric_positional {d : Scaled} (positive : 0 < d.coefficient) : Numeric d.positional := by
  have present := normal_ne_nil positive
  have digits := isDigit_normal d
  have zero := isDigit_zero
  have zeros : ∀ n, ∀ c ∈ List.replicate n '0', c.isDigit = true := by
    intro n c listed
    rw [List.eq_of_mem_replicate listed]
    decide
  unfold Scaled.positional
  generalize d.normal = normal at present digits
  obtain ⟨kept, point⟩ := normal
  simp only at present digits ⊢
  -- the point stands before the digits, with zeros or without, behind them, or among them
  split
  · rename_i n
    refine Numeric.fraction (s := ['0']) (t := List.replicate (n + 1) '0' ++ kept)
      (by decide) zero (by simp) ?_
    intro c listed
    rcases List.mem_append.1 listed with front | back
    · exact zeros _ c front
    · exact digits c back
  · exact Numeric.fraction (s := ['0']) (by decide) zero present digits
  · rename_i n positivePoint
    split
    · refine Numeric.whole (by simp [present]) ?_
      intro c listed
      rcases List.mem_append.1 listed with front | back
      · exact digits c front
      · exact zeros _ c back
    · rename_i longer
      have before : n ≠ 0 := by
        rintro rfl
        exact positivePoint rfl
      refine Numeric.fraction ?_ ?_ ?_ ?_
      · rw [Ne, List.take_eq_nil_iff, not_or]
        exact ⟨before, present⟩
      · exact fun c listed => digits c (List.take_subset _ _ listed)
      · rw [Ne, List.drop_eq_nil_iff]
        exact longer
      · exact fun c listed => digits c (List.drop_subset _ _ listed)

namespace Ratio

theorem scale_num_pos {r : Ratio} {base : Nat} (positive : 0 < r.num) (grows : 0 < base)
    (exponent : Int) : 0 < (r.scale base exponent).num := by
  cases exponent with
  | ofNat n => exact Nat.mul_pos positive (Nat.pow_pos grows)
  | negSucc n => exact positive

theorem scale_den_pos {r : Ratio} {base : Nat} (positive : 0 < r.den) (grows : 0 < base)
    (exponent : Int) : 0 < (r.scale base exponent).den := by
  cases exponent with
  | ofNat n => exact positive
  | negSucc n => exact Nat.mul_pos positive (Nat.pow_pos grows)

theorem scale_zero (base : Nat) (den : Nat) (exponent : Int) :
    (Ratio.scale ⟨0, den⟩ base exponent).num = 0 := by
  cases exponent with
  | ofNat n => exact Nat.zero_mul _
  | negSucc n => rfl

end Ratio

namespace Binary

variable {b : Binary}

theorem holds_zero (positive : 0 < b.mantissa) (exponent : Int) :
    b.holds (Scaled.ratio ⟨0, exponent⟩) = false := by
  have low : 0 < b.low.num := by
    apply Ratio.scale_num_pos _ (by decide)
    simp only
    split <;> omega
  have den : 0 < (Scaled.ratio ⟨0, exponent⟩).den := Ratio.scale_den_pos Nat.one_pos (by decide) _
  have zero : (Scaled.ratio ⟨0, exponent⟩).num = 0 := Ratio.scale_zero 10 1 exponent
  have product : 0 < b.low.num * (Scaled.ratio ⟨0, exponent⟩).den := Nat.mul_pos low den
  unfold holds
  split
  · simp only [Ratio.le, zero, Nat.zero_mul, Bool.and_eq_false_iff, decide_eq_false_iff_not]
    exact Or.inl (by omega)
  · simp only [Ratio.lt, zero, Nat.zero_mul, Bool.and_eq_false_iff, decide_eq_false_iff_not]
    exact Or.inl (by omega)

theorem coefficient_onGrid? (positive : 0 < b.mantissa) {exponent : Int} {d : Scaled}
    (found : b.onGrid? exponent = some d) : 0 < d.coefficient := by
  unfold onGrid? at found
  simp only at found
  split at found
  · rename_i accepted
    cases found
    simp only [Bool.and_eq_true] at accepted
    apply Nat.pos_of_ne_zero
    intro zero
    simp only at zero
    rw [zero, holds_zero positive] at accepted
    cases accepted.1
  · split at found
    · cases found
      exact Nat.succ_pos _
    · cases found

theorem coefficient_searchGrids (positive : 0 < b.mantissa) (magnitude : Int) (finer digits : Nat) :
    0 < (b.searchGrids magnitude finer digits).coefficient := by
  induction finer generalizing digits with
  | zero =>
      exact Ratio.scale_num_pos (Ratio.scale_num_pos positive (by decide) _) (by decide) _
  | succ finer ih =>
      rw [searchGrids]
      split
      · rename_i d found
        exact coefficient_onGrid? positive found
      · exact ih _

end Binary

/-- The bits of infinity; those of the doubles below it that have no sign are less. -/
def infinityBits : UInt64 := 0x7ff0000000000000

def IsFactor (x : Float) : Prop := x.toBits < infinityBits

instance (x : Float) : Decidable (IsFactor x) := inferInstanceAs (Decidable (x.toBits < infinityBits))

theorem mantissa_sizeOf {x : Double} {b : Binary} (size : sizeOf x = .finite b) : 0 < b.mantissa := by
  have hidden : 0 < hiddenBit := Nat.pow_pos (by decide)
  unfold sizeOf at size
  simp only at size
  split at size
  · split at size <;> cases size
  · split at size
    · split at size
      · cases size
      · rename_i other
        cases size
        exact Nat.pos_of_ne_zero other
    · cases size
      exact Nat.add_pos_left hidden _

theorem numeric_floatText {x : Float} (factor : IsFactor x) : Numeric (floatText x) := by
  have bits : (Double.ofFloat x).bits.toNat < 0x7ff0000000000000 := UInt64.lt_iff_toNat_lt.1 factor
  have unsigned : ∀ s, signed (.ofFloat x) s = s := by
    intro s
    have below : (Double.ofFloat x).isNegative = false := by
      rw [Double.isNegative, decide_eq_false_iff_not, UInt64.le_iff_toNat_le]
      have sign : Double.signBit.toNat = 0x8000000000000000 := rfl
      omega
    rw [signed, below]
    rfl
  have finite : (Double.ofFloat x).bits.toNat / hiddenBit % 2048 ≠ 2047 := by
    have hidden : hiddenBit = 4503599627370496 := rfl
    rw [hidden]
    omega
  unfold floatText doubleText
  cases size : sizeOf (.ofFloat x) with
  | nan =>
      unfold sizeOf at size
      simp only [if_neg finite] at size
      split at size
      · split at size <;> cases size
      · cases size
  | infinite =>
      unfold sizeOf at size
      simp only [if_neg finite] at size
      split at size
      · split at size <;> cases size
      · cases size
  | zero =>
      simp only [unsigned]
      exact Numeric.whole (List.cons_ne_nil '0' []) isDigit_zero
  | finite b =>
      simp only [unsigned]
      exact numeric_positional (Binary.coefficient_searchGrids (mantissa_sizeOf size) _ _ _)

end RecordSearch.Decimal
