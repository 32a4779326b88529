import Mathlib.Algebra.Group.Nat.Defs
import RecordSearch.Field.Convert
import RecordSearch.Proofs.Calendar.ReadBack

/-!
Texts that date fields take for instants: a date, or a date and a time of day. Digits of other scripts are
taken in the time of day and count as zero there.
-/

namespace RecordSearch

namespace Decimal

theorem digitValue_lt {c : Char} (digit : c.isDigit = true) : digitValue c < 10 := by
  obtain ⟨first, last⟩ := Char.isDigit_iff_toNat.1 digit
  have low : '0'.toNat = 48 := rfl
  have high : '9'.toNat = 57 := rfl
  rw [digitValue]
  omega

theorem eq_of_digitValue_eq {c d : Char} (first : c.isDigit = true) (second : d.isDigit = true)
    (same : digitValue c = digitValue d) : c = d := by
  have lowC := (Char.isDigit_iff_toNat.1 first).1
  have lowD := (Char.isDigit_iff_toNat.1 second).1
  rw [digitValue, digitValue] at same
  exact Char.toNat_inj.1 (by omega)

theorem digitsValue_lt {s : List Char} (every : ∀ c ∈ s, c.isDigit = true) (seen : Nat) :
    digitsValue seen s < (seen + 1) * 10 ^ s.length := by
  induction s generalizing seen with
  | nil =>
      rw [digitsValue, List.foldl_nil, List.length_nil]
      omega
  | cons c s ih =>
      obtain ⟨digit, others⟩ := List.forall_mem_cons.1 every
      have small := digitValue_lt digit
      calc
        digitsValue seen (c :: s) < (10 * seen + digitValue c + 1) * 10 ^ s.length := ih others _
        _ ≤ (10 * (seen + 1)) * 10 ^ s.length := Nat.mul_le_mul_right _ (by omega)
        _ = (seen + 1) * 10 ^ (s.length + 1) := by rw [Nat.pow_succ, Nat.mul_comm 10, Nat.mul_assoc, Nat.mul_comm 10]

theorem eq_of_digitsValue_eq {s t : List Char} {a b : Nat} (inS : ∀ c ∈ s, c.isDigit = true)
    (inT : ∀ c ∈ t, c.isDigit = true) (sized : s.length = t.length) (same : digitsValue a s = digitsValue b t) :
    a = b ∧ s = t := by
  induction s generalizing t a b with
  | nil =>
      obtain rfl := List.length_eq_zero_iff.1 sized.symm
      exact ⟨same, rfl⟩
  | cons c s ih =>
      cases t with
      | nil => cases sized
      | cons d t =>
          obtain ⟨first, others⟩ := List.forall_mem_cons.1 inS
          obtain ⟨second, rest⟩ := List.forall_mem_cons.1 inT
          have heads : 10 * a + digitValue c = 10 * b + digitValue d ∧ s = t :=
            ih others rest (Nat.succ.inj sized) same
          obtain ⟨front, rfl⟩ := heads
          have := digitValue_lt first
          have := digitValue_lt second
          have values : digitValue c = digitValue d := by omega
          rw [eq_of_digitValue_eq first second values]
          exact ⟨by omega, rfl⟩

open Calendar (padded length_padded digitsValue_padded isDigit_of_mem_padded)

theorem readNat?_eq_some_iff {s : List Char} {width n : Nat} (positive : 0 < width) (sized : s.length = width) :
    readNat? s = some n ↔ n < 10 ^ width ∧ s = padded width n := by
  have filled : ¬ s.isEmpty = true := by
    rw [List.isEmpty_iff_length_eq_zero]
    omega
  constructor
  · intro read
    rw [readNat?] at read
    split at read
    · cases read
    · rename_i fine
      rw [Bool.or_eq_true, not_or] at fine
      have every : ∀ c ∈ s, c.isDigit = true := by simpa using fine.2
      cases read
      have small := digitsValue_lt every 0
      rw [Nat.zero_add, Nat.one_mul, sized] at small
      refine ⟨small, (eq_of_digitsValue_eq every (fun c => isDigit_of_mem_padded) ?_
        (digitsValue_padded _ _).symm).2⟩
      rw [length_padded positive small, sized]
  · rintro ⟨-, written⟩
    have every : s.all Char.isDigit = true := by
      rw [List.all_eq_true, written]
      exact fun c => isDigit_of_mem_padded
    rw [readNat?, every, if_neg (by simpa using filled), written, digitsValue_padded]

theorem readNat?_eq_none_iff {s : List Char} (filled : s ≠ []) :
    readNat? s = none ↔ ∃ c ∈ s, c.isDigit = false := by
  rw [readNat?]
  simp [filled]

end Decimal

namespace Field

open Calendar (Date TimeOfDay DateTime padded length_padded isDigit_of_mem_padded)

variable {s digits rest : List Char} {n : Nat}

theorem takeDigits?_eq_some_iff : takeDigits? n s = some (digits, rest) ↔
    s = digits ++ rest ∧ digits.length = n ∧ ∀ c ∈ digits, Unicode.isDigit c = true := by
  induction n generalizing s digits with
  | zero =>
      rw [takeDigits?, List.length_eq_zero_iff]
      constructor
      · intro taken
        cases taken
        exact ⟨rfl, rfl, List.forall_mem_nil _⟩
      · rintro ⟨rfl, rfl, -⟩
        rfl
  | succ n ih =>
      cases s with
      | nil =>
          rw [takeDigits?]
          constructor
          · intro taken
            cases taken
          · rintro ⟨whole, sized, -⟩
            rw [(List.append_eq_nil_iff.1 whole.symm).1] at sized
            cases sized
      | cons c s =>
          rw [takeDigits?]
          constructor
          · intro taken
            split at taken
            · rename_i digit
              obtain ⟨⟨others, behind⟩, later, same⟩ := Option.map_eq_some_iff.1 taken
              cases same
              obtain ⟨rfl, rfl, every⟩ := ih.1 later
              exact ⟨rfl, rfl, List.forall_mem_cons.2 ⟨digit, every⟩⟩
            · cases taken
          · rintro ⟨whole, sized, every⟩
            cases digits with
            | nil => cases sized
            | cons d digits =>
                obtain ⟨digit, others⟩ := List.forall_mem_cons.1 every
                rw [List.cons_append, List.cons.injEq] at whole
                obtain ⟨rfl, rfl⟩ := whole
                rw [if_pos digit, ih.2 ⟨rfl, Nat.succ.inj sized, others⟩]
                rfl

theorem takePart?_eq_some_iff {sep : Char} : takePart? n sep s = some (digits, rest) ↔
    s = digits ++ sep :: rest ∧ digits.length = n ∧ ∀ c ∈ digits, Unicode.isDigit c = true := by
  rw [takePart?]
  constructor
  · intro taken
    split at taken
    · rename_i run c behind found
      split at taken
      · rename_i same
        cases taken
        exact same ▸ takeDigits?_eq_some_iff.1 found
      · cases taken
    · cases taken
  · intro written
    rw [takeDigits?_eq_some_iff.2 written]
    exact if_pos rfl

/-- Two digits of any script that are read as a number of the clock. -/
structure IsRead (digits : List Char) (n : Nat) : Prop where
  sized : digits.length = 2
  every : ∀ c ∈ digits, Unicode.isDigit c = true
  number : numberOr 0 digits = n

/-- Two digits as they stand for a number of the clock: those that write it, or for zero two of which one is
not among `0` to `9`. -/
def StandsFor (digits : List Char) (n : Nat) : Prop :=
  digits = padded 2 n ∨
    n = 0 ∧ digits.length = 2 ∧ (∀ c ∈ digits, Unicode.isDigit c = true) ∧ ∃ c ∈ digits, c.isDigit = false

theorem IsRead.ne_nil (read : IsRead digits n) : digits ≠ [] := by
  rintro rfl
  cases read.sized

theorem isRead_padded (small : n < 100) : IsRead (padded 2 n) n := by
  have sized : (padded 2 n).length = 2 := length_padded (by decide) small
  refine ⟨sized, fun c listed => Unicode.isDigit_of_isDigit (isDigit_of_mem_padded listed), ?_⟩
  rw [numberOr, (Decimal.readNat?_eq_some_iff (by decide) sized).2 ⟨small, rfl⟩, Option.getD_some]

theorem isRead_iff (small : n < 100) : IsRead digits n ↔ StandsFor digits n := by
  constructor
  · intro read
    have number := read.number
    rw [numberOr] at number
    cases found : Decimal.readNat? digits with
    | some m =>
        rw [found, Option.getD_some] at number
        exact .inl (number ▸ ((Decimal.readNat?_eq_some_iff (by decide) read.sized).1 found).2)
    | none =>
        rw [found, Option.getD_none] at number
        exact .inr ⟨number.symm, read.sized, read.every, (Decimal.readNat?_eq_none_iff read.ne_nil).1 found⟩
  · rintro (rfl | ⟨rfl, sized, every, foreign⟩)
    · exact isRead_padded small
    · have filled : digits ≠ [] := by
        rintro rfl
        cases sized
      refine ⟨sized, every, ?_⟩
      rw [numberOr, (Decimal.readNat?_eq_none_iff filled).2 foreign, Option.getD_none]

theorem IsRead.eq_padded (read : IsRead digits n) (small : n < 100) (positive : 0 < n) : digits = padded 2 n :=
  ((isRead_iff small).1 read).resolve_right fun foreign => absurd foreign.1 (Nat.ne_of_gt positive)

def IsGap (gap : List Char) : Prop := gap = ['T'] ∨ gap ≠ [] ∧ ∀ c ∈ gap, Unicode.isBlank c = true

/-- A time of day behind a date, whose numbers are written as `number` has it. Behind it the line may go on. -/
def WritesTime (number : List Char → Nat → Prop) (s : List Char) (t : TimeOfDay) : Prop :=
  ∃ gap hour minute second rest, s = gap ++ hour ++ ':' :: minute ++ ':' :: second ++ rest ∧ IsGap gap ∧
    number hour t.hour ∧ number minute t.minute ∧ number second t.second ∧ t.nano = 0 ∧ '\n' ∉ rest

/-- A date of four digits for the year, alone for its midnight or with a time of day. -/
def Writes (number : List Char → Nat → Prop) (s : List Char) (t : DateTime) : Prop :=
  (0 ≤ t.date.year ∧ t.date.year ≤ 9999) ∧ ∃ rest, s = t.date.text ++ rest ∧
    (rest = [] ∧ t.time = .midnight ∨ WritesTime number rest t.time)

theorem WritesTime.mono {number other : List Char → Nat → Prop} {t : TimeOfDay}
    (weaker : ∀ digits ⊆ s, ∀ n, number digits n → other digits n) (written : WritesTime number s t) :
    WritesTime other s t := by
  obtain ⟨gap, hour, minute, second, rest, rfl, isGap, first, next, last, behind⟩ := written
  refine ⟨gap, hour, minute, second, rest, rfl, isGap, weaker hour ?_ _ first, weaker minute ?_ _ next,
    weaker second ?_ _ last, behind⟩
  · intro c listed
    simp [listed]
  · intro c listed
    simp [listed]
  · intro c listed
    simp [listed]

theorem Writes.mono {number other : List Char → Nat → Prop} {t : DateTime}
    (weaker : ∀ digits ⊆ s, ∀ n, number digits n → other digits n) (written : Writes number s t) :
    Writes other s t := by
  obtain ⟨years, rest, rfl, alone | time⟩ := written
  · exact ⟨years, rest, rfl, .inl alone⟩
  · exact ⟨years, rest, rfl, .inr (time.mono fun digits inside =>
      weaker digits (List.subset_append_of_subset_right _ inside))⟩

/-- In a text without digits of other scripts the digits are those that write the numbers. -/
theorem writes_standsFor_iff {t : DateTime} (only : ∀ c ∈ s, Unicode.isDigit c = true → c.isDigit = true) :
    Writes StandsFor s t ↔ Writes (fun digits n => digits = padded 2 n) s t := by
  constructor
  · intro written
    refine written.mono fun digits inside n stands => stands.resolve_right ?_
    rintro ⟨-, -, every, c, listed, foreign⟩
    rw [only c (inside listed) (every c listed)] at foreign
    cases foreign
  · exact fun written => written.mono fun digits _ n => .inl

def behindGap : List Char → List Char
  | 'T' :: rest => rest
  | s => s.dropWhile Unicode.isBlank

def readNumbers? (s : List Char) : Option (Nat × Nat × Nat) :=
  match takePart? 2 ':' s with
  | none => none
  | some (hour, rest) =>
    match takePart? 2 ':' rest with
    | none => none
    | some (minute, rest) =>
      match takeDigits? 2 rest with
      | none => none
      | some (second, rest) =>
        if rest.contains '\n' then none
        else some (numberOr 0 hour, numberOr 0 minute, numberOr 0 second)

theorem readClock?_eq (s : List Char) :
    readClock? s = if (behindGap s).length = s.length then none else readNumbers? (behindGap s) := rfl

theorem behindGap_append {gap k : List Char} {c : Char} (isGap : IsGap gap) (solid : Unicode.isBlank c = false) :
    behindGap (gap ++ c :: k) = c :: k := by
  rcases isGap with rfl | ⟨filled, blank⟩
  · rfl
  · have stops : (c :: k).dropWhile Unicode.isBlank = c :: k := List.dropWhile_cons_of_neg (by simp [solid])
    rw [behindGap.eq_def]
    split
    · rename_i rest lead
      obtain ⟨d, others, rfl⟩ := List.exists_cons_of_ne_nil filled
      have letter := blank d List.mem_cons_self
      rw [(List.cons.inj lead).1] at letter
      cases letter
    · rw [List.dropWhile_append_of_pos blank, stops]

theorem exists_gap (shorter : (behindGap s).length ≠ s.length) : ∃ gap, IsGap gap ∧ s = gap ++ behindGap s := by
  rw [behindGap.eq_def] at shorter ⊢
  split at shorter
  · exact ⟨['T'], .inl rfl, rfl⟩
  · have whole := List.takeWhile_append_dropWhile (p := Unicode.isBlank) (l := s)
    refine ⟨s.takeWhile Unicode.isBlank, .inr ⟨?_, fun c listed => List.mem_takeWhile_imp listed⟩, whole.symm⟩
    intro none
    rw [none, List.nil_append] at whole
    exact shorter (congrArg List.length whole)

theorem readNumbers?_eq_some_iff {h m sec : Nat} : readNumbers? s = some (h, m, sec) ↔
    ∃ hour minute second rest, s = hour ++ ':' :: (minute ++ ':' :: (second ++ rest)) ∧
      IsRead hour h ∧ IsRead minute m ∧ IsRead second sec ∧ '\n' ∉ rest := by
  rw [readNumbers?]
  constructor
  · intro read
    split at read
    · cases read
    · rename_i hour behindHour takenHour
      obtain ⟨rfl, sizedHour, everyHour⟩ := takePart?_eq_some_iff.1 takenHour
      split at read
      · cases read
      · rename_i minute behindMinute takenMinute
        obtain ⟨rfl, sizedMinute, everyMinute⟩ := takePart?_eq_some_iff.1 takenMinute
        split at read
        · cases read
        · rename_i second rest takenSecond
          obtain ⟨rfl, sizedSecond, everySecond⟩ := takeDigits?_eq_some_iff.1 takenSecond
          split at read
          · cases read
          · rename_i line
            cases read
            exact ⟨hour, minute, second, rest, rfl, ⟨sizedHour, everyHour, rfl⟩,
              ⟨sizedMinute, everyMinute, rfl⟩, ⟨sizedSecond, everySecond, rfl⟩, by simpa using line⟩
  · rintro ⟨hour, minute, second, rest, rfl, ⟨sizedHour, everyHour, rfl⟩, ⟨sizedMinute, everyMinute, rfl⟩,
      ⟨sizedSecond, everySecond, rfl⟩, line⟩
    simp only [takePart?_eq_some_iff.2 ⟨rfl, sizedHour, everyHour⟩,
      takePart?_eq_some_iff.2 ⟨rfl, sizedMinute, everyMinute⟩,
      takeDigits?_eq_some_iff.2 ⟨rfl, sizedSecond, everySecond⟩]
    exact if_neg (by simpa using line)

theorem readClock?_eq_some_iff {h m sec : Nat} : readClock? s = some (h, m, sec) ↔
    ∃ gap hour minute second rest, s = gap ++ (hour ++ ':' :: (minute ++ ':' :: (second ++ rest))) ∧ IsGap gap ∧
      IsRead hour h ∧ IsRead minute m ∧ IsRead second sec ∧ '\n' ∉ rest := by
  rw [readClock?_eq]
  constructor
  · intro read
    split at read
    · cases read
    · rename_i shorter
      obtain ⟨gap, isGap, whole⟩ := exists_gap shorter
      obtain ⟨hour, minute, second, rest, text, numbers⟩ := readNumbers?_eq_some_iff.1 read
      rw [text] at whole
      exact ⟨gap, hour, minute, second, rest, whole, isGap, numbers⟩
  · rintro ⟨gap, hour, minute, second, rest, rfl, isGap, first, others⟩
    have read := readNumbers?_eq_some_iff.2 ⟨hour, minute, second, rest, rfl, first, others⟩
    obtain ⟨c, more, rfl⟩ := List.exists_cons_of_ne_nil first.ne_nil
    have solid := Unicode.isBlank_of_isDigit (first.every c List.mem_cons_self)
    have filled : 0 < gap.length := by
      rcases isGap with rfl | ⟨filled, -⟩
      · exact Nat.one_pos
      · exact List.length_pos_iff.2 filled
    rw [List.cons_append, behindGap_append isGap solid, if_neg, ← List.cons_append, read]
    simp only [List.length_append]
    omega

theorem time_eq_some_iff {t : TimeOfDay} :
    (if s.isEmpty then some .midnight
      else (readClock? s).bind fun (hour, minute, second) => TimeOfDay.of? hour minute second 0) = some t ↔
    s = [] ∧ t = .midnight ∨ WritesTime StandsFor s t := by
  obtain ⟨hours, minutes, seconds, -⟩ := t.isTime
  have hour : ∀ digits, IsRead digits t.hour ↔ StandsFor digits t.hour := fun _ => isRead_iff (by omega)
  have minute : ∀ digits, IsRead digits t.minute ↔ StandsFor digits t.minute := fun _ => isRead_iff (by omega)
  have second : ∀ digits, IsRead digits t.second ↔ StandsFor digits t.second := fun _ => isRead_iff (by omega)
  constructor
  · intro read
    split at read
    · rename_i empty
      exact .inl ⟨List.isEmpty_iff.1 empty, (Option.some.inj read).symm⟩
    · obtain ⟨⟨h, m, sec⟩, clock, time⟩ := Option.bind_eq_some_iff.1 read
      obtain ⟨rfl, rfl, rfl, whole⟩ := TimeOfDay.of?_eq_some_iff.1 time
      obtain ⟨gap, hourText, minuteText, secondText, rest, text, isGap, first, next, last, line⟩ :=
        readClock?_eq_some_iff.1 clock
      refine .inr ⟨gap, hourText, minuteText, secondText, rest, ?_, isGap, (hour _).1 first, (minute _).1 next,
        (second _).1 last, whole, line⟩
      rw [text]
      simp only [List.append_assoc, List.cons_append]
  · rintro (⟨rfl, rfl⟩ | ⟨gap, hourText, minuteText, secondText, rest, text, isGap, first, next, last, whole, line⟩)
    · rfl
    · have clock : readClock? s = some (t.hour, t.minute, t.second) := by
        refine readClock?_eq_some_iff.2 ⟨gap, hourText, minuteText, secondText, rest, ?_, isGap, (hour _).2 first,
          (minute _).2 next, (second _).2 last, line⟩
        rw [text]
        simp only [List.append_assoc, List.cons_append]
      have filled : ¬ s.isEmpty = true := by
        rw [List.isEmpty_iff]
        rintro rfl
        cases clock
      rw [if_neg filled, clock, Option.bind_some]
      exact TimeOfDay.of?_eq_some_iff.2 ⟨rfl, rfl, rfl, whole⟩

theorem bounds_date (d : Date) : 0 < d.month ∧ d.month < 100 ∧ 0 < d.day ∧ d.day < 100 := by
  obtain ⟨-, ⟨firstMonth, lastMonth⟩, firstDay, lastDay⟩ := d.isDay
  have days := Date.daysInMonth_le d.year d.month
  omega

theorem text_append {d : Date} {year : Nat} (same : d.year = year) (small : year ≤ 9999) (rest : List Char) :
    d.text ++ rest = padded 4 year ++ '-' :: (padded 2 d.month ++ '-' :: (padded 2 d.day ++ rest)) := by
  have written : Calendar.yearText year = padded 4 year := if_pos small
  rw [Date.text, same, written]
  simp only [List.append_assoc, List.cons_append]

/-- A date field takes a text for an instant just if the text writes it, up to digits of other scripts. -/
theorem readDateTime?_eq_some_iff {t : DateTime} : readDateTime? s = some t ↔ Writes StandsFor s t := by
  rw [readDateTime?]
  constructor
  · intro read
    split at read
    · cases read
    · rename_i yearText behindYear takenYear
      obtain ⟨rfl, sizedYear, -⟩ := takePart?_eq_some_iff.1 takenYear
      split at read
      · cases read
      · rename_i monthText behindMonth takenMonth
        obtain ⟨rfl, sizedMonth, everyMonth⟩ := takePart?_eq_some_iff.1 takenMonth
        split at read
        · cases read
        · rename_i dayText rest takenDay
          obtain ⟨rfl, sizedDay, everyDay⟩ := takeDigits?_eq_some_iff.1 takenDay
          simp only at read
          split at read
          · rename_i date time foundDate foundTime
            cases read
            obtain ⟨year, readYear, day⟩ := Option.bind_eq_some_iff.1 foundDate
            obtain ⟨sameYear, sameMonth, sameDay⟩ := Date.of?_eq_some_iff.1 day
            obtain ⟨small, writtenYear⟩ := (Decimal.readNat?_eq_some_iff (by decide) sizedYear).1 readYear
            obtain ⟨firstMonth, lastMonth, firstDay, lastDay⟩ := bounds_date date
            have month : IsRead monthText date.month := ⟨sizedMonth, everyMonth, sameMonth.symm⟩
            have day : IsRead dayText date.day := ⟨sizedDay, everyDay, sameDay.symm⟩
            have years : 0 ≤ date.year ∧ date.year ≤ 9999 := by omega
            refine ⟨years, rest, ?_, time_eq_some_iff.1 foundTime⟩
            rw [text_append sameYear (by omega), writtenYear, month.eq_padded lastMonth firstMonth,
              day.eq_padded lastDay firstDay]
          · cases read
  · rintro ⟨⟨low, high⟩, rest, rfl, time⟩
    obtain ⟨year, sameYear⟩ := Int.eq_ofNat_of_zero_le low
    have small : year < 10 ^ 4 := by omega
    obtain ⟨-, lastMonth, -, lastDay⟩ := bounds_date t.date
    have month := isRead_padded lastMonth
    have day := isRead_padded lastDay
    have sizedYear : (padded 4 year).length = 4 := length_padded (by decide) small
    have everyYear : ∀ c ∈ padded 4 year, Unicode.isDigit c = true :=
      fun c listed => Unicode.isDigit_of_isDigit (isDigit_of_mem_padded listed)
    have date : ((Decimal.readNat? (padded 4 year)).bind fun year =>
        Date.of? year (numberOr 0 (padded 2 t.date.month)) (numberOr 0 (padded 2 t.date.day))) = some t.date := by
      rw [(Decimal.readNat?_eq_some_iff (by decide) sizedYear).2 ⟨small, rfl⟩, Option.bind_some]
      exact Date.of?_eq_some_iff.2 ⟨sameYear, month.number.symm, day.number.symm⟩
    rw [text_append sameYear (by omega), takePart?_eq_some_iff.2 ⟨rfl, sizedYear, everyYear⟩]
    simp only [takePart?_eq_some_iff.2 ⟨rfl, month.sized, month.every⟩,
      takeDigits?_eq_some_iff.2 ⟨rfl, day.sized, day.every⟩, date, time_eq_some_iff.2 time]

/-- What a date field makes of a text: the instant that the text writes, or its date. The digits of the time of
day may be those of other scripts, which count as zero; in a text without them they write the numbers. -/
theorem convert_text_iff (f : Field) (text : String) (v : Value) :
    (f.kind = .dateTime →
      (f.convert (.text text) = .ok v ↔ ∃ t, Writes StandsFor text.toList t ∧ v = .dateTime t)) ∧
    (f.kind = .date →
      (f.convert (.text text) = .ok v ↔ ∃ t, Writes StandsFor text.toList t ∧ v = .date t.date)) ∧
    ((∀ c ∈ text.toList, Unicode.isDigit c = true → c.isDigit = true) → ∀ t,
      Writes StandsFor text.toList t ↔ Writes (fun digits n => digits = padded 2 n) text.toList t) := by
  have present : ¬ (Value.text text).isNull = true := Bool.false_ne_true
  refine ⟨?_, ?_, fun only t => writes_standsFor_iff only⟩
  · intro kind
    simp only [← readDateTime?_eq_some_iff]
    rw [convert, if_neg present, kind]
    simp only [toDateTime]
    cases readDateTime? text.toList <;> simp [Except.map, eq_comm]
  · intro kind
    simp only [← readDateTime?_eq_some_iff]
    rw [convert, if_neg present, kind]
    simp only [toDateTime]
    cases readDateTime? text.toList <;> simp [Except.map, eq_comm]

def morning : DateTime := ⟨⟨2012, 2, 29, by decide⟩, ⟨1, 2, 3, 0, by decide⟩⟩

theorem convert_text_iff_morning :
    (ofKind .dateTime).kind = .dateTime ∧ (ofKind .date).kind = .date ∧
    (∀ c ∈ "2012-02-29 01:02:03Z".toList, Unicode.isDigit c = true → c.isDigit = true) ∧
    Writes (fun digits n => digits = padded 2 n) "2012-02-29 01:02:03Z".toList morning ∧
    (ofKind .dateTime).convert (.text "2012-02-29 01:02:03Z") = .ok (.dateTime morning) ∧
    (ofKind .date).convert (.text "2012-02-29 01:02:03Z") = .ok (.date morning.date) := by
  have only : ∀ c ∈ "2012-02-29 01:02:03Z".toList, Unicode.isDigit c = true → c.isDigit = true := by
    have all : ("2012-02-29 01:02:03Z".toList.all fun c => !Unicode.isDigit c || c.isDigit) = true := by
      decide
    intro c listed digit
    simpa [digit] using List.all_eq_true.1 all c listed
  have written : Writes (fun digits n => digits = padded 2 n) "2012-02-29 01:02:03Z".toList morning := by
    refine ⟨by decide, " 01:02:03Z".toList, by decide, .inr ?_⟩
    have gap : IsGap [' '] := .inr ⟨by decide, List.forall_mem_singleton.2 (by decide)⟩
    refine ⟨[' '], ['0', '1'], ['0', '2'], ['0', '3'], ['Z'], by decide, gap, ?_⟩
    exact ⟨by decide, by decide, by decide, rfl, by decide⟩
  obtain ⟨instant, -, same⟩ := convert_text_iff (ofKind .dateTime) "2012-02-29 01:02:03Z" (.dateTime morning)
  obtain ⟨-, day, -⟩ := convert_text_iff (ofKind .date) "2012-02-29 01:02:03Z" (.date morning.date)
  have stands := (same only morning).2 written
  exact ⟨rfl, rfl, only, written, (instant rfl).2 ⟨morning, stands, rfl⟩, (day rfl).2 ⟨morning, stands, rfl⟩⟩

def midnightHalf : DateTime := ⟨⟨2012, 2, 29, by decide⟩, ⟨0, 30, 0, 0, by decide⟩⟩

/-- Half past two in other digits is taken for half past midnight. -/
theorem not_writes_of_convert :
    ¬ ∀ (text : String) (t : DateTime), (ofKind .dateTime).convert (.text text) = .ok (.dateTime t) →
      Writes (fun digits n => digits = padded 2 n) text.toList t := by
  intro written
  have read : readDateTime? "2012-02-29T٠٢:30:00".toList = some midnightHalf := by decide
  have converted : (ofKind .dateTime).convert (.text "2012-02-29T٠٢:30:00") = .ok (.dateTime midnightHalf) := by
    simp only [convert, Value.isNull, Bool.false_eq_true, if_false, ofKind, toDateTime, read, Except.map]
  obtain ⟨-, rest, whole, behind⟩ := written _ _ converted
  have front : "2012-02-29T٠٢:30:00".toList = midnightHalf.date.text ++ "T٠٢:30:00".toList := by decide
  rw [front] at whole
  obtain rfl := List.append_cancel_left whole
  rcases behind with ⟨empty, -⟩ | ⟨gap, _, _, _, tail, text, isGap, rfl, rfl, rfl, -, -⟩
  · revert empty
    decide
  · rcases isGap with rfl | ⟨filled, blank⟩
    · have letter : '٠' = '0' := (List.cons.inj (List.cons.inj text).2).1
      revert letter
      decide
    · obtain ⟨c, others, rfl⟩ := List.exists_cons_of_ne_nil filled
      have letter := blank c List.mem_cons_self
      rw [← (List.cons.inj text).1] at letter
      revert letter
      decide

end Field

end RecordSearch
