import RecordSearch.Calendar.Date

/-!
Days by their numbers. Later days have greater numbers, and every number up to that of the last day of the
calendar is that of one day, if a day of the calendar comes before it.
-/

namespace RecordSearch.Calendar

def IsMonthDay (year : Int) (month day : Nat) : Prop :=
  (1 ≤ month ∧ month ≤ 12) ∧ 1 ≤ day ∧ day ≤ daysInMonth year month

theorem isDay_iff {year : Int} {month day : Nat} :
    IsDay year month day ↔ (firstYear ≤ year ∧ year ≤ lastYear) ∧ IsMonthDay year month day :=
  Iff.rfl

/-- Days before the first of March of a year. -/
def marchFirst (year : Int) : Int := 365 * year + year / 4 - year / 100 + year / 400

theorem isLeap_iff {year : Int} :
    isLeap year = true ↔ year % 4 = 0 ∧ (year % 100 ≠ 0 ∨ year % 400 = 0) := by
  simp only [isLeap, Bool.and_eq_true, Bool.or_eq_true, beq_iff_eq, bne_iff_ne, ne_eq]

theorem daysInFebruary_le (year : Int) : daysInMonth year 2 ≤ 29 := by
  simp only [daysInMonth]
  split <;> decide

theorem marchFirst_succ (year : Int) :
    marchFirst (year + 1) = marchFirst year + 337 + daysInMonth (year + 1) 2 := by
  have days : daysInMonth (year + 1) 2 = if isLeap (year + 1) then 29 else 28 := rfl
  by_cases leap : isLeap (year + 1) = true
  · rw [days, if_pos leap]
    rw [isLeap_iff] at leap
    simp only [marchFirst]
    omega
  · rw [days, if_neg leap]
    rw [isLeap_iff] at leap
    simp only [marchFirst]
    omega

theorem marchFirst_mono {a b : Int} (before : a ≤ b) : marchFirst a ≤ marchFirst b := by
  simp only [marchFirst]
  omega

theorem marchFirst_add_era (era year : Int) :
    marchFirst (era * 400 + year) = era * 146097 + marchFirst year := by
  simp only [marchFirst]
  omega

def monthFirst (month : Nat) : Nat := (153 * month + 2) / 5

def marchYear (year : Int) (month : Nat) : Int := if month ≤ 2 then year - 1 else year

def marchMonth (month : Nat) : Nat := (month + 9) % 12

theorem monthFirst_mono {a b : Nat} (before : a ≤ b) : monthFirst a ≤ monthFirst b := by
  simp only [monthFirst]
  omega

theorem monthFirst_succ (year : Int) {month : Nat} (isMonth : 1 ≤ month ∧ month ≤ 12) (notLast : month ≠ 2) :
    monthFirst (marchMonth month) + daysInMonth year month = monthFirst (marchMonth month + 1) := by
  obtain ⟨first, last⟩ := isMonth
  match month with
  | 1 | 3 | 4 | 5 | 6 | 7 | 8 | 9 | 10 | 11 | 12 => rfl
  | 2 => exact absurd rfl notLast
  | 0 | n + 13 => omega

def dayNumberOf (year : Int) (month day : Nat) : Int :=
  marchFirst (marchYear year month) + (monthFirst (marchMonth month) + (day - 1) : Nat)

theorem Date.dayNumber_eq (d : Date) : d.dayNumber = dayNumberOf d.year d.month d.day := by
  simp only [Date.dayNumber, dayNumberOf, marchFirst, marchYear, monthFirst, marchMonth]
  rw [Int.fdiv_eq_ediv_of_nonneg _ (by decide), Int.fdiv_eq_ediv_of_nonneg _ (by decide),
    Int.fdiv_eq_ediv_of_nonneg _ (by decide)]

variable {year : Int} {month day : Nat}

theorem marchFirst_le_dayNumberOf (year : Int) (month day : Nat) :
    marchFirst (marchYear year month) ≤ dayNumberOf year month day := by
  simp only [dayNumberOf]
  omega

theorem dayNumberOf_lt_marchFirst (isDay : IsMonthDay year month day) :
    dayNumberOf year month day < marchFirst (marchYear year month + 1) := by
  obtain ⟨isMonth, first, last⟩ := isDay
  by_cases february : month = 2
  · subst february
    have next := marchFirst_succ (year - 1)
    have whole : marchYear year 2 = year - 1 := rfl
    have lead : monthFirst (marchMonth 2) = 337 := rfl
    rw [Int.sub_add_cancel] at next
    simp only [dayNumberOf, whole, lead, Int.sub_add_cancel, next]
    omega
  · have ends := monthFirst_succ year isMonth february
    have next := marchFirst_succ (marchYear year month)
    have lead : monthFirst (marchMonth month + 1) ≤ monthFirst 11 := by
      apply monthFirst_mono
      simp only [marchMonth]
      omega
    have whole : monthFirst 11 = 337 := rfl
    simp only [dayNumberOf]
    omega

theorem marchMonth_lt {year' : Int} {month' day' : Nat} (isMonth : 1 ≤ month ∧ month ≤ 12)
    (isMonth' : 1 ≤ month' ∧ month' ≤ 12) (notEarlier : marchYear year' month' ≤ marchYear year month)
    (before : year < year' ∨ year = year' ∧ (month < month' ∨ month = month' ∧ day < day')) :
    marchYear year month = marchYear year' month' ∧
      (marchMonth month < marchMonth month' ∨ marchMonth month = marchMonth month' ∧ day < day') := by
  simp only [marchYear, marchMonth] at notEarlier ⊢
  split at notEarlier <;> split at notEarlier <;> simp only [*, if_true, if_false] <;> omega

theorem dayNumberOf_lt {year' : Int} {month' day' : Nat} (isDay : IsMonthDay year month day)
    (isDay' : IsMonthDay year' month' day')
    (before : (year * 16 + month) * 32 + day < (year' * 16 + month') * 32 + day') :
    dayNumberOf year month day < dayNumberOf year' month' day' := by
  have few := Date.daysInMonth_le year month
  have few' := Date.daysInMonth_le year' month'
  have upper := dayNumberOf_lt_marchFirst isDay
  have lower := marchFirst_le_dayNumberOf year' month' day'
  obtain ⟨isMonth, first, last⟩ := isDay
  obtain ⟨isMonth', first', last'⟩ := isDay'
  rcases Int.lt_or_le (marchYear year month) (marchYear year' month') with earlier | notEarlier
  · have := marchFirst_mono (Int.add_one_le_of_lt earlier)
    omega
  · have inOrder : year < year' ∨ year = year' ∧ (month < month' ∨ month = month' ∧ day < day') := by omega
    obtain ⟨sameYear, monthEarlier | ⟨sameMonth, dayEarlier⟩⟩ :=
      marchMonth_lt isMonth isMonth' notEarlier inOrder
    · have notFebruary : month ≠ 2 := by
        rintro rfl
        simp only [marchMonth] at monthEarlier
        omega
      have ends := monthFirst_succ year isMonth notFebruary
      have leads : monthFirst (marchMonth month + 1) ≤ monthFirst (marchMonth month') :=
        monthFirst_mono monthEarlier
      simp only [dayNumberOf, sameYear]
      omega
    · simp only [dayNumberOf, sameYear, sameMonth]
      omega

/-- A day of four hundred years lies in a century of them, in four years of that and in one of these. Only a
year that ends with a leap day has a day 365. -/
theorem exists_cut {n : Nat} (within : n < 146097) :
    ∃ century fourth year day, century < 4 ∧ fourth < 25 ∧ year < 4 ∧
      n = 36524 * century + 1461 * fourth + 365 * year + day ∧
      (day < 365 ∨ day = 365 ∧ year = 3 ∧ (fourth < 24 ∨ century = 3)) := by
  obtain ⟨century, few, rest, whole, within⟩ : ∃ century < 4, ∃ rest,
      n = 36524 * century + rest ∧ (rest < 36524 ∨ rest = 36524 ∧ century = 3) :=
    ⟨min (n / 36524) 3, by omega, n - 36524 * min (n / 36524) 3, by omega, by omega⟩
  obtain ⟨year, short, day, left, leap⟩ : ∃ year < 4, ∃ day,
      rest % 1461 = 365 * year + day ∧ (day < 365 ∨ day = 365 ∧ year = 3) :=
    ⟨min (rest % 1461 / 365) 3, by omega, rest % 1461 - 365 * min (rest % 1461 / 365) 3, by omega, by omega⟩
  exact ⟨century, rest / 1461, year, day, few, by omega, short, by omega, by omega⟩

theorem marchFirst_of_cut {century fourth year : Nat} (few : century < 4) (within : fourth < 25)
    (short : year < 4) : marchFirst (100 * century + 4 * fourth + year : Nat) =
      (36524 * century + 1461 * fourth + 365 * year : Nat) := by
  have quarter : ((100 * century + 4 * fourth + year : Nat) : Int) / 4 = 25 * century + fourth := by omega
  have hundredth : ((100 * century + 4 * fourth + year : Nat) : Int) / 100 = century := by omega
  have rest : ((100 * century + 4 * fourth + year : Nat) : Int) / 400 = 0 := by omega
  rw [marchFirst, quarter, hundredth, rest]
  omega

theorem lt_marchFirst_of_cut {century fourth year day : Nat} (few : century < 4) (within : fourth < 25)
    (short : year < 4) (leap : day < 365 ∨ day = 365 ∧ year = 3 ∧ (fourth < 24 ∨ century = 3)) :
    (36524 * century + 1461 * fourth + 365 * year + day : Nat) <
      marchFirst ((100 * century + 4 * fourth + year : Nat) + 1) := by
  rcases leap with common | ⟨rfl, rfl, leapYear⟩
  · have quarters : 25 * century + fourth ≤
        ((100 * century + 4 * fourth + year : Nat) + 1 : Int) / 4 := by omega
    have hundredths : ((100 * century + 4 * fourth + year : Nat) + 1 : Int) / 100 -
        ((100 * century + 4 * fourth + year : Nat) + 1 : Int) / 4 + 25 * century + fourth ≤ century := by
      omega
    rw [marchFirst]
    omega
  · have quarters : ((100 * century + 4 * fourth + 3 : Nat) + 1 : Int) / 4 =
        25 * century + fourth + 1 := by omega
    have hundredths : ((100 * century + 4 * fourth + 3 : Nat) + 1 : Int) / 100 -
        ((100 * century + 4 * fourth + 3 : Nat) + 1 : Int) / 400 = century := by omega
    rw [marchFirst, quarters]
    omega

/-- The divisions by which the calendar finds the year of a day. -/
theorem yearOfEra_eq {century fourth year day n : Nat} (few : century < 4) (within : fourth < 25)
    (short : year < 4) (whole : n = 36524 * century + 1461 * fourth + 365 * year + day)
    (leap : day < 365 ∨ day = 365 ∧ year = 3 ∧ (fourth < 24 ∨ century = 3)) :
    (n - n / 1460 + n / 36524 - n / 146096) / 365 = 100 * century + 4 * fourth + year := by
  have fourYears : 365 * year + day < 1461 := by omega
  have inCentury : 1461 * fourth + (365 * year + day) < 36524 ∨
      (century = 3 ∧ 1461 * fourth + (365 * year + day) = 36524) := by omega
  have centuries : n / 36524 - n / 146096 = century ∧ n / 146096 ≤ 1 := by omega
  -- Dividing by the days of four common years counts at most one more of them, and that at their end.
  have further : n / 1460 = 25 * century + fourth +
      (24 * century + fourth + 365 * year + day) / 1460 := by omega
  have atMostOne : (24 * century + fourth + 365 * year + day) / 1460 ≤ 1 := by omega
  have atEnd : (24 * century + fourth + 365 * year + day) / 1460 = 1 → 1364 ≤ 365 * year + day := by omega
  have days : n - n / 1460 + n / 36524 - n / 146096 = 36500 * century + 1460 * fourth +
      (365 * year + day) - (24 * century + fourth + 365 * year + day) / 1460 := by omega
  rw [days]
  generalize (24 * century + fourth + 365 * year + day) / 1460 = more at *
  omega

theorem marchMonth_eq {shifted month : Nat} (inYear : shifted < 12)
    (monthIs : month = if shifted < 10 then shifted + 3 else shifted - 9) :
    (1 ≤ month ∧ month ≤ 12) ∧ marchMonth month = shifted := by
  simp only [marchMonth]
  split at monthIs <;> omega

theorem marchYear_eq {year named : Int} {month : Nat}
    (yearIs : named = if month ≤ 2 then year + 1 else year) : marchYear named month = year := by
  simp only [marchYear]
  split at yearIs
  · rename_i early
    rw [if_pos early]
    omega
  · rename_i late
    rw [if_neg late]
    exact yearIs

theorem isMonthDay_of_cut {year named : Int} {dayOfYear shifted month : Nat}
    (cut : shifted = (5 * dayOfYear + 2) / 153)
    (monthIs : month = if shifted < 10 then shifted + 3 else shifted - 9)
    (yearIs : named = if month ≤ 2 then year + 1 else year)
    (within : marchFirst year + dayOfYear < marchFirst (year + 1)) :
    IsMonthDay named month (dayOfYear - monthFirst shifted + 1) ∧
      dayNumberOf named month (dayOfYear - monthFirst shifted + 1) = marchFirst year + dayOfYear := by
  have next := marchFirst_succ year
  have leap : daysInMonth (year + 1) 2 ≤ 29 := daysInFebruary_le (year + 1)
  have inYear : shifted < 12 := by omega
  have sameYear := marchYear_eq yearIs
  obtain ⟨isMonth, sameMonth⟩ := marchMonth_eq inYear monthIs
  have started : monthFirst shifted ≤ dayOfYear ∧ dayOfYear < monthFirst (shifted + 1) := by
    simp only [monthFirst]
    omega
  refine ⟨⟨isMonth, by omega, ?_⟩, ?_⟩
  · by_cases february : month = 2
    · subst february
      have eleventh : shifted = 11 := sameMonth.symm
      have whole : monthFirst 11 = 337 := rfl
      rw [if_pos (Nat.le_refl 2)] at yearIs
      rw [yearIs, eleventh, whole]
      omega
    · have ends := monthFirst_succ named isMonth february
      rw [sameMonth] at ends
      omega
  · rw [dayNumberOf, sameYear, sameMonth]
    omega

/-- Every number is that of a day of some year, and the day is found unless the calendar does not cover it. -/
theorem exists_ofDayNumber? (n : Int) : ∃ year month day, IsMonthDay year month day ∧
    dayNumberOf year month day = n ∧ Date.ofDayNumber? n = Date.of? year month day := by
  have eras : Int.fdiv n 146097 = n / 146097 := Int.fdiv_eq_ediv_of_nonneg n (by decide)
  obtain ⟨dayOfEra, rest, within, whole⟩ : ∃ dayOfEra, (n - n / 146097 * 146097).toNat = dayOfEra ∧
      dayOfEra < 146097 ∧ n / 146097 * 146097 + dayOfEra = n := ⟨_, rfl, by omega, by omega⟩
  obtain ⟨century, fourth, year, dayOfYear, few, short, one, cut, leap⟩ := exists_cut within
  have begins := marchFirst_of_cut few short one
  have ends := lt_marchFirst_of_cut few short one leap
  have found := yearOfEra_eq few short one cut leap
  have inEra : 100 * century + 4 * fourth + year < 400 := by omega
  generalize 100 * century + 4 * fourth + year = yearOfEra at begins ends found inEra
  have passed : dayOfEra - (365 * yearOfEra + yearOfEra / 4 - yearOfEra / 100) = dayOfYear := by
    simp only [marchFirst] at begins
    omega
  have started : marchFirst (n / 146097 * 400 + yearOfEra) + dayOfYear = n := by
    rw [marchFirst_add_era, begins, ← whole, cut]
    omega
  have going : marchFirst (n / 146097 * 400 + yearOfEra) + dayOfYear <
      marchFirst (n / 146097 * 400 + yearOfEra + 1) := by
    rw [Int.add_assoc (n / 146097 * 400), marchFirst_add_era, marchFirst_add_era, begins]
    omega
  obtain ⟨isDay, number⟩ := isMonthDay_of_cut rfl rfl rfl going
  refine ⟨_, _, _, isDay, number.trans started, ?_⟩
  simp only [Date.ofDayNumber?, eras, rest, found, passed, monthFirst]

namespace Date

theorem isMonthDay (d : Date) : IsMonthDay d.year d.month d.day := (isDay_iff.1 d.isDay).2

theorem rank_lt_iff_dayNumber_lt {a b : Date} : a.rank < b.rank ↔ a.dayNumber < b.dayNumber := by
  have forward : ∀ {a b : Date}, a.rank < b.rank → a.dayNumber < b.dayNumber := by
    intro a b before
    rw [dayNumber_eq, dayNumber_eq]
    exact dayNumberOf_lt a.isMonthDay b.isMonthDay before
  refine ⟨forward, fun less => ?_⟩
  rcases Int.lt_trichotomy a.rank b.rank with before | same | after
  · exact before
  · rw [rank_injective same] at less
    omega
  · have := forward after
    omega

theorem dayNumber_injective {a b : Date} (same : a.dayNumber = b.dayNumber) : a = b := by
  rcases Int.lt_trichotomy a.rank b.rank with before | equal | after
  · have less := rank_lt_iff_dayNumber_lt.1 before
    omega
  · exact rank_injective equal
  · have less := rank_lt_iff_dayNumber_lt.1 after
    omega

def last : Date := ⟨lastYear, 12, 31, by decide⟩

theorem dayNumber_le_last (d : Date) : d.dayNumber ≤ last.dayNumber := by
  obtain ⟨⟨-, within⟩, ⟨-, isMonth⟩, -, isDay⟩ := isDay_iff.1 d.isDay
  have few := daysInMonth_le d.year d.month
  have order : ¬ last.rank < d.rank := by
    simp only [rank, last]
    omega
  rw [rank_lt_iff_dayNumber_lt] at order
  omega

theorem of?_eq_none_iff {year : Int} {month day : Nat} :
    of? year month day = none ↔ ¬ IsDay year month day := by
  rw [of?]
  split
  · rename_i isDay
    exact iff_of_false (Option.some_ne_none _) (not_not_intro isDay)
  · rename_i notDay
    exact iff_of_true rfl notDay

theorem dayNumber_of_addDays? {d later : Date} {days : Int} (added : d.addDays? days = some later) :
    later.dayNumber = d.dayNumber + days := by
  obtain ⟨year, month, day, -, number, found⟩ := exists_ofDayNumber? (d.dayNumber + days)
  rw [addDays?, found] at added
  obtain ⟨rfl, rfl, rfl⟩ := of?_eq_some_iff.1 added
  rw [dayNumber_eq, number]

/-- Only behind its last day is a later day missing from the calendar. -/
theorem addDays?_eq_none_iff {d : Date} {days : Nat} :
    d.addDays? days = none ↔ last.dayNumber < d.dayNumber + days := by
  constructor
  · intro missing
    obtain ⟨year, month, day, isDay, number, found⟩ := exists_ofDayNumber? (d.dayNumber + days)
    rw [addDays?, found, of?_eq_none_iff, isDay_iff] at missing
    rw [← number]
    have few := daysInMonth_le year month
    obtain ⟨⟨within, -⟩, inYear⟩ := isDay_iff.1 d.isDay
    have notEarlier : ¬ year < firstYear := by
      intro early
      have isMonth := isDay.1.2
      have inMonth := isDay.2.2
      have less := dayNumberOf_lt isDay inYear (by omega)
      rw [← dayNumber_eq] at less
      omega
    have later : lastYear < year :=
      Int.not_le.1 fun notLater => missing ⟨⟨Int.not_lt.1 notEarlier, notLater⟩, isDay⟩
    rw [dayNumber_eq]
    apply dayNumberOf_lt last.isMonthDay isDay
    simp only [last]
    omega
  · intro beyond
    cases added : d.addDays? days with
    | none => rfl
    | some later =>
        have number := dayNumber_of_addDays? added
        have within := later.dayNumber_le_last
        omega

end Date

end RecordSearch.Calendar
