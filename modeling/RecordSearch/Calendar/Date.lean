namespace RecordSearch.Calendar

def isLeap (year : Int) : Bool := year % 4 == 0 && (year % 100 != 0 || year % 400 == 0)

def daysInMonth (year : Int) (month : Nat) : Nat :=
  match month with
  | 2 => if isLeap year then 29 else 28
  | 4 | 6 | 9 | 11 => 30
  | _ => 31

def firstYear : Int := -262143

def lastYear : Int := 262142

def IsDay (year : Int) (month day : Nat) : Prop :=
  (firstYear ≤ year ∧ year ≤ lastYear) ∧ (1 ≤ month ∧ month ≤ 12) ∧
    1 ≤ day ∧ day ≤ daysInMonth year month

instance (year : Int) (month day : Nat) : Decidable (IsDay year month day) := by
  unfold IsDay
  infer_instance

structure Date where
  year : Int
  month : Nat
  day : Nat
  isDay : IsDay year month day
  deriving DecidableEq, Repr

namespace Date

def of? (year : Int) (month day : Nat) : Option Date :=
  if isDay : IsDay year month day then some ⟨year, month, day, isDay⟩ else none

theorem of?_eq_some_iff {d : Date} {year : Int} {month day : Nat} :
    of? year month day = some d ↔ d.year = year ∧ d.month = month ∧ d.day = day := by
  rw [of?]
  split
  · rw [Option.some.injEq]
    constructor
    · rintro rfl
      exact ⟨rfl, rfl, rfl⟩
    · rintro ⟨rfl, rfl, rfl⟩
      rfl
  · rename_i notDay
    constructor
    · rintro ⟨⟩
    · rintro ⟨rfl, rfl, rfl⟩
      exact absurd d.isDay notDay

def rank (d : Date) : Int := (d.year * 16 + d.month) * 32 + d.day

theorem daysInMonth_le (year : Int) (month : Nat) : daysInMonth year month ≤ 31 := by
  unfold daysInMonth
  split <;> (try split) <;> decide

theorem rank_injective {a b : Date} (same : a.rank = b.rank) : a = b := by
  obtain ⟨ay, am, ad, aIsDay⟩ := a
  obtain ⟨bv, bm, bd, bIsDay⟩ := b
  have ha := aIsDay
  have hb := bIsDay
  unfold IsDay at ha hb
  have := daysInMonth_le ay am
  have := daysInMonth_le bv bm
  simp only [rank] at same
  have : ay = bv := by omega
  have : am = bm := by omega
  have : ad = bd := by omega
  subst_vars
  rfl

/-- Days since the first of March of the year zero, counted in years that begin in March. -/
def dayNumber (d : Date) : Int :=
  let year := if d.month ≤ 2 then d.year - 1 else d.year
  let month := (d.month + 9) % 12
  365 * year + Int.fdiv year 4 - Int.fdiv year 100 + Int.fdiv year 400 +
    ((153 * month + 2) / 5 + (d.day - 1) : Nat)

def ofDayNumber? (n : Int) : Option Date :=
  let era := Int.fdiv n 146097
  let dayOfEra := (n - era * 146097).toNat
  let yearOfEra := (dayOfEra - dayOfEra / 1460 + dayOfEra / 36524 - dayOfEra / 146096) / 365
  let dayOfYear := dayOfEra - (365 * yearOfEra + yearOfEra / 4 - yearOfEra / 100)
  let shifted := (5 * dayOfYear + 2) / 153
  let day := dayOfYear - (153 * shifted + 2) / 5 + 1
  let month := if shifted < 10 then shifted + 3 else shifted - 9
  let year := era * 400 + yearOfEra
  of? (if month ≤ 2 then year + 1 else year) month day

def addDays? (d : Date) (days : Int) : Option Date := ofDayNumber? (d.dayNumber + days)

/-- The same day so many months later, or the last day of that month if it is shorter. -/
def addMonths? (d : Date) (months : Nat) : Option Date :=
  let total := d.year * 12 + (d.month - 1 : Nat) + months
  let year := Int.fdiv total 12
  let month := (Int.fmod total 12).toNat + 1
  of? year month (min d.day (daysInMonth year month))

end Date

end RecordSearch.Calendar
