import RecordSearch.Calendar.DateTime
import RecordSearch.Proofs.Calendar.DayNumber

/-!
Steps between instants. A step of one unit or more leads to the instant that is so much later, and it is
refused exactly if that lies behind the last day of the calendar.
-/

namespace RecordSearch.Calendar

theorem le_daysInMonth (year : Int) (month : Nat) : 28 ≤ daysInMonth year month := by
  unfold daysInMonth
  split <;> (try split) <;> decide

namespace Date

def monthNumber (d : Date) : Int := d.year * 12 + (d.month - 1 : Nat)

theorem rank_lt_of_monthNumber_lt {a b : Date} (earlier : a.monthNumber < b.monthNumber) :
    a.rank < b.rank := by
  obtain ⟨-, ⟨first, last⟩, -, short⟩ := isDay_iff.1 a.isDay
  obtain ⟨-, ⟨first', last'⟩, low, -⟩ := isDay_iff.1 b.isDay
  have few := daysInMonth_le a.year a.month
  simp only [monthNumber] at earlier
  simp only [rank]
  omega

theorem exists_addMonths? (d : Date) (months : Nat) : ∃ year month, (1 ≤ month ∧ month ≤ 12) ∧
    year * 12 + (month - 1 : Nat) = d.monthNumber + months ∧
    d.addMonths? months = of? year month (min d.day (daysInMonth year month)) := by
  refine ⟨_, _, ?_, ?_, rfl⟩
  · rw [Int.fmod_eq_emod_of_nonneg _ (by decide)]
    omega
  · rw [Int.fmod_eq_emod_of_nonneg _ (by decide), Int.fdiv_eq_ediv_of_nonneg _ (by decide), monthNumber]
    omega

theorem monthNumber_of_addMonths? {d later : Date} {months : Nat} (added : d.addMonths? months = some later) :
    later.monthNumber = d.monthNumber + months ∧
      later.day = min d.day (daysInMonth later.year later.month) := by
  obtain ⟨year, month, -, number, found⟩ := exists_addMonths? d months
  obtain ⟨rfl, rfl, sameDay⟩ := of?_eq_some_iff.1 (found.symm.trans added)
  exact ⟨number, sameDay⟩

theorem addMonths?_eq_none_iff {d : Date} {months : Nat} :
    d.addMonths? months = none ↔ last.monthNumber < d.monthNumber + months := by
  obtain ⟨year, month, isMonth, number, found⟩ := exists_addMonths? d months
  have inMonth : IsMonthDay year month (min d.day (daysInMonth year month)) := by
    have long := le_daysInMonth year month
    have first := d.isMonthDay.2.1
    exact ⟨isMonth, by omega, Nat.min_le_right _ _⟩
  have notEarlier : firstYear ≤ year := by
    obtain ⟨⟨first, -⟩, -⟩ := isDay_iff.1 d.isDay
    simp only [monthNumber] at number
    omega
  have final : last.monthNumber = lastYear * 12 + 11 := rfl
  rw [found, of?_eq_none_iff, isDay_iff, ← number, final]
  constructor
  · intro outside
    have later : lastYear < year := Int.not_le.1 fun within => outside ⟨⟨notEarlier, within⟩, inMonth⟩
    omega
  · rintro beyond ⟨⟨-, within⟩, -⟩
    omega

end Date

theorem TimeOfDay.seconds_lt (t : TimeOfDay) : t.seconds < 86400 := by
  obtain ⟨hours, minutes, seconds, -⟩ := t.isTime
  simp only [TimeOfDay.seconds]
  omega

theorem TimeOfDay.exists_ofSeconds? {seconds nano : Nat} (inDay : seconds < 86400)
    (inSecond : nano < 1000000000) :
    ∃ t, ofSeconds? seconds nano = some t ∧ t.seconds = seconds ∧ t.nano = nano := by
  have isTime : IsTime (seconds / 3600) (seconds / 60 % 60) (seconds % 60) nano :=
    ⟨by omega, by omega, by omega, .inl inSecond⟩
  refine ⟨⟨_, _, _, _, isTime⟩, by rw [ofSeconds?, of?, dif_pos isTime], ?_, rfl⟩
  simp only [TimeOfDay.seconds]
  omega

namespace DateTime

/-- Seconds since the midnight before the day with the number zero; those of a leap second count with the
second before it. -/
def secondNumber (t : DateTime) : Int := t.date.dayNumber * 86400 + t.time.seconds

def secondLimit : Int := (Date.last.dayNumber + 1) * 86400

theorem lt_iff {a b : DateTime} : a < b ↔ a.rank < b.rank := Iff.rfl

theorem le_iff {a b : DateTime} : a ≤ b ↔ a.rank ≤ b.rank := Iff.rfl

theorem lt_of_date_lt {a b : DateTime} (earlier : a.date.rank < b.date.rank) : a < b := by
  have inDay := a.time.rank_lt
  rw [lt_iff, rank, rank]
  omega

theorem lt_of_secondNumber_lt {a b : DateTime} (earlier : a.secondNumber < b.secondNumber) : a < b := by
  have inDay := a.time.seconds_lt
  have inDay' := b.time.seconds_lt
  simp only [secondNumber] at earlier
  rcases Int.lt_trichotomy a.date.dayNumber b.date.dayNumber with before | same | after
  · exact lt_of_date_lt (Date.rank_lt_iff_dayNumber_lt.2 before)
  · have seconds : a.time.seconds < b.time.seconds := by omega
    obtain ⟨-, -, -, nano⟩ := a.time.isTime
    rw [lt_iff, rank, rank, Date.dayNumber_injective same, TimeOfDay.rank, TimeOfDay.rank]
    omega
  · omega

/-- The instant so many months later, on the same day of the month or on its last day. -/
def IsMonthsAfter (months : Nat) (t later : DateTime) : Prop :=
  later.date.monthNumber = t.date.monthNumber + months ∧
    later.date.day = min t.date.day (daysInMonth later.date.year later.date.month) ∧ later.time = t.time

def IsSecondsAfter (seconds : Nat) (t later : DateTime) : Prop :=
  later.secondNumber = t.secondNumber + seconds ∧ later.time.nano = t.time.nano % 1000000000

def IsAfter : TimeUnit → Nat → DateTime → DateTime → Prop
  | .year, amount => IsMonthsAfter (amount * 12)
  | .month, amount => IsMonthsAfter amount
  | .day, amount => IsSecondsAfter (amount * 86400)
  | .hour, amount => IsSecondsAfter (amount * 3600)
  | .minute, amount => IsSecondsAfter (amount * 60)
  | .second, amount => IsSecondsAfter amount

/-- Whether the instant `amount` units later lies behind the last day of the calendar. -/
def Leaves (t : DateTime) : TimeUnit → Nat → Prop
  | .year, amount => Date.last.monthNumber < t.date.monthNumber + (amount * 12 : Nat)
  | .month, amount => Date.last.monthNumber < t.date.monthNumber + amount
  | .day, amount => secondLimit ≤ t.secondNumber + (amount * 86400 : Nat)
  | .hour, amount => secondLimit ≤ t.secondNumber + (amount * 3600 : Nat)
  | .minute, amount => secondLimit ≤ t.secondNumber + (amount * 60 : Nat)
  | .second, amount => secondLimit ≤ t.secondNumber + amount

variable {t later : DateTime} {amount : Nat} {unit : TimeUnit}

theorem isMonthsAfter_of_addMonths? {months : Nat} (positive : months ≠ 0)
    (added : t.addMonths? months = some later) : IsMonthsAfter months t later := by
  rw [addMonths?, if_neg positive, Option.map_eq_some_iff] at added
  obtain ⟨date, found, rfl⟩ := added
  obtain ⟨number, sameDay⟩ := Date.monthNumber_of_addMonths? found
  exact ⟨number, sameDay, rfl⟩

theorem addMonths?_eq_none_iff {months : Nat} (positive : months ≠ 0) :
    t.addMonths? months = none ↔ Date.last.monthNumber < t.date.monthNumber + months := by
  rw [addMonths?, if_neg positive, Option.map_eq_none_iff, Date.addMonths?_eq_none_iff]

theorem exists_time_addSeconds? (t : DateTime) {seconds : Nat} (positive : seconds ≠ 0) :
    ∃ time : TimeOfDay, time.seconds = (t.time.seconds + seconds) % 86400 ∧
      time.nano = t.time.nano % 1000000000 ∧
      t.addSeconds? seconds =
        (t.date.addDays? ((t.time.seconds + seconds) / 86400 : Nat)).map fun date => ⟨date, time⟩ := by
  obtain ⟨time, found, sameSeconds, sameNano⟩ := TimeOfDay.exists_ofSeconds?
    (Nat.mod_lt (t.time.seconds + seconds) (by decide)) (Nat.mod_lt t.time.nano (by decide))
  refine ⟨time, sameSeconds, sameNano, ?_⟩
  rw [addSeconds?, if_neg positive]
  simp only [found]
  cases t.date.addDays? ((t.time.seconds + seconds) / 86400 : Nat) <;> rfl

theorem isSecondsAfter_of_addSeconds? {seconds : Nat} (positive : seconds ≠ 0)
    (added : t.addSeconds? seconds = some later) : IsSecondsAfter seconds t later := by
  obtain ⟨time, sameSeconds, sameNano, steps⟩ := t.exists_time_addSeconds? positive
  rw [steps, Option.map_eq_some_iff] at added
  obtain ⟨date, found, rfl⟩ := added
  refine ⟨?_, sameNano⟩
  simp only [secondNumber, Date.dayNumber_of_addDays? found, sameSeconds]
  omega

theorem addSeconds?_eq_none_iff {seconds : Nat} (positive : seconds ≠ 0) :
    t.addSeconds? seconds = none ↔ secondLimit ≤ t.secondNumber + seconds := by
  obtain ⟨time, -, -, steps⟩ := t.exists_time_addSeconds? positive
  rw [steps, Option.map_eq_none_iff, Date.addDays?_eq_none_iff]
  simp only [secondLimit, secondNumber]
  omega

theorem isAfter_of_step? (positive : amount ≠ 0) (stepped : t.step? unit amount = some later) :
    IsAfter unit amount t later := by
  cases unit with
  | year =>
      rw [step?] at stepped
      split at stepped
      · exact isMonthsAfter_of_addMonths? (by omega) stepped
      · cases stepped
  | month =>
      rw [step?] at stepped
      split at stepped
      · exact isMonthsAfter_of_addMonths? positive stepped
      · cases stepped
  | day | hour | minute => exact isSecondsAfter_of_addSeconds? (by omega) stepped
  | second => exact isSecondsAfter_of_addSeconds? positive stepped

/-- The limit on months refuses no step that the calendar has room for. -/
theorem leaves_of_monthLimit (t : DateTime) {months : Nat} (many : ¬ months < monthLimit) :
    Date.last.monthNumber < t.date.monthNumber + months := by
  obtain ⟨⟨first, -⟩, -⟩ := isDay_iff.1 t.date.isDay
  have limit : monthLimit = 2147483648 := rfl
  have final : Date.last.monthNumber = 3145715 := rfl
  have begins : firstYear = -262143 := rfl
  rw [final, Date.monthNumber]
  omega

theorem step?_eq_none_iff (positive : amount ≠ 0) : t.step? unit amount = none ↔ t.Leaves unit amount := by
  cases unit with
  | year =>
      rw [step?]
      split
      · exact addMonths?_eq_none_iff (by omega)
      · rename_i many
        exact iff_of_true rfl (leaves_of_monthLimit t many)
  | month =>
      rw [step?]
      split
      · exact addMonths?_eq_none_iff positive
      · rename_i many
        exact iff_of_true rfl (leaves_of_monthLimit t many)
  | day | hour | minute => exact addSeconds?_eq_none_iff (by omega)
  | second => exact addSeconds?_eq_none_iff positive

theorem step?_zero (t : DateTime) (unit : TimeUnit) : t.step? unit 0 = some t := by
  cases unit <;> rfl

theorem lt_of_isAfter (positive : amount ≠ 0) (after : IsAfter unit amount t later) : t < later := by
  have months : ∀ {n : Nat}, n ≠ 0 → IsMonthsAfter n t later → t < later := by
    rintro n steps ⟨number, -⟩
    exact lt_of_date_lt (Date.rank_lt_of_monthNumber_lt (by omega))
  have seconds : ∀ {n : Nat}, n ≠ 0 → IsSecondsAfter n t later → t < later := by
    rintro n steps ⟨number, -⟩
    exact lt_of_secondNumber_lt (by omega)
  cases unit with
  | year => exact months (by omega) after
  | month => exact months positive after
  | day | hour | minute => exact seconds (by omega) after
  | second => exact seconds positive after

end DateTime

end RecordSearch.Calendar
