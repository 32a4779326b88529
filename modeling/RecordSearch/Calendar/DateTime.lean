import RecordSearch.Calendar.Date

namespace RecordSearch.Calendar

/-- Nanoseconds from a thousand million on count within a leap second, which follows second 59. -/
def IsTime (hour minute second nano : Nat) : Prop :=
  hour < 24 ∧ minute < 60 ∧ second < 60 ∧
    (nano < 1000000000 ∨ (second = 59 ∧ nano < 2000000000))

instance (hour minute second nano : Nat) : Decidable (IsTime hour minute second nano) := by
  unfold IsTime
  infer_instance

structure TimeOfDay where
  hour : Nat
  minute : Nat
  second : Nat
  nano : Nat
  isTime : IsTime hour minute second nano
  deriving DecidableEq, Repr

namespace TimeOfDay

def of? (hour minute second nano : Nat) : Option TimeOfDay :=
  if isTime : IsTime hour minute second nano then some ⟨hour, minute, second, nano, isTime⟩
  else none

theorem of?_eq_some_iff {t : TimeOfDay} {hour minute second nano : Nat} :
    of? hour minute second nano = some t ↔
      t.hour = hour ∧ t.minute = minute ∧ t.second = second ∧ t.nano = nano := by
  rw [of?]
  split
  · rw [Option.some.injEq]
    constructor
    · rintro rfl
      exact ⟨rfl, rfl, rfl, rfl⟩
    · rintro ⟨rfl, rfl, rfl, rfl⟩
      rfl
  · rename_i notTime
    constructor
    · rintro ⟨⟩
    · rintro ⟨rfl, rfl, rfl, rfl⟩
      exact absurd t.isTime notTime

def midnight : TimeOfDay := ⟨0, 0, 0, 0, by decide⟩

def seconds (t : TimeOfDay) : Nat := (t.hour * 60 + t.minute) * 60 + t.second

def ofSeconds? (seconds nano : Nat) : Option TimeOfDay :=
  of? (seconds / 3600) (seconds / 60 % 60) (seconds % 60) nano

def rank (t : TimeOfDay) : Nat := t.seconds * 2000000000 + t.nano

theorem rank_lt (t : TimeOfDay) : t.rank < 86400 * 2000000000 := by
  obtain ⟨h, m, s, n, isTime⟩ := t
  unfold IsTime at isTime
  simp only [rank, seconds]
  omega

theorem rank_injective {a b : TimeOfDay} (same : a.rank = b.rank) : a = b := by
  obtain ⟨ah, am, as, an, aIsTime⟩ := a
  obtain ⟨bh, bm, bs, bn, bIsTime⟩ := b
  have ha := aIsTime
  have hb := bIsTime
  unfold IsTime at ha hb
  simp only [rank, seconds] at same
  have : ah = bh := by omega
  have : am = bm := by omega
  have : as = bs := by omega
  have : an = bn := by omega
  subst_vars
  rfl

end TimeOfDay

structure DateTime where
  date : Date
  time : TimeOfDay
  deriving DecidableEq, Repr

namespace DateTime

def atMidnight (d : Date) : DateTime := ⟨d, .midnight⟩

def rank (t : DateTime) : Int := t.date.rank * (86400 * 2000000000) + t.time.rank

theorem rank_injective {a b : DateTime} (same : a.rank = b.rank) : a = b := by
  obtain ⟨ad, ac⟩ := a
  obtain ⟨bd, bc⟩ := b
  have := ac.rank_lt
  have := bc.rank_lt
  simp only [rank] at same
  have dates : ad.rank = bd.rank := by omega
  have times : ac.rank = bc.rank := by omega
  rw [Date.rank_injective dates, TimeOfDay.rank_injective times]

instance : LT DateTime := ⟨fun a b => a.rank < b.rank⟩

instance : LE DateTime := ⟨fun a b => a.rank ≤ b.rank⟩

instance (a b : DateTime) : Decidable (a < b) := inferInstanceAs (Decidable (a.rank < b.rank))

instance (a b : DateTime) : Decidable (a ≤ b) := inferInstanceAs (Decidable (a.rank ≤ b.rank))

instance : Ord DateTime := ⟨fun a b => compare a.rank b.rank⟩

/-- The instant a positive number of seconds later; a leap second counts as the one before it. -/
def addSeconds? (t : DateTime) (seconds : Nat) : Option DateTime :=
  if seconds = 0 then some t
  else
    let total := t.time.seconds + seconds
    match t.date.addDays? (total / 86400 : Nat),
        TimeOfDay.ofSeconds? (total % 86400) (t.time.nano % 1000000000) with
    | some date, some time => some ⟨date, time⟩
    | _, _ => none

def addMonths? (t : DateTime) (months : Nat) : Option DateTime :=
  if months = 0 then some t else (t.date.addMonths? months).map fun date => ⟨date, t.time⟩

end DateTime

inductive TimeUnit where
  | year
  | month
  | day
  | hour
  | minute
  | second
  deriving DecidableEq, Repr

def monthLimit : Nat := Nat.pow 2 31

/-- The instant `amount` units later, if the calendar reaches it. -/
def DateTime.step? (t : DateTime) : TimeUnit → Nat → Option DateTime
  | .year, amount => if amount * 12 < monthLimit then t.addMonths? (amount * 12) else none
  | .month, amount => if amount < monthLimit then t.addMonths? amount else none
  | .day, amount => t.addSeconds? (amount * 86400)
  | .hour, amount => t.addSeconds? (amount * 3600)
  | .minute, amount => t.addSeconds? (amount * 60)
  | .second, amount => t.addSeconds? amount

end RecordSearch.Calendar
