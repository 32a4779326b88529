import RecordSearch.Proofs.Calendar.ReadBack

namespace RecordSearch.Calendar

def TimeOfDay.toSecond (t : TimeOfDay) : TimeOfDay where
  hour := t.hour
  minute := t.minute
  second := t.second
  nano := t.nano / 1000000000 * 1000000000
  isTime := by
    have isTime := t.isTime
    unfold IsTime at isTime ⊢
    omega

/-- The start of the second in which an instant lies. -/
def DateTime.toSecond (t : DateTime) : DateTime := ⟨t.date, t.time.toSecond⟩

def DateTime.IsWhole (t : DateTime) : Prop := t.time.nano % 1000000000 = 0

instance (t : DateTime) : Decidable t.IsWhole := inferInstanceAs (Decidable (_ = _))

theorem DateTime.isWhole_atMidnight (d : Date) : (atMidnight d).IsWhole := rfl

namespace DateTime

theorem rank_toSecond (t : DateTime) : t.toSecond.rank + (t.time.nano % 1000000000 : Nat) = t.rank := by
  have parts := Nat.div_add_mod' t.time.nano 1000000000
  simp only [rank, TimeOfDay.rank, TimeOfDay.seconds, toSecond, TimeOfDay.toSecond]
  omega

theorem toSecond_eq_iff {t : DateTime} : t.toSecond = t ↔ t.IsWhole := by
  have rank := t.rank_toSecond
  unfold IsWhole
  constructor
  · intro same
    rw [same] at rank
    omega
  · intro whole
    apply rank_injective
    omega

theorem toSecond_lt_iff {t : DateTime} : t.toSecond < t ↔ ¬ t.IsWhole := by
  have rank := t.rank_toSecond
  change t.toSecond.rank < t.rank ↔ ¬ t.time.nano % 1000000000 = 0
  omega

end DateTime

/-- What a query writes for an instant is read as the start of its second. -/
theorem readInstant?_text (t : DateTime) : readInstant? (t.text ++ ['Z']) = some t.toSecond := by
  have date : dateParts = spacedDate [] := rfl
  have clock : clockParts = spacedClock [] := rfl
  have shown : t.time.shown = t.toSecond.time.shown := by
    simp only [TimeOfDay.shown, DateTime.toSecond, TimeOfDay.toSecond]
    omega
  have nano : 0 = t.toSecond.time.nano % 1000000000 := by
    simp only [DateTime.toSecond, TimeOfDay.toSecond]
    omega
  have read : (readParts? .empty (t.text ++ ['Z'])
      (dateParts ++ .literal 'T' :: clockParts ++ [.literal 'Z'])).bind Reading.dateTime? =
        some t.toSecond := by
    simp only [DateTime.text, List.append_assoc, List.cons_append]
    rw [date, clock, readParts?_date (.inl rfl), readParts?_literal, readParts?_clock (.inl rfl),
      readParts?_literal]
    change Reading.dateTime? _ = _
    rw [Reading.dateTime?, Reading.date?_of_eq (d := t.date) rfl rfl rfl,
      Reading.time?_of_eq (t := t.toSecond.time) rfl rfl shown nano]
    rfl
  rw [readInstant?, instantFormats, List.findSome?_cons, read]

end RecordSearch.Calendar
