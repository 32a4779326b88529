import Mathlib.Algebra.Group.Nat.Defs
import Mathlib.Data.List.TakeWhile
import RecordSearch.Calendar.Read
import RecordSearch.Calendar.Text
import RecordSearch.Unicode.Number

namespace RecordSearch.Unicode

theorem isBlank_of_isDigit {c : Char} (digit : isDigit c = true) : isBlank c = false := by
  have apart : ∀ digits ∈ digitRanges, ∀ blanks ∈ blankRanges, digits.2 < blanks.1 ∨ blanks.2 < digits.1 := by
    decide
  rw [Bool.eq_false_iff]
  intro blank
  obtain ⟨digits, inDigits, low, high⟩ := exists_of_covers digit
  obtain ⟨blanks, inBlanks, first, last⟩ := exists_of_covers blank
  have := apart digits inDigits blanks inBlanks
  omega

theorem isDigit_of_isDigit {c : Char} (digit : c.isDigit = true) : isDigit c = true := by
  obtain ⟨first, last⟩ := Char.isDigit_iff_toNat.1 digit
  have low : '0'.toNat = 48 := rfl
  have high : '9'.toNat = 57 := rfl
  have above : ¬ c.toNat < 48 := by omega
  have below : c.toNat ≤ 57 := by omega
  simp [isDigit, digitRanges, covers, above, below]

end RecordSearch.Unicode

namespace RecordSearch.Calendar

open Text (trimStart)

theorem isDigit_of_mem_padded {width n : Nat} {c : Char} (listed : c ∈ padded width n) :
    c.isDigit = true := by
  rcases List.mem_append.1 listed with zero | digit
  · rw [List.eq_of_mem_replicate zero]
    rfl
  · exact Nat.isDigit_of_mem_toDigits (by decide) (by decide) digit

theorem length_padded {width n : Nat} (positive : 0 < width) (small : n < 10 ^ width) :
    (padded width n).length = width := by
  have bound := (Nat.length_toDigits_le_iff (by decide) positive).2 small
  rw [padded, List.length_append, List.length_replicate]
  omega

theorem digitsValue_padded (width n : Nat) : Decimal.digitsValue 0 (padded width n) = n := by
  calc
    Decimal.digitsValue 0 (padded width n) = Nat.ofDigitChars 10 (padded width n) 0 :=
      Nat.ofDigitChars_eq_foldl.symm
    _ = Nat.ofDigitChars 10 (Nat.toDigits 10 n) 0 := by
      simp only [padded]
      rw [Nat.ofDigitChars_append, Nat.ofDigitChars_replicate_zero, Nat.mul_zero]
    _ = n := Nat.ofDigitChars_ten_toDigits

theorem exists_padded_eq_cons (width n : Nat) :
    ∃ c s, padded width n = c :: s ∧ c.isDigit = true := by
  cases written : padded width n with
  | nil =>
      have nothing := (List.append_eq_nil_iff.1 written).2
      exact absurd nothing Nat.toDigits_ne_nil
  | cons c s =>
      have first : c ∈ padded width n := by
        rw [written]
        exact List.mem_cons_self
      exact ⟨c, s, rfl, isDigit_of_mem_padded first⟩

theorem trimStart_of_solid {c : Char} (solid : Unicode.isBlank c = false) (s : List Char) :
    trimStart (c :: s) = c :: s := by
  rw [trimStart, List.dropWhile_cons_of_neg (by simp [solid])]

theorem trimStart_padded (width n : Nat) (rest : List Char) :
    trimStart (padded width n ++ rest) = padded width n ++ rest := by
  obtain ⟨c, s, written, digit⟩ := exists_padded_eq_cons width n
  rw [written, List.cons_append, trimStart_of_solid (Unicode.isBlank_of_isDigit (Unicode.isDigit_of_isDigit digit))]

theorem takeWhile_append {digits rest : List Char} (every : ∀ c ∈ digits, c.isDigit = true)
    (stops : ∀ c ∈ rest.head?, c.isDigit = false) : (digits ++ rest).takeWhile Char.isDigit = digits := by
  have nothing : rest.takeWhile Char.isDigit = [] := by
    cases rest with
    | nil => rfl
    | cons c rest => simp [stops c rfl]
  rw [List.takeWhile_append_of_pos every, nothing, List.append_nil]

theorem readDigits?_append {limit : Nat} {digits rest : List Char} (found : digits ≠ [])
    (every : ∀ c ∈ digits, c.isDigit = true)
    (stops : digits.length = limit ∨
      digits.length ≤ limit ∧ ∀ c ∈ rest.head?, c.isDigit = false) :
    readDigits? limit (digits ++ rest) = some (Decimal.digitsValue 0 digits, rest) := by
  have taken : ((digits ++ rest).take limit).takeWhile Char.isDigit = digits := by
    rcases stops with whole | ⟨room, other⟩
    · rw [List.take_left' whole]
      exact List.takeWhile_eq_self_iff.2 every
    · rw [List.take_append, List.take_of_length_le room]
      apply takeWhile_append every
      intro c first
      rw [List.head?_take] at first
      split at first
      · cases first
      · exact other c first
  rw [readDigits?, taken, if_neg (by simpa using found), List.drop_left]

theorem readDigits?_padded {width n : Nat} (positive : 0 < width) (small : n < 10 ^ width)
    (rest : List Char) : readDigits? width (padded width n ++ rest) = some (n, rest) := by
  obtain ⟨c, s, written, -⟩ := exists_padded_eq_cons width n
  rw [readDigits?_append (by rw [written]; exact List.cons_ne_nil c s)
    (fun c => isDigit_of_mem_padded) (Or.inl (length_padded positive small)), digitsValue_padded]

theorem readYear?_yearText (year : Int) {rest : List Char} (stops : ∀ c ∈ rest.head?, c.isDigit = false) :
    readYear? (yearText year ++ rest) = some (year, rest) := by
  have signed : ∀ n, readDigits? (padded 4 n ++ rest).length (padded 4 n ++ rest) = some (n, rest) := by
    intro n
    obtain ⟨c, s, written, -⟩ := exists_padded_eq_cons 4 n
    have room : (padded 4 n).length ≤ (padded 4 n ++ rest).length := by simp
    rw [readDigits?_append (by rw [written]; exact List.cons_ne_nil c s)
      (fun c => isDigit_of_mem_padded) (Or.inr ⟨room, stops⟩), digitsValue_padded]
  cases year with
  | ofNat n =>
      simp only [yearText]
      split
      · rename_i short
        have read := readDigits?_padded (n := n) (by decide : 0 < 4) (by omega) rest
        obtain ⟨c, s, written, digit⟩ := exists_padded_eq_cons 4 n
        rw [written, List.cons_append] at read ⊢
        unfold readYear?
        split
        · rename_i same
          rw [(List.cons.inj same).1] at digit
          cases digit
        · rename_i same
          rw [(List.cons.inj same).1] at digit
          cases digit
        · rw [read]
          rfl
      · rw [List.cons_append, readYear?, signed]
        rfl
  | negSucc n =>
      rw [yearText, List.cons_append, readYear?, signed]
      rfl

theorem trimStart_yearText (year : Int) (rest : List Char) :
    trimStart (yearText year ++ rest) = yearText year ++ rest := by
  cases year with
  | ofNat n =>
      simp only [yearText]
      split
      · exact trimStart_padded 4 n rest
      · exact trimStart_of_solid (by decide) _
  | negSucc n => exact trimStart_of_solid (by decide) _

section

variable {r : Reading} {rest : List Char} {gap parts : List Part}

theorem readParts?_cons {next : Reading} {s : List Char} {part : Part}
    (read : readPart? r s part = some (next, rest)) :
    readParts? r s (part :: parts) = readParts? next rest parts := by
  rw [readParts?, read]

theorem readParts?_solid {c : Char} (solid : Unicode.isBlank c = false) :
    readParts? r (c :: rest) (.blanks :: parts) = readParts? r (c :: rest) parts := by
  apply readParts?_cons
  rw [readPart?, trimStart_of_solid solid]

theorem readParts?_literal (c : Char) :
    readParts? r (c :: rest) (.literal c :: parts) = readParts? r rest parts :=
  readParts?_cons (if_pos rfl)

theorem readParts?_marked {next : Reading} {s : List Char} {part : Part} {mark : Char}
    (solid : Unicode.isBlank mark = false) (spaced : gap = [] ∨ gap = [.blanks])
    (read : readPart? r s part = some (next, mark :: rest)) :
    readParts? r s (part :: (gap ++ .literal mark :: parts)) = readParts? next rest parts := by
  rw [readParts?_cons read]
  rcases spaced with rfl | rfl
  · rw [List.nil_append, readParts?_literal]
  · rw [List.singleton_append, readParts?_solid solid, readParts?_literal]

theorem readDigits?_two {n : Nat} (small : n < 100) (rest : List Char) :
    readDigits? 2 (trimStart (padded 2 n ++ rest)) = some (n, rest) := by
  rw [trimStart_padded]
  exact readDigits?_padded (by decide) small rest

def spacedDate (gap : List Part) : List Part :=
  .year :: (gap ++ .literal '-' :: .month :: (gap ++ [.literal '-', .day]))

/-- The parts of a date are read from its text, whatever stands behind it. -/
theorem readParts?_date (spaced : gap = [] ∨ gap = [.blanks]) (d : Date) :
    readParts? r (d.text ++ rest) (spacedDate gap ++ parts) =
      readParts? { r with year := d.year, month := d.month, day := d.day } rest parts := by
  obtain ⟨-, ⟨-, lastMonth⟩, -, lastDay⟩ := d.isDay
  have days := Date.daysInMonth_le d.year d.month
  have solid : Unicode.isBlank '-' = false := by decide
  simp only [Date.text, spacedDate, List.append_assoc, List.cons_append, List.nil_append]
  calc
    _ = readParts? { r with year := d.year } (padded 2 d.month ++ '-' :: (padded 2 d.day ++ rest))
          (.month :: (gap ++ .literal '-' :: .day :: parts)) := by
      apply readParts?_marked solid spaced
      rw [readPart?, trimStart_yearText, readYear?_yearText d.year (by simp)]
      rfl
    _ = readParts? { r with year := d.year, month := d.month } (padded 2 d.day ++ rest)
          (.day :: parts) := by
      apply readParts?_marked solid spaced
      rw [readPart?, readDigits?_two (by omega)]
      rfl
    _ = _ := by
      apply readParts?_cons
      rw [readPart?, readDigits?_two (by omega)]
      rfl

/-- The second that the clock shows: 60 in a leap second. -/
def TimeOfDay.shown (t : TimeOfDay) : Nat := t.second + t.nano / 1000000000

def spacedClock (gap : List Part) : List Part :=
  .hour :: (gap ++ .literal ':' :: .minute :: (gap ++ [.literal ':', .second]))

theorem readParts?_clock (spaced : gap = [] ∨ gap = [.blanks]) (t : TimeOfDay) :
    readParts? r (t.clock ++ rest) (spacedClock gap ++ parts) =
      readParts? { r with hour := t.hour, minute := t.minute, second := t.shown } rest parts := by
  obtain ⟨hours, minutes, seconds, nanos⟩ := t.isTime
  have solid : Unicode.isBlank ':' = false := by decide
  have shown : t.shown < 100 := by
    unfold TimeOfDay.shown
    omega
  simp only [TimeOfDay.clock, spacedClock, List.append_assoc, List.cons_append, List.nil_append]
  calc
    _ = readParts? { r with hour := t.hour } (padded 2 t.minute ++ ':' :: (padded 2 t.shown ++ rest))
          (.minute :: (gap ++ .literal ':' :: .second :: parts)) := by
      apply readParts?_marked solid spaced
      rw [readPart?, readDigits?_two (by omega)]
      rfl
    _ = readParts? { r with hour := t.hour, minute := t.minute } (padded 2 t.shown ++ rest)
          (.second :: parts) := by
      apply readParts?_marked solid spaced
      rw [readPart?, readDigits?_two (by omega)]
      rfl
    _ = _ := by
      apply readParts?_cons
      rw [readPart?, readDigits?_two shown]
      rfl

theorem readFraction?_padded {width n : Nat} (positive : 0 < width) (short : width ≤ 9)
    (small : n < 10 ^ width) : readFraction? (padded width n) = some (n * 10 ^ (9 - width), []) := by
  have every : ∀ c ∈ padded width n, c.isDigit = true := fun c => isDigit_of_mem_padded
  have digits : (padded width n).takeWhile Char.isDigit = padded width n :=
    List.takeWhile_eq_self_iff.2 every
  have nothing : (padded width n).dropWhile Char.isDigit = [] := List.dropWhile_eq_nil_iff.2 every
  have length := length_padded positive small
  have found : ¬ (padded width n).isEmpty = true := by
    rw [List.isEmpty_iff_length_eq_zero]
    omega
  rw [readFraction?, digits, nothing, if_neg found]
  simp only [List.take_of_length_le (show (padded width n).length ≤ 9 by omega), digitsValue_padded, length]
  rfl

theorem readPart?_fraction (t : TimeOfDay) (fresh : r.nano = 0) :
    readPart? r t.fraction .fraction = some ({ r with nano := t.nano % 1000000000 }, []) := by
  have small : t.nano % 1000000000 < 1000000000 := Nat.mod_lt _ (by decide)
  unfold TimeOfDay.fraction
  generalize t.nano % 1000000000 = n at small
  simp only
  split
  · rename_i zero
    rw [zero, ← fresh]
    rfl
  · split
    · rw [readPart?, readFraction?_padded (by decide) (by decide) (by omega)]
      simp only [Option.map_some]
      rw [show n / 1000000 * 10 ^ (9 - 3) = n by omega]
    · split
      · rw [readPart?, readFraction?_padded (by decide) (by decide) (by omega)]
        simp only [Option.map_some]
        rw [show n / 1000 * 10 ^ (9 - 6) = n by omega]
      · rw [readPart?, readFraction?_padded (by decide) (by decide) (by omega)]
        simp only [Option.map_some]
        rw [show n * 10 ^ (9 - 9) = n by omega]

end

theorem readParts?_nothing (r : Reading) : readParts? r [] [.blanks] = some r := rfl

theorem Reading.date?_of_eq {r : Reading} {d : Date} (year : r.year = d.year) (month : r.month = d.month)
    (day : r.day = d.day) : r.date? = some d := by
  rw [Reading.date?, year, month, day, Date.of?, dif_pos d.isDay]

/-- Second 60 and the fraction within it make up the leap second again. -/
theorem Reading.time?_of_eq {r : Reading} {t : TimeOfDay} (hour : r.hour = t.hour)
    (minute : r.minute = t.minute) (second : r.second = t.shown)
    (nano : r.nano = t.nano % 1000000000) : r.time? = some t := by
  have isTime := t.isTime
  obtain ⟨-, -, seconds, nanos⟩ := t.isTime
  rw [Reading.time?, hour, minute, second, nano, TimeOfDay.shown]
  by_cases leap : t.second + t.nano / 1000000000 = 60
  · have last : t.second = 59 := by omega
    have whole : 1000000000 + t.nano % 1000000000 = t.nano := by omega
    rw [if_pos leap, TimeOfDay.of?, whole, ← last, dif_pos isTime]
  · have short : t.nano < 1000000000 := by omega
    rw [if_neg leap, TimeOfDay.of?, Nat.div_eq_of_lt short, Nat.add_zero, Nat.mod_eq_of_lt short,
      dif_pos isTime]

theorem readPayloadDate?_text (d : Date) : readPayloadDate? d.text = some d := by
  have read : readParts? .empty (d.text ++ []) (spacedDate [.blanks] ++ [.blanks]) = _ :=
    readParts?_date (.inr rfl) d
  rw [List.append_nil, readParts?_nothing] at read
  have parts : payloadDateParts = spacedDate [.blanks] := rfl
  rw [readPayloadDate?, parts, read]
  exact Reading.date?_of_eq rfl rfl rfl

theorem readPayloadDateTime?_fullText (t : DateTime) : readPayloadDateTime? t.fullText = some t := by
  have solid : Unicode.isBlank 'T' = false := by decide
  have date : payloadDateParts = spacedDate [.blanks] := rfl
  have clock : [.hour, .blanks, .literal ':', .minute, .blanks, .literal ':', .second, .fraction,
    .blanks] = spacedClock [.blanks] ++ [.fraction, .blanks] := rfl
  unfold readPayloadDateTime?
  simp only [DateTime.fullText, DateTime.text, List.append_assoc, List.cons_append]
  rw [date, clock, readParts?_date (.inr rfl), readParts?_solid solid, readParts?_literal,
    readParts?_clock (.inr rfl),
    readParts?_cons (readPart?_fraction t.time rfl), readParts?_nothing, Option.bind_some,
    Reading.dateTime?, Reading.date?_of_eq rfl rfl rfl, Reading.time?_of_eq rfl rfl rfl rfl]

theorem length_padded_le {width n bound : Nat} (positive : 0 < bound) (small : n < 10 ^ bound)
    (wide : width ≤ bound) : (padded width n).length ≤ bound := by
  have digits := (Nat.length_toDigits_le_iff (by decide) positive).2 small
  rw [padded, List.length_append, List.length_replicate]
  omega

theorem length_yearText_le (d : Date) : (yearText d.year).length ≤ 7 := by
  obtain ⟨⟨first, last⟩, -, -⟩ := d.isDay
  unfold firstYear at first
  unfold lastYear at last
  have six : ∀ n, n < 1000000 → (padded 4 n).length ≤ 6 := fun n small =>
    length_padded_le (by decide) small (by decide)
  cases year : d.year with
  | ofNat n =>
      rw [year, Int.ofNat_eq_natCast] at last
      have bound := six n (by omega)
      rw [yearText]
      split
      · omega
      · rw [List.length_cons]
        omega
  | negSucc n =>
      have bound := six (n + 1) (by omega)
      rw [yearText, List.length_cons]
      omega

theorem length_two {n : Nat} (small : n < 100) : (padded 2 n).length = 2 :=
  length_padded (by decide) small

theorem length_text_le (d : Date) : d.text.length ≤ 13 := by
  obtain ⟨-, ⟨-, lastMonth⟩, -, lastDay⟩ := d.isDay
  have days := Date.daysInMonth_le d.year d.month
  have year := length_yearText_le d
  simp only [Date.text, List.length_append, List.length_cons,
    length_two (show d.month < 100 by omega), length_two (show d.day < 100 by omega)]
  omega

theorem length_fraction_le (t : TimeOfDay) : t.fraction.length ≤ 10 := by
  have small : t.nano % 1000000000 < 1000000000 := Nat.mod_lt _ (by decide)
  unfold TimeOfDay.fraction
  generalize t.nano % 1000000000 = n at small
  simp only
  split
  · exact Nat.zero_le _
  · split
    · rw [List.length_cons, length_padded (by decide) (by omega)]
      decide
    · split
      · rw [List.length_cons, length_padded (by decide) (by omega)]
        decide
      · rw [List.length_cons, length_padded (by decide) small]

theorem length_fullText_le (t : DateTime) : t.fullText.length ≤ 32 := by
  obtain ⟨hours, minutes, seconds, nanos⟩ := t.time.isTime
  have date := length_text_le t.date
  have fraction := length_fraction_le t.time
  simp only [DateTime.fullText, DateTime.text, TimeOfDay.clock, List.length_append, List.length_cons,
    length_two (show t.time.hour < 100 by omega), length_two (show t.time.minute < 100 by omega),
    length_two (show t.time.second + t.time.nano / 1000000000 < 100 by omega)]
  omega

end RecordSearch.Calendar
