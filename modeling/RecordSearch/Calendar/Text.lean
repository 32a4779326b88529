import RecordSearch.Calendar.DateTime

namespace RecordSearch.Calendar

def padded (width n : Nat) : List Char :=
  let digits := Nat.toDigits 10 n
  List.replicate (width - digits.length) '0' ++ digits

/-- Four digits or more; years outside 0 to 9999 have a sign. -/
def yearText (year : Int) : List Char :=
  match year with
  | .ofNat n => if n ≤ 9999 then padded 4 n else '+' :: padded 4 n
  | .negSucc n => '-' :: padded 4 (n + 1)

def Date.text (d : Date) : List Char :=
  yearText d.year ++ '-' :: padded 2 d.month ++ '-' :: padded 2 d.day

/-- Hours, minutes and seconds; a leap second is second 60. -/
def TimeOfDay.clock (t : TimeOfDay) : List Char :=
  padded 2 t.hour ++ ':' :: padded 2 t.minute ++ ':' :: padded 2 (t.second + t.nano / 1000000000)

def TimeOfDay.fraction (t : TimeOfDay) : List Char :=
  let n := t.nano % 1000000000
  if n = 0 then []
  else if n % 1000000 = 0 then '.' :: padded 3 (n / 1000000)
  else if n % 1000 = 0 then '.' :: padded 6 (n / 1000)
  else '.' :: padded 9 n

def DateTime.text (t : DateTime) : List Char := t.date.text ++ 'T' :: t.time.clock

def DateTime.fullText (t : DateTime) : List Char := t.text ++ t.time.fraction

end RecordSearch.Calendar
