import RecordSearch.Field.Prepare
import RecordSearch.Proofs.Opaque.Payload

namespace RecordSearch

inductive FieldKind.Holds : FieldKind → Value → Prop
  | char (s : String) : Holds .char (.text s)
  | simpleChar (s : String) : Holds .simpleChar (.text s)
  | integer (n : Int64) : Holds .integer (.integer n)
  | float (x : Double) : Holds .float (.float x)
  | boolean (b : Bool) : Holds .boolean (.boolean b)
  | date (d : Calendar.Date) : Holds .date (.date d)
  | dateTime (t : Calendar.DateTime) : Holds .dateTime (.dateTime t)
  | multiValue (items : List Value) : Holds .multiValue (.list items)
  | multiValueInteger (ns : List Int64) : Holds .multiValueInteger (.list (ns.map .integer))

theorem FieldKind.Holds.isNull {kind : FieldKind} {v : Value} (holds : kind.Holds v) :
    v.isNull = false := by
  cases holds <;> rfl

namespace Field

variable {f : Field} {v w : Value}

theorem exists_integer_of_toInteger (converted : f.toInteger v = .ok w) : ∃ n, w = .integer n := by
  unfold toInteger at converted
  split at converted
  · exact ⟨_, (Except.ok.inj converted).symm⟩
  · exact ⟨_, (Except.ok.inj converted).symm⟩
  · exact ⟨_, (Except.ok.inj converted).symm⟩
  · split at converted
    · exact ⟨_, (Except.ok.inj converted).symm⟩
    · cases converted
  · cases converted

theorem exists_float_of_toFloat (converted : f.toFloat v = .ok w) : ∃ x, w = .float x := by
  unfold toFloat at converted
  split at converted
  · exact ⟨_, (Except.ok.inj converted).symm⟩
  · exact ⟨_, (Except.ok.inj converted).symm⟩
  · exact ⟨_, (Except.ok.inj converted).symm⟩
  · split at converted
    · exact ⟨_, (Except.ok.inj converted).symm⟩
    · cases converted
  · cases converted

theorem exists_integers_of_toIntegers {items converted : List Value}
    (whole : f.toIntegers items = .ok converted) : ∃ ns : List Int64, converted = ns.map .integer := by
  induction items generalizing converted with
  | nil => exact ⟨[], (Except.ok.inj whole).symm⟩
  | cons item items ih =>
      rw [toIntegers] at whole
      cases first : f.toInteger item with
      | error e =>
          rw [first] at whole
          cases whole
      | ok n =>
          cases others : f.toIntegers items with
          | error e =>
              rw [first, others] at whole
              cases whole
          | ok rest =>
              rw [first, others] at whole
              cases whole
              obtain ⟨m, rfl⟩ := exists_integer_of_toInteger first
              obtain ⟨ms, rfl⟩ := ih others
              exact ⟨m :: ms, rfl⟩

theorem toIntegers_map_integer (ns : List Int64) :
    f.toIntegers (ns.map .integer) = .ok (ns.map .integer) := by
  induction ns with
  | nil => rfl
  | cons n ns ih =>
      rw [List.map_cons, toIntegers, ih]
      rfl

theorem exists_of_map_ok {α : Type} {outcome : Except Error α} {make : α → Value}
    (mapped : outcome.map make = .ok w) : ∃ a, outcome = .ok a ∧ w = make a := by
  cases outcome with
  | error e => cases mapped
  | ok a => exact ⟨a, rfl, (Except.ok.inj mapped).symm⟩

theorem holds_of_convert (unpacked : f.kind ≠ .packed) (present : v.isNull = false)
    (converted : f.convert v = .ok w) : f.kind.Holds w := by
  unfold convert at converted
  rw [if_neg (by simp [present])] at converted
  cases kind : f.kind with
  | char =>
      rw [kind] at converted
      cases converted
      exact .char _
  | simpleChar =>
      rw [kind] at converted
      cases converted
      exact .simpleChar _
  | integer =>
      rw [kind] at converted
      obtain ⟨n, rfl⟩ := exists_integer_of_toInteger converted
      exact .integer n
  | float =>
      rw [kind] at converted
      obtain ⟨x, rfl⟩ := exists_float_of_toFloat converted
      exact .float x
  | boolean =>
      rw [kind] at converted
      cases converted
      exact .boolean _
  | date =>
      simp only [kind] at converted
      split at converted
      · cases converted
        exact .date _
      · cases converted
        exact .date _
      · obtain ⟨t, -, rfl⟩ := exists_of_map_ok converted
        exact .date _
      · cases converted
  | dateTime =>
      simp only [kind] at converted
      split at converted
      · cases converted
        exact .dateTime _
      · cases converted
        exact .dateTime _
      · obtain ⟨t, -, rfl⟩ := exists_of_map_ok converted
        exact .dateTime _
      · cases converted
  | multiValue =>
      simp only [kind] at converted
      split at converted
      · cases converted
        exact .multiValue _
      · cases converted
        exact .multiValue _
      · cases converted
  | multiValueInteger =>
      simp only [kind] at converted
      split at converted
      · obtain ⟨ns, whole, rfl⟩ := exists_of_map_ok converted
        obtain ⟨ms, rfl⟩ := exists_integers_of_toIntegers whole
        exact .multiValueInteger ms
      · cases converted
  | packed => exact absurd kind unpacked

theorem convert_of_holds (holds : f.kind.Holds v) : f.convert v = .ok v := by
  unfold convert
  rw [if_neg (by simp [holds.isNull])]
  generalize f.kind = kind at holds
  cases holds with
  | char s => rfl
  | simpleChar s => rfl
  | integer n => rfl
  | float x => rfl
  | boolean b => rfl
  | date d => rfl
  | dateTime t => rfl
  | multiValue items => rfl
  | multiValueInteger ns =>
      simp only [toIntegers_map_integer]
      rfl

theorem convert_of_isNull (null : v.isNull = true) : f.convert v = .ok .null := by
  unfold convert
  rw [if_pos null]

theorem convert_convert (unpacked : f.kind ≠ .packed) (converted : f.convert v = .ok w) :
    f.convert w = .ok w := by
  cases null : v.isNull with
  | true =>
      rw [convert_of_isNull null] at converted
      cases converted
      rfl
  | false => exact convert_of_holds (holds_of_convert unpacked null converted)

theorem isNull_convert (unpacked : f.kind ≠ .packed) (converted : f.convert v = .ok w) :
    w.isNull = v.isNull := by
  cases null : v.isNull with
  | true =>
      rw [convert_of_isNull null] at converted
      cases converted
      rfl
  | false => exact (holds_of_convert unpacked null converted).isNull

theorem convert_encode (packed : f.kind = .packed) (words : v.HasWordLengths) :
    f.convert (.text (Opaque.encode v)) = .ok v := by
  have present : ¬ (Value.text (Opaque.encode v)).isNull = true := nofun
  unfold convert
  rw [if_neg present, packed]
  simp only [if_pos (Opaque.isPayload_encode v), Opaque.decode_encode words]

end Field

end RecordSearch
