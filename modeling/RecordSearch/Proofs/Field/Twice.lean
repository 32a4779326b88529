import RecordSearch.Proofs.Field.Convert
import RecordSearch.Proofs.Opaque.Length

/-!
Coercing a value twice. A coerced value is left alone, unless it came out of a payload and is the text of
another one: the second coercion opens that one too.
-/

namespace RecordSearch.Field

variable {f : Field} {v w : Value}

theorem convert_payload (packed : f.kind = .packed) {s : String} (payload : Opaque.isPayload s = true) :
    f.convert (.text s) =
      (Opaque.decode s).mapError fun e => f.notConvertible "opaque" e.message := by
  have present : ¬ (Value.text s).isNull = true := Bool.false_ne_true
  unfold convert
  rw [if_neg present, packed]
  simp only [if_pos payload]
  cases Opaque.decode s with
  | error e => rfl
  | ok held => rfl

theorem convert_of_not_payload (packed : f.kind = .packed)
    (other : ∀ s, w = .text s → Opaque.isPayload s = false) : f.convert w = .ok w := by
  unfold convert
  rw [packed]
  cases w with
  | null => rfl
  | text s =>
      have closed := other s rfl
      simp only [Value.isNull, closed, Bool.false_eq_true, if_false]
  | integer n => rfl
  | float x => rfl
  | boolean b => rfl
  | date d => rfl
  | dateTime t => rfl
  | list items => rfl

/-- No payload holds its own text. -/
theorem convert_payload_ne (packed : f.kind = .packed) {s : String} (payload : Opaque.isPayload s = true) :
    f.convert (.text s) ≠ .ok (.text s) := by
  intro same
  rw [convert_payload packed payload] at same
  cases read : Opaque.decode s with
  | error e =>
      rw [read] at same
      cases same
  | ok held =>
      rw [read] at same
      cases same
      exact absurd (Opaque.utf8ByteSize_of_decode read) (Nat.lt_irrefl _)

/-- A coerced value is coerced into itself, except for the text of a payload in a field of payloads. -/
theorem convert_coerced (converted : f.convert v = .ok w) :
    f.convert w = .ok w ↔ ¬ (f.kind = .packed ∧ ∃ s, w = .text s ∧ Opaque.isPayload s = true) := by
  constructor
  · rintro again ⟨packed, s, rfl, payload⟩
    exact convert_payload_ne packed payload again
  · intro plain
    by_cases packed : f.kind = .packed
    · apply convert_of_not_payload packed
      intro s text
      cases payload : Opaque.isPayload s with
      | false => rfl
      | true => exact absurd ⟨packed, s, text, payload⟩ plain
    · exact convert_convert packed converted

def nested : String := Opaque.encode (.text (Opaque.encode (.text "hello")))

theorem convert_nested :
    (ofKind .packed).convert (.text nested) = .ok (.text (Opaque.encode (.text "hello"))) := by
  apply convert_encode rfl
  rw [Value.HasWordLengths]
  decide

theorem convert_coerced_nested :
    (ofKind .packed).convert (.text nested) = .ok (.text (Opaque.encode (.text "hello"))) ∧
      ((ofKind .packed).convert (.text (Opaque.encode (.text "hello"))) =
          .ok (.text (Opaque.encode (.text "hello"))) ↔
        ¬ ((ofKind .packed).kind = .packed ∧
          ∃ s, Value.text (Opaque.encode (.text "hello")) = .text s ∧ Opaque.isPayload s = true)) :=
  ⟨convert_nested, convert_coerced convert_nested⟩

/-- The word in two payloads is a payload after the first coercion and the word after the second. -/
theorem not_convert_coerced :
    ¬ ∀ (f : Field) (v w : Value), f.convert v = .ok w → f.convert w = .ok w := by
  intro idempotent
  exact convert_payload_ne rfl (Opaque.isPayload_encode _) (idempotent _ _ _ convert_nested)

end RecordSearch.Field
