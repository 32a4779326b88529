import RecordSearch.Opaque.Payload
import RecordSearch.Proofs.Calendar.ReadBack
import RecordSearch.Proofs.Opaque.Base64

namespace RecordSearch

namespace Value

mutual

/-- The lengths of all lists within a value, and of all texts in bytes, are machine words. -/
def HasWordLengths : Value → Prop
  | text s => s.utf8ByteSize < UInt64.size
  | list items => items.length < UInt64.size ∧ ItemsHaveWordLengths items
  | _ => True

def ItemsHaveWordLengths : List Value → Prop
  | [] => True
  | item :: items => item.HasWordLengths ∧ ItemsHaveWordLengths items

end

end Value

namespace Opaque.Layout

theorem take?_append (taken rest : List UInt8) :
    take? taken.length (taken ++ rest) = some (taken, rest) := by
  simp [take?]

theorem readNumber?_append {count n : Nat} (small : n < Nat.pow 256 count) (rest : List UInt8) :
    readNumber? count (numberBytes count n ++ rest) = some (n, rest) := by
  have taken := take?_append (numberBytes count n) rest
  rw [length_numberBytes] at taken
  have number : bytesNumber (numberBytes count n) = n := by
    rw [bytesNumber_numberBytes, Nat.mod_eq_of_lt small]
  simp only [readNumber?, taken, Option.map_some, number]

theorem readNumber?_word (word : UInt64) (rest : List UInt8) :
    readNumber? 8 (numberBytes 8 word.toNat ++ rest) = some (word.toNat, rest) :=
  readNumber?_append word.toNat_lt rest

theorem readNumber?_tag {n : Nat} (small : n < 8) (rest : List UInt8) :
    readNumber? 4 (tag n ++ rest) = some (n, rest) :=
  readNumber?_append (Nat.lt_trans small (by decide)) rest

theorem fromUTF8?_toUTF8 (s : String) : String.fromUTF8? ⟨s.toUTF8.data.toList.toArray⟩ = some s := by
  have same : (⟨s.toUTF8.data.toList.toArray⟩ : ByteArray) = s.toUTF8 := by
    rw [Array.toArray_toList]
  have valid : s.toUTF8.IsValidUTF8 := s.isValidUTF8
  rw [same, String.fromUTF8?, dif_pos valid]
  rfl

theorem readText?_append {s : String} (short : s.utf8ByteSize < UInt64.size) (rest : List UInt8) :
    readText? (textBytes s ++ rest) = some (s, rest) := by
  have length : s.toUTF8.data.toList.length < Nat.pow 256 8 := short
  rw [textBytes, readText?, List.append_assoc, readNumber?_append length]
  simp only [take?_append, fromUTF8?_toUTF8, Option.map_some]

theorem utf8ByteSize_ofList_le (s : List Char) : (String.ofList s).utf8ByteSize ≤ 4 * s.length := by
  rw [← String.size_toByteArray, String.toByteArray_ofList, List.utf8Encode, List.size_toByteArray]
  induction s with
  | nil => exact Nat.le_refl 0
  | cons c s ih =>
      have first := c.utf8Size_le_four
      rw [List.flatMap_cons, List.length_append, String.length_utf8EncodeChar, List.length_cons]
      omega

theorem readText?_ofList {s : List Char} (short : s.length ≤ 32) (rest : List UInt8) :
    readText? (textBytes (String.ofList s) ++ rest) = some (String.ofList s, rest) := by
  have bound := utf8ByteSize_ofList_le s
  have word : (128 : Nat) < UInt64.size := by decide
  exact readText?_append (by omega) rest

theorem length_tag (n : Nat) : (tag n).length = 4 := length_numberBytes 4 n

theorem four_le_length_encode (v : Value) : 4 ≤ (encode v).length := by
  cases v <;> simp only [encode, List.length_append, length_tag] <;> omega

theorem read?_scalar {v : Value} (scalar : v.list? = none) (words : v.HasWordLengths) (fuel : Nat)
    (rest : List UInt8) : read? (fuel + 1) (encode v ++ rest) = some (v, rest) := by
  cases v with
  | null =>
      rw [encode, read?, readNumber?_tag (by decide)]
      rfl
  | text s =>
      rw [encode, read?, List.append_assoc, readNumber?_tag (by decide)]
      simp only [readText?_append words, Option.map_some]
  | integer n =>
      rw [encode, read?, List.append_assoc, readNumber?_tag (by decide)]
      simp only [readNumber?_word, Option.map_some, UInt64.ofNat_toNat, Int64.toInt64_toUInt64]
  | float x =>
      rw [encode, read?, List.append_assoc, readNumber?_tag (by decide)]
      simp only [readNumber?_word, Option.map_some, UInt64.ofNat_toNat]
  | boolean b =>
      rw [encode, read?, List.append_assoc, readNumber?_tag (by decide)]
      cases b with
      | false => rfl
      | true => rfl
  | date d =>
      rw [encode, read?, List.append_assoc, readNumber?_tag (by decide)]
      simp only [readText?_ofList (Nat.le_trans (Calendar.length_text_le d) (by decide)),
        String.toList_ofList, Calendar.readPayloadDate?_text, Option.map_some]
  | dateTime t =>
      rw [encode, read?, List.append_assoc, readNumber?_tag (by decide)]
      simp only [readText?_ofList (Calendar.length_fullText_le t), String.toList_ofList,
        Calendar.readPayloadDateTime?_fullText, Option.map_some]
  | list items => cases scalar

mutual

/-- As much fuel as there are bytes is enough, since each value takes some of them. -/
theorem read?_encode (v : Value) (words : v.HasWordLengths) (fuel : Nat)
    (room : (encode v).length ≤ fuel + 1) (rest : List UInt8) :
    read? fuel (encode v ++ rest) = some (v, rest) := by
  have some_bytes := four_le_length_encode v
  obtain ⟨fuel, rfl⟩ : ∃ less, fuel = less + 1 := ⟨fuel - 1, by omega⟩
  cases v with
  | list items =>
      have short : items.length < Nat.pow 256 8 := words.1
      rw [encode, List.length_append, List.length_append, length_tag, length_numberBytes] at room
      rw [encode, read?, List.append_assoc, List.append_assoc, readNumber?_tag (by decide)]
      simp only [readNumber?_append short]
      rw [readItems?_encodeItems items words.2 fuel (by omega) rest]
      rfl
  | null | text | integer | float | boolean | date | dateTime =>
      exact read?_scalar rfl words fuel rest

theorem readItems?_encodeItems (items : List Value) (words : Value.ItemsHaveWordLengths items)
    (fuel : Nat) (room : (encodeItems items).length ≤ fuel) (rest : List UInt8) :
    readItems? fuel items.length (encodeItems items ++ rest) = some (items, rest) := by
  cases items with
  | nil => rw [encodeItems, List.length_nil, readItems?, List.nil_append]
  | cons item items =>
      have some_bytes := four_le_length_encode item
      rw [encodeItems, List.length_append] at room
      obtain ⟨fuel, rfl⟩ : ∃ less, fuel = less + 1 := ⟨fuel - 1, by omega⟩
      rw [encodeItems, List.length_cons, readItems?, List.append_assoc,
        read?_encode item words.1 fuel (by omega)]
      simp only
      rw [readItems?_encodeItems items words.2 fuel (by omega) rest]
      rfl

end

theorem decode?_encode {v : Value} (words : v.HasWordLengths) : decode? (encode v) = some v := by
  have read := read?_encode v words ((encode v).length + 1) (by omega) []
  rw [List.append_nil] at read
  rw [decode?, read]
  rfl

end Opaque.Layout

namespace Opaque

theorem dropLead?_encode (v : Value) :
    Text.dropLead? mark.toList (encode v).toList = some (Base64.encode (Layout.encode v)) := by
  apply Text.dropLead?_eq_some_iff.2
  rw [encode, String.toList_append, String.toList_ofList]

theorem isPayload_encode (v : Value) : isPayload (encode v) = true := by
  rw [isPayload, dropLead?_encode]
  rfl

theorem decode_encode {v : Value} (words : v.HasWordLengths) : decode (encode v) = .ok v := by
  rw [decode, dropLead?_encode]
  simp only [Base64.decode?_encode, Option.bind_some, Layout.decode?_encode words]

/-- A payload begins with the mark and is decoded to the value that it was made of, so that no two values
have the same payload. -/
theorem encode_reversible {v : Value} (words : v.HasWordLengths) :
    mark.toList <+: (encode v).toList ∧ decode (encode v) = .ok v ∧
      ∀ w : Value, w.HasWordLengths → encode w = encode v → w = v := by
  refine ⟨?_, decode_encode words, ?_⟩
  · exact ⟨_, (Text.dropLead?_eq_some_iff.1 (dropLead?_encode v)).symm⟩
  · intro w wordsOther same
    have read := decode_encode wordsOther
    rw [same, decode_encode words] at read
    exact (Except.ok.inj read).symm

def keepsake : Value :=
  .list [.list [.null, .list [], .text "opaque:\u00e9\n"], .integer (-1), .boolean true,
    .float ⟨0x7ff8000000000001⟩, .date ⟨-44, 3, 15, by decide⟩,
    .dateTime ⟨⟨12016, 12, 31, by decide⟩, ⟨23, 59, 59, 1999999999, by decide⟩⟩]

theorem encode_reversible_keepsake :
    keepsake.HasWordLengths ∧
      mark.toList <+: (encode keepsake).toList ∧ decode (encode keepsake) = .ok keepsake ∧
        ∀ w : Value, w.HasWordLengths → encode w = encode keepsake → w = keepsake := by
  have words : keepsake.HasWordLengths := by
    simp only [keepsake, Value.HasWordLengths, Value.ItemsHaveWordLengths]
    decide
  exact ⟨words, encode_reversible words⟩

end Opaque

end RecordSearch
