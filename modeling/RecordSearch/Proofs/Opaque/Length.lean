import RecordSearch.Opaque.Payload
import RecordSearch.Proofs.Opaque.Payload

/-!
A text that is read from a payload is shorter than the payload: the four characters of a group stand for
three bytes at most, and the bytes of a text follow its tag and its length.
-/

namespace RecordSearch.Opaque

namespace Base64

theorem length_bytes (count n : Nat) : (bytes count n).length = count := by
  induction count with
  | zero => rfl
  | succ count ih => rw [bytes, List.length_cons, ih]

theorem length_of_decodeLast? {w x y z : Char} {s : List UInt8} (read : decodeLast? w x y z = some s) :
    s.length ≤ 4 := by
  have exact : ∀ count n, s = bytes count n → s.length = count := by
    intro count n same
    rw [same, length_bytes]
  unfold decodeLast? at read
  split at read
  · split at read
    · split at read
      · have one := exact _ _ (Option.some.inj read).symm
        omega
      · cases read
    · split at read
      · split at read
        · split at read
          · have two := exact _ _ (Option.some.inj read).symm
            omega
          · cases read
        · obtain ⟨d, -, three⟩ := Option.map_eq_some_iff.1 read
          have three := exact _ _ three.symm
          omega
      · cases read
  · cases read

theorem length_of_decode? {text : List Char} {s : List UInt8} (read : decode? text = some s) :
    s.length ≤ text.length := by
  induction text using decode?.induct generalizing s with
  | case1 =>
      cases read
      exact Nat.le_refl 0
  | case2 w x y z => exact length_of_decodeLast? read
  | case3 w x y z rest more a b c d first second third fourth ih =>
      rw [decode?, first, second, third, fourth] at read
      · obtain ⟨tail, others, whole⟩ := Option.map_eq_some_iff.1 read
        have shorter := ih others
        rw [← whole, List.length_append, length_bytes, List.length_cons, List.length_cons, List.length_cons,
          List.length_cons]
        omega
      · exact more
  | case4 w x y z rest more unread =>
      rw [decode?] at read
      · split at read
        · rename_i a b c d first second third fourth
          exact absurd fourth (unread a b c d first second third)
        · cases read
      · exact more
  | case5 text nothing single group =>
      rw [decode?] at read
      · cases read
      · exact nothing
      · exact single
      · exact group

end Base64

namespace Layout

theorem length_of_take? {count : Nat} {bytes taken rest : List UInt8}
    (read : take? count bytes = some (taken, rest)) :
    taken.length = count ∧ count + rest.length = bytes.length := by
  unfold take? at read
  simp only at read
  split at read
  · cases read
  · rename_i enough
    cases read
    rw [List.length_take] at enough ⊢
    rw [List.length_drop]
    omega

theorem length_of_readNumber? {count n : Nat} {bytes rest : List UInt8}
    (read : readNumber? count bytes = some (n, rest)) : count + rest.length = bytes.length := by
  obtain ⟨⟨taken, left⟩, found, same⟩ := Option.map_eq_some_iff.1 read
  cases same
  exact (length_of_take? found).2

theorem utf8ByteSize_of_fromUTF8? {bytes : List UInt8} {s : String}
    (read : String.fromUTF8? ⟨bytes.toArray⟩ = some s) : s.utf8ByteSize = bytes.length := by
  unfold String.fromUTF8? at read
  split at read
  · cases read
    exact List.size_toArray
  · cases read

theorem length_of_readText? {bytes rest : List UInt8} {s : String}
    (read : readText? bytes = some (s, rest)) : 8 + s.utf8ByteSize + rest.length = bytes.length := by
  unfold readText? at read
  split at read
  · rename_i length left number
    split at read
    · rename_i taken behind found
      obtain ⟨text, decoded, same⟩ := Option.map_eq_some_iff.1 read
      cases same
      have size := utf8ByteSize_of_fromUTF8? decoded
      have counted := length_of_readNumber? number
      have whole := length_of_take? found
      omega
    · cases read
  · cases read

theorem length_of_read?_text {fuel : Nat} {bytes rest : List UInt8} {s : String}
    (read : read? fuel bytes = some (.text s, rest)) : 12 + s.utf8ByteSize + rest.length = bytes.length := by
  cases fuel with
  | zero => cases read
  | succ fuel =>
      unfold read? at read
      split at read
      · cases read
      · rename_i left tagged
        obtain ⟨⟨text, behind⟩, found, same⟩ := Option.map_eq_some_iff.1 read
        cases same
        have tag := length_of_readNumber? tagged
        have content := length_of_readText? found
        omega
      · obtain ⟨_, -, other⟩ := Option.map_eq_some_iff.1 read
        cases other
      · obtain ⟨_, -, other⟩ := Option.map_eq_some_iff.1 read
        cases other
      · split at read <;> cases read
      · split at read
        · obtain ⟨_, -, other⟩ := Option.map_eq_some_iff.1 read
          cases other
        · cases read
      · split at read
        · obtain ⟨_, -, other⟩ := Option.map_eq_some_iff.1 read
          cases other
        · cases read
      · split at read
        · obtain ⟨_, -, other⟩ := Option.map_eq_some_iff.1 read
          cases other
        · cases read
      · cases read

theorem length_of_decode?_text {bytes : List UInt8} {s : String} (read : decode? bytes = some (.text s)) :
    s.utf8ByteSize < bytes.length := by
  obtain ⟨⟨v, rest⟩, found, same⟩ := Option.map_eq_some_iff.1 read
  cases same
  have content := length_of_read?_text found
  omega

theorem length_le_utf8ByteSize (s : String) : s.toList.length ≤ s.utf8ByteSize := by
  have bytes : s.utf8ByteSize = s.toList.utf8Encode.size := by
    rw [← String.size_toByteArray, ← String.toByteArray_ofList, String.ofList_toList]
  rw [bytes, List.utf8Encode, List.size_toByteArray]
  induction s.toList with
  | nil => exact Nat.le_refl 0
  | cons c rest ih =>
      have first := c.utf8Size_pos
      rw [List.flatMap_cons, List.length_append, String.length_utf8EncodeChar, List.length_cons]
      omega

end Layout

/-- A text is shorter than a payload that holds it. -/
theorem utf8ByteSize_of_decode {payload s : String} (read : decode payload = .ok (.text s)) :
    s.utf8ByteSize < payload.utf8ByteSize := by
  unfold decode at read
  split at read
  · cases read
  · rename_i encoded marked
    split at read
    · rename_i v found
      cases read
      obtain ⟨bytes, group, content⟩ := Option.bind_eq_some_iff.1 found
      have whole := congrArg List.length (Text.dropLead?_eq_some_iff.1 marked)
      rw [List.length_append] at whole
      calc
        s.utf8ByteSize < bytes.length := Layout.length_of_decode?_text content
        _ ≤ encoded.length := Base64.length_of_decode? group
        _ ≤ payload.toList.length := by omega
        _ ≤ payload.utf8ByteSize := Layout.length_le_utf8ByteSize payload
    · cases read

end RecordSearch.Opaque
