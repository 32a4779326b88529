import RecordSearch.Value

namespace RecordSearch

def Written (more s : List Char) : Prop := ∀ c ∈ s, c.isAlphanum = true ∨ c ∈ more

instance (more s : List Char) : Decidable (Written more s) :=
  List.decidableBAll (fun c : Char => c.isAlphanum = true ∨ c ∈ more) s

namespace Written

variable {more s t : List Char}

theorem nil : Written more [] := fun _ present => nomatch present

theorem cons {c : Char} (first : c.isAlphanum = true ∨ c ∈ more) (rest : Written more s) :
    Written more (c :: s) := by
  intro d present
  rcases List.mem_cons.1 present with rfl | later
  · exact first
  · exact rest d later

theorem append (front : Written more s) (rest : Written more t) : Written more (s ++ t) := by
  intro c present
  rcases List.mem_append.1 present with before | after
  · exact front c before
  · exact rest c after

theorem replicate (n : Nat) {c : Char} (fine : c.isAlphanum = true ∨ c ∈ more) :
    Written more (List.replicate n c) := by
  intro d present
  rw [List.eq_of_mem_replicate present]
  exact fine

theorem contains_eq_false (written : Written more s) {barred : List Char}
    (others : (barred.all fun d => !(d.isAlphanum || more.contains d)) = true) :
    ∀ c ∈ s, barred.contains c = false := by
  intro c present
  rw [List.contains_eq_mem, decide_eq_false_iff_not]
  intro listed
  have other := List.all_eq_true.1 others c listed
  rw [Bool.not_eq_true', Bool.or_eq_false_iff, List.contains_eq_mem, decide_eq_false_iff_not] at other
  rcases written c present with letter | more
  · rw [other.1] at letter
    cases letter
  · exact other.2 more

theorem of_subset (subset : s ⊆ t) (written : Written more t) : Written more s :=
  fun c present => written c (subset present)

theorem toDigits (n : Nat) : Written more (Nat.toDigits 10 n) := by
  intro c present
  have digit : c.isDigit = true := Nat.isDigit_of_mem_toDigits (by decide) (by decide) present
  exact Or.inl (by rw [Char.isAlphanum, digit, Bool.or_true])

end Written

theorem written_integerText (n : Int64) : Written ['-', '.'] (Value.integerText n).toList := by
  have natural : ∀ m : Nat, Written ['-', '.'] (toString m).toList := by
    intro m
    rw [Nat.toString_eq_ofList_toDigits, String.toList_ofList]
    exact Written.toDigits m
  unfold Value.integerText
  cases n.toInt with
  | ofNat m => exact natural m
  | negSucc m =>
      change Written _ ("-" ++ toString (m + 1)).toList
      rw [String.toList_append]
      exact Written.cons (by decide) (natural (m + 1))

theorem written_booleanText (b : Bool) : Written ['-', '.'] (Value.booleanText b).toList := by
  cases b
  · decide
  · decide

namespace Decimal

theorem written_normal (d : Scaled) : Written ['-', '.'] d.normal.1 := by
  apply Written.of_subset _ (Written.toDigits d.coefficient)
  intro c present
  have kept := List.mem_reverse.1 present
  exact List.mem_reverse.1 ((List.dropWhile_suffix _).subset kept)

theorem written_positional (d : Scaled) : Written ['-', '.'] d.positional := by
  have digits := written_normal d
  unfold Scaled.positional
  generalize d.normal = normal at digits
  obtain ⟨kept, point⟩ := normal
  have zero : '0'.isAlphanum = true ∨ '0' ∈ ['-', '.'] := by decide
  have dot : '.'.isAlphanum = true ∨ '.' ∈ ['-', '.'] := by decide
  simp only
  split
  · exact Written.cons zero (Written.cons dot ((Written.replicate _ zero).append digits))
  · exact Written.cons zero (Written.cons dot digits)
  · split
    · exact Written.append digits (Written.replicate _ zero)
    · exact ((Written.of_subset (List.take_subset _ _) digits)).append
        (Written.cons dot (Written.of_subset (List.drop_subset _ _) digits))

theorem written_signed (x : Double) {s : List Char} (written : Written ['-', '.'] s) :
    Written ['-', '.'] (signed x s) := by
  unfold signed
  split
  · exact Written.cons (by decide) written
  · exact written

theorem written_doubleText (x : Double) : Written ['-', '.'] (doubleText x) := by
  unfold doubleText
  split
  · decide
  · exact written_signed x (by decide)
  · exact written_signed x (by decide)
  · exact written_signed x (written_positional _)

end Decimal

namespace Calendar

theorem written_padded (width n : Nat) : Written ['-', ':', '+'] (padded width n) :=
  (Written.replicate _ (by decide)).append (Written.toDigits n)

theorem written_yearText (year : Int) : Written ['-', ':', '+'] (yearText year) := by
  unfold yearText
  split
  · split
    · exact written_padded 4 _
    · exact Written.cons (by decide) (written_padded 4 _)
  · exact Written.cons (by decide) (written_padded 4 _)

theorem written_text (t : DateTime) : Written ['-', ':', '+'] t.text := by
  apply Written.append
  · apply Written.append
    · apply Written.append
      · exact written_yearText _
      · exact Written.cons (by decide) (written_padded 2 _)
    · exact Written.cons (by decide) (written_padded 2 _)
  · apply Written.cons (by decide)
    apply Written.append
    · apply Written.append
      · exact written_padded 2 _
      · exact Written.cons (by decide) (written_padded 2 _)
    · exact Written.cons (by decide) (written_padded 2 _)

end Calendar

end RecordSearch
