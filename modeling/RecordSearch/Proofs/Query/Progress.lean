import RecordSearch.Query.Read

namespace RecordSearch.Lucene

theorem length_skip_le (s : List Char) : (skip s).length ≤ s.length :=
  (List.dropWhile_suffix isBlank).length_le

theorem append_takeEscaped (stop : Char → Bool) (s : List Char) :
    (takeEscaped stop s).1 ++ (takeEscaped stop s).2 = s := by
  fun_induction takeEscaped stop s with
  | case1 => rfl
  | case2 c rest taken rest' found ih => simp_all
  | case3 c rest _ stops => rfl
  | case4 c rest _ goesOn taken rest' found ih => simp_all

theorem length_takeEscaped_le (stop : Char → Bool) (s : List Char) :
    (takeEscaped stop s).2.length ≤ s.length := by
  have whole := congrArg List.length (append_takeEscaped stop s)
  rw [List.length_append] at whole
  omega

theorem eq_of_word? {words : List (List Char)} {s rest : List Char}
    (found : word? words s = some rest) :
    ∃ word ∈ words, s = word ++ rest ∧ startsTerm rest = false := by
  unfold word? at found
  split at found
  · rename_i after first
    split at found
    · cases found
    · rename_i free
      cases found
      obtain ⟨word, present, dropped⟩ := List.exists_of_findSome?_eq_some first
      exact ⟨word, present, Text.dropLead?_eq_some_iff.1 dropped, by simpa using free⟩
  · cases found

theorem length_word?_le {words : List (List Char)} {s rest : List Char}
    (found : word? words s = some rest) : rest.length ≤ s.length := by
  obtain ⟨word, -, rfl, -⟩ := eq_of_word? found
  simp

theorem length_number?_lt {s digits rest : List Char} (found : number? s = some (digits, rest)) :
    rest.length < s.length := by
  have whole := congrArg List.length (List.takeWhile_append_dropWhile (p := Char.isDigit) (l := s))
  rw [List.length_append] at whole
  simp only [number?] at found
  split at found
  · cases found
  · rename_i some_digits
    have positive : 0 < (s.takeWhile Char.isDigit).length := by
      rw [List.length_pos_iff]
      simpa using some_digits
    split at found
    · rename_i after point
      split at found
      · cases found
        omega
      · cases found
        have shorter := (List.dropWhile_suffix (l := after) Char.isDigit).length_le
        rw [point, List.length_cons] at whole
        omega
    · cases found
      omega

theorem length_boost_le (s : List Char) : (boost s).2.length ≤ s.length := by
  unfold boost
  split
  · split
    · rename_i rest _ _ found
      have := length_number?_lt found
      simp only [List.length_cons]
      omega
    · exact Nat.le_refl _
  · exact Nat.le_refl _

theorem length_slop_le (s : List Char) : (slop s).2.length ≤ s.length := by
  unfold slop
  split
  · split
    · rename_i rest _ _ found
      have := length_number?_lt found
      simp only [List.length_cons]
      omega
    · exact Nat.le_refl _
  · exact Nat.le_refl _

theorem length_fuzziness_le (s : List Char) : (fuzziness s).2.length ≤ s.length := by
  unfold fuzziness
  split
  · split
    · rename_i rest _ _ found
      have := length_number?_lt found
      simp only [List.length_cons]
      omega
    · simp
  · exact Nat.le_refl _

theorem length_closeQuote?_lt {s text rest : List Char} (found : closeQuote? s = some (text, rest)) :
    rest.length < s.length := by
  unfold closeQuote? at found
  have shorter := length_takeEscaped_le (· == '"') s
  split at found
  · rename_i taken
    cases found
    rw [taken, List.length_cons] at shorter
    omega
  · cases found

theorem length_bareBound?_le {s rest : List Char} {bound : Option String}
    (found : bareBound? s = some (bound, rest)) : rest.length ≤ s.length := by
  unfold bareBound? at found
  have shorter := length_takeEscaped_le endsBound s
  split at found
  · cases found
  · rename_i taken
    cases found
    rw [taken] at shorter
    exact shorter

theorem length_bound?_le {s rest : List Char} {bound : Option String}
    (found : bound? s = some (bound, rest)) : rest.length ≤ s.length := by
  unfold bound? at found
  split at found
  · split at found
    · rename_i closed
      cases found
      have := length_closeQuote?_lt closed
      rw [List.length_cons]
      omega
    · exact length_bareBound?_le found
  · split at found
    · cases found
      simp
    · exact length_bareBound?_le found
  · exact length_bareBound?_le found

theorem length_openRange?_lt {s rest : List Char} {included : Bool}
    (found : openRange? s = some (included, rest)) : rest.length < s.length := by
  unfold openRange? at found
  split at found
  · cases found
    exact Nat.lt_succ_self _
  · cases found
    exact Nat.lt_succ_self _
  · cases found

theorem length_closeRange?_lt {s rest : List Char} {included : Bool}
    (found : closeRange? s = some (included, rest)) : rest.length < s.length := by
  unfold closeRange? at found
  split at found
  · cases found
    exact Nat.lt_succ_self _
  · cases found
    exact Nat.lt_succ_self _
  · cases found

theorem length_range?_lt {field : Option String} {s rest : List Char} {clause : Clause}
    (found : range? field s = some (clause, rest)) : rest.length < s.length := by
  unfold range? at found
  split at found
  · cases found
  · rename_i start opened
    split at found
    · cases found
    · rename_i afterLower foundLower
      split at found
      · cases found
      · rename_i afterUpper foundUpper
        obtain ⟨afterTo, dropped, foundUpper⟩ := Option.bind_eq_some_iff.1 foundUpper
        split at found
        · cases found
        · rename_i last closed
          change some (_, (boost (skip last)).2) = some (clause, rest) at found
          obtain ⟨-, rfl⟩ := Prod.mk.inj (Option.some.inj found)
          have opening := length_openRange?_lt opened
          have lower := Nat.le_trans (length_bound?_le foundLower) (length_skip_le start)
          have word := congrArg List.length (Text.dropLead?_eq_some_iff.1 dropped)
          have upper := Nat.le_trans (length_bound?_le foundUpper) (length_skip_le afterTo)
          have closing := Nat.lt_of_lt_of_le (length_closeRange?_lt closed)
            (length_skip_le afterUpper)
          have factor := Nat.le_trans (length_boost_le (skip last)) (length_skip_le last)
          have blanks := length_skip_le afterLower
          rw [List.length_append] at word
          omega

theorem length_phrase?_lt {field : Option String} {s rest : List Char} {clause : Clause}
    (found : phrase? field s = some (clause, rest)) : rest.length < s.length := by
  unfold phrase? at found
  split at found
  · split at found
    · cases found
    · rename_i after closed
      change some (_, (boost (slop after).2).2) = some (clause, rest) at found
      obtain ⟨-, rfl⟩ := Prod.mk.inj (Option.some.inj found)
      have text := length_closeQuote?_lt closed
      have words := length_slop_le after
      have factor := length_boost_le (slop after).2
      rw [List.length_cons]
      omega
  · cases found

theorem length_term?_lt {field : Option String} {s rest : List Char} {clause : Clause}
    (found : term? field s = some (clause, rest)) : rest.length < s.length := by
  unfold term? at found
  have whole := congrArg List.length (append_takeEscaped endsTerm s)
  rw [List.length_append] at whole
  split at found
  · cases found
  · split at found
    · cases found
    · rename_i term after some_term taken
      change some (_, (boost (fuzziness after).2).2) = some (clause, rest) at found
      obtain ⟨-, rfl⟩ := Prod.mk.inj (Option.some.inj found)
      rw [taken] at whole
      have edits := length_fuzziness_le after
      have factor := length_boost_le (fuzziness after).2
      have positive : 0 < term.length := List.length_pos_iff.2 some_term
      simp only at whole
      omega

theorem length_fieldName?_lt {s rest : List Char} {name : String}
    (found : fieldName? s = some (name, rest)) : rest.length < s.length := by
  simp only [fieldName?] at found
  split at found
  · cases found
  · split at found
    · rename_i after colon
      cases found
      have name_before := (List.dropWhile_suffix (l := s) isFieldChar).length_le
      have blanks := length_skip_le (s.dropWhile isFieldChar)
      have more := length_skip_le after
      rw [colon, List.length_cons] at blanks
      omega
    · cases found

theorem length_everything?_lt {s rest : List Char} {clause : Clause}
    (found : everything? s = some (clause, rest)) : rest.length < s.length := by
  unfold everything? at found
  split at found
  · cases found
    simp only [List.length_cons]
    omega
  · cases found

theorem orElse_eq_some {first : Option (Clause × List Char)}
    {second : Unit → Option (Clause × List Char)} {result : Clause × List Char}
    (found : orElse first second = some result) : first = some result ∨ second () = some result := by
  unfold orElse at found
  split at found
  · exact Or.inl found
  · exact Or.inr found

/-- What each reading leaves is shorter than what it was given. -/
structure Shortens (fuel : Nat) : Prop where
  ors : ∀ {field s clauses rest}, ors? fuel field s = some (clauses, rest) → rest.length < s.length
  ands : ∀ {field s clauses rest}, ands? fuel field s = some (clauses, rest) → rest.length < s.length
  unary : ∀ {field s clause rest}, unary? fuel field s = some (clause, rest) → rest.length < s.length
  group : ∀ {field s clause rest}, group? fuel field s = some (clause, rest) → rest.length < s.length
  fieldClause : ∀ {s clause rest}, fieldClause? fuel s = some (clause, rest) → rest.length < s.length

namespace Shortens

variable {fuel : Nat} {field : Option String} {s rest : List Char} {clause : Clause}
  {clauses : List Clause}

theorem ors_succ (shortens : Shortens fuel) (found : ors? (fuel + 1) field s = some (clauses, rest)) :
    rest.length < s.length := by
  simp only [ors?] at found
  split at found
  · cases found
  · rename_i first after foundFirst
    have shorter := shortens.ands foundFirst
    split at found
    · rename_i others last foundMore
      cases found
      split at foundMore
      · rename_i next joined
        have word := length_word?_le joined
        have more := shortens.ors foundMore
        have blanks := length_skip_le after
        have blanksNext := length_skip_le next
        omega
      · cases foundMore
    · cases found
      exact shorter

theorem ands_succ (shortens : Shortens fuel)
    (found : ands? (fuel + 1) field s = some (clauses, rest)) : rest.length < s.length := by
  simp only [ands?] at found
  split at found
  · cases found
  · rename_i first after foundFirst
    have shorter := shortens.unary foundFirst
    split at found
    · rename_i others last foundMore
      cases found
      have more := shortens.ands foundMore
      have blanks := length_skip_le after
      split at more
      · rename_i next joined
        have word := length_word?_le joined
        have blanksNext := length_skip_le next
        omega
      · omega
    · cases found
      exact shorter

theorem unary_succ (shortens : Shortens fuel)
    (found : unary? (fuel + 1) field s = some (clause, rest)) : rest.length < s.length := by
  simp only [unary?] at found
  rcases orElse_eq_some found with negated | found
  · split at negated
    · rename_i after word
      obtain ⟨inner, foundInner, same⟩ := Option.map_eq_some_iff.1 negated
      obtain ⟨-, rfl⟩ := Prod.mk.inj same
      have shorter := shortens.unary foundInner
      have blanks := length_skip_le after
      have before := length_word?_le word
      omega
    · cases negated
  · rcases orElse_eq_some found with everything | found
    · exact length_everything?_lt everything
    · rcases orElse_eq_some found with group | found
      · exact shortens.group group
      · rcases orElse_eq_some found with named | found
        · exact shortens.fieldClause named
        · rcases orElse_eq_some found with range | found
          · exact length_range?_lt range
          · rcases orElse_eq_some found with phrase | term
            · exact length_phrase?_lt phrase
            · exact length_term?_lt term

theorem group_succ (shortens : Shortens fuel)
    (found : group? (fuel + 1) field s = some (clause, rest)) : rest.length < s.length := by
  simp only [group?] at found
  split at found
  · split at found
    · cases found
    · rename_i inside _ _ after foundInside
      split at found
      · rename_i last closed
        cases found
        have inner := shortens.ors foundInside
        have blanks := length_skip_le inside
        have blanksAfter := length_skip_le after
        have factor := Nat.le_trans (length_boost_le (skip last)) (length_skip_le last)
        rw [closed, List.length_cons] at blanksAfter
        rw [List.length_cons]
        omega
      · cases found
  · cases found

theorem fieldClause_succ (shortens : Shortens fuel)
    (found : fieldClause? (fuel + 1) s = some (clause, rest)) : rest.length < s.length := by
  simp only [fieldClause?] at found
  split at found
  · cases found
  · rename_i named
    have name := length_fieldName?_lt named
    rcases orElse_eq_some found with group | found
    · exact Nat.lt_trans (shortens.group group) name
    · rcases orElse_eq_some found with range | found
      · exact Nat.lt_trans (length_range?_lt range) name
      · rcases orElse_eq_some found with phrase | term
        · exact Nat.lt_trans (length_phrase?_lt phrase) name
        · exact Nat.lt_trans (length_term?_lt term) name

end Shortens

theorem shortens (fuel : Nat) : Shortens fuel := by
  induction fuel with
  | zero =>
      constructor <;> intros <;> contradiction
  | succ fuel ih => exact ⟨ih.ors_succ, ih.ands_succ, ih.unary_succ, ih.group_succ, ih.fieldClause_succ⟩

end RecordSearch.Lucene
