import RecordSearch.Condition.Tree
import RecordSearch.Proofs.Query.Escape

namespace RecordSearch.Lucene

theorem skip_of_head {c : Char} (solid : isBlank c = false) (s : List Char) : skip (c :: s) = c :: s := by
  rw [skip, List.dropWhile_cons, solid]
  rfl

theorem skip_skip (s : List Char) : skip (skip s) = skip s := by
  have solid := List.head?_dropWhile_not isBlank s
  cases left : skip s with
  | nil => rfl
  | cons c rest =>
      rw [← skip, left] at solid
      exact skip_of_head solid rest

theorem skip_append_of_nil {s : List Char} (blank : skip s = []) (k : List Char) :
    skip (s ++ k) = skip k := by
  unfold skip at blank ⊢
  rw [List.dropWhile_append, blank]
  rfl

theorem skip_append {s : List Char} (solid : skip s ≠ []) (k : List Char) :
    skip (s ++ k) = skip s ++ k := by
  unfold skip at solid ⊢
  rw [List.dropWhile_append, if_neg]
  rw [List.isEmpty_iff]
  exact solid

theorem dropLead?_append {word k : List Char} (apart : ∀ c ∈ k.head?, c ∉ word) (s : List Char) :
    Text.dropLead? word (s ++ k) = (Text.dropLead? word s).map (· ++ k) := by
  induction word generalizing s with
  | nil => rfl
  | cons a word ih =>
      cases s with
      | nil =>
          cases k with
          | nil => rfl
          | cons c k =>
              have other : a ≠ c := by
                rintro rfl
                exact apart a rfl List.mem_cons_self
              change (if a = c then _ else _) = none
              rw [if_neg other]
      | cons b s =>
          rw [List.cons_append, Text.dropLead?, Text.dropLead?]
          split
          · exact ih (fun c first => fun present => apart c first (List.mem_cons_of_mem a present)) s
          · rfl

/-- What is no part of a word, and goes on with no term, changes nothing of the words before it. -/
theorem word?_append_of_stop {k : List Char} (stops : startsTerm k = false) {words : List (List Char)}
    (apart : ∀ word ∈ words, ∀ c ∈ k.head?, c ∉ word) (s : List Char) :
    word? words (s ++ k) = (word? words s).map (· ++ k) := by
  have found : (words.findSome? fun word => Text.dropLead? word (s ++ k)) =
      (words.findSome? fun word => Text.dropLead? word s).map (· ++ k) := by
    induction words with
    | nil => rfl
    | cons word words ih =>
        rw [List.findSome?_cons, List.findSome?_cons, dropLead?_append (apart word List.mem_cons_self),
          ih fun other present => apart other (List.mem_cons_of_mem word present)]
        cases Text.dropLead? word s <;> rfl
  rw [word?, word?, found]
  cases words.findSome? fun word => Text.dropLead? word s with
  | none => rfl
  | some rest =>
      cases rest with
      | nil =>
          simp only [Option.map_some, List.nil_append, stops]
          rfl
      | cons c rest =>
          have same : startsTerm (c :: (rest ++ k)) = startsTerm (c :: rest) := rfl
          simp only [Option.map_some, List.cons_append, same]
          cases startsTerm (c :: rest) <;> rfl

/-- A text that may stand behind a clause: nothing, or a blank or a closing parenthesis, but after the
blanks no colon and no factor. -/
structure Follows (k : List Char) : Prop where
  head : ∀ c ∈ k.head?, c = ' ' ∨ c = ')'
  next : ∀ c ∈ (skip k).head?, c ≠ ':' ∧ c ≠ '^'

theorem follows_nil : Follows [] := by
  constructor
  · rintro c ⟨⟩
  · rintro c ⟨⟩

theorem follows_close (k : List Char) : Follows (')' :: k) := by
  constructor
  · rintro c ⟨⟩
    exact Or.inr rfl
  · rintro c ⟨⟩
    decide

theorem follows_connector (connector : Connector) (k : List Char) :
    Follows (' ' :: connector.text.toList ++ ' ' :: k) := by
  cases connector with
  | and =>
      constructor
      · rintro c ⟨⟩
        exact Or.inl rfl
      · rintro c ⟨⟩
        decide
  | or =>
      constructor
      · rintro c ⟨⟩
        exact Or.inl rfl
      · rintro c ⟨⟩
        decide

/-- With `k` behind the text the reading gives the same, and leaves `k` behind what it left, blanks aside. -/
def ReadsOn {α : Type} (k : List Char) (read : List Char → Option (α × List Char)) (s : List Char) (a : α)
    (rest : List Char) : Prop :=
  ∃ left, read (s ++ k) = some (a, left) ∧ skip left = skip (rest ++ k)

namespace ReadsOn

variable {α : Type} {k s rest : List Char} {read other : List Char → Option (α × List Char)} {a : α}

theorem of_append (found : read (s ++ k) = some (a, rest ++ k)) : ReadsOn k read s a rest :=
  ⟨rest ++ k, found, rfl⟩

theorem mono (readsOn : ReadsOn k read s a rest)
    (also : ∀ left, read (s ++ k) = some (a, left) → other (s ++ k) = some (a, left)) :
    ReadsOn k other s a rest := by
  obtain ⟨left, found, behind⟩ := readsOn
  exact ⟨left, also left found, behind⟩

end ReadsOn

namespace Follows

variable {k : List Char}

theorem head_of (follows : Follows k) {p : Char → Prop} (space : p ' ') (close : p ')') :
    ∀ c ∈ k.head?, p c := by
  intro c first
  rcases follows.head c first with rfl | rfl
  · exact space
  · exact close

theorem stopped_endsTerm (follows : Follows k) : Stopped endsTerm k :=
  follows.head_of (by decide) (by decide)

theorem startsTerm_eq_false (follows : Follows k) : startsTerm k = false := by
  cases k with
  | nil => rfl
  | cons c k =>
      obtain ⟨-, ends⟩ := follows.stopped_endsTerm c rfl
      rw [startsTerm, ends]
      rfl

theorem word?_append (follows : Follows k) {words : List (List Char)}
    (letters : ∀ word ∈ words, ' ' ∉ word ∧ ')' ∉ word) (s : List Char) :
    word? words (s ++ k) = (word? words s).map (· ++ k) := by
  apply word?_append_of_stop follows.startsTerm_eq_false
  intro word listed
  obtain ⟨space, close⟩ := letters word listed
  exact follows.head_of space close

theorem takeWhile_append (follows : Follows k) {p : Char → Bool} (space : p ' ' = false)
    (close : p ')' = false) (s : List Char) : (s ++ k).takeWhile p = s.takeWhile p := by
  induction s with
  | nil =>
      cases k with
      | nil => rfl
      | cons c k =>
          have stops : p c = false := follows.head_of (p := fun c => p c = false) space close c rfl
          rw [List.nil_append, List.takeWhile_cons, stops]
          rfl
  | cons c s ih => rw [List.cons_append, List.takeWhile_cons, List.takeWhile_cons, ih]

theorem dropWhile_append (follows : Follows k) {p : Char → Bool} (space : p ' ' = false)
    (close : p ')' = false) (s : List Char) : (s ++ k).dropWhile p = s.dropWhile p ++ k := by
  induction s with
  | nil =>
      cases k with
      | nil => rfl
      | cons c k =>
          have stops : p c = false := follows.head_of (p := fun c => p c = false) space close c rfl
          rw [List.nil_append, List.dropWhile_cons, stops]
          rfl
  | cons c s ih =>
      rw [List.cons_append, List.dropWhile_cons, List.dropWhile_cons, ih]
      split <;> rfl

theorem number?_append (follows : Follows k) (s : List Char) :
    number? (s ++ k) = (number? s).map fun found => (found.1, found.2 ++ k) := by
  have digits := follows.takeWhile_append (p := Char.isDigit) rfl rfl
  have others := follows.dropWhile_append (p := Char.isDigit) rfl rfl
  simp only [number?, digits, others]
  split
  · rfl
  · cases s.dropWhile Char.isDigit with
    | nil =>
        cases k with
        | nil => rfl
        | cons c k =>
            rcases follows.head c rfl with rfl | rfl
            · rfl
            · rfl
    | cons c rest =>
        by_cases point : c = '.'
        · subst point
          simp only [List.cons_append, digits, others]
          split <;> rfl
        · simp [point]

theorem suffix_append {β : Type} (follows : Follows k) (read : List Char → β × List Char) (absent : β)
    (d : Char) (unlike : d ≠ ' ' ∧ d ≠ ')') (nil : read [] = (absent, []))
    (unmarked : ∀ c s, c ≠ d → read (c :: s) = (absent, c :: s))
    (marked : ∀ s, read (d :: (s ++ k)) = ((read (d :: s)).1, (read (d :: s)).2 ++ k)) (s : List Char) :
    read (s ++ k) = ((read s).1, (read s).2 ++ k) := by
  cases s with
  | nil =>
      rw [nil]
      cases k with
      | nil => exact nil
      | cons c k =>
          rcases follows.head c rfl with rfl | rfl
          · exact unmarked ' ' k (Ne.symm unlike.1)
          · exact unmarked ')' k (Ne.symm unlike.2)
  | cons c s =>
      by_cases same : c = d
      · subst same
        exact marked s
      · rw [List.cons_append, unmarked c (s ++ k) same, unmarked c s same]
        rfl

theorem boost_append (follows : Follows k) (s : List Char) :
    boost (s ++ k) = ((boost s).1, (boost s).2 ++ k) := by
  apply follows.suffix_append boost none '^' (by decide) rfl
  · intro c s other
    simp [boost, other]
  · intro s
    simp only [boost, follows.number?_append]
    cases number? s <;> rfl

theorem slop_append (follows : Follows k) (s : List Char) :
    slop (s ++ k) = ((slop s).1, (slop s).2 ++ k) := by
  apply follows.suffix_append slop none '~' (by decide) rfl
  · intro c s other
    simp [slop, other]
  · intro s
    simp only [slop, follows.number?_append]
    cases number? s <;> rfl

theorem fuzziness_append (follows : Follows k) (s : List Char) :
    fuzziness (s ++ k) = ((fuzziness s).1, (fuzziness s).2 ++ k) := by
  apply follows.suffix_append fuzziness none '~' (by decide) rfl
  · intro c s other
    simp [fuzziness, other]
  · intro s
    simp only [fuzziness, follows.number?_append]
    cases number? s <;> rfl

theorem boost_skip (follows : Follows k) : boost (skip k) = (none, skip k) := by
  have next := follows.next
  cases left : skip k with
  | nil => rfl
  | cons c rest =>
      rw [left] at next
      have caret : c ≠ '^' := (next c rfl).2
      simp [boost, caret]

theorem boost_self (follows : Follows k) : boost k = (none, k) := follows.boost_append []

theorem slop_self (follows : Follows k) : slop k = (none, k) := follows.slop_append []

theorem term?_append (follows : Follows k) {bad : Char → Bool} {s : List Char}
    (guarded : Guarded bad s) (field : Option String) :
    term? field (s ++ k) = (term? field s).map fun reading => (reading.1, reading.2 ++ k) := by
  unfold term?
  rw [follows.word?_append (by decide) s, Option.isSome_map, guarded.takeEscaped_append
    follows.stopped_endsTerm]
  split
  · rfl
  · cases taken : takeEscaped endsTerm s with
    | mk term rest =>
        cases term with
        | nil => rfl
        | cons c term => simp only [follows.fuzziness_append, follows.boost_append, Option.map_some]

end Follows

end RecordSearch.Lucene
