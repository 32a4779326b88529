import RecordSearch.Proofs.Query.Bare
import RecordSearch.Proofs.Query.Tokens

/-!
What is read of a text is read of it too where more text follows, as long as what follows closes no
quotation mark with which a bound of a range begins.
-/

namespace RecordSearch.Lucene

section

variable {stop : Char → Bool} {s k text rest : List Char}

theorem takeEscaped_append_of_ne_nil (backslash : stop '\\' = false) (stops : (takeEscaped stop s).2 ≠ [])
    (k : List Char) :
    takeEscaped stop (s ++ k) = ((takeEscaped stop s).1, (takeEscaped stop s).2 ++ k) := by
  fun_induction takeEscaped stop s with
  | case1 => exact absurd rfl stops
  | case2 c rest taken left found ih =>
      rw [found] at ih
      rw [List.cons_append, List.cons_append, takeEscaped_pair, ih stops]
  | case3 c rest _ here =>
      refine takeEscaped_of_stop ?_ here (rest ++ k)
      rintro rfl
      rw [backslash] at here
      cases here
  | case4 c rest notPair goes taken left found ih =>
      rw [found] at ih
      have other : c ≠ '\\' := by
        rintro rfl
        cases rest with
        | nil =>
            cases found
            exact stops rfl
        | cons d rest => exact notPair d rest rfl rfl
      rw [List.cons_append, takeEscaped_of_go other (by simpa using goes), ih stops]

theorem stops_of_takeEscaped {c : Char} (left : (takeEscaped stop s).2 = c :: rest) : stop c = true := by
  fun_induction takeEscaped stop s with
  | case1 => cases left
  | case2 d tail taken after found ih =>
      rw [found] at ih
      exact ih left
  | case3 d tail _ here =>
      cases left
      exact here
  | case4 d tail _ goes taken after found ih =>
      rw [found] at ih
      exact ih left

theorem closeQuote?_eq_some_iff :
    closeQuote? s = some (text, rest) ↔ takeEscaped (· == '"') s = (text, '"' :: rest) := by
  unfold closeQuote?
  constructor
  · intro found
    split at found
    · rename_i whole
      cases found
      exact whole
    · cases found
  · intro whole
    rw [whole]
    rfl

theorem closeQuote?_eq_none_iff : closeQuote? s = none ↔ (takeEscaped (· == '"') s).2 = [] := by
  constructor
  · intro unclosed
    cases left : (takeEscaped (· == '"') s).2 with
    | nil => rfl
    | cons c rest =>
        have quote := stops_of_takeEscaped left
        rw [beq_iff_eq] at quote
        subst quote
        have closed := closeQuote?_eq_some_iff.2 (Prod.ext rfl left)
        rw [unclosed] at closed
        cases closed
  · intro left
    unfold closeQuote?
    split
    · rename_i whole
      rw [whole] at left
      cases left
    · rfl

theorem closeQuote?_append (closed : closeQuote? s = some (text, rest)) (k : List Char) :
    closeQuote? (s ++ k) = some (text, rest ++ k) := by
  have whole := closeQuote?_eq_some_iff.1 closed
  apply closeQuote?_eq_some_iff.2
  rw [takeEscaped_append_of_ne_nil (by decide) (by rw [whole]; exact List.cons_ne_nil _ _), whole]
  rfl

theorem Guarded.takeEscaped_append_of_nil {bad : Char → Bool} (guarded : Guarded bad s)
    (left : (takeEscaped stop s).2 = []) (k : List Char) :
    (takeEscaped stop (s ++ k)).2 = (takeEscaped stop k).2 := by
  induction guarded with
  | nil => rfl
  | @plain c s other _ _ ih =>
      cases stops : stop c with
      | true =>
          rw [takeEscaped_of_stop other stops] at left
          cases left
      | false =>
          rw [takeEscaped_of_go other stops] at left
          rw [List.cons_append, takeEscaped_of_go other stops]
          exact ih left
  | pair c _ ih =>
      rw [takeEscaped_pair] at left
      rw [List.cons_append, List.cons_append, takeEscaped_pair]
      exact ih left

theorem Guarded.closeQuote?_append {bad : Char → Bool} (guarded : Guarded bad s)
    (unclosed : closeQuote? s = none) (shut : closeQuote? k = none) : closeQuote? (s ++ k) = none := by
  rw [closeQuote?_eq_none_iff] at unclosed shut ⊢
  rw [guarded.takeEscaped_append_of_nil unclosed, shut]

theorem closeRange?_eq_some {included : Bool} (closes : closeRange? s = some (included, rest)) :
    ∃ c, s = c :: rest ∧ c ≠ '\\' ∧ ∀ t, closeRange? (c :: t) = some (included, t) := by
  unfold closeRange? at closes
  split at closes
  · cases closes
    exact ⟨']', rfl, by decide, fun _ => rfl⟩
  · cases closes
    exact ⟨'\x7d', rfl, by decide, fun _ => rfl⟩
  · cases closes

end

namespace Guarded

variable {bad : Char → Bool} {s t text rest : List Char}

theorem closeQuote? (guarded : Guarded bad s) (closed : closeQuote? s = some (text, rest)) : Guarded bad rest := by
  have behind : Guarded bad (takeEscaped (· == '"') s).2 := guarded.takeEscaped_snd
  rw [closeQuote?_eq_some_iff.1 closed] at behind
  exact behind.tail (by decide)

theorem bareBound? (guarded : Guarded bad s) {bound : Option String}
    (found : bareBound? s = some (bound, rest)) : Guarded bad rest := by
  have behind : Guarded bad (takeEscaped endsBound s).2 := guarded.takeEscaped_snd
  unfold Lucene.bareBound? at found
  split at found
  · cases found
  · rename_i taken
    cases found
    rwa [taken] at behind

theorem bound? (guarded : Guarded bad s) {bound : Option String} (found : bound? s = some (bound, rest)) :
    Guarded bad rest := by
  unfold Lucene.bound? at found
  split at found
  · split at found
    · rename_i closed
      cases found
      exact (guarded.tail (by decide)).closeQuote? closed
    · exact guarded.bareBound? found
  · split at found
    · cases found
      exact guarded.tail (by decide)
    · exact guarded.bareBound? found
  · exact guarded.bareBound? found

theorem isRange (guarded : Guarded bad s) {r : RangeParts} (range : IsRange s r) :
    Guarded bad r.atLower ∧ Guarded bad r.atUpper ∧ Guarded bad r.last := by
  obtain ⟨⟨start, opens, atLower⟩, ⟨behindLower, after, lower, word, atUpper⟩, ⟨behindUpper, upper, closes⟩⟩ := range
  obtain ⟨c, rfl, opening, -⟩ := openRange?_eq_some opens
  have other : c ≠ '\\' := by rcases opening with rfl | rfl <;> decide
  obtain ⟨d, bracket, otherClosing, -⟩ := closeRange?_eq_some closes
  have fromLower : Guarded bad r.atLower := atLower ▸ (guarded.tail other).skip
  have connector : Guarded bad (['T', 'O'] ++ after) :=
    Text.dropLead?_eq_some_iff.1 word ▸ (fromLower.bound? lower).skip
  have fromUpper : Guarded bad r.atUpper := atUpper ▸ (connector.of_append (by decide)).skip
  have closing : Guarded bad (d :: r.last) := bracket ▸ (fromUpper.bound? upper).skip
  exact ⟨fromLower, fromUpper, closing.tail otherClosing⟩

theorem token (guarded : Guarded bad s) (token : Token s t) : Guarded bad t := by
  cases token with
  | @plain c fine s =>
      apply guarded.tail
      rintro rfl
      cases fine
  | pair c s =>
      cases guarded with
      | plain other _ _ => exact absurd rfl other
      | pair _ rest => exact rest
  | lone => exact .nil
  | phrase closed => exact (guarded.tail (by decide)).closeQuote? closed
  | range range => exact (guarded.isRange range).2.2

theorem tokens (guarded : Guarded bad s) (tokens : Tokens s t) : Guarded bad t := by
  induction tokens with
  | refl => exact guarded
  | tail _ token ih => exact ih.token token

end Guarded

/-- A text whose backslashes all stand before characters of it. -/
abbrev Paired (s : List Char) : Prop := Guarded (fun _ => false) s

theorem paired_of_getLast? {s : List Char} (ends : s.getLast? ≠ some '\\') : Paired s := by
  fun_induction takeEscaped (fun _ => false) s with
  | case1 => exact .nil
  | case2 c rest _ _ _ ih =>
      apply Guarded.pair
      cases rest with
      | nil => exact .nil
      | cons d rest =>
          apply ih
          simpa using ends
  | case3 c rest _ stops => cases stops
  | case4 c rest notPair _ _ _ _ ih =>
      have other : c ≠ '\\' := by
        rintro rfl
        cases rest with
        | nil => exact ends rfl
        | cons d rest => exact notPair d rest rfl rfl
      apply Guarded.plain other rfl
      cases rest with
      | nil => exact .nil
      | cons d rest =>
          apply ih
          simpa using ends

def Shuts (s : List Char) : Prop := ∀ t, s = '"' :: t → closeQuote? t ≠ none

/-- A bound of a range that begins with a quotation mark is closed, wherever the range stands in the text. -/
def Closes (s : List Char) : Prop := ∀ t r, Tokens s t → IsRange t r → Shuts r.atLower ∧ Shuts r.atUpper

def opensRange (c : Char) : Bool := c == '[' || c == '\x7b'

theorem closes_of_unquoted {s : List Char} (unquoted : Guarded (· == '"') s) : Closes s := by
  intro t r tokens range
  obtain ⟨lower, upper, -⟩ := (unquoted.tokens tokens).isRange range
  constructor
  · rintro inside start
    rw [start] at lower
    exact absurd rfl (lower.head_ne rfl (by decide))
  · rintro inside start
    rw [start] at upper
    exact absurd rfl (upper.head_ne rfl (by decide))

theorem closes_of_unranged {s : List Char} (unranged : Guarded opensRange s) : Closes s := by
  intro t r tokens range
  have guarded := unranged.tokens tokens
  obtain ⟨⟨start, opens, -⟩, -, -⟩ := range
  obtain ⟨c, rfl, bracket, -⟩ := openRange?_eq_some opens
  rcases bracket with rfl | rfl
  · exact absurd rfl (guarded.head_ne (d := '[') rfl (by decide))
  · exact absurd rfl (guarded.head_ne (d := '\x7b') rfl (by decide))

/-- What may stand before `k`: no backslash is left at the end, and no quotation mark that `k` could close. -/
structure Carries (k s : List Char) : Prop where
  paired : Paired s
  quotes : Closes s ∨ closeQuote? k = none

namespace Carries

variable {k s t : List Char}

theorem tokens (carries : Carries k s) (tokens : Tokens s t) : Carries k t := by
  constructor
  · exact carries.paired.tokens tokens
  · rcases carries.quotes with closes | none
    · exact .inl fun u r more range => closes u r (tokens.trans more) range
    · exact .inr none

theorem unclosed (paired : Paired s) (shut : Shuts s ∨ closeQuote? k = none) :
    ∀ t, s = '"' :: t → closeQuote? t = none → closeQuote? (t ++ k) = none := by
  rintro t rfl unclosed
  rcases shut with shuts | none
  · exact absurd unclosed (shuts t rfl)
  · exact (paired.tail (by decide)).closeQuote?_append unclosed none

end Carries

section

variable {s k rest : List Char} {bound : Option String}

theorem bareBound?_append (found : bareBound? s = some (bound, rest)) (more : rest ≠ []) (k : List Char) :
    bareBound? (s ++ k) = some (bound, rest ++ k) := by
  unfold bareBound? at found ⊢
  split at found
  · cases found
  · rename_i text after present whole
    cases found
    rw [takeEscaped_append_of_ne_nil (by decide) (by rwa [whole]), whole]
    split
    · rename_i same
      cases same
      exact (present rfl).elim
    · rename_i same
      cases same
      rfl

theorem bound?_append (found : bound? s = some (bound, rest)) (more : rest ≠ [])
    (shut : ∀ t, s = '"' :: t → closeQuote? t = none → closeQuote? (t ++ k) = none) :
    bound? (s ++ k) = some (bound, rest ++ k) := by
  unfold bound? at found
  split at found
  · rename_i inside
    split at found
    · rename_i closed
      cases found
      rw [List.cons_append, bound?, closeQuote?_append closed]
    · rename_i unclosed
      rw [List.cons_append, bound?, shut inside rfl unclosed]
      exact bareBound?_append found more k
  · rename_i c after
    rw [List.cons_append, List.cons_append, bound?]
    split at found
    · rename_i ends
      cases found
      rw [if_pos ends]
      rfl
    · rename_i goes
      rw [if_neg goes]
      exact bareBound?_append found more k
  · rename_i notQuote notStar
    have bare : bound? (s ++ k) = bareBound? (s ++ k) := by
      cases s with
      | nil => cases found
      | cons c t =>
          have quote : c ≠ '"' := fun same => notQuote t (by rw [same])
          -- a star at the end of the text is a bound by itself, but not before more text
          have star : c ≠ '*' := by
            rintro rfl
            cases t with
            | nil =>
                cases found
                exact more rfl
            | cons d t => exact notStar d t rfl
          rw [List.cons_append, bound?]
          · exact fun _ start => quote (List.cons.inj start).1
          · exact fun _ _ start => star (List.cons.inj start).1
    rw [bare]
    exact bareBound?_append found more k

def RangeParts.before (r : RangeParts) (k : List Char) : RangeParts :=
  { r with atLower := r.atLower ++ k, atUpper := r.atUpper ++ k, last := r.last ++ k }

/-- A range whose bounds `k` does not close is read again before `k`. -/
theorem IsRange.append {r : RangeParts} (range : IsRange s r)
    (lowerShut : ∀ t, r.atLower = '"' :: t → closeQuote? t = none → closeQuote? (t ++ k) = none)
    (upperShut : ∀ t, r.atUpper = '"' :: t → closeQuote? t = none → closeQuote? (t ++ k) = none) :
    IsRange (s ++ k) (r.before k) := by
  obtain ⟨⟨start, opens, atLower⟩, ⟨behindLower, after, lower, word, atUpper⟩, ⟨behindUpper, upper, closes⟩⟩ := range
  obtain ⟨c, rfl, -, opening⟩ := openRange?_eq_some opens
  obtain ⟨d, bracket, -, closing⟩ := closeRange?_eq_some closes
  have whole := Text.dropLead?_eq_some_iff.1 word
  -- no part of the range reaches to the end of the text
  have solidStart : skip start ≠ [] := by
    rw [atLower]
    intro nothing
    rw [nothing] at lower
    cases lower
  have solidLower : skip behindLower ≠ [] := by
    rw [whole]
    exact List.cons_ne_nil _ _
  have solidAfter : skip after ≠ [] := by
    rw [atUpper]
    intro nothing
    rw [nothing] at upper
    cases upper
  have solidUpper : skip behindUpper ≠ [] := by
    rw [bracket]
    exact List.cons_ne_nil _ _
  have present : ∀ t : List Char, skip t ≠ [] → t ≠ [] := by
    rintro _ solid rfl
    exact solid rfl
  refine ⟨⟨start ++ k, opening _, ?_⟩, ⟨behindLower ++ k, after ++ k, ?_, ?_, ?_⟩, ⟨behindUpper ++ k, ?_, ?_⟩⟩
  · rw [skip_append solidStart, atLower]
    rfl
  · exact bound?_append lower (present _ solidLower) lowerShut
  · rw [skip_append solidLower, whole, List.append_assoc]
    exact Text.dropLead?_eq_some_iff.2 rfl
  · rw [skip_append solidAfter, atUpper]
    rfl
  · exact bound?_append upper (present _ solidUpper) upperShut
  · rw [skip_append solidUpper, bracket]
    exact closing _

end

namespace Follows

variable {k s rest : List Char} {field : Option String} {clause : Clause}

theorem boost_skip_append (follows : Follows k) (s : List Char) :
    ∃ left, boost (skip (s ++ k)) = ((boost (skip s)).1, left) ∧
      skip left = skip ((boost (skip s)).2 ++ k) := by
  by_cases blank : skip s = []
  · refine ⟨skip k, ?_, ?_⟩
    · rw [skip_append_of_nil blank, follows.boost_skip, blank]
      rfl
    · rw [skip_skip, blank]
      rfl
  · refine ⟨(boost (skip s)).2 ++ k, ?_, rfl⟩
    rw [skip_append blank, follows.boost_append]

theorem range? (follows : Follows k) (carries : Carries k s) (found : range? field s = some (clause, rest)) :
    ReadsOn k (range? field) s clause rest := by
  obtain ⟨r, range, rfl, rfl⟩ := range?_eq_some_iff.1 found
  obtain ⟨fromLower, fromUpper, -⟩ := carries.paired.isRange range
  have shut : (Shuts r.atLower ∧ Shuts r.atUpper) ∨ closeQuote? k = none :=
    carries.quotes.imp_left fun closes => closes s r (.refl s) range
  obtain ⟨left, factor, behind⟩ := follows.boost_skip_append r.last
  refine ⟨left, range?_eq_some_iff.2 ⟨r.before k, ?_, ?_, ?_⟩, behind⟩
  · exact range.append (Carries.unclosed fromLower (shut.imp_left And.left))
      (Carries.unclosed fromUpper (shut.imp_left And.right))
  · rw [show (r.before k).last = r.last ++ k from rfl, factor]
    rfl
  · rw [show (r.before k).last = r.last ++ k from rfl, factor]

theorem phrase? (follows : Follows k) (found : phrase? field s = some (clause, rest)) :
    ReadsOn k (phrase? field) s clause rest := by
  obtain ⟨inside, text, after, rfl, closed, rfl, rfl⟩ := phrase?_eq_some_iff.1 found
  apply ReadsOn.of_append
  rw [List.cons_append, Lucene.phrase?, closeQuote?_append closed]
  simp only [follows.slop_append, follows.boost_append]

theorem term? (follows : Follows k) (carries : Carries k s) (found : term? field s = some (clause, rest)) :
    ReadsOn k (term? field) s clause rest := by
  apply ReadsOn.of_append
  rw [follows.term?_append carries.paired, found]
  rfl

theorem everything?_append (follows : Follows k) (s : List Char) :
    everything? (s ++ k) = (everything? s).map fun reading => (reading.1, reading.2 ++ k) := by
  have written : ∀ t, everything? t = (Text.dropLead? ['*', ':', '*'] t).map fun rest => (Clause.all, rest) := by
    intro t
    unfold everything?
    split
    · rfl
    · rename_i other
      cases lead : Text.dropLead? ['*', ':', '*'] t with
      | none => rfl
      | some rest => exact absurd (Text.dropLead?_eq_some_iff.1 lead) (other rest)
  have apart : ∀ c ∈ k.head?, c ∉ ['*', ':', '*'] := follows.head_of (by decide) (by decide)
  rw [written, written, dropLead?_append apart, Option.map_map, Option.map_map]
  rfl

theorem fieldName?_append (follows : Follows k) {name : String} (found : fieldName? s = some (name, rest))
    (solid : rest ≠ []) : fieldName? (s ++ k) = some (name, rest ++ k) := by
  have letters := follows.takeWhile_append (p := isFieldChar) (by decide) (by decide) s
  have others := follows.dropWhile_append (p := isFieldChar) (by decide) (by decide) s
  simp only [fieldName?] at found ⊢
  rw [letters, others]
  split at found
  · cases found
  · rename_i present
    rw [if_neg present]
    split at found
    · rename_i after colon
      cases found
      have more : skip (s.dropWhile isFieldChar) ≠ [] := by
        rw [colon]
        exact List.cons_ne_nil _ _
      simp only [skip_append more, colon, List.cons_append, skip_append solid]
    · cases found

theorem fieldName?_eq_none (follows : Follows k) (unnamed : fieldName? s = none) : fieldName? (s ++ k) = none := by
  have letters := follows.takeWhile_append (p := isFieldChar) (by decide) (by decide) s
  have others := follows.dropWhile_append (p := isFieldChar) (by decide) (by decide) s
  simp only [fieldName?] at unnamed ⊢
  rw [letters, others]
  split at unnamed
  · rename_i absent
    rw [if_pos absent]
  · rename_i present
    rw [if_neg present]
    split at unnamed
    · cases unnamed
    · rename_i unmarked
      split
      · rename_i after colon
        by_cases blank : skip (s.dropWhile isFieldChar) = []
        · rw [skip_append_of_nil blank] at colon
          have next := follows.next ':' (by rw [colon]; rfl)
          exact absurd rfl next.1
        · rw [skip_append blank] at colon
          obtain ⟨c, t, start⟩ := List.exists_cons_of_ne_nil blank
          rw [start] at colon
          obtain rfl := (List.cons.inj colon).1
          exact absurd start (unmarked t)
      · rfl

end Follows

end RecordSearch.Lucene
