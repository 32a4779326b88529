import RecordSearch.Proofs.Query.Group
import RecordSearch.Text.Blank

namespace RecordSearch.Lucene

/-- A name that can stand before a colon. -/
def isName (name : String) : Bool := !name.toList.isEmpty && name.toList.all isFieldChar

/-- The field that a lookup is about; the text of a document is no field. -/
def searchedField (contentField field : String) : Option String :=
  if field = contentField then none else some field

theorem marks_fieldMark {contentField field : String} (named : field = contentField ∨ isName field = true) :
    Marks (fieldMark contentField field).toList (searchedField contentField field) := by
  unfold fieldMark searchedField
  split
  · exact Marks.text
  · rename_i other
    rcases named with same | name
    · exact absurd same other
    · simp only [isName, Bool.and_eq_true, Bool.not_eq_true', List.isEmpty_eq_false_iff,
        List.all_eq_true] at name
      have marks := Marks.name name.1 name.2
      rw [String.ofList_toList] at marks
      rw [String.toList_append]
      exact marks

section

variable {mark s k : List Char} {field : Option String} {clause : Clause}

theorem guarded_quoteEscape (s : List Char) : Guarded (· == '"') (quoteEscape s) := by
  apply guarded_escapeWhere rfl
  intro c _ unneeded
  simp only [List.contains_cons, Bool.or_eq_false_iff] at unneeded
  exact unneeded.2.1

theorem closeQuote?_quoteEscape (s k : List Char) :
    closeQuote? (quoteEscape s ++ '"' :: k) = some (quoteEscape s, k) := by
  have stopped : Stopped (· == '"') ('"' :: k) := by
    rintro c ⟨⟩
    decide
  rw [closeQuote?, (guarded_quoteEscape s).takeEscaped_whole stopped]
  rfl

theorem unescape_quoteEscape (s : List Char) : unescape (quoteEscape s) = s :=
  unescape_escapeWhere rfl s

def quote (s : List Char) : List Char := '"' :: (quoteEscape s ++ ['"'])

theorem toList_inQuotes (s : String) : (inQuotes s).toList = quote s.toList := by
  rw [inQuotes, String.toList_ofList]
  rfl

theorem quote_append (s k : List Char) : quote s ++ k = '"' :: (quoteEscape s ++ '"' :: k) := by
  simp [quote]

theorem phrase?_quote (s k : List Char) : phrase? field (quote s ++ k) =
    some ((Clause.phrase field (String.ofList s) (slop k).1).boosted (boost (slop k).2).1,
      (boost (slop k).2).2) := by
  rw [quote_append]
  simp only [phrase?, closeQuote?_quoteEscape, unescape_quoteEscape]

theorem Marks.standsFor_quote (marks : Marks mark field) (text : String) :
    StandsFor (mark ++ quote text.toList) (.phrase field text none) := by
  apply marks.standsFor (by decide)
  · intro k follows
    refine ⟨k, ?_, rfl⟩
    change readOperand? field (quote text.toList ++ k) = _
    rw [quote_append, readOperand?_quote, ← quote_append, phrase?_quote, follows.slop_self,
      follows.boost_self, String.ofList_toList]
    rfl
  · rfl

theorem guarded_escape {bad : Char → Bool} (fine : ∀ c ∈ s, reserved.contains c = false → bad c = false) :
    Guarded bad (escape s) := guarded_escapeWhere rfl fine

theorem isMark_reserved {c : Char} (unneeded : reserved.contains c = false) : isMark c = false := by
  cases marked : isMark c with
  | false => rfl
  | true =>
      simp only [isMark, openings, List.contains_cons, List.contains_nil, Bool.or_eq_true, beq_iff_eq,
        Bool.or_false] at marked
      rcases marked with ((rfl | rfl | rfl | rfl) | rfl) | rfl <;> exact absurd unneeded (by decide)

theorem endsTerm_reserved {c : Char} (solid : isBlank c = false) (unneeded : reserved.contains c = false) :
    endsTerm c = false := by
  cases ends : endsTerm c with
  | false => rfl
  | true =>
      simp only [endsTerm, solid, Bool.false_or, List.contains_cons, List.contains_nil, Bool.or_eq_true,
        beq_iff_eq, Bool.or_false] at ends
      rcases ends with rfl | rfl | rfl | rfl | rfl | rfl | rfl | rfl | rfl | rfl <;>
        exact absurd unneeded (by decide)

theorem keywords_plain : ∀ word ∈ keywords, '\\' ∉ word ∧ unescape word = word := by decide

theorem escape_mem_keywords_iff : escape s ∈ keywords ↔ s ∈ keywords := by
  have literal : unescape (escape s) = s := unescape_escapeWhere rfl s
  constructor
  · intro listed
    obtain ⟨-, same⟩ := keywords_plain _ listed
    rw [literal] at same
    rw [same]
    exact listed
  · intro listed
    have same : ∀ word ∈ keywords, escape word = word := by decide
    rw [same s listed]
    exact listed

theorem escape_eq_nil_iff : escape s = [] ↔ s = [] := by
  constructor
  · intro none
    have literal : unescape (escape s) = s := unescape_escapeWhere rfl s
    rw [none] at literal
    exact literal.symm
  · rintro rfl
    rfl

theorem guarded_isMark_escape (s : List Char) : Guarded isMark (escape s) :=
  guarded_escape fun _ _ unneeded => isMark_reserved unneeded

theorem guarded_isBlank_escape (solid : ∀ c ∈ s, isBlank c = false) : Guarded isBlank (escape s) :=
  guarded_escape fun c present _ => solid c present

theorem guarded_endsTerm_escape (solid : ∀ c ∈ s, isBlank c = false) : Guarded endsTerm (escape s) :=
  guarded_escape fun c present unneeded => endsTerm_reserved (solid c present) unneeded

theorem word?_keywords_escape (solid : ∀ c ∈ s, isBlank c = false) (free : s ∉ keywords) :
    word? keywords (escape s) = none := by
  have keyword := isSome_word?_keywords (guarded_endsTerm_escape solid) stopped_nil
  rw [List.append_nil, escape_mem_keywords_iff] at keyword
  exact Option.not_isSome_iff_eq_none.1 fun found => free (keyword.1 found)

theorem termClause_escapeWhere {needs : Char → Bool} (backslash : needs '\\' = true)
    (star : needs '*' = true) (mark : needs '?' = true) (field : Option String) (s : List Char) :
    termClause field (escapeWhere needs s) none = .term field (String.ofList s) := by
  have tame : (wilds (escapeWhere needs s)).any isWild = false := by
    rw [wilds_escapeWhere backslash star mark, List.any_map]
    exact List.any_eq_false.2 fun c _ => Bool.false_ne_true
  rw [termClause, tame, unescape_escapeWhere backslash]
  rfl

theorem termClause_escape (field : Option String) (s : List Char) :
    termClause field (escape s) none = .term field (String.ofList s) :=
  termClause_escapeWhere rfl rfl rfl field s

theorem term?_escape (present : s ≠ []) (solid : ∀ c ∈ s, isBlank c = false) (free : s ∉ keywords) :
    term? field (escape s) = some (.term field (String.ofList s), []) := by
  have nonempty : escape s ≠ [] := fun none => present (escape_eq_nil_iff.1 none)
  have unreserved : escape s ∉ keywords := fun listed => free (escape_mem_keywords_iff.1 listed)
  rw [term?_of_guarded (guarded_endsTerm_escape solid) nonempty unreserved, termClause_escape]

theorem Marks.readUnary?_of_term (marks : Marks mark field) (guarded : Guarded isMark s)
    (solid : skip s = s) {rest : List Char} (term : term? field s = some (clause, rest)) :
    readUnary? none (mark ++ s) = some (clause, rest) := by
  have present : s ≠ [] := by
    rintro rfl
    cases term
  cases marks with
  | text =>
      rw [List.nil_append, readUnary?_of_guarded none guarded present, term]
      cases word : word? notWords s with
      | none => rfl
      | some after =>
          rw [term?_of_not word] at term
          cases term
  | @name name named letters =>
      rw [List.append_assoc, List.singleton_append, readUnary?_mark named letters, solid,
        readOperand?_of_guarded _ guarded present, term]
      rfl

theorem skip_of_solid (solid : ∀ c ∈ s.head?, isBlank c = false) : skip s = s := by
  cases s with
  | nil => rfl
  | cons c s => exact skip_of_head (solid c rfl) s

theorem skip_escape (solid : ∀ c ∈ s, isBlank c = false) : skip (escape s) = escape s := by
  have guarded := guarded_isBlank_escape solid
  apply skip_of_solid
  intro c first
  cases front : escape s with
  | nil =>
      rw [front] at first
      cases first
  | cons d after =>
      rw [front] at first guarded
      cases first
      rcases guarded.head_fine with rfl | fine
      · rfl
      · exact fine

theorem Marks.standsFor_escape (marks : Marks mark field) (present : s ≠ [])
    (solid : ∀ c ∈ s, isBlank c = false) (free : s ∉ keywords) :
    StandsFor (mark ++ escape s) (.term field (String.ofList s)) := by
  have guarded := guarded_isMark_escape s
  apply marks.standsFor_of_guarded guarded
  exact marks.readUnary?_of_term guarded (skip_escape solid) (term?_escape present solid free)

/-- Phrases on a field, joined by OR, stand for one of them at least. -/
theorem Marks.standsFor_phrases (marks : Marks mark field) {texts : List String}
    (present : texts ≠ []) :
    StandsFor ('(' :: joinedText .or (texts.map fun text =>
        (mark ++ quote text.toList, Clause.phrase field text none)) ++ [')'])
      (Clause.joined .or (texts.map fun text => .phrase field text none)) := by
  cases texts with
  | nil => exact absurd rfl present
  | cons first rest =>
      have stand : ∀ p ∈ (first :: rest).map fun text =>
          (mark ++ quote text.toList, Clause.phrase field text none), StandsFor p.1 p.2 := by
        intro p listed
        obtain ⟨text, -, rfl⟩ := List.mem_map.1 listed
        exact marks.standsFor_quote text
      have clauses : ((first :: rest).map fun text =>
          (mark ++ quote text.toList, Clause.phrase field text none)).map Prod.snd =
            (first :: rest).map fun text => Clause.phrase field text none := List.map_map
      rw [← clauses]
      exact standsFor_group .or stand

end

section

variable {texts : List String} {parts : List (List Char × Clause)}

theorem toList_joined (connector : Connector) (same : texts.map String.toList = parts.map Prod.fst) :
    ((" " ++ connector.text ++ " ").intercalate texts).toList = joinedText connector parts := by
  rw [String.toList_intercalate, same]
  simp [joinedText, Connector.separator]

theorem toList_parentheses (connector : Connector)
    (same : texts.map String.toList = parts.map Prod.fst) :
    ("(" ++ (" " ++ connector.text ++ " ").intercalate texts ++ ")").toList =
      '(' :: joinedText connector parts ++ [')'] := by
  rw [String.toList_append, String.toList_append, toList_joined connector same]
  rfl

end

theorem read_of_standsFor {query : String} {clause : Clause} (stands : StandsFor query.toList clause) :
    read query = .ok clause := by
  rw [read, stands.readChars?]

theorem isBlank_unicode {c : Char} (blank : isBlank c = true) : Unicode.isBlank c = true := by
  simp only [isBlank, Bool.or_eq_true, beq_iff_eq] at blank
  rcases blank with ((rfl | rfl) | rfl) | rfl <;> decide

theorem solid_of_hasBlank {s : List Char} (solid : Text.hasBlank s = false) :
    ∀ c ∈ s, isBlank c = false := by
  intro c present
  cases blank : isBlank c with
  | false => rfl
  | true => exact absurd (isBlank_unicode blank) (List.any_eq_false.1 solid c present)

end RecordSearch.Lucene
