import RecordSearch.Proofs.Query.Single
import RecordSearch.Proofs.ResultSet.Compiled
import RecordSearch.Proofs.Text.Fold

/-!
What the lookups of a part of a text find. A pattern does not reach over a line feed, so the text counts as a
whole only if it has one line; its words count in any case.
-/

namespace RecordSearch

theorem Unicode.eq_of_applyRuns {runs : List CaseRun} {n low : Nat} (above : ∀ run ∈ runs, low < run.target)
    (same : applyRuns runs n = low) : n = low := by
  induction runs with
  | nil => exact same
  | cons run runs ih =>
      obtain ⟨here, others⟩ := List.forall_mem_cons.1 above
      rw [applyRuns] at same
      split at same
      · exact same
      · split at same
        · omega
        · exact ih others same

namespace Text

theorem sameFold_feed {a : Char} (same : sameFold a '\n' = true) : a = '\n' := by
  have above : ∀ run ∈ Unicode.foldRuns, 10 < run.target := by decide +kernel
  have feed : Unicode.foldChar '\n' = 10 := by decide
  rw [sameFold, feed, beq_iff_eq] at same
  have code : a.toNat = '\n'.toNat := Unicode.eq_of_applyRuns above same
  exact Char.toNat_inj.1 code

theorem SameFold.feed_mem {v w : List Char} (same : SameFold v w) (feed : '\n' ∈ w) : '\n' ∈ v := by
  induction same with
  | nil => cases feed
  | cons alike same ih =>
      rcases List.mem_cons.1 feed with rfl | later
      · rw [sameFold_feed alike]
        exact List.mem_cons_self
      · exact List.mem_cons_of_mem _ (ih later)

end Text

namespace Wild

open Text (SameFold Occurs Begins)

variable {pattern : List Wild} {v s : List Char}

theorem fits_chars_iff : fits (v.map .char ++ pattern) s = true ↔
    ∃ w rest, s = w ++ rest ∧ SameFold v w ∧ fits pattern rest = true := by
  induction v generalizing s with
  | nil =>
      constructor
      · exact fun found => ⟨[], s, rfl, .nil, found⟩
      · rintro ⟨w, rest, rfl, same, found⟩
        cases same
        exact found
  | cons a v ih =>
      rw [List.map_cons, List.cons_append]
      cases s with
      | nil =>
          rw [fits_char_nil]
          constructor
          · rintro ⟨⟩
          · rintro ⟨w, rest, whole, same, -⟩
            obtain ⟨rfl, -⟩ := List.append_eq_nil_iff.1 whole.symm
            cases same
      | cons c s =>
          rw [fits_char_cons, Bool.and_eq_true, ih]
          constructor
          · rintro ⟨alike, w, rest, rfl, same, found⟩
            exact ⟨c :: w, rest, rfl, .cons alike same, found⟩
          · rintro ⟨w, rest, whole, same, found⟩
            cases same with
            | cons alike same =>
                cases whole
                exact ⟨alike, _, rest, rfl, same, found⟩

theorem fits_many_iff : fits (.many :: pattern) s = true ↔
    ∃ before rest, s = before ++ rest ∧ '\n' ∉ before ∧ fits pattern rest = true := by
  induction s with
  | nil =>
      rw [fits_many_nil]
      constructor
      · exact fun found => ⟨[], [], rfl, List.not_mem_nil, found⟩
      · rintro ⟨before, rest, whole, -, found⟩
        obtain ⟨-, rfl⟩ := List.append_eq_nil_iff.1 whole.symm
        exact found
  | cons c s ih =>
      rw [fits_many_cons, Bool.or_eq_true, Bool.and_eq_true, bne_iff_ne, ih]
      constructor
      · rintro (found | ⟨solid, before, rest, rfl, line, found⟩)
        · exact ⟨[], c :: s, rfl, List.not_mem_nil, found⟩
        · exact ⟨c :: before, rest, rfl, List.not_mem_cons_of_ne_of_not_mem solid.symm line, found⟩
      · rintro ⟨before, rest, whole, line, found⟩
        cases before with
        | nil =>
            rw [List.nil_append] at whole
            rw [← whole] at found
            exact .inl found
        | cons d before =>
            cases whole
            have solid := (List.ne_of_not_mem_cons line).symm
            exact .inr ⟨solid, before, rest, rfl, List.not_mem_of_not_mem_cons line, found⟩

theorem fits_many_end_iff : fits [.many] s = true ↔ '\n' ∉ s := by
  rw [fits_many_iff]
  constructor
  · rintro ⟨before, rest, rfl, line, found⟩
    rw [fits_nil, List.isEmpty_iff] at found
    rw [found, List.append_nil]
    exact line
  · exact fun line => ⟨s, [], (List.append_nil s).symm, line, rfl⟩

theorem fits_begins_iff (line : '\n' ∉ v) :
    fits (v.map .char ++ [.many]) s = true ↔ '\n' ∉ s ∧ Begins v s := by
  rw [fits_chars_iff]
  constructor
  · rintro ⟨w, rest, rfl, same, found⟩
    rw [fits_many_end_iff] at found
    refine ⟨?_, w, List.prefix_append w rest, same⟩
    rw [List.mem_append, not_or]
    exact ⟨fun feed => line (same.feed_mem feed), found⟩
  · rintro ⟨lines, w, ⟨rest, rfl⟩, same⟩
    rw [List.mem_append, not_or] at lines
    exact ⟨w, rest, rfl, same, fits_many_end_iff.2 lines.2⟩

/-- A literal text between anything fits what has the text in it, if it has one line. -/
theorem fits_occurs_iff (line : '\n' ∉ v) :
    fits (.many :: (v.map .char ++ [.many])) s = true ↔ '\n' ∉ s ∧ Occurs v s := by
  rw [fits_many_iff]
  constructor
  · rintro ⟨before, rest, rfl, front, found⟩
    obtain ⟨behind, w, start, same⟩ := (fits_begins_iff line).1 found
    refine ⟨?_, w, start.isInfix.trans (List.suffix_append before rest).isInfix, same⟩
    rw [List.mem_append, not_or]
    exact ⟨front, behind⟩
  · rintro ⟨lines, w, ⟨before, rest, rfl⟩, same⟩
    rw [List.append_assoc, List.mem_append, not_or] at lines
    refine ⟨before, w ++ rest, List.append_assoc before w rest, lines.1, ?_⟩
    exact (fits_begins_iff line).2 ⟨lines.2, w, List.prefix_append w rest, same⟩

end Wild

namespace Lucene

open Text (Occurs Begins)

theorem skip_escapeWhere_isHeld {u k : List Char} (closed : ∀ c ∈ u, isBreak c = false) (solid : skip k = k) :
    skip (escapeWhere isHeld u ++ k) = escapeWhere isHeld u ++ k := by
  have breaks : isBare isHeld = isBreak := funext isBare_isHeld
  have whole : u.dropWhile isBreak = u := by
    cases u with
    | nil => rfl
    | cons c u => rw [List.dropWhile_cons, closed c List.mem_cons_self, if_neg Bool.false_ne_true]
  rw [skip_escapeWhere solid, breaks, whole]

section

variable {contentField field : String} {v : String}

theorem read_contains (named : field = contentField ∨ isName field = true)
    (closed : ∀ c ∈ v.toList, isBreak c = false) :
    read (lookup contentField field .contains (.text v)) =
      .ok (.wildcard (searchedField contentField field) (.many :: (v.toList.map .char ++ [.many]))) := by
  have guarded : Guarded isMark (['*'] ++ (escapeWhere isHeld v.toList ++ ['*'])) :=
    guarded_star.append ((guarded_escapeWhere_isHeld _).append guarded_star)
  have start : skip (['*'] ++ (escapeWhere isHeld v.toList ++ ['*'])) =
      ['*'] ++ (escapeWhere isHeld v.toList ++ ['*']) := skip_of_head (by decide) _
  apply (marks_fieldMark named).read_of_term guarded start (toList_lookup_contains contentField field v)
  exact term?_star [.many] (Guarded.of_all (by decide)) (fun _ => rfl) closed

theorem read_startsWith (named : field = contentField ∨ isName field = true)
    (closed : ∀ c ∈ v.toList, isBreak c = false) :
    read (lookup contentField field .startsWith (.text v)) =
      .ok (.wildcard (searchedField contentField field) (v.toList.map .char ++ [.many])) := by
  have guarded : Guarded isMark (escapeWhere isHeld v.toList ++ ['*']) :=
    (guarded_escapeWhere_isHeld _).append guarded_star
  have start : skip (escapeWhere isHeld v.toList ++ ['*']) = escapeWhere isHeld v.toList ++ ['*'] :=
    skip_escapeWhere_isHeld closed (skip_of_head (by decide) [])
  apply (marks_fieldMark named).read_of_term guarded start (toList_lookup_startsWith contentField field v)
  exact term?_star [] Guarded.nil (fun _ => rfl) closed

end

section

variable {contentField : String} {field : Option String} {pattern : List Wild} {r : Row} {s : String}

/-- A pattern accepts a row if the text of its field or a word of it fits. -/
theorem accepts_wildcard_iff (held : r.searched? contentField field = some (.text s)) :
    (Clause.wildcard field pattern).accepts contentField r = true ↔
      ∃ t ∈ s.toList :: Text.words s.toList, Wild.fits pattern t = true := by
  have accepted : (Clause.wildcard field pattern).accepts contentField r =
      (r.searched? contentField field).any (Match.value (.wildcard field pattern)) :=
    Plan.accepts_of_score (by unfold Clause.score; rfl)
  rw [accepted, held, Option.any_some]
  change ([Value.text s].any fun v => Match.wholeOrWord (Wild.fits pattern) v) = true ↔ _
  rw [List.any_cons, List.any_nil, Bool.or_false, Match.wholeOrWord, Bool.or_eq_true, List.any_eq_true,
    List.exists_mem_cons_iff]

end

/-- A lookup of a substring finds the texts that have it in them, and one of a beginning those that begin with
it, up to case, as far as a text is one line. Of a text with line feeds only its words are found. -/
theorem accepts_lookup_part {contentField field : String} (named : field = contentField ∨ isName field = true)
    {v : String} (closed : ∀ c ∈ v.toList, isBreak c = false) {r : Row} {s : String}
    (held : r.searched? contentField (searchedField contentField field) = some (.text s)) :
    ∃ contains startsWith,
      read (lookup contentField field .contains (.text v)) = .ok contains ∧
      read (lookup contentField field .startsWith (.text v)) = .ok startsWith ∧
      (contains.accepts contentField r = true ↔
        ∃ t ∈ s.toList :: Text.words s.toList, '\n' ∉ t ∧ Occurs v.toList t) ∧
      (startsWith.accepts contentField r = true ↔
        ∃ t ∈ s.toList :: Text.words s.toList, '\n' ∉ t ∧ Begins v.toList t) ∧
      ('\n' ∉ s.toList →
        (v.toList <:+: s.toList → contains.accepts contentField r = true) ∧
        (v.toList <+: s.toList → startsWith.accepts contentField r = true)) := by
  have line : '\n' ∉ v.toList := by
    intro feed
    cases closed _ feed
  have inside : (Clause.wildcard (searchedField contentField field)
      (.many :: (v.toList.map .char ++ [.many]))).accepts contentField r = true ↔
        ∃ t ∈ s.toList :: Text.words s.toList, '\n' ∉ t ∧ Occurs v.toList t := by
    simp only [accepts_wildcard_iff held, Wild.fits_occurs_iff line]
  have first : (Clause.wildcard (searchedField contentField field)
      (v.toList.map .char ++ [.many])).accepts contentField r = true ↔
        ∃ t ∈ s.toList :: Text.words s.toList, '\n' ∉ t ∧ Begins v.toList t := by
    simp only [accepts_wildcard_iff held, Wild.fits_begins_iff line]
  refine ⟨_, _, read_contains named closed, read_startsWith named closed, inside, first, ?_⟩
  intro lines
  constructor
  · intro infixed
    exact inside.2 ⟨_, List.mem_cons_self, lines, _, infixed, Text.sameFold_refl _⟩
  · intro prefixed
    exact first.2 ⟨_, List.mem_cons_self, lines, _, prefixed, Text.sameFold_refl _⟩

def titled (title : String) : Row :=
  ⟨"app.note.1", "app.note", "text", .ofList [("title", .text title)], .empty⟩

theorem accepts_lookup_part_greeting :
    isName "title" = true ∧ (titled "Say hello world!").searched? "text" (some "title") =
      some (.text "Say hello world!") ∧
    ∃ contains, read (lookup "text" "title" .contains (.text "hello world")) = .ok contains ∧
      contains.accepts "text" (titled "Say hello world!") = true := by
  have name : isName "title" = true := by decide
  have held : (titled "Say hello world!").searched? "text" (searchedField "text" "title") =
      some (.text "Say hello world!") := by rfl
  have closed : ∀ c ∈ "hello world".toList, isBreak c = false := by simp [isBreak]
  obtain ⟨contains, _, found, -, -, -, whole⟩ := accepts_lookup_part (.inr name) closed held
  have infixed : "hello world".toList <:+: "Say hello world!".toList := ⟨"Say ".toList, "!".toList, by decide⟩
  exact ⟨name, held, contains, found, (whole (by decide)).1 infixed⟩

/-- A text of two lines is not found by what its first line begins with. -/
theorem not_accepts_lookup_part :
    ¬ ∀ (contentField field v s : String) (r : Row), field = contentField ∨ isName field = true → v ≠ "" →
      (∀ c ∈ v.toList, isBreak c = false) →
      r.searched? contentField (searchedField contentField field) = some (.text s) →
      ∃ contains startsWith,
        read (lookup contentField field .contains (.text v)) = .ok contains ∧
        read (lookup contentField field .startsWith (.text v)) = .ok startsWith ∧
        (v.toList <:+: s.toList → contains.accepts contentField r = true) ∧
        (v.toList <+: s.toList → startsWith.accepts contentField r = true) := by
  intro finds
  have closed : ∀ c ∈ "hello world".toList, isBreak c = false := by simp [isBreak]
  have name : isName "title" = true := by decide
  obtain ⟨contains, _, found, -, accepts, -⟩ := finds "text" "title" "hello world"
    "hello world\nsecond line" (titled "hello world\nsecond line") (.inr name) (by decide) closed rfl
  rw [read_contains (.inr name) closed] at found
  cases found
  have missed : (Clause.wildcard (searchedField "text" "title")
      (.many :: ("hello world".toList.map .char ++ [.many]))).accepts "text"
        (titled "hello world\nsecond line") = false := by decide
  rw [accepts (by decide)] at missed
  cases missed

end Lucene

end RecordSearch
