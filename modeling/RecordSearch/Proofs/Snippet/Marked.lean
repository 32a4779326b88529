import RecordSearch.Proofs.Snippet.Cut
import RecordSearch.Proofs.Snippet.Plain
import RecordSearch.Proofs.Text.Fold

/-!
Snippets with the words of a query in tags. Nothing of the text within the window is lost or moved, the tags stand
around words of the query, the longest of those that begin there, and none is left out.
-/

namespace RecordSearch.Highlighter

open Text (SameFold Occurs Begins IsCut IsSlice byteLength)

/-- A text, and the same text with tags around words: in the parts outside the tags no word occurs, and where one is
in tags no longer word begins. -/
inductive Marked (h : Highlighter) : List Char → List Char → Prop
  | plain {u : List Char} : (∀ word ∈ h.words, ¬ Occurs word.toList u) → Marked h u u
  | word {u w rest body : List Char} {word : String} :
      (∀ other ∈ h.words, ¬ Occurs other.toList u) →
      word ∈ h.words → SameFold word.toList w →
      (∀ other ∈ h.words, word.utf8ByteSize < other.utf8ByteSize → ¬ Begins other.toList (w ++ rest)) →
      Marked h rest body →
      Marked h (u ++ w ++ rest) (u ++ h.openTag ++ w ++ h.closeTag ++ body)

variable {h : Highlighter} {words : List (List Char)} {c : Char} {s body : List Char} {n : Nat}

theorem wordAt?_eq_none_iff : wordAt? words s = none ↔ ∀ word ∈ words, ¬ Begins word s := by
  rw [wordAt?, List.findSome?_eq_none_iff]
  apply forall₂_congr
  intro word _
  rw [Option.map_eq_none_iff, Text.begins_iff, Option.eq_none_iff_forall_ne_some, not_exists]

theorem exists_of_wordAt? (found : wordAt? words s = some n) :
    ∃ front word back w rest, words = front ++ word :: back ∧ s = w ++ rest ∧ SameFold word w ∧ w.length = n ∧
      ∀ earlier ∈ front, ¬ Begins earlier s := by
  obtain ⟨front, word, back, whole, here, before⟩ := List.findSome?_eq_some_iff.1 found
  obtain ⟨rest, read, rfl⟩ := Option.map_eq_some_iff.1 here
  obtain ⟨w, text, same⟩ := Text.dropFolded?_eq_some_iff.1 read
  refine ⟨front, word, back, w, rest, whole, text, same, same.length_eq.symm, ?_⟩
  intro earlier there begins
  obtain ⟨rest, read⟩ := Text.begins_iff.1 begins
  have none := before earlier there
  rw [read] at none
  cases none

theorem mem_longestFirst {word : List Char} (words : List String) :
    word ∈ longestFirst words ↔ ∃ text ∈ words, text.toList = word := by
  rw [longestFirst, List.mem_map]
  simp only [List.mem_mergeSort]

/-- Of the words that begin a text, the one that is found is one of the longest. -/
theorem exists_longest_of_wordAt? {words : List String} (found : wordAt? (longestFirst words) s = some n) :
    ∃ word ∈ words, ∃ w rest, s = w ++ rest ∧ SameFold word.toList w ∧ w.length = n ∧
      ∀ other ∈ words, word.utf8ByteSize < other.utf8ByteSize → ¬ Begins other.toList s := by
  obtain ⟨front, chars, back, w, rest, whole, text, same, length, before⟩ := exists_of_wordAt? found
  rw [longestFirst, List.map_eq_append_iff] at whole
  obtain ⟨longer, others, sorted, rfl, cut⟩ := whole
  obtain ⟨word, shorter, rfl, rfl, rfl⟩ := List.map_eq_cons_iff.1 cut
  have descending : (words.mergeSort fun a b => decide (b.utf8ByteSize ≤ a.utf8ByteSize)).Pairwise fun a b =>
      decide (b.utf8ByteSize ≤ a.utf8ByteSize) = true := by
    apply List.pairwise_mergeSort
    · intro a b c first second
      rw [decide_eq_true_eq] at first second ⊢
      exact second.trans first
    · intro a b
      rw [Bool.or_eq_true, decide_eq_true_eq, decide_eq_true_eq]
      exact Nat.le_total _ _
  have listed : ∀ other, other ∈ words ↔ other ∈ longer ++ word :: shorter := by
    intro other
    rw [← sorted, List.mem_mergeSort]
  rw [sorted] at descending
  refine ⟨word, (listed word).2 (List.mem_append_right longer List.mem_cons_self), w, rest, text, same, length, ?_⟩
  intro other there above
  rcases List.mem_append.1 ((listed other).1 there) with early | late
  · exact before other.toList (List.mem_map_of_mem early)
  · rcases List.mem_cons.1 late with rfl | later
    · exact absurd above (Nat.lt_irrefl _)
    · have below := of_decide_eq_true
        ((List.pairwise_cons.1 (List.pairwise_append.1 descending).2.1).1 other later)
      omega

theorem tagWords_left (h : Highlighter) (words : List (List Char)) {w : List Char} (present : w ≠ [])
    (rest : List Char) :
    h.tagWords words w.length (w ++ rest) = w ++ h.closeTag ++ h.tagWords words 0 rest := by
  induction w with
  | nil => exact absurd rfl present
  | cons c w ih =>
      cases w with
      | nil => rfl
      | cons d w => exact congrArg (c :: ·) (ih (List.cons_ne_nil d w))

theorem tagWords_word {w rest : List Char} (present : w ≠ [])
    (found : wordAt? words (w ++ rest) = some w.length) :
    h.tagWords words 0 (w ++ rest) = h.openTag ++ w ++ h.closeTag ++ h.tagWords words 0 rest := by
  cases w with
  | nil => exact absurd rfl present
  | cons c w =>
      rw [List.cons_append] at found ⊢
      rw [tagWords, found]
      cases w with
      | nil => simp
      | cons d w =>
          have left := h.tagWords_left words (List.cons_ne_nil d w) rest
          simp only [List.length_cons] at left ⊢
          rw [left]
          simp

theorem tagWords_plain (none : wordAt? words (c :: s) = none) :
    h.tagWords words 0 (c :: s) = c :: h.tagWords words 0 s := by
  rw [tagWords, none]

namespace Marked

theorem cons (none : ∀ word ∈ h.words, ¬ Begins word.toList (c :: s)) (marked : Marked h s body) :
    Marked h (c :: s) (c :: body) := by
  cases marked with
  | plain free =>
      apply plain
      intro word there occurs
      exact (Text.occurs_cons_iff.1 occurs).elim (none word there) (free word there)
  | @word u w rest body word free listed same longest marked =>
      refine .word (u := c :: u) ?_ listed same longest marked
      intro other there occurs
      rcases Text.occurs_cons_iff.1 occurs with begins | later
      · apply none other there
        rw [List.append_assoc]
        exact begins.append (w ++ rest)
      · exact free other there later

end Marked

/-- Tags are put around words, from the left and as long as possible. -/
theorem marked_tagWords (present : ∀ word ∈ h.words, word.toList ≠ []) (s : List Char) :
    Marked h s (h.tagWords (longestFirst h.words) 0 s) := by
  induction size : s.length using Nat.strong_induction_on generalizing s with
  | _ n ih =>
    cases s with
    | nil => exact .plain fun word there => Text.not_occurs_nil (present word there)
    | cons c s =>
        cases found : wordAt? (longestFirst h.words) (c :: s) with
        | none =>
            have none : ∀ word ∈ h.words, ¬ Begins word.toList (c :: s) := by
              intro word there
              exact wordAt?_eq_none_iff.1 found word.toList ((mem_longestFirst h.words).2 ⟨word, there, rfl⟩)
            rw [tagWords_plain found]
            exact .cons none (ih s.length (by rw [← size, List.length_cons]; omega) s rfl)
        | some length =>
            obtain ⟨word, listed, w, rest, text, same, rfl, longest⟩ := exists_longest_of_wordAt? found
            have some : w ≠ [] := by
              rintro rfl
              cases hw : word.toList
              · exact present word listed hw
              · rw [hw] at same
                cases same
            rw [text] at found longest size ⊢
            have shorter : rest.length < n := by
              have := List.length_pos_of_ne_nil some
              rw [← size, List.length_append]
              omega
            rw [tagWords_word some found]
            have whole := Marked.word (u := []) (fun other there => Text.not_occurs_nil (present other there))
              listed same longest (ih rest.length shorter rest rfl)
            simpa using whole

theorem lower_ne_nil (present : s ≠ []) : Text.lower s ≠ [] := by
  cases s with
  | nil => exact absurd rfl present
  | cons c s =>
      rw [Text.lower, Text.lowerAfter]
      apply List.append_ne_nil_of_left_ne_nil
      split
      · exact List.cons_ne_nil _ _
      · rw [Unicode.lowerChar]
        split
        · exact List.cons_ne_nil _ _
        · exact List.cons_ne_nil _ _

theorem toList_ne_nil_of_mem_queryWords {query word : String} (there : word ∈ queryWords query) :
    word.toList ≠ [] := by
  rcases mem_foldl_insertSorted.1 there with listed | none
  · obtain ⟨raw, kept, rfl⟩ := List.mem_map.1 listed
    have present := (List.mem_filter.1 (List.mem_filter.1 kept).1).2
    rw [String.toList_ofList]
    apply lower_ne_nil
    simpa using present
  · cases none

/-- A snippet is a slice of the text without its tags, with tags around the words of the query and dots where text
is cut off. The slice is the chosen window, moved back to where characters begin. -/
theorem highlight_insertsTags (query text : String) (maxLength : Nat) (tag : String) (cssClass : Option String) :
    let h : Highlighter := { ofQuery query with maxLength := maxLength, tag := tag, cssClass := cssClass }
    let plain := stripTags text.toList
    let window := h.window (h.locations plain)
    WithoutTags text.toList plain ∧ ¬ HasTag plain ∧
      ∃ start stop chunk body, IsCut plain window.1 start ∧ IsCut plain window.2 stop ∧
        IsSlice plain start (max start stop) chunk ∧ Marked h chunk body ∧
        (h.highlight text).toList =
          (if 0 < start then dots else []) ++ body ++ (if stop < byteLength plain then dots else []) := by
  intro h plain window
  have without : WithoutTags text.toList plain := withoutTags_stripTags text.toList
  have present : ∀ word ∈ h.words, word.toList ≠ [] := fun word there => toList_ne_nil_of_mem_queryWords there
  refine ⟨without, without.not_hasTag, _, _, _, _, isCut_takeBytes window.1 plain, isCut_takeBytes window.2 plain,
    isSlice_takeBytes window.1 window.2 plain, marked_tagWords present _, ?_⟩
  have rendered : h.highlight text = String.ofList (h.render plain window.1 window.2) := rfl
  rw [rendered, String.toList_ofList, render, if_congr isEmpty_takeBytes_iff rfl rfl,
    if_congr length_takeBytes_lt_iff rfl rfl, ite_not]

end RecordSearch.Highlighter
