import Mathlib.Data.List.Count
import Mathlib.Data.List.Infix
import Mathlib.Data.List.Sort
import RecordSearch.Snippet

/-!
The window of a snippet. The search for it looks at the offsets only, one after the other and each time at those
that follow; it is the first of the densest windows at all.
-/

namespace RecordSearch.Highlighter

open scoped List

/-- The number of offsets in a window that starts anywhere, before the text included. -/
def countIn (length : Nat) (offsets : List Nat) (start : Int) : Nat :=
  offsets.countP fun offset : Nat => start ≤ (offset : Int) ∧ (offset : Int) < start + length

/-- An offset from which on no window anywhere holds more offsets, the first of this kind. -/
structure IsDensest (length : Nat) (offsets : List Nat) (start : Nat) : Prop where
  listed : start ∈ offsets
  most : ∀ other : Int, countIn length offsets other ≤ countIn length offsets start
  first : ∀ offset ∈ offsets, countIn length offsets offset = countIn length offsets start → start ≤ offset

variable {length start : Nat} {offsets s : List Nat}

theorem length_takeWhile {p : Nat → Bool} (falling : s.Pairwise fun a b => p b = true → p a = true) :
    (s.takeWhile p).length = s.countP p := by
  induction s with
  | nil => rfl
  | cons a s ih =>
      obtain ⟨head, others⟩ := List.pairwise_cons.1 falling
      by_cases taken : p a = true
      · rw [List.takeWhile_cons_of_pos taken, List.countP_cons_of_pos taken, List.length_cons, ih others]
      · have none : s.countP p = 0 := List.countP_eq_zero.2 fun b there also => taken (head b there also)
        rw [List.takeWhile_cons_of_neg taken, List.countP_cons_of_neg taken, none, List.length_nil]

theorem countIn_eq_zero (empty : length = 0) (offsets : List Nat) (x : Int) : countIn length offsets x = 0 := by
  rw [countIn, List.countP_eq_zero]
  intro offset there
  rw [decide_eq_true_eq]
  omega

theorem density_eq (length : Nat) (ascending : (start :: s).Pairwise (· ≤ ·)) :
    density length (start :: s) = max 1 (countIn length (start :: s) start) := by
  obtain ⟨least, others⟩ := List.pairwise_cons.1 ascending
  have falling : s.Pairwise fun a b =>
      decide (b - start < length) = true → decide (a - start < length) = true := by
    apply others.imp
    intro a b order near
    rw [decide_eq_true_eq] at near ⊢
    omega
  have later : s.countP (fun offset => decide (offset - start < length)) = countIn length s start := by
    apply List.countP_congr
    intro offset there
    have := least offset there
    rw [decide_eq_true_eq, decide_eq_true_eq]
    omega
  rw [density, length_takeWhile falling, later]
  by_cases empty : length = 0
  · rw [countIn_eq_zero empty, countIn_eq_zero empty]
    rfl
  · have here : countIn length (start :: s) start = countIn length s start + 1 := by
      apply List.countP_cons_of_pos
      rw [decide_eq_true_eq]
      omega
    omega

/-- The search ends at the first of the densest offsets, or where it began if none is denser than that. -/
theorem densest_cases (length : Nat) (best : Nat × Nat) (s : List Nat) :
    (densest length best s = best.1 ∧ ∀ t, t <:+ s → density length t ≤ best.2) ∨
      ∃ start rest, start :: rest <:+ s ∧ densest length best s = start ∧
        best.2 < density length (start :: rest) ∧
        (∀ t, t <:+ s → density length t ≤ density length (start :: rest)) ∧
        ∀ t, t <:+ s → (start :: rest).length < t.length → density length t < density length (start :: rest) := by
  induction s generalizing best with
  | nil =>
      refine Or.inl ⟨rfl, ?_⟩
      rintro t inside
      rw [List.suffix_nil.1 inside]
      exact Nat.zero_le _
  | cons a s ih =>
      rw [densest]
      split
      · rename_i denser
        -- the head is the best so far, and stays it unless a later offset is denser still
        rcases ih (a, density length (a :: s)) with ⟨same, others⟩ | ⟨start, rest, inside, same, denserStill, most, first⟩
        · refine Or.inr ⟨a, s, List.suffix_refl _, same, denser, ?_, ?_⟩
          · intro t suffix
            rcases List.suffix_cons_iff.1 suffix with rfl | suffix
            · exact Nat.le_refl _
            · exact others t suffix
          · intro t suffix longer
            have := suffix.length_le
            omega
        · refine Or.inr ⟨start, rest, inside.trans (List.suffix_cons a s), same, denser.trans denserStill, ?_, ?_⟩
          · intro t suffix
            rcases List.suffix_cons_iff.1 suffix with rfl | suffix
            · exact Nat.le_of_lt denserStill
            · exact most t suffix
          · intro t suffix longer
            rcases List.suffix_cons_iff.1 suffix with rfl | suffix
            · exact denserStill
            · exact first t suffix longer
      · rename_i sparse
        rcases ih best with ⟨same, others⟩ | ⟨start, rest, inside, same, denser, most, first⟩
        · refine Or.inl ⟨same, ?_⟩
          intro t suffix
          rcases List.suffix_cons_iff.1 suffix with rfl | suffix
          · exact Nat.le_of_not_lt sparse
          · exact others t suffix
        · refine Or.inr ⟨start, rest, inside.trans (List.suffix_cons a s), same, denser, ?_, ?_⟩
          · intro t suffix
            rcases List.suffix_cons_iff.1 suffix with rfl | suffix
            · omega
            · exact most t suffix
          · intro t suffix longer
            rcases List.suffix_cons_iff.1 suffix with rfl | suffix
            · omega
            · exact first t suffix longer

theorem exists_cut (offsets : List Nat) (x : Int) :
    (∀ offset ∈ offsets, (offset : Int) < x) ∨
      ∃ (front : List Nat) (next : Nat) (rest : List Nat),
        offsets = front ++ next :: rest ∧ (∀ offset ∈ front, (offset : Int) < x) ∧ x ≤ next := by
  induction offsets with
  | nil => exact Or.inl fun offset there => nomatch there
  | cons a offsets ih =>
      by_cases before : (a : Int) < x
      · rcases ih with all | ⟨front, next, rest, rfl, all, reached⟩
        · exact Or.inl (List.forall_mem_cons.2 ⟨before, all⟩)
        · exact Or.inr ⟨a :: front, next, rest, rfl, List.forall_mem_cons.2 ⟨before, all⟩, reached⟩
      · exact Or.inr ⟨[], a, offsets, rfl, fun offset there => (nomatch there), Int.not_lt.1 before⟩

theorem countIn_append (length : Nat) {front : List Nat} {x : Int} (before : ∀ offset ∈ front, (offset : Int) < x)
    (rest : List Nat) : countIn length (front ++ rest) x = countIn length rest x := by
  have none : countIn length front x = 0 := by
    rw [countIn, List.countP_eq_zero]
    intro offset there
    have := before offset there
    rw [decide_eq_true_eq]
    omega
  rw [countIn, List.countP_append, ← countIn, none, Nat.zero_add, ← countIn]

/-- A window loses nothing when it is moved to the first offset that is in it or behind its start. -/
theorem countIn_le_of_first {x : Int} (reached : x ≤ start) (ascending : (start :: s).Pairwise (· ≤ ·)) :
    countIn length (start :: s) x ≤ countIn length (start :: s) start := by
  apply List.countP_mono_left
  intro offset there within
  have order := List.forall_mem_cons.2 ⟨Nat.le_refl start, (List.pairwise_cons.1 ascending).1⟩ offset there
  rw [decide_eq_true_eq] at within ⊢
  omega

theorem countIn_suffix_le (length : Nat) (inside : s <:+ offsets) (x : Int) : countIn length s x ≤ countIn length offsets x :=
  inside.sublist.countP_le

/-- Of ascending offsets, the first of those that are densest among what follows them is the densest of all. -/
theorem isDensest_of_suffixes {rest : List Nat} (ascending : offsets.Pairwise (· ≤ ·))
    (inside : start :: rest <:+ offsets)
    (most : ∀ t, t <:+ offsets → density length t ≤ density length (start :: rest))
    (first : ∀ t, t <:+ offsets → (start :: rest).length < t.length →
      density length t < density length (start :: rest)) : IsDensest length offsets start := by
  have listed : start ∈ offsets := inside.subset List.mem_cons_self
  have own : density length (start :: rest) ≤ max 1 (countIn length offsets start) := by
    rw [density_eq length (ascending.sublist inside.sublist)]
    have := countIn_suffix_le length inside start
    omega
  refine ⟨listed, ?_, ?_⟩
  · intro x
    by_cases empty : length = 0
    · rw [countIn_eq_zero empty]
      exact Nat.zero_le _
    have held : 0 < countIn length offsets start := by
      apply List.countP_pos_iff.2
      refine ⟨start, listed, ?_⟩
      rw [decide_eq_true_eq]
      omega
    rcases exists_cut offsets x with before | ⟨front, next, others, whole, before, reached⟩
    · have none := countIn_append length before []
      rw [List.append_nil] at none
      rw [none]
      exact Nat.zero_le _
    · have suffix : next :: others <:+ offsets := ⟨front, whole.symm⟩
      have order := ascending.sublist suffix.sublist
      have moved : countIn length offsets x ≤ countIn length (next :: others) next := by
        rw [whole, countIn_append length before]
        exact countIn_le_of_first reached order
      have dense := density_eq length order
      have := most _ suffix
      omega
  · intro offset there same
    rcases exists_cut offsets offset with before | ⟨front, next, others, whole, before, reached⟩
    · exact absurd (before offset there) (Int.lt_irrefl _)
    have suffix : next :: others <:+ offsets := ⟨front, whole.symm⟩
    have order := ascending.sublist suffix.sublist
    have behind : offset ∈ next :: others := by
      rw [whole] at there
      exact (List.mem_append.1 there).resolve_left fun early => Int.lt_irrefl _ (before offset early)
    have least := List.forall_mem_cons.2 ⟨Nat.le_refl next, (List.pairwise_cons.1 order).1⟩ offset behind
    obtain rfl : next = offset := by omega
    by_contra early
    -- The offset stands before the suffix that was chosen, and its own suffix is as dense.
    have longer : (start :: rest).length < (next :: others).length := by
      by_contra short
      have within := List.suffix_of_suffix_length_le suffix inside (Nat.le_of_not_lt short)
      have later := List.forall_mem_cons.2 ⟨Nat.le_refl start,
        (List.pairwise_cons.1 (ascending.sublist inside.sublist)).1⟩ next (within.subset List.mem_cons_self)
      exact early later
    have sparser := first _ suffix longer
    rw [density_eq length order, ← countIn_append length before, ← whole, same] at sparser
    omega

theorem IsDensest.perm (densest : IsDensest length offsets start) (perm : offsets ~ s) :
    IsDensest length s start := by
  have counts : ∀ x, countIn length offsets x = countIn length s x := fun x => perm.countP_eq _
  refine ⟨perm.mem_iff.1 densest.listed, ?_, ?_⟩
  · intro x
    rw [← counts, ← counts]
    exact densest.most x
  · intro offset there same
    rw [← counts, ← counts] at same
    exact densest.first offset (perm.mem_iff.2 there) same

/-- The window of a snippet starts at the first of the offsets from which on no window holds more of them, or at
the text's start if there is no offset, and ends as far behind as a snippet is long. -/
theorem window_isDensest (h : Highlighter) (locations : List (String × List Nat)) :
    ((locations.flatMap Prod.snd = [] ∧ (h.window locations).1 = 0) ∨
        IsDensest h.maxLength (locations.flatMap Prod.snd) (h.window locations).1) ∧
      (h.window locations).2 = min ((h.window locations).1 + h.maxLength) maxOffset := by
  refine ⟨?_, rfl⟩
  have perm := List.mergeSort_perm (locations.flatMap Prod.snd) fun a b => decide (a ≤ b)
  have ascending := List.pairwise_mergeSort' (· ≤ ·) (locations.flatMap Prod.snd)
  rcases densest_cases h.maxLength (0, 0) ((locations.flatMap Prod.snd).mergeSort fun a b => decide (a ≤ b)) with
    ⟨same, none⟩ | ⟨start, rest, inside, same, -, most, first⟩
  · refine Or.inl ⟨?_, same⟩
    cases found : (locations.flatMap Prod.snd).mergeSort fun a b => decide (a ≤ b) with
    | nil => exact List.nil_perm.1 (found ▸ perm)
    | cons start rest =>
        have sparse := none (start :: rest) (found ▸ List.suffix_refl _)
        rw [density] at sparse
        omega
  · have densest := isDensest_of_suffixes ascending inside most first
    have start_eq : (h.window locations).1 = start := same
    refine Or.inr ?_
    rw [start_eq]
    exact densest.perm perm

end RecordSearch.Highlighter
