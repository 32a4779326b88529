import Mathlib.Data.List.Basic
import RecordSearch.Table.Row

/-!
Words near each other. Taking the first occurrence of each next word, and never another, finds the needle
wherever its words stand in order within the limit; without slop they stand side by side.
-/

namespace RecordSearch.Match

variable {words needle : List (List Char)} {word : List Char} {slop start : Nat} {positions : List Nat}

structure StandsAt (words needle : List (List Char)) (positions : List Nat) : Prop where
  rising : positions.Pairwise (· < ·)
  found : positions.map (fun position => words[position]?) = needle.map some

def positionAfter (start : Nat) (positions : List Nat) : Nat :=
  (positions.getLast?.map (· + 1)).getD start

theorem positionAfter_cons (start position : Nat) (positions : List Nat) :
    positionAfter start (position :: positions) = positionAfter (position + 1) positions := by
  rw [positionAfter, positionAfter, List.getLast?_cons]
  cases positions.getLast? <;> rfl

theorem positionAfter_mono {first second : Nat} (before : first ≤ second) (positions : List Nat) :
    positionAfter first positions ≤ positionAfter second positions := by
  rw [positionAfter, positionAfter]
  cases positions.getLast? with
  | none => exact before
  | some last => exact Nat.le_refl _

theorem standsAt_nil_iff : StandsAt words [] positions ↔ positions = [] := by
  constructor
  · exact fun stands => List.map_eq_nil_iff.1 stands.found
  · rintro rfl
    exact ⟨.nil, rfl⟩

theorem standsAt_cons_iff : StandsAt words (word :: needle) positions ↔
    ∃ position later, positions = position :: later ∧ words[position]? = some word ∧
      (∀ other ∈ later, position < other) ∧ StandsAt words needle later := by
  constructor
  · rintro ⟨rising, found⟩
    cases positions with
    | nil => cases found
    | cons position later =>
        obtain ⟨here, others⟩ := List.cons.inj found
        obtain ⟨below, rest⟩ := List.pairwise_cons.1 rising
        exact ⟨position, later, rfl, here, below, rest, others⟩
  · rintro ⟨position, later, rfl, here, below, rest, others⟩
    exact ⟨List.pairwise_cons.2 ⟨below, rest⟩, List.cons_eq_cons.2 ⟨here, others⟩⟩

theorem StandsAt.length_le (stands : StandsAt words needle positions)
    (later : ∀ position ∈ positions, start ≤ position) :
    start + needle.length ≤ positionAfter start positions := by
  induction needle generalizing start positions with
  | nil => rw [standsAt_nil_iff.1 stands]; exact Nat.le_refl start
  | cons word needle ih =>
      obtain ⟨position, others, rfl, -, below, rest⟩ := standsAt_cons_iff.1 stands
      have reached : position + 1 + needle.length ≤ positionAfter (position + 1) others := ih rest below
      have fromStart := later position List.mem_cons_self
      rw [positionAfter_cons, List.length_cons]
      omega

theorem getElem?_of_nextPosition? {position : Nat} (next : nextPosition? slop word words = some position) :
    words[position]? = some word ∧ (0 < slop ∨ position = 0) := by
  rw [nextPosition?] at next
  split at next
  · rename_i first found
    split at next
    · rename_i fits
      cases next
      obtain ⟨inside, here, -⟩ := List.findIdx?_eq_some_iff_getElem.1 found
      exact ⟨List.getElem?_eq_some_iff.2 ⟨inside, of_decide_eq_true here⟩, by simpa using fits⟩
    · cases next
  · cases next

/-- The next position is that of a first occurrence, so none stands before it. -/
theorem exists_nextPosition? {position : Nat} (here : words[position]? = some word)
    (fits : 0 < slop ∨ position = 0) : ∃ first ≤ position, nextPosition? slop word words = some first := by
  obtain ⟨inside, there⟩ := List.getElem?_eq_some_iff.1 here
  cases found : words.findIdx? (· = word) with
  | none =>
      have absent := List.findIdx?_eq_none_iff.1 found _ (List.getElem_mem inside)
      exact absurd there (of_decide_eq_false absent)
  | some first =>
      obtain ⟨_, _, before⟩ := List.findIdx?_eq_some_iff_getElem.1 found
      have least : first ≤ position := by
        by_contra beyond
        exact before position (Nat.lt_of_not_le beyond) (decide_eq_true there)
      have allowed : (decide (0 < slop) || decide (first = 0)) = true := by
        simp only [Bool.or_eq_true, decide_eq_true_eq]
        omega
      refine ⟨first, least, ?_⟩
      rw [nextPosition?]
      simp only [found, if_pos allowed]

theorem span?_cons : span? slop (word :: needle) words =
    (nextPosition? slop word words).bind fun skipped =>
      (span? slop needle (words.drop (skipped + 1))).map (skipped + 1 + ·) := by
  rw [span?]
  cases nextPosition? slop word words <;> rfl

theorem exists_standsAt_of_span? {n : Nat} (reached : span? slop needle (words.drop start) = some n) :
    ∃ positions, StandsAt words needle positions ∧ (∀ position ∈ positions, start ≤ position) ∧
      positionAfter start positions = start + n := by
  induction needle generalizing start n with
  | nil =>
      cases reached
      exact ⟨[], standsAt_nil_iff.2 rfl, List.forall_mem_nil _, rfl⟩
  | cons word needle ih =>
      rw [span?_cons] at reached
      obtain ⟨skipped, next, others⟩ := Option.bind_eq_some_iff.1 reached
      rw [List.drop_drop, Option.map_eq_some_iff] at others
      obtain ⟨m, rest, rfl⟩ := others
      obtain ⟨here, -⟩ := getElem?_of_nextPosition? next
      rw [List.getElem?_drop] at here
      obtain ⟨later, stands, behind, ends⟩ := ih rest
      have above : ∀ position ∈ later, start + skipped < position := behind
      refine ⟨(start + skipped) :: later, standsAt_cons_iff.2 ⟨_, _, rfl, here, above, stands⟩, ?_, ?_⟩
      · intro position listed
        rcases List.mem_cons.1 listed with rfl | there
        · exact Nat.le_add_right _ _
        · have := above position there
          omega
      · rw [positionAfter_cons]
        exact ends.trans (by omega)

/-- Whatever stands in the words is found, and found no later. Without slop that asks for words side by
side. -/
theorem exists_span?_of_standsAt (start slop : Nat) (stands : StandsAt words needle positions)
    (later : ∀ position ∈ positions, start ≤ position)
    (room : 0 < slop ∨ positionAfter start positions ≤ start + needle.length) :
    ∃ n, span? slop needle (words.drop start) = some n ∧ start + n ≤ positionAfter start positions := by
  induction needle generalizing start positions with
  | nil =>
      rw [standsAt_nil_iff.1 stands]
      exact ⟨0, rfl, Nat.le_refl start⟩
  | cons word needle ih =>
      obtain ⟨position, others, rfl, here, below, rest⟩ := standsAt_cons_iff.1 stands
      have fromStart : start ≤ position := later position List.mem_cons_self
      have length : position + 1 + needle.length ≤ positionAfter (position + 1) others :=
        rest.length_le below
      rw [positionAfter_cons, List.length_cons] at room
      rw [positionAfter_cons]
      -- The first occurrence does not stand behind the one that is given.
      have inside : (words.drop start)[position - start]? = some word := by
        rw [List.getElem?_drop, Nat.add_sub_cancel' fromStart]
        exact here
      have fits : 0 < slop ∨ position - start = 0 := by omega
      obtain ⟨skipped, before, next⟩ := exists_nextPosition? inside fits
      have onward : positionAfter (start + skipped + 1) others ≤ positionAfter (position + 1) others :=
        positionAfter_mono (by omega) others
      have behind : ∀ other ∈ others, start + skipped + 1 ≤ other := by
        intro other listed
        have := below other listed
        omega
      obtain ⟨n, reached, early⟩ := ih (start + skipped + 1) rest behind (by omega)
      refine ⟨skipped + 1 + n, ?_, by omega⟩
      rw [span?_cons, next, Option.bind_some, List.drop_drop, ← Nat.add_assoc, reached, Option.map_some]

theorem span?_zero_eq_some_iff {n : Nat} :
    span? 0 needle words = some n ↔ needle <+: words ∧ n = needle.length := by
  induction needle generalizing words n with
  | nil => simp [span?, eq_comm]
  | cons word needle ih =>
      have nearest : ∀ skipped, nextPosition? 0 word words = some skipped ↔
          words[0]? = some word ∧ skipped = 0 := by
        intro skipped
        constructor
        · intro next
          obtain ⟨here, near⟩ := getElem?_of_nextPosition? next
          have first : skipped = 0 := by omega
          exact ⟨first ▸ here, first⟩
        · rintro ⟨here, rfl⟩
          obtain ⟨first, least, next⟩ := exists_nextPosition? here (.inr rfl)
          rwa [Nat.le_zero.1 least] at next
      rw [span?_cons, Option.bind_eq_some_iff]
      simp only [nearest, Option.map_eq_some_iff, ih]
      cases words with
      | nil => simp
      | cons first words =>
          rw [List.cons_prefix_cons]
          simp only [List.getElem?_cons_zero, Option.some.injEq, List.length_cons]
          constructor
          · rintro ⟨_, ⟨rfl, rfl⟩, m, ⟨front, rfl⟩, rfl⟩
            exact ⟨⟨rfl, front⟩, by omega⟩
          · rintro ⟨⟨rfl, front⟩, rfl⟩
            exact ⟨0, ⟨rfl, rfl⟩, _, ⟨front, rfl⟩, by omega⟩

theorem beginsWith_cons_iff {first : List Char} :
    beginsWith (first :: words) (word :: needle) slop = true ↔
      first = word ∧ ∃ n ≤ needle.length + slop, span? slop needle words = some n := by
  have limit : spanLimit (word :: needle) slop = needle.length + slop := rfl
  simp only [beginsWith, limit, Bool.and_eq_true, beq_iff_eq]
  apply and_congr_right
  rintro rfl
  cases span? slop needle words with
  | none => simp
  | some n => simp

theorem beginsWith_drop_iff : beginsWith (words.drop start) (word :: needle) slop = true ↔
    words[start]? = some word ∧
      ∃ n ≤ needle.length + slop, span? slop needle (words.drop (start + 1)) = some n := by
  cases rest : words.drop start with
  | nil =>
      have outside : words[start]? = none := List.getElem?_eq_none (List.drop_eq_nil_iff.1 rest)
      simp [beginsWith, outside]
  | cons first later =>
      have here : words[start]? = some first := by
        rw [← List.head?_drop, rest]
        rfl
      have after : words.drop (start + 1) = later := by
        rw [← List.drop_drop, rest]
        rfl
      rw [beginsWith_cons_iff, here, after, Option.some.injEq]

theorem containsWords_eq_true_iff : containsWords words needle slop = true ↔
    ∃ start, beginsWith (words.drop start) needle slop = true := by
  induction words with
  | nil =>
      constructor
      · rintro ⟨⟩
      · rintro ⟨start, begins⟩
        rw [List.drop_nil] at begins
        cases begins
  | cons first words ih =>
      rw [containsWords, Bool.or_eq_true, ih]
      constructor
      · rintro (begins | ⟨start, begins⟩)
        · exact ⟨0, begins⟩
        · exact ⟨start + 1, begins⟩
      · rintro ⟨_ | start, begins⟩
        · exact .inl begins
        · exact .inr ⟨start, begins⟩

theorem containsWords_nil (words : List (List Char)) (slop : Nat) : containsWords words [] slop = false := by
  rw [← Bool.not_eq_true, containsWords_eq_true_iff]
  rintro ⟨start, begins⟩
  cases rest : words.drop start <;> rw [rest] at begins <;> cases begins

theorem containsWords_zero_iff :
    containsWords words needle 0 = true ↔ needle ≠ [] ∧ needle <:+: words := by
  cases needle with
  | nil => simp [containsWords_nil]
  | cons word needle =>
      induction words with
      | nil => simp [containsWords]
      | cons first words ih =>
          rw [containsWords, Bool.or_eq_true, ih, List.infix_cons_iff, beginsWith_cons_iff,
            List.cons_prefix_cons, eq_comm (a := word)]
          have front : (∃ n ≤ needle.length + 0, span? 0 needle words = some n) ↔ needle <+: words := by
            constructor
            · rintro ⟨n, -, reached⟩
              exact (span?_zero_eq_some_iff.1 reached).1
            · exact fun stands => ⟨_, Nat.le_refl _, span?_zero_eq_some_iff.2 ⟨stands, rfl⟩⟩
          rw [front]
          simp only [ne_eq, reduceCtorEq, not_false_eq_true, true_and]

/-- A needle is found exactly if its words stand in order, with at most `slop` other words between the first
of them and the last. Without slop they stand side by side. -/
theorem containsWords_iff (words needle : List (List Char)) (slop : Nat) :
    (containsWords words needle slop = true ↔
      ∃ positions first last, StandsAt words needle positions ∧
        positions.head? = some first ∧ positions.getLast? = some last ∧
        last - first ≤ needle.length - 1 + slop) ∧
    (containsWords words needle 0 = true ↔ needle ≠ [] ∧ needle <:+: words) ∧
    containsWords words [] slop = false := by
  refine ⟨?_, containsWords_zero_iff, containsWords_nil words slop⟩
  cases needle with
  | nil =>
      rw [containsWords_nil]
      constructor
      · rintro ⟨⟩
      · rintro ⟨positions, first, last, stands, begins, -⟩
        rw [standsAt_nil_iff.1 stands] at begins
        cases begins
  | cons word needle =>
      rw [containsWords_eq_true_iff]
      constructor
      · rintro ⟨start, begins⟩
        obtain ⟨here, n, within, reached⟩ := beginsWith_drop_iff.1 begins
        obtain ⟨later, stands, behind, ends⟩ := exists_standsAt_of_span? reached
        refine ⟨start :: later, start, later.getLast?.getD start,
          standsAt_cons_iff.2 ⟨_, _, rfl, here, behind, stands⟩, rfl, List.getLast?_cons, ?_⟩
        have last : positionAfter (start + 1) later = later.getLast?.getD start + 1 := by
          rw [positionAfter]
          cases later.getLast? <;> rfl
        rw [List.length_cons]
        omega
      · rintro ⟨positions, first, last, stands, begins, ends, within⟩
        obtain ⟨position, later, rfl, here, behind, rest⟩ := standsAt_cons_iff.1 stands
        cases begins
        have behindLast : positionAfter (first + 1) later = last + 1 := by
          rw [← positionAfter_cons first, positionAfter, ends]
          rfl
        rw [List.length_cons] at within
        obtain ⟨n, reached, early⟩ := exists_span?_of_standsAt (first + 1) slop rest behind (by omega)
        exact ⟨first, beginsWith_drop_iff.2 ⟨here, n, by omega, reached⟩⟩

example : containsWords ["a".toList, "b".toList, "a".toList, "c".toList] ["a".toList, "c".toList] 0 = true := by
  decide

end RecordSearch.Match
