import Mathlib.Data.List.Induction
import RecordSearch.Table.Search

/-!
Changes to the rows of a table. After any changes the table holds the latest row of each identity, and
identities stand in the order in which they came in.
-/

namespace RecordSearch.Table

inductive Change where
  | put (row : Row)
  | remove (identity : String)
  /-- Drops the rows of the models, or without any model all rows. -/
  | clear (models : List ModelType)

namespace Change

def apply (rows : List Row) : Change → List Row
  | put row => putRow row rows
  | remove identity => rows.filter fun r => r.identity ≠ identity
  | clear models =>
    if models.isEmpty then [] else rows.filter fun r => !(models.map ModelType.label).contains r.model

def Drops (r : Row) : Change → Prop
  | put _ => False
  | remove identity => identity = r.identity
  | clear models => models = [] ∨ r.model ∈ models.map ModelType.label

def Puts (identity : String) (change : Change) : Prop :=
  ∃ row, change = put row ∧ row.identity = identity

end Change

/-- The last row put under its identity, and dropped by nothing since. -/
def IsLatest (changes : List Change) (r : Row) : Prop :=
  ∃ before after, changes = before ++ .put r :: after ∧
    ∀ change ∈ after, ¬ change.Puts r.identity ∧ ¬ change.Drops r

/-- Whether changes leave a row of this identity. -/
def Holds (changes : List Change) (identity : String) : Prop :=
  ∃ r, IsLatest changes r ∧ r.identity = identity

/-- The place of the change since which an identity has been there without a break. -/
structure CameIn (changes : List Change) (identity : String) (place : Nat) : Prop where
  put : ∃ change, changes[place]? = some change ∧ change.Puts identity
  fresh : ¬ Holds (changes.take place) identity
  kept : ∀ n, place < n → n ≤ changes.length → Holds (changes.take n) identity

section

variable {rows : List Row} {row : Row}

theorem identities_putRow (row : Row) (rows : List Row) :
    (putRow row rows).map Row.identity =
      if row.identity ∈ rows.map Row.identity then rows.map Row.identity
      else rows.map Row.identity ++ [row.identity] := by
  induction rows with
  | nil => simp [putRow]
  | cons r rest ih =>
      by_cases same : r.identity = row.identity
      · simp [putRow, same]
      · simp only [putRow, if_neg same, List.map_cons, ih, List.mem_cons, Ne.symm same, false_or]
        split
        · rfl
        · rfl

theorem nodup_putRow (distinct : (rows.map Row.identity).Nodup) (row : Row) :
    ((putRow row rows).map Row.identity).Nodup := by
  rw [identities_putRow]
  split
  · exact distinct
  · rename_i new
    rw [List.nodup_append]
    refine ⟨distinct, by simp, ?_⟩
    intro a there b last same
    rw [List.mem_singleton.1 last] at same
    exact new (same ▸ there)

theorem mem_putRow (distinct : (rows.map Row.identity).Nodup) {r : Row} :
    r ∈ putRow row rows ↔ r = row ∨ r ∈ rows ∧ r.identity ≠ row.identity := by
  induction rows with
  | nil => simp [putRow]
  | cons first rest ih =>
      rw [List.map_cons, List.nodup_cons] at distinct
      obtain ⟨new, distinct⟩ := distinct
      by_cases same : first.identity = row.identity
      · have others : ∀ other ∈ rest, other.identity ≠ row.identity := by
          intro other there equal
          exact new (List.mem_map.2 ⟨other, there, equal.trans same.symm⟩)
        simp only [putRow, if_pos same, List.mem_cons]
        constructor
        · rintro (rfl | later)
          · exact Or.inl rfl
          · exact Or.inr ⟨Or.inr later, others r later⟩
        · rintro (rfl | ⟨rfl | later, other⟩)
          · exact Or.inl rfl
          · exact absurd same other
          · exact Or.inr later
      · simp only [putRow, if_neg same, List.mem_cons, ih distinct]
        constructor
        · rintro (rfl | rfl | ⟨later, other⟩)
          · exact Or.inr ⟨Or.inl rfl, same⟩
          · exact Or.inl rfl
          · exact Or.inr ⟨Or.inr later, other⟩
        · rintro (rfl | ⟨rfl | later, other⟩)
          · exact Or.inr (Or.inl rfl)
          · exact Or.inl rfl
          · exact Or.inr (Or.inr ⟨later, other⟩)

end

namespace Change

variable {rows : List Row}

theorem nodup_apply (distinct : (rows.map Row.identity).Nodup) (change : Change) :
    ((change.apply rows).map Row.identity).Nodup := by
  cases change with
  | put row => exact nodup_putRow distinct row
  | remove identity => exact (List.filter_sublist.map Row.identity).nodup distinct
  | clear models =>
      rw [apply]
      split
      · exact List.nodup_nil
      · exact (List.filter_sublist.map Row.identity).nodup distinct

theorem mem_apply (distinct : (rows.map Row.identity).Nodup) {change : Change} {r : Row} :
    r ∈ change.apply rows ↔
      change = put r ∨ r ∈ rows ∧ ¬ change.Puts r.identity ∧ ¬ change.Drops r := by
  cases change with
  | put row =>
      simp only [apply, mem_putRow distinct, Puts, Drops, put.injEq, exists_eq_left', not_false_eq_true,
        and_true, ne_eq, eq_comm]
  | remove identity =>
      simp only [apply, List.mem_filter, decide_eq_true_eq, reduceCtorEq, false_or, Puts, false_and,
        exists_false, not_false_eq_true, true_and, Drops, ne_comm, ne_eq]
  | clear models =>
      cases models with
      | nil => simp [apply, Puts, Drops]
      | cons model rest =>
          simp only [apply, List.isEmpty_cons, Bool.false_eq_true, if_false, List.mem_filter,
            Bool.not_eq_true', List.contains_eq_mem, decide_eq_false_iff_not, reduceCtorEq, false_or,
            Puts, false_and, exists_false, not_false_eq_true, true_and, Drops]

end Change

def rowsAfter (changes : List Change) : List Row := changes.foldl Change.apply []

theorem rowsAfter_append (changes : List Change) (change : Change) :
    rowsAfter (changes ++ [change]) = change.apply (rowsAfter changes) := by
  simp [rowsAfter, List.foldl_append]

theorem nodup_rowsAfter (changes : List Change) :
    ((rowsAfter changes).map Row.identity).Nodup := by
  induction changes using List.reverseRecOn with
  | nil => exact List.nodup_nil
  | append_singleton changes change ih =>
      rw [rowsAfter_append]
      exact change.nodup_apply ih

theorem isLatest_append {changes : List Change} {change : Change} {r : Row} :
    IsLatest (changes ++ [change]) r ↔
      change = .put r ∨ IsLatest changes r ∧ ¬ change.Puts r.identity ∧ ¬ change.Drops r := by
  constructor
  · rintro ⟨before, after, whole, untouched⟩
    rcases List.eq_nil_or_concat after with rfl | ⟨front, last, rfl⟩
    · have ends := List.append_inj' whole rfl
      exact Or.inl (List.singleton_inj.1 ends.2)
    · rw [List.concat_eq_append] at whole untouched
      rw [← List.cons_append, ← List.append_assoc] at whole
      obtain ⟨earlier, same⟩ := List.append_inj' whole rfl
      obtain rfl := List.singleton_inj.1 same
      refine Or.inr ⟨⟨before, front, earlier, ?_⟩, untouched change (by simp)⟩
      intro other listed
      exact untouched other (List.mem_append_left _ listed)
  · rintro (rfl | ⟨⟨before, after, rfl, untouched⟩, last⟩)
    · exact ⟨changes, [], rfl, by simp⟩
    · refine ⟨before, after ++ [change], by simp, ?_⟩
      intro other listed
      rcases List.mem_append.1 listed with earlier | same
      · exact untouched other earlier
      · rw [List.mem_singleton.1 same]
        exact last

theorem mem_rowsAfter {changes : List Change} {r : Row} :
    r ∈ rowsAfter changes ↔ IsLatest changes r := by
  induction changes using List.reverseRecOn with
  | nil =>
      constructor
      · intro there
        cases there
      · rintro ⟨before, after, whole, -⟩
        simp at whole
  | append_singleton changes change ih =>
      rw [rowsAfter_append, Change.mem_apply (nodup_rowsAfter changes), isLatest_append, ih]

theorem puts_of_holds {changes : List Change} {change : Change} {identity : String}
    (fresh : ¬ Holds changes identity) (held : Holds (changes ++ [change]) identity) :
    change.Puts identity := by
  obtain ⟨r, latest, same⟩ := held
  rcases isLatest_append.1 latest with rfl | ⟨before, -⟩
  · exact ⟨r, rfl, same⟩
  · exact absurd ⟨r, before, same⟩ fresh

namespace CameIn

variable {changes : List Change} {identity other : String} {place : Nat}

theorem lt_length (came : CameIn changes identity place) : place < changes.length := by
  obtain ⟨change, found, -⟩ := came.put
  exact (List.getElem?_eq_some_iff.1 found).1

theorem unique {i j : Nat} (first : CameIn changes identity i) (second : CameIn changes identity j) :
    i = j := by
  rcases Nat.lt_trichotomy i j with before | same | after
  · exact absurd (first.kept j before (Nat.le_of_lt second.lt_length)) second.fresh
  · exact same
  · exact absurd (second.kept i after (Nat.le_of_lt first.lt_length)) first.fresh

theorem append {change : Change} (came : CameIn changes identity place)
    (held : Holds (changes ++ [change]) identity) : CameIn (changes ++ [change]) identity place := by
  have inside := came.lt_length
  refine ⟨?_, ?_, ?_⟩
  · rw [List.getElem?_append_left inside]
    exact came.put
  · rw [List.take_append_of_le_length (Nat.le_of_lt inside)]
    exact came.fresh
  · intro n after bound
    by_cases whole : n ≤ changes.length
    · rw [List.take_append_of_le_length whole]
      exact came.kept n after whole
    · rw [List.take_of_length_le (by simp; omega)]
      exact held

theorem last {change : Change} (fresh : ¬ Holds changes identity)
    (held : Holds (changes ++ [change]) identity) :
    CameIn (changes ++ [change]) identity changes.length := by
  refine ⟨⟨change, by simp, puts_of_holds fresh held⟩, ?_, ?_⟩
  · rw [List.take_left]
    exact fresh
  · intro n after _
    rw [List.take_of_length_le (by simp; omega)]
    exact held

end CameIn

/-- One identity came in before another. -/
def Precedes (changes : List Change) (a b : String) : Prop :=
  ∃ i j, CameIn changes a i ∧ CameIn changes b j ∧ i < j

theorem Precedes.append {changes : List Change} {change : Change} {a b : String}
    (precedes : Precedes changes a b) (heldA : Holds (changes ++ [change]) a)
    (heldB : Holds (changes ++ [change]) b) : Precedes (changes ++ [change]) a b := by
  obtain ⟨i, j, cameA, cameB, before⟩ := precedes
  exact ⟨i, j, cameA.append heldA, cameB.append heldB, before⟩

/-- What is put again stays in its place, unless it was removed in between. -/
example :
    let row := fun identity : String => (⟨identity, "app.note", "text", .empty, .empty⟩ : Row)
    let identities := fun changes => (rowsAfter changes).map Row.identity
    identities [.put (row "1"), .put (row "2"), .put (row "1")] = ["1", "2"] ∧
      identities [.put (row "1"), .put (row "2"), .remove "1", .put (row "1")] = ["2", "1"] := by
  decide

end RecordSearch.Table
