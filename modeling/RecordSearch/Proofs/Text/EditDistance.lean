import Mathlib.Order.Bounds.Basic
import RecordSearch.Text.EditDistance

/-!
The edit distance is the length of a shortest script of edits. Its rows hold the least costs of laying the
text so far beside each initial part of the other, and no entry of a row is less than all of the row before.
-/

namespace RecordSearch.Text

inductive Edit where
  | insert (position : Nat) (c : Char)
  | delete (position : Nat)
  | substitute (position : Nat) (c : Char)
  deriving DecidableEq, Repr

namespace Edit

def perform? : Edit → List Char → Option (List Char)
  | insert position c, s => if position ≤ s.length then some (s.insertIdx position c) else none
  | delete position, s => if position < s.length then some (s.eraseIdx position) else none
  | substitute position c, s => if position < s.length then some (s.set position c) else none

def run? (script : List Edit) (s : List Char) : Option (List Char) :=
  script.foldlM (fun text edit => edit.perform? text) s

def behind : Edit → Edit
  | insert position c => insert (position + 1) c
  | delete position => delete (position + 1)
  | substitute position c => substitute (position + 1) c

theorem run?_cons (edit : Edit) (script : List Edit) (s : List Char) :
    run? (edit :: script) s = (edit.perform? s).bind (run? script) :=
  List.foldlM_cons

theorem run?_append (first second : List Edit) (s : List Char) :
    run? (first ++ second) s = (run? first s).bind (run? second) :=
  List.foldlM_append

theorem run?_single (edit : Edit) (s : List Char) : run? [edit] s = edit.perform? s :=
  Option.bind_fun_some _

theorem perform?_behind (edit : Edit) (c : Char) (s : List Char) :
    edit.behind.perform? (c :: s) = (edit.perform? s).map (c :: ·) := by
  cases edit <;> simp only [behind, perform?, List.length_cons, Nat.add_le_add_iff_right,
    Nat.add_lt_add_iff_right] <;> split <;> rfl

theorem run?_behind (script : List Edit) (c : Char) (s : List Char) :
    run? (script.map behind) (c :: s) = (run? script s).map (c :: ·) := by
  induction script generalizing s with
  | nil => rfl
  | cons edit script ih =>
      rw [List.map_cons, run?_cons, run?_cons, perform?_behind]
      cases edit.perform? s with
      | none => rfl
      | some t => exact ih t

end Edit

/-- The texts can be laid side by side so that `n` characters of them have no equal one beside them. -/
inductive Aligned : List Char → List Char → Nat → Prop where
  | nil : Aligned [] [] 0
  | insert {a b : List Char} {n : Nat} (c : Char) (rest : Aligned a b n) : Aligned a (c :: b) (n + 1)
  | delete {a b : List Char} {n : Nat} (c : Char) (rest : Aligned a b n) : Aligned (c :: a) b (n + 1)
  | pair {a b : List Char} {n : Nat} (c d : Char) (rest : Aligned a b n) :
      Aligned (c :: a) (d :: b) (n + if c = d then 0 else 1)

namespace Aligned

variable {a b : List Char} {m n : Nat}

theorem refl (a : List Char) : Aligned a a 0 := by
  induction a with
  | nil => exact .nil
  | cons x a ih => simpa using Aligned.pair x x ih

theorem symm (given : Aligned a b n) : Aligned b a n := by
  induction given with
  | nil => exact .nil
  | insert x rest ih => exact .delete x ih
  | delete x rest ih => exact .insert x ih
  | pair x y rest ih => simpa only [eq_comm] using Aligned.pair y x ih

theorem append {a' b' : List Char} (front : Aligned a b m) (back : Aligned a' b' n) :
    Aligned (a ++ a') (b ++ b') (m + n) := by
  induction front with
  | nil => simpa using back
  | insert x rest ih => simpa [Nat.add_right_comm] using ih.insert x
  | delete x rest ih => simpa [Nat.add_right_comm] using ih.delete x
  | pair x y rest ih => simpa [Nat.add_right_comm] using ih.pair x y

theorem length_le (given : Aligned a b n) : a.length ≤ b.length + n := by
  induction given with
  | nil => simp
  | insert x rest ih => simp only [List.length_cons]; omega
  | delete x rest ih => simp only [List.length_cons]; omega
  | pair x y rest ih => simp only [List.length_cons]; omega

theorem eq_of_zero (given : Aligned a b 0) : a = b := by
  generalize none : 0 = n at given
  induction given with
  | nil => rfl
  | insert x rest ih => cases none
  | delete x rest ih => cases none
  | pair x y rest ih =>
      by_cases same : x = y
      · rw [if_pos same, Nat.add_zero] at none
        rw [same, ih none]
      · rw [if_neg same] at none
        cases none

theorem reverse (given : Aligned a b n) : Aligned a.reverse b.reverse n := by
  induction given with
  | nil => exact .nil
  | insert x rest ih => simpa using ih.append (Aligned.nil.insert x)
  | delete x rest ih => simpa using ih.append (Aligned.nil.delete x)
  | pair x y rest ih => simpa using ih.append (Aligned.nil.pair x y)

theorem trans {a b c : List Char} {m n : Nat} (left : Aligned a b m) (right : Aligned b c n) :
    ∃ k ≤ m + n, Aligned a c k := by
  match left, right with
  | left, .insert z right =>
      obtain ⟨k, few, whole⟩ := left.trans right
      exact ⟨k + 1, by omega, whole.insert z⟩
  | .delete x left, right =>
      obtain ⟨k, few, whole⟩ := left.trans right
      exact ⟨k + 1, by omega, whole.delete x⟩
  | .nil, .nil => exact ⟨0, Nat.le_refl 0, .nil⟩
  | .insert y left, .delete _ right =>
      obtain ⟨k, few, whole⟩ := left.trans right
      exact ⟨k, by omega, whole⟩
  | .insert y left, .pair _ z right =>
      obtain ⟨k, few, whole⟩ := left.trans right
      exact ⟨k + 1, by omega, whole.insert z⟩
  | .pair x y left, .delete _ right =>
      obtain ⟨k, few, whole⟩ := left.trans right
      exact ⟨k + 1, by omega, whole.delete x⟩
  | .pair x y left, .pair _ z right =>
      obtain ⟨k, few, whole⟩ := left.trans right
      refine ⟨k + if x = z then 0 else 1, ?_, whole.pair x z⟩
      by_cases first : x = y
      · subst first
        rw [if_pos rfl]
        omega
      · rw [if_neg first]
        split <;> omega
termination_by a.length + b.length + c.length

/-- Each pair that differs is one substitution, and each character without one beside it one edit. -/
theorem exists_script (given : Aligned a b n) :
    ∃ script : List Edit, script.length = n ∧ Edit.run? script a = some b := by
  induction given with
  | nil => exact ⟨[], rfl, rfl⟩
  | insert x rest ih =>
      obtain ⟨script, long, runs⟩ := ih
      refine ⟨script ++ [.insert 0 x], by simp [long], ?_⟩
      rw [Edit.run?_append, runs, Option.bind_some, Edit.run?_single]
      rfl
  | delete x rest ih =>
      obtain ⟨script, long, runs⟩ := ih
      exact ⟨.delete 0 :: script, by simp [long], runs⟩
  | pair x y rest ih =>
      obtain ⟨script, long, runs⟩ := ih
      by_cases same : x = y
      · subst same
        exact ⟨script.map .behind, by simp [long], by rw [Edit.run?_behind, runs]; rfl⟩
      · refine ⟨script.map .behind ++ [.substitute 0 y], by simp [long, same], ?_⟩
        rw [Edit.run?_append, Edit.run?_behind, runs, Option.map_some, Option.bind_some, Edit.run?_single]
        rfl

end Aligned

theorem Edit.exists_aligned {edit : Edit} {s t : List Char} (edited : edit.perform? s = some t) :
    ∃ n ≤ 1, Aligned s t n := by
  induction s generalizing edit t with
  | nil =>
      cases edit with
      | insert position c =>
          cases position with
          | zero =>
              cases edited
              exact ⟨1, Nat.le_refl 1, Aligned.nil.insert c⟩
          | succ position => simp [perform?] at edited
      | delete position => simp [perform?] at edited
      | substitute position c => simp [perform?] at edited
  | cons c s ih =>
      -- An edit further on leaves the first character as it is.
      have further : ∀ inner : Edit, edit = inner.behind → ∃ n ≤ 1, Aligned (c :: s) t n := by
        rintro inner rfl
        rw [perform?_behind, Option.map_eq_some_iff] at edited
        obtain ⟨u, changed, rfl⟩ := edited
        obtain ⟨n, few, beside⟩ := ih changed
        exact ⟨n, few, by simpa using beside.pair c c⟩
      match edit with
      | .insert 0 d =>
          cases edited
          exact ⟨1, Nat.le_refl 1, (Aligned.refl (c :: s)).insert d⟩
      | .delete 0 =>
          cases edited
          exact ⟨1, Nat.le_refl 1, (Aligned.refl s).delete c⟩
      | .substitute 0 d =>
          cases edited
          refine ⟨_, ?_, (Aligned.refl s).pair c d⟩
          split <;> decide
      | .insert (position + 1) d => exact further (.insert position d) rfl
      | .delete (position + 1) => exact further (.delete position) rfl
      | .substitute (position + 1) d => exact further (.substitute position d) rfl

/-- A script leads to a text that can be laid beside the first at no greater cost. -/
theorem exists_aligned_of_run? {script : List Edit} {a b : List Char} (runs : Edit.run? script a = some b) :
    ∃ n ≤ script.length, Aligned a b n := by
  induction script generalizing a with
  | nil =>
      cases runs
      exact ⟨0, Nat.le_refl 0, .refl _⟩
  | cons edit script ih =>
      rw [Edit.run?_cons] at runs
      obtain ⟨between, edited, rest⟩ := Option.bind_eq_some_iff.1 runs
      obtain ⟨m, one, first⟩ := edit.exists_aligned edited
      obtain ⟨n, others, second⟩ := ih rest
      obtain ⟨k, few, whole⟩ := first.trans second
      exact ⟨k, by simp only [List.length_cons]; omega, whole⟩

/-- The least cost of laying one text beside the other. -/
def IsLeastCost (a b : List Char) (n : Nat) : Prop := IsLeast {n | Aligned a b n} n

namespace IsLeastCost

variable {a b : List Char} {c d : Char} {above left diagonal : Nat}

theorem nil_left (b : List Char) : IsLeastCost [] b b.length := by
  constructor
  · induction b with
    | nil => exact .nil
    | cons x b ih => exact .insert x ih
  · intro n beside
    simpa using Aligned.length_le (Aligned.symm beside)

theorem nil_right (a : List Char) : IsLeastCost a [] a.length := by
  obtain ⟨beside, least⟩ := nil_left a
  exact ⟨Aligned.symm beside, fun n other => least (Aligned.symm other)⟩

theorem cons (hAbove : IsLeastCost a (d :: b) above) (hLeft : IsLeastCost (c :: a) b left)
    (hDiagonal : IsLeastCost a b diagonal) :
    IsLeastCost (c :: a) (d :: b)
      (min (min (above + 1) (left + 1)) (diagonal + if c = d then 0 else 1)) := by
  constructor
  · rcases Nat.le_total (min (above + 1) (left + 1)) (diagonal + if c = d then 0 else 1) with alone | paired
    · rw [Nat.min_eq_left alone]
      rcases Nat.le_total (above + 1) (left + 1) with deleted | inserted
      · rw [Nat.min_eq_left deleted]
        exact Aligned.delete c hAbove.1
      · rw [Nat.min_eq_right inserted]
        exact Aligned.insert d hLeft.1
    · rw [Nat.min_eq_right paired]
      exact Aligned.pair c d hDiagonal.1
  · intro n beside
    cases beside with
    | insert _ rest => have := hLeft.2 rest; omega
    | delete _ rest => have := hAbove.2 rest; omega
    | pair _ _ rest => have := hDiagonal.2 rest; omega

end IsLeastCost

/-- The row holds the least costs of laying `a` beside `front`, and beside each text that goes on with
characters of `rest`. Both are read from the end, so that a row grows at the front. -/
def HoldsCosts (a front : List Char) : List Char → List Nat → Prop
  | [], [n] => IsLeastCost a front n
  | c :: rest, n :: row => IsLeastCost a front n ∧ HoldsCosts a (c :: front) rest row
  | _, _ => False

namespace HoldsCosts

variable {a front rest : List Char} {row : List Nat}

theorem exists_head (held : HoldsCosts a front rest row) :
    ∃ n others, row = n :: others ∧ IsLeastCost a front n := by
  cases rest with
  | nil =>
      match row, held with
      | [n], beside => exact ⟨n, [], rfl, beside⟩
  | cons c rest =>
      match row, held with
      | n :: others, ⟨beside, _⟩ => exact ⟨n, others, rfl, beside⟩

theorem firstRow (front rest : List Char) :
    HoldsCosts [] front rest (List.range' front.length (rest.length + 1)) := by
  induction rest generalizing front with
  | nil => exact .nil_left front
  | cons c rest ih => exact ⟨.nil_left front, ih (c :: front)⟩

theorem rowAfter {c : Char} {left : Nat} (held : HoldsCosts a front rest row)
    (beside : IsLeastCost (c :: a) front left) :
    HoldsCosts (c :: a) front rest (left :: rowAfter c left rest row) := by
  induction rest generalizing front row left with
  | nil =>
      have ends : Text.rowAfter c left [] row = [] := by rw [Text.rowAfter.eq_def]
      rw [ends]
      exact beside
  | cons d rest ih =>
      match row, held with
      | diagonal :: row, ⟨here, later⟩ =>
          obtain ⟨above, others, rfl, ahead⟩ := exists_head later
          exact ⟨beside, ih later (ahead.cons beside here)⟩

theorem nextRow {b : List Char} (c : Char) (held : HoldsCosts a [] b row) :
    HoldsCosts (c :: a) [] b (nextRow b row c) := by
  obtain ⟨first, others, rfl, beside⟩ := held.exists_head
  have same : first = a.length := beside.unique (IsLeastCost.nil_right a)
  exact held.rowAfter (by simpa [same] using IsLeastCost.nil_right (c :: a))

theorem getLast? (held : HoldsCosts a front rest row) :
    ∃ n, row.getLast? = some n ∧ IsLeastCost a (rest.reverse ++ front) n := by
  induction rest generalizing front row with
  | nil =>
      match row, held with
      | [n], beside => exact ⟨n, rfl, beside⟩
  | cons c rest ih =>
      match row, held with
      | n :: row, ⟨_, later⟩ =>
          obtain ⟨last, final, beside⟩ := ih later
          refine ⟨last, ?_, by simpa using beside⟩
          rw [List.getLast?_cons, final]
          rfl

end HoldsCosts

theorem holdsCosts_rows (a b : List Char) : HoldsCosts a.reverse [] b (a.foldl (nextRow b) (firstRow b)) := by
  have further : ∀ (rest done : List Char) (row : List Nat), HoldsCosts done [] b row →
      HoldsCosts (rest.reverse ++ done) [] b (rest.foldl (nextRow b) row) := by
    intro rest
    induction rest with
    | nil => exact fun _ _ held => held
    | cons c rest ih =>
        intro done row held
        simpa using ih (c :: done) _ (held.nextRow c)
  have start : HoldsCosts [] [] b (firstRow b) := by
    rw [firstRow, List.range_eq_range']
    exact .firstRow [] b
  simpa using further a [] (firstRow b) start

theorem getLast?_rows (a b : List Char) :
    (a.foldl (nextRow b) (firstRow b)).getLast? = some (editDistance a b) := by
  obtain ⟨n, final, -⟩ := (holdsCosts_rows a b).getLast?
  rw [editDistance, final]
  rfl

theorem isLeastCost_editDistance (a b : List Char) : IsLeastCost a b (editDistance a b) := by
  obtain ⟨n, final, beside, least⟩ := (holdsCosts_rows a b).getLast?
  rw [getLast?_rows] at final
  cases final
  rw [List.append_nil] at beside least
  constructor
  · simpa using Aligned.reverse beside
  · exact fun m other => least (Aligned.reverse other)

/-- The edit distance is the length of a shortest script that turns one text into the other. -/
theorem editDistance_isLeast (a b : List Char) :
    IsLeast {n | ∃ script : List Edit, script.length = n ∧ Edit.run? script a = some b}
        (editDistance a b) ∧
      editDistance a b = editDistance b a ∧ (editDistance a b = 0 ↔ a = b) ∧
      ∀ c, editDistance a c ≤ editDistance a b + editDistance b c := by
  have costs := isLeastCost_editDistance
  refine ⟨⟨(costs a b).1.exists_script, ?_⟩, ?_, ⟨?_, ?_⟩, ?_⟩
  · rintro n ⟨script, rfl, runs⟩
    obtain ⟨m, few, beside⟩ := exists_aligned_of_run? runs
    exact ((costs a b).2 beside).trans few
  · exact Nat.le_antisymm ((costs a b).2 (costs b a).1.symm) ((costs b a).2 (costs a b).1.symm)
  · intro zero
    exact Aligned.eq_of_zero (zero ▸ (costs a b).1)
  · rintro rfl
    exact Nat.le_zero.1 ((costs a a).2 (.refl a))
  · intro c
    obtain ⟨n, few, whole⟩ := (costs a b).1.trans (costs b c).1
    exact ((costs a c).2 whole).trans few

example : editDistance "kitten".toList "sitting".toList = 3 := by decide

theorem lt_of_mem_rowAfter {c : Char} {left bound : Nat} {b : List Char} {row : List Nat}
    (beyond : ∀ n ∈ row, bound < n) (high : bound < left) : ∀ n ∈ rowAfter c left b row, bound < n := by
  fun_induction rowAfter c left b row with
  | case1 left d b diagonal above row here ih =>
      have highDiagonal := beyond diagonal (by simp)
      have highAbove := beyond above (by simp)
      have highHere : bound < here := by omega
      intro n listed
      rcases List.mem_cons.1 listed with rfl | later
      · exact highHere
      · exact ih (fun m there => beyond m (List.mem_cons_of_mem _ there)) highHere n later
  | case2 => simp

theorem lt_of_mem_nextRow {c : Char} {bound : Nat} {b : List Char} {row : List Nat}
    (beyond : ∀ n ∈ row, bound < n) : ∀ n ∈ nextRow b row c, bound < n := by
  cases row with
  | nil => exact fun n listed => nomatch listed
  | cons first row =>
      have high : bound < first + 1 := Nat.lt_succ_of_lt (beyond first List.mem_cons_self)
      intro n listed
      rcases List.mem_cons.1 listed with rfl | later
      · exact high
      · exact lt_of_mem_rowAfter beyond high n later

theorem lt_of_mem_rows {bound : Nat} {b rest : List Char} {row : List Nat}
    (beyond : ∀ n ∈ row, bound < n) : ∀ n ∈ rest.foldl (nextRow b) row, bound < n := by
  induction rest generalizing row with
  | nil => exact beyond
  | cons c rest ih => exact ih (lt_of_mem_nextRow beyond)

/-- Stopping early loses no row with a cost within the bound. -/
theorem boundedRows_eq_some {bound n : Nat} {b rest : List Char} {row : List Nat}
    (listed : n ∈ rest.foldl (nextRow b) row) (within : n ≤ bound) :
    boundedRows b bound row rest = some (rest.foldl (nextRow b) row) := by
  induction rest generalizing row with
  | nil => rfl
  | cons c rest ih =>
      rw [boundedRows]
      split
      · exact ih listed
      · rename_i none
        have beyond : ∀ m ∈ nextRow b row c, bound < m := by simpa using none
        have high := lt_of_mem_rows beyond n listed
        omega

theorem eq_of_boundedRows {bound : Nat} {b rest : List Char} {row final : List Nat}
    (ends : boundedRows b bound row rest = some final) : final = rest.foldl (nextRow b) row := by
  induction rest generalizing row with
  | nil => exact (Option.some.inj ends).symm
  | cons c rest ih =>
      rw [boundedRows] at ends
      split at ends
      · exact ih ends
      · cases ends

/-- The bounded distance is the distance, if that is within the bound. -/
theorem boundedEditDistance?_eq (a b : List Char) (bound : Nat) :
    boundedEditDistance? a b bound =
      if editDistance a b ≤ bound then some (editDistance a b) else none := by
  have cost := (isLeastCost_editDistance a b).1
  have longA := Aligned.length_le cost
  have longB := Aligned.length_le (Aligned.symm cost)
  have final := getLast?_rows a b
  by_cases within : editDistance a b ≤ bound
  · have lengths : ¬ (decide (a.length - b.length > bound) || decide (b.length - a.length > bound)) := by
      simp only [Bool.or_eq_true, decide_eq_true_eq]
      omega
    have whole := boundedRows_eq_some (List.mem_of_getLast? final) within
    rw [boundedEditDistance?, if_neg lengths, whole]
    simp only [final, Option.getD_some]
  · rw [if_neg within, boundedEditDistance?]
    split
    · rfl
    · cases ends : boundedRows b bound (firstRow b) a with
      | none => rfl
      | some row =>
          rw [eq_of_boundedRows ends]
          simp only [final, Option.getD_some, if_neg within]

end RecordSearch.Text
