import Mathlib.Data.List.Basic
import RecordSearch.Proofs.Sorting.Runs

/-!
The stable sort. Whatever the comparison, a result has the elements of the list. Where it is an order there is a
result, and it is the one that insertion gives.
-/

namespace RecordSearch.Sorting

open scoped List

variable {α : Type} {lt : α → α → Bool} {p : α → Prop} {s t : List α} {room : Nat}

theorem perm_split (q : α → Bool) (before after : List α) (pivot : α) :
    (before.filter q ++ after.filter q) ++ (before.filter (!q ·) ++ pivot :: after.filter (!q ·)) ~
      before ++ pivot :: after := by
  have parts := List.filter_append_perm q (before ++ after)
  rw [List.filter_append, List.filter_append] at parts
  calc
    (before.filter q ++ after.filter q) ++ (before.filter (!q ·) ++ pivot :: after.filter (!q ·)) ~
        (before.filter q ++ after.filter q) ++ pivot :: (before.filter (!q ·) ++ after.filter (!q ·)) :=
      List.perm_middle.append_left _
    _ ~ pivot :: ((before.filter q ++ after.filter q) ++ (before.filter (!q ·) ++ after.filter (!q ·))) :=
      List.perm_middle
    _ ~ pivot :: (before ++ after) := parts.cons pivot
    _ ~ before ++ pivot :: after := List.perm_middle.symm

theorem eq_take_append_cons_drop {a : α} {n : Nat} (there : s[n]? = some a) :
    s = s.take n ++ a :: s.drop (n + 1) := by
  obtain ⟨inside, rfl⟩ := List.getElem?_eq_some_iff.1 there
  rw [← List.drop_eq_getElem_cons inside, List.take_append_drop]

theorem filter_of_not {q : α → Bool} {a : α} {n : Nat} (there : s[n]? = some a) (other : q a = false) :
    (s.take n).filter q ++ (s.drop (n + 1)).filter q = s.filter q := by
  conv_rhs => rw [eq_take_append_cons_drop there]
  rw [List.filter_append, List.filter_cons_of_neg (Bool.eq_false_iff.1 other)]

theorem filter_of_chosen {q : α → Bool} {a : α} {n : Nat} (there : s[n]? = some a) (chosen : q a = true) :
    (s.take n).filter q ++ a :: (s.drop (n + 1)).filter q = s.filter q := by
  conv_rhs => rw [eq_take_append_cons_drop there]
  rw [List.filter_append, List.filter_cons_of_pos chosen]

theorem filter_append_filter_not {q : α → Bool} (alike : ∀ a ∈ s, ∀ b ∈ s, q a = q b) :
    s.filter q ++ s.filter (!q ·) = s := by
  cases s with
  | nil => rfl
  | cons a rest =>
      cases chosen : q a with
      | true =>
          have all : ∀ b ∈ a :: rest, q b = true := fun b there => (alike b there a List.mem_cons_self).trans chosen
          rw [List.filter_eq_self.2 all, List.filter_eq_nil_iff.2 fun b there => by simp [all b there],
            List.append_nil]
      | false =>
          have none : ∀ b ∈ a :: rest, q b = false := fun b there => (alike b there a List.mem_cons_self).trans chosen
          rw [List.filter_eq_nil_iff.2 fun b there => by simp [none b there],
            List.filter_eq_self.2 fun b there => by simp [none b there], List.nil_append]

theorem perm_of_quicksort? {limit : Nat} {ancestor : Option α}
    (result : quicksort? lt room limit ancestor s = some t) : t ~ s := by
  induction limit generalizing ancestor s t with
  | zero =>
      rw [quicksort?] at result
      split at result
      · exact perm_of_sortShort? result
      · exact perm_of_sortByRuns? (fun impossible => by cases impossible) result
  | succ limit ih =>
      rw [quicksort?] at result
      split at result
      · exact perm_of_sortShort? result
      · obtain ⟨pivot, there, result⟩ := Option.bind_eq_some_iff.1 result
        simp only at result
        split at result
        · obtain ⟨u, more, rfl⟩ := Option.map_eq_some_iff.1 result
          have parts := perm_split (lt pivot ·) (s.take (pivotAt lt s)) (s.drop (pivotAt lt s + 1)) pivot
          rw [← eq_take_append_cons_drop there] at parts
          exact ((ih more).append_left _).trans (List.perm_append_comm.trans parts)
        · obtain ⟨right, second, result⟩ := Option.bind_eq_some_iff.1 result
          obtain ⟨left, first, rfl⟩ := Option.map_eq_some_iff.1 result
          have parts := perm_split (lt · pivot) (s.take (pivotAt lt s)) (s.drop (pivotAt lt s + 1)) pivot
          rw [← eq_take_append_cons_drop there] at parts
          exact ((ih first).append (ih second)).trans parts

/-- A result has the elements of the list, also where the comparison is no order. -/
theorem perm_of_stable? (result : stable? lt s = some t) : t ~ s := by
  unfold stable? at result
  split at result
  · cases result
    exact perm_sorted s
  · exact perm_of_sortByRuns? perm_of_quicksort? result

theorem medianAt_lt {i j k n : Nat} (first : i < n) (second : j < n) (third : k < n) : medianAt lt s i j k < n := by
  unfold medianAt
  simp only
  split
  · split <;> assumption
  · assumption

theorem medianOf_lt {n i j k stop : Nat} (positive : 0 < n) (first : i + n ≤ stop) (second : j + n ≤ stop)
    (third : k + n ≤ stop) : medianOf lt s n i j k < stop := by
  induction n using Nat.strongRecOn generalizing i j k with
  | _ n ih =>
      rw [medianOf]
      split
      · have smaller : n / 8 < n := by omega
        have some : 0 < n / 8 := by omega
        have within : ∀ {i}, i + n ≤ stop →
            medianOf lt s (n / 8) i (i + n / 8 * 4) (i + n / 8 * 7) < stop := fun enough =>
          ih _ smaller some (by omega) (by omega) (by omega)
        exact medianAt_lt (within first) (within second) (within third)
      · exact medianAt_lt (by omega) (by omega) (by omega)

theorem pivotAt_lt (many : 8 ≤ s.length) : pivotAt lt s < s.length := by
  unfold pivotAt
  simp only
  split
  · exact medianAt_lt (by omega) (by omega) (by omega)
  · exact medianOf_lt (by omega) (by omega) (by omega) (by omega)

section

variable (order : OrdersOn lt p)
include order

/-- Where all that `q` chooses is less than all else, the two parts are sorted apart. -/
theorem Sorts.split {q : α → Bool} {u : List α} (all : ∀ x ∈ s, p x)
    (cut : ∀ a ∈ s, ∀ b ∈ s, q a = true → q b = false → lt a b = true) (first : Sorts lt p (s.filter q) t)
    (second : Sorts lt p (s.filter (!q ·)) u) : Sorts lt p s (t ++ u) := by
  refine ⟨⟨(first.perm.append second.perm).trans (List.filter_append_perm q s), fun x hx => ?_⟩, ?_⟩
  · rw [List.filter_append, first.filter x hx, second.filter x hx, List.filter_comm (tied lt x),
      List.filter_comm (tied lt x)]
    -- elements of one rank are all in the same part
    apply filter_append_filter_not
    intro a ha b hb
    obtain ⟨ha, rank⟩ := List.mem_filter.1 ha
    obtain ⟨hb, rankToo⟩ := List.mem_filter.1 hb
    cases chosen : q a with
    | true =>
        cases other : q b with
        | true => rfl
        | false => rw [← cut a ha b hb chosen other, order.lt_of_tied hx (all a ha) (all b hb) rank rankToo]
    | false =>
        cases other : q b with
        | true => rw [← cut b hb a ha other chosen, order.lt_of_tied hx (all b hb) (all a ha) rankToo rank]
        | false => rfl
  · apply List.pairwise_append.2 ⟨first.ascending, second.ascending, _⟩
    intro a ha b hb
    obtain ⟨ha, chosen⟩ := List.mem_filter.1 (first.perm.subset ha)
    obtain ⟨hb, other⟩ := List.mem_filter.1 (second.perm.subset hb)
    exact order.asymm (all a ha) (all b hb) (cut a ha b hb chosen (by rwa [Bool.not_eq_true'] at other))

theorem sorts_same_append {pivot : α} (all : ∀ x ∈ s, p x) (hp : p pivot) (least : ∀ x ∈ s, lt x pivot = false)
    (sorts : Sorts lt p (s.filter (lt pivot ·)) t) : Sorts lt p s (s.filter (!lt pivot ·) ++ t) := by
  refine .split order all (q := (!lt pivot ·)) (fun a ha b hb same more => ?_) (.of_ascending ?_) ?_
  · rw [Bool.not_eq_true'] at same
    rw [Bool.not_eq_false'] at more
    exact order.lt_of_le_of_lt (all a ha) hp (all b hb) same more
  · apply List.pairwise_of_forall_mem_list
    intro a ha b hb
    obtain ⟨ha, same⟩ := List.mem_filter.1 ha
    obtain ⟨hb, -⟩ := List.mem_filter.1 hb
    rw [Bool.not_eq_true'] at same
    exact order.trans (all a ha) hp (all b hb) same (least b hb)
  · simpa only [Bool.not_not] using sorts

/-- Splitting at a pivot sorts a list, of which no element is less than the pivot that it lies behind. -/
theorem sorts_quicksort? (limit : Nat) (ancestor : Option α) (all : ∀ x ∈ s, p x) (known : ∀ a ∈ ancestor, p a)
    (behind : ∀ a ∈ ancestor, ∀ x ∈ s, lt x a = false) :
    ∃ t, quicksort? lt room limit ancestor s = some t ∧ Sorts lt p s t := by
  induction limit generalizing ancestor s with
  | zero =>
      rw [quicksort?]
      split
      · exact sorts_sortShort? order all
      · rename_i long
        have nonempty : s ≠ [] := fun empty => long (by rw [empty]; exact Nat.zero_le _)
        exact sorts_sortByRuns? order nofun nonempty all
  | succ limit ih =>
      rw [quicksort?]
      split
      · exact sorts_sortShort? order all
      · rename_i long
        have inside : pivotAt lt s < s.length := pivotAt_lt (by unfold shortLength at long; omega)
        have there := List.getElem?_eq_getElem inside
        generalize s[pivotAt lt s] = pivot at there
        have hp : p pivot := all pivot (List.mem_of_getElem? there)
        have notSelf : lt pivot pivot = false := order.irrefl hp
        have own : ∀ q : α → Bool, ∀ x ∈ s.filter q, p x := fun q x chosen => all x (List.mem_filter.1 chosen).1
        simp only [there, Option.bind_some]
        rw [filter_of_not there notSelf, filter_of_not (q := (lt · pivot)) there notSelf,
          filter_of_chosen (q := (!lt pivot ·)) there (by rw [notSelf]; rfl),
          filter_of_chosen (q := (!lt · pivot)) there (by rw [notSelf]; rfl)]
        split
        · -- nothing is less than the pivot, so what equals it stands in front and is in order
          rename_i least
          have least : ∀ x ∈ s, lt x pivot = false := by
            intro x hx
            rcases Bool.or_eq_true_iff.1 least with equal | none
            · obtain ⟨a, ha, notLess⟩ := (Option.any_eq_true _ _).1 equal
              rw [Bool.not_eq_true'] at notLess
              exact order.trans hp (known a ha) (all x hx) notLess (behind a ha x hx)
            · exact Bool.eq_false_iff.2 (List.filter_eq_nil_iff.1 (List.isEmpty_iff.1 none) x hx)
          obtain ⟨t, result, sorts⟩ := ih none (own (lt pivot ·)) nofun nofun
          exact ⟨_, by rw [result, Option.map_some], sorts_same_append order all hp least sorts⟩
        · -- the right part lies behind the pivot, and the left one behind what the whole lies behind
          obtain ⟨right, second, sortsRight⟩ := ih (some pivot) (own (!lt · pivot))
            (fun a ha => by cases ha; exact hp) fun a ha x hx => by
              cases ha
              simpa using (List.mem_filter.1 hx).2
          obtain ⟨left, first, sortsLeft⟩ := ih ancestor (own (lt · pivot)) known fun a ha x hx =>
            behind a ha x (List.mem_filter.1 hx).1
          refine ⟨left ++ right, by rw [second, Option.bind_some, first, Option.map_some], ?_⟩
          refine .split order all (fun a ha b hb less notLess => ?_) sortsLeft sortsRight
          exact order.lt_of_lt_of_le (all a ha) hp (all b hb) less notLess

/-- In an order the result is the one that insertion gives. -/
theorem stable?_eq (all : ∀ x ∈ s, p x) : stable? lt s = some (sorted lt s) := by
  unfold stable?
  split
  · rfl
  · rename_i long
    have nonempty : s ≠ [] := fun empty => long (by rw [empty]; exact Nat.zero_le _)
    have quick : Quick lt p fun t => quicksort? lt (roomFor s.length) (2 * (t.length ||| 1).log2) none t :=
      fun t own => sorts_quicksort? order _ none own nofun nofun
    obtain ⟨t, result, sorts⟩ := sorts_sortByRuns? order (fun _ => quick) nonempty all
    rw [result, sorts.unique order all (sorts_sorted order all)]

end

theorem stable?_of_length_le (short : s.length ≤ 20) : stable? lt s = some (sorted lt s) := if_pos short

end RecordSearch.Sorting
