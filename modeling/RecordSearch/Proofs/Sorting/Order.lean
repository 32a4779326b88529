import Mathlib.Data.List.Induction
import RecordSearch.Sorting.Insertion

/-!
What a stable sort is to give. In an order of which none of the elements is less than itself, there is one list
only that is ascending and keeps the elements of each rank as they stood.
-/

namespace RecordSearch.Sorting

open scoped List

variable {α : Type} {lt : α → α → Bool} {p : α → Prop}

/-- A comparison puts what satisfies `p` in an order, in which several elements may have one rank. -/
structure OrdersOn (lt : α → α → Bool) (p : α → Prop) : Prop where
  asymm : ∀ {a b}, p a → p b → lt a b = true → lt b a = false
  trans : ∀ {a b c}, p a → p b → p c → lt b a = false → lt c b = false → lt c a = false

namespace OrdersOn

variable {a b c : α}

theorem irrefl (order : OrdersOn lt p) (ha : p a) : lt a a = false := by
  cases less : lt a a with
  | false => rfl
  | true => rw [← less, order.asymm ha ha less]

theorem lt_of_lt_of_le (order : OrdersOn lt p) (ha : p a) (hb : p b) (hc : p c) (less : lt a b = true)
    (notLess : lt c b = false) : lt a c = true := by
  cases result : lt a c with
  | true => rfl
  | false => rw [← less, order.trans hb hc ha notLess result]

theorem lt_of_le_of_lt (order : OrdersOn lt p) (ha : p a) (hb : p b) (hc : p c) (notLess : lt b a = false)
    (less : lt b c = true) : lt a c = true := by
  cases result : lt a c with
  | true => rfl
  | false => rw [← less, order.trans hc ha hb result notLess]

theorem lt_trans (order : OrdersOn lt p) (ha : p a) (hb : p b) (hc : p c) (first : lt a b = true)
    (second : lt b c = true) : lt a c = true :=
  order.lt_of_lt_of_le ha hb hc first (order.asymm hb hc second)

theorem flip (order : OrdersOn lt p) : OrdersOn (fun a b => lt b a) p where
  asymm ha hb less := order.asymm hb ha less
  trans ha hb hc first second := order.trans hc hb ha second first

theorem comap {β : Type} (order : OrdersOn lt p) (f : β → α) :
    OrdersOn (fun a b => lt (f a) (f b)) fun b => p (f b) where
  asymm ha hb less := order.asymm ha hb less
  trans ha hb hc first second := order.trans ha hb hc first second

end OrdersOn

def Ascending (lt : α → α → Bool) (s : List α) : Prop := s.Pairwise fun a b => lt b a = false

def tied (lt : α → α → Bool) (a b : α) : Bool := !lt a b && !lt b a

theorem tied_iff {a b : α} : tied lt a b = true ↔ lt a b = false ∧ lt b a = false := by
  rw [tied, Bool.and_eq_true, Bool.not_eq_true', Bool.not_eq_true']

/-- The same elements, of which those of each rank stand as they stood. -/
structure Keeps (lt : α → α → Bool) (p : α → Prop) (s t : List α) : Prop where
  perm : t ~ s
  filter : ∀ a, p a → t.filter (tied lt a) = s.filter (tied lt a)

namespace Keeps

variable {s t u s' t' : List α}

theorem refl (s : List α) : Keeps lt p s s := ⟨List.Perm.refl s, fun _ _ => rfl⟩

theorem trans (first : Keeps lt p s t) (second : Keeps lt p t u) : Keeps lt p s u :=
  ⟨second.perm.trans first.perm, fun a ha => (second.filter a ha).trans (first.filter a ha)⟩

theorem append (first : Keeps lt p s t) (second : Keeps lt p s' t') : Keeps lt p (s ++ s') (t ++ t') := by
  refine ⟨first.perm.append second.perm, fun a ha => ?_⟩
  rw [List.filter_append, List.filter_append, first.filter a ha, second.filter a ha]

theorem reverse (keeps : Keeps lt p s t) : Keeps (fun a b => lt b a) p s.reverse t.reverse := by
  refine ⟨(List.reverse_perm t).trans (keeps.perm.trans (List.reverse_perm s).symm), fun a ha => ?_⟩
  have same : tied (fun a b => lt b a) a = tied lt a := funext fun b => Bool.and_comm _ _
  rw [List.filter_reverse, List.filter_reverse, same, keeps.filter a ha]

theorem forall_mem (keeps : Keeps lt p s t) (all : ∀ a ∈ s, p a) : ∀ a ∈ t, p a :=
  fun a there => all a (keeps.perm.subset there)

end Keeps

/-- A stable sort of `s`. -/
structure Sorts (lt : α → α → Bool) (p : α → Prop) (s t : List α) : Prop extends Keeps lt p s t where
  ascending : Ascending lt t

namespace Sorts

variable {s t u : List α}

theorem of_ascending (ascending : Ascending lt s) : Sorts lt p s s := ⟨.refl s, ascending⟩

theorem reverse (sorts : Sorts lt p s t) : Sorts (fun a b => lt b a) p s.reverse t.reverse :=
  ⟨sorts.toKeeps.reverse, List.pairwise_reverse.2 sorts.ascending⟩

theorem of_keeps (keeps : Keeps lt p s t) (sorts : Sorts lt p t u) : Sorts lt p s u :=
  ⟨keeps.trans sorts.toKeeps, sorts.ascending⟩

theorem sublist {tied : List α} (sorts : Sorts lt p s t) (all : ∀ a ∈ s, p a) (part : tied <+ s)
    (alike : ∀ a ∈ tied, ∀ b ∈ tied, lt a b = false) : tied <+ t := by
  cases tied with
  | nil => exact List.nil_sublist t
  | cons first others =>
      have own : ∀ a ∈ first :: others, Sorting.tied lt first a = true := fun a there =>
        tied_iff.2 ⟨alike first List.mem_cons_self a there, alike a there first List.mem_cons_self⟩
      calc
        first :: others = (first :: others).filter (Sorting.tied lt first) := (List.filter_eq_self.2 own).symm
        _ <+ s.filter (Sorting.tied lt first) := part.filter _
        _ = t.filter (Sorting.tied lt first) :=
          (sorts.filter first (all first (part.subset List.mem_cons_self))).symm
        _ <+ t := List.filter_sublist

/-- In an order, two ascending lists of the same elements that keep those of each rank alike are equal. -/
theorem eq_of_ascending (order : OrdersOn lt p) (all : ∀ a ∈ s, p a) (keeps : Keeps lt p s t)
    (ascending : Ascending lt s) (also : Ascending lt t) : s = t := by
  induction s generalizing t with
  | nil => exact keeps.perm.eq_nil.symm
  | cons a s ih =>
      cases t with
      | nil => exact absurd keeps.perm.symm.eq_nil (List.cons_ne_nil a s)
      | cons b t =>
          obtain ⟨ha, others⟩ := List.forall_mem_cons.1 all
          have hb : p b := keeps.forall_mem all b List.mem_cons_self
          obtain ⟨first, rising⟩ := List.pairwise_cons.1 ascending
          obtain ⟨firstToo, risingToo⟩ := List.pairwise_cons.1 also
          -- each of the two heads comes before the other list, so they are of one rank
          have notAbove : lt b a = false := by
            rcases List.mem_cons.1 (keeps.perm.subset List.mem_cons_self) with rfl | there
            · exact order.irrefl ha
            · exact first b there
          have notBelow : lt a b = false := by
            rcases List.mem_cons.1 (keeps.perm.symm.subset List.mem_cons_self) with rfl | there
            · exact order.irrefl ha
            · exact firstToo a there
          have ranks := keeps.filter a ha
          rw [List.filter_cons_of_pos (tied_iff.2 ⟨notBelow, notAbove⟩),
            List.filter_cons_of_pos (tied_iff.2 ⟨order.irrefl ha, order.irrefl ha⟩)] at ranks
          obtain ⟨rfl, -⟩ := List.cons_eq_cons.1 ranks
          refine congrArg (b :: ·) (ih others ⟨keeps.perm.cons_inv, fun x hx => ?_⟩ rising risingToo)
          have whole := keeps.filter x hx
          rw [List.filter_cons, List.filter_cons] at whole
          split at whole
          · exact (List.cons_eq_cons.1 whole).2
          · exact whole

theorem unique (order : OrdersOn lt p) (all : ∀ a ∈ s, p a) (sorts : Sorts lt p s t) (also : Sorts lt p s u) :
    t = u := by
  refine eq_of_ascending order (sorts.forall_mem all) ⟨also.perm.trans sorts.perm.symm, fun a ha => ?_⟩
    sorts.ascending also.ascending
  rw [also.filter a ha, sorts.filter a ha]

end Sorts

section

variable {s t rest : List α} {a : α}

theorem perm_placeBehind (a : α) (s : List α) : placeBehind lt a s ~ a :: s := by
  induction s with
  | nil => exact List.Perm.refl [a]
  | cons b rest ih =>
      rw [placeBehind]
      split
      · exact (ih.cons b).trans (List.Perm.swap a b rest)
      · exact List.Perm.refl (a :: b :: rest)

theorem mem_placeBehind {x : α} : x ∈ placeBehind lt a s ↔ x = a ∨ x ∈ s :=
  (perm_placeBehind a s).mem_iff.trans List.mem_cons

theorem insertAll_nil (s : List α) : insertAll lt s [] = s := List.reverse_reverse s

theorem insertAll_concat (s rest : List α) (a : α) :
    insertAll lt s (rest ++ [a]) = (placeBehind lt a (insertAll lt s rest).reverse).reverse := by
  simp only [insertAll, List.foldl_append, List.foldl_cons, List.foldl_nil, List.reverse_reverse]

theorem perm_insertAll (s rest : List α) : insertAll lt s rest ~ s ++ rest := by
  induction rest using List.reverseRecOn with
  | nil => rw [insertAll_nil, List.append_nil]
  | append_singleton rest a ih =>
      rw [insertAll_concat]
      calc
        (placeBehind lt a (insertAll lt s rest).reverse).reverse ~ placeBehind lt a (insertAll lt s rest).reverse :=
          List.reverse_perm _
        _ ~ a :: (insertAll lt s rest).reverse := perm_placeBehind a _
        _ ~ a :: (s ++ rest) := ((List.reverse_perm _).trans ih).cons a
        _ ~ s ++ rest ++ [a] := (List.perm_append_singleton a _).symm
        _ ~ s ++ (rest ++ [a]) := .of_eq (List.append_assoc s rest [a])

theorem perm_sorted (s : List α) : sorted lt s ~ s := perm_insertAll [] s

theorem pairwise_placeBehind (order : OrdersOn lt p) (ha : p a) (all : ∀ x ∈ s, p x)
    (descending : s.Pairwise fun x y => lt x y = false) :
    (placeBehind lt a s).Pairwise fun x y => lt x y = false := by
  induction s with
  | nil => exact List.pairwise_singleton _ a
  | cons b rest ih =>
      obtain ⟨hb, others⟩ := List.forall_mem_cons.1 all
      obtain ⟨below, falling⟩ := List.pairwise_cons.1 descending
      rw [placeBehind]
      split
      · rename_i less
        apply List.pairwise_cons.2 ⟨_, ih others falling⟩
        intro x there
        rcases mem_placeBehind.1 there with rfl | present
        · exact order.asymm ha hb less
        · exact below x present
      · rename_i notLess
        rw [Bool.not_eq_true] at notLess
        apply List.pairwise_cons.2 ⟨_, descending⟩
        intro x there
        rcases List.mem_cons.1 there with rfl | present
        · exact notLess
        · exact order.trans (others x present) hb ha (below x present) notLess

theorem filter_placeBehind {q : α → Bool} (tied : q a → ∀ b ∈ s, q b → lt a b = false) :
    (placeBehind lt a s).filter q = if q a then a :: s.filter q else s.filter q := by
  induction s with
  | nil => rw [placeBehind, List.filter_cons]
  | cons b rest ih =>
      rw [placeBehind]
      split
      · rename_i less
        rw [List.filter_cons, ih fun chosen x there => tied chosen x (List.mem_cons_of_mem b there)]
        by_cases chosen : q a
        · have passed : ¬ q b := fun also => by
            rw [tied chosen b List.mem_cons_self also] at less
            cases less
          rw [if_pos chosen, if_pos chosen, if_neg passed, List.filter_cons_of_neg passed]
        · rw [if_neg chosen, if_neg chosen, List.filter_cons]
      · rw [List.filter_cons]

theorem filter_insertAll {q : α → Bool} (tied : ∀ a ∈ s ++ rest, ∀ b ∈ s ++ rest, q a → q b → lt a b = false) :
    (insertAll lt s rest).filter q = s.filter q ++ rest.filter q := by
  induction rest using List.reverseRecOn with
  | nil => rw [insertAll_nil, List.filter_nil, List.append_nil]
  | append_singleton rest a ih =>
      rw [← List.append_assoc] at tied
      have before : ∀ x ∈ s ++ rest, x ∈ s ++ rest ++ [a] := fun x there => List.mem_append_left [a] there
      have last : ∀ b ∈ (insertAll lt s rest).reverse, b ∈ s ++ rest ++ [a] := fun b there =>
        before b ((perm_insertAll s rest).subset (List.mem_reverse.1 there))
      rw [insertAll_concat, List.filter_reverse,
        filter_placeBehind fun chosen b there =>
          tied a (List.mem_append_right (s ++ rest) List.mem_cons_self) b (last b there) chosen,
        List.filter_reverse, ih fun x hx y hy => tied x (before x hx) y (before y hy), List.filter_append]
      by_cases chosen : q a
      · rw [if_pos chosen, List.filter_cons_of_pos chosen, List.reverse_cons, List.reverse_reverse, List.filter_nil,
          List.append_assoc]
      · rw [if_neg chosen, List.filter_cons_of_neg chosen, List.reverse_reverse, List.filter_nil, List.append_nil]

theorem filter_sorted {q : α → Bool} (tied : ∀ a ∈ s, ∀ b ∈ s, q a → q b → lt a b = false) :
    (sorted lt s).filter q = s.filter q := filter_insertAll tied

theorem OrdersOn.lt_of_tied (order : OrdersOn lt p) {x b : α} (hx : p x) (ha : p a) (hb : p b)
    (first : tied lt x a = true) (second : tied lt x b = true) : lt a b = false :=
  order.trans hb hx ha (tied_iff.1 second).1 (tied_iff.1 first).2

theorem Sorts.insertAll (order : OrdersOn lt p) (all : ∀ x ∈ t ++ rest, p x) (sorts : Sorts lt p s t) :
    Sorts lt p (s ++ rest) (insertAll lt t rest) := by
  have kept : Keeps lt p (t ++ rest) (Sorting.insertAll lt t rest) := by
    refine ⟨perm_insertAll t rest, fun x hx => ?_⟩
    rw [List.filter_append]
    exact filter_insertAll fun a ha b hb => order.lt_of_tied hx (all a ha) (all b hb)
  refine ⟨(sorts.toKeeps.append (.refl rest)).trans kept, ?_⟩
  clear kept
  induction rest using List.reverseRecOn with
  | nil =>
      rw [insertAll_nil]
      exact sorts.ascending
  | append_singleton rest a ih =>
      rw [← List.append_assoc] at all
      have before : ∀ x ∈ t ++ rest, p x := fun x there => all x (List.mem_append_left [a] there)
      have ha : p a := all a (List.mem_append_right (t ++ rest) List.mem_cons_self)
      rw [insertAll_concat]
      apply List.pairwise_reverse.2
      apply pairwise_placeBehind order ha _ (List.pairwise_reverse.2 (ih before))
      exact fun x there => before x ((perm_insertAll t rest).subset (List.mem_reverse.1 there))

theorem sorts_sorted (order : OrdersOn lt p) (all : ∀ x ∈ s, p x) : Sorts lt p s (sorted lt s) :=
  (Sorts.of_ascending List.Pairwise.nil).insertAll order all

end

end RecordSearch.Sorting
