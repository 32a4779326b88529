import RecordSearch.Proofs.Sorting.Merge

namespace RecordSearch.Sorting

open scoped List

variable {α : Type} {lt : α → α → Bool} {p : α → Prop} {s t : List α} {n : Nat}

theorem perm_sortPair (lt : α → α → Bool) (a b : α) : [(sortPair lt a b).1, (sortPair lt a b).2] ~ [a, b] := by
  unfold sortPair
  split
  · exact List.Perm.swap a b []
  · exact List.Perm.refl [a, b]

theorem perm_sortFour (lt : α → α → Bool) (s : List α) : sortFour lt s ~ s := by
  classical
  unfold sortFour
  split
  · rename_i v w x y
    have pairs := (perm_sortPair lt v w).append (perm_sortPair lt x y)
    refine List.Perm.trans ?_ pairs
    generalize sortPair lt v w = first
    generalize sortPair lt x y = last
    have between : ∀ least other another greatest : α,
        [least, (sortPair lt other another).1, (sortPair lt other another).2, greatest] ~
          [least, other, another, greatest] := fun least other another greatest =>
      ((perm_sortPair lt other another).append_right [greatest]).cons least
    simp only
    split
    all_goals
      apply (between _ _ _ _).trans
      rw [List.perm_iff_count]
      intro z
      simp only [List.count_append, List.count_cons, List.count_nil]
      omega
  · exact List.Perm.refl s

theorem perm_of_sortEight? (result : sortEight? lt s = some t) : t ~ s := by
  have halves := (perm_sortFour lt (s.take 4)).append (perm_sortFour lt (s.drop 4))
  rw [List.take_append_drop] at halves
  exact (perm_of_mergeHalves? result).trans halves

theorem perm_of_presort? (result : presort? lt n s = some t) : t ~ s := by
  unfold presort? at result
  split at result
  · exact perm_of_sortEight? result
  · split at result
    · cases result
      exact perm_sortFour lt s
    · cases result
      exact List.Perm.refl s

theorem perm_of_sortHalf? (result : sortHalf? lt n s = some t) : t ~ s := by
  obtain ⟨front, presorted, rfl⟩ := Option.map_eq_some_iff.1 result
  calc
    insertAll lt front (s.drop (Sorting.presorted n)) ~ front ++ s.drop (Sorting.presorted n) := perm_insertAll _ _
    _ ~ s.take (Sorting.presorted n) ++ s.drop (Sorting.presorted n) := (perm_of_presort? presorted).append_right _
    _ ~ s := .of_eq (List.take_append_drop _ s)

theorem perm_of_sortShort? (result : sortShort? lt s = some t) : t ~ s := by
  unfold sortShort? at result
  split at result
  · cases result
    exact List.Perm.refl s
  · obtain ⟨left, first, result⟩ := Option.bind_eq_some_iff.1 result
    obtain ⟨right, second, merged⟩ := Option.bind_eq_some_iff.1 result
    have halves := (perm_of_sortHalf? first).append (perm_of_sortHalf? second)
    rw [List.take_append_drop] at halves
    exact (perm_of_mergeHalves? merged).trans halves

section

variable (order : OrdersOn lt p)
include order

theorem sorts_sortPair {a b : α} (ha : p a) (hb : p b) :
    Sorts lt p [a, b] [(sortPair lt a b).1, (sortPair lt a b).2] := by
  have both : ∀ x ∈ [a, b], p x := List.forall_mem_cons.2 ⟨ha, List.forall_mem_singleton.2 hb⟩
  have pair : [(sortPair lt a b).1, (sortPair lt a b).2] = sorted lt [a, b] := by
    simp only [sortPair, sorted, insertAll, List.reverse_nil, List.foldl_cons, List.foldl_nil, placeBehind]
    split <;> rfl
  rw [pair]
  exact sorts_sorted order both

/-- Five comparisons do what merging the two pairs does. -/
theorem merge_pairs_eq {a b c d : α} (ha : p a) (hb : p b) (hc : p c) (hd : p d) (first : lt b a = false)
    (second : lt d c = false) :
    [a, b].merge [c, d] (fun a b => !lt b a) =
      match lt c a, lt d b with
      | false, false => [a, (sortPair lt b c).1, (sortPair lt b c).2, d]
      | false, true => [a, (sortPair lt c d).1, (sortPair lt c d).2, b]
      | true, false => [c, (sortPair lt a b).1, (sortPair lt a b).2, d]
      | true, true => [c, (sortPair lt a d).1, (sortPair lt a d).2, b] := by
  cases least : lt c a <;> cases greatest : lt d b
  · cases middle : lt c b <;> simp [sortPair, least, greatest, middle]
  · have middle := order.lt_of_le_of_lt hc hd hb second greatest
    simp [sortPair, least, greatest, second, middle]
  · have middle := order.trans ha hb hd first greatest
    simp [sortPair, least, greatest, first, middle]
  · cases middle : lt d a <;> simp [sortPair, least, greatest, middle]

theorem sorts_sortFour (all : ∀ x ∈ s, p x) (length : s.length = 4) : Sorts lt p s (sortFour lt s) := by
  match s, length with
  | [v, w, x, y], _ =>
      have ownLeft : ∀ z ∈ [v, w], p z := fun z there => all z (List.mem_append_left [x, y] there)
      have ownRight : ∀ z ∈ [x, y], p z := fun z there => all z (List.mem_append_right [v, w] there)
      have left := sorts_sortPair order (ownLeft v (by simp)) (ownLeft w (by simp))
      have right := sorts_sortPair order (ownRight x (by simp)) (ownRight y (by simp))
      rw [sortFour]
      generalize sortPair lt v w = first at left ⊢
      generalize sortPair lt x y = last at right ⊢
      obtain ⟨a, b⟩ := first
      obtain ⟨c, d⟩ := last
      obtain ⟨ha, hb⟩ := List.forall_mem_cons.1 (left.forall_mem ownLeft)
      obtain ⟨hc, hd⟩ := List.forall_mem_cons.1 (right.forall_mem ownRight)
      rw [List.forall_mem_singleton] at hb hd
      have first : lt b a = false := List.rel_of_pairwise_cons left.ascending List.mem_cons_self
      have second : lt d c = false := List.rel_of_pairwise_cons right.ascending List.mem_cons_self
      have merged := left.merge order ownLeft ownRight right
      rw [merge_pairs_eq order ha hb hc hd first second] at merged
      exact merged

theorem sorts_sortEight? (all : ∀ x ∈ s, p x) (length : s.length = 8) :
    ∃ t, sortEight? lt s = some t ∧ Sorts lt p s t := by
  have lengthLeft : (s.take 4).length = 4 := by rw [List.length_take, length]; rfl
  have lengthRight : (s.drop 4).length = 4 := by rw [List.length_drop, length]
  have ownLeft : ∀ x ∈ s.take 4, p x := fun x there => all x (List.mem_of_mem_take there)
  have ownRight : ∀ x ∈ s.drop 4, p x := fun x there => all x (List.mem_of_mem_drop there)
  have half : (s.take 4).length = (s.take 4 ++ s.drop 4).length / 2 := by
    rw [List.take_append_drop, lengthLeft, length]
  have merged := Sorts.mergeHalves? order ownLeft ownRight half (sorts_sortFour order ownLeft lengthLeft)
    (sorts_sortFour order ownRight lengthRight)
  rwa [List.take_append_drop] at merged

theorem sorts_presort? (all : ∀ x ∈ s, p x) (length : s.length = presorted n) :
    ∃ t, presort? lt n s = some t ∧ Sorts lt p s t := by
  unfold presorted at length
  unfold presort?
  split
  · rw [if_pos ‹_›] at length
    exact sorts_sortEight? order all length
  · rw [if_neg ‹_›] at length
    split
    · rw [if_pos ‹_›] at length
      exact ⟨_, rfl, sorts_sortFour order all length⟩
    · rw [if_neg ‹_›] at length
      obtain ⟨a, rfl⟩ := List.length_eq_one_iff.1 length
      exact ⟨_, rfl, .of_ascending (List.pairwise_singleton _ a)⟩

theorem sorts_sortHalf? (all : ∀ x ∈ s, p x) (enough : presorted n ≤ s.length) :
    ∃ t, sortHalf? lt n s = some t ∧ Sorts lt p s t := by
  obtain ⟨front, result, sorts⟩ := sorts_presort? (s := s.take (presorted n)) (n := n) order
    (fun x there => all x (List.mem_of_mem_take there)) (List.length_take_of_le enough)
  have kept : ∀ x ∈ front ++ s.drop (presorted n), p x := fun x there => by
    rcases List.mem_append.1 there with own | later
    · exact all x (List.mem_of_mem_take (sorts.perm.subset own))
    · exact all x (List.mem_of_mem_drop later)
  have inserted := sorts.insertAll order kept
  rw [List.take_append_drop] at inserted
  refine ⟨insertAll lt front (s.drop (presorted n)), ?_, inserted⟩
  rw [sortHalf?, result, Option.map_some]

theorem sorts_sortShort? (all : ∀ x ∈ s, p x) : ∃ t, sortShort? lt s = some t ∧ Sorts lt p s t := by
  by_cases few : s.length < 2
  · refine ⟨s, by rw [sortShort?, if_pos few], .of_ascending ?_⟩
    match s, few with
    | [], _ => exact List.Pairwise.nil
    | [a], _ => exact List.pairwise_singleton _ a
  · have enough : presorted s.length ≤ s.length / 2 := by
      unfold presorted
      split
      · omega
      · split <;> omega
    have ownLeft : ∀ x ∈ s.take (s.length / 2), p x := fun x there => all x (List.mem_of_mem_take there)
    have ownRight : ∀ x ∈ s.drop (s.length / 2), p x := fun x there => all x (List.mem_of_mem_drop there)
    have lengthLeft : (s.take (s.length / 2)).length = s.length / 2 := List.length_take_of_le (Nat.div_le_self _ _)
    obtain ⟨left, first, sortsLeft⟩ := sorts_sortHalf? (n := s.length) order ownLeft (by
      rw [lengthLeft]
      exact enough)
    obtain ⟨right, second, sortsRight⟩ := sorts_sortHalf? (n := s.length) order ownRight (by
      rw [List.length_drop]
      omega)
    have merged := Sorts.mergeHalves? order ownLeft ownRight (by rw [List.take_append_drop, lengthLeft]) sortsLeft
      sortsRight
    rw [List.take_append_drop] at merged
    obtain ⟨t, result, sorts⟩ := merged
    refine ⟨t, ?_, sorts⟩
    rw [sortShort?, if_neg few]
    show (sortHalf? lt s.length (s.take (s.length / 2))).bind _ = some t
    rw [first, Option.bind_some, second]
    exact result

end

end RecordSearch.Sorting
