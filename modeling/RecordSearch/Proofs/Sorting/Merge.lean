import RecordSearch.Proofs.Sorting.Order
import RecordSearch.Sorting.Short

/-!
Merging lists that are in order. From either end it gives the stable sort of both. The two ends together take
each element once, which is told by where the elements come from.
-/

namespace RecordSearch.Sorting

open scoped List

variable {α : Type} {lt : α → α → Bool} {p : α → Prop} {s t l r : List α}

theorem merge_swap (first : α → α → Bool) (l r : List α) :
    l.merge r first = r.merge l fun b a => !first a b := by
  induction l generalizing r with
  | nil => rw [List.nil_merge, List.merge_right]
  | cons a l ih =>
      induction r with
      | nil => rw [List.nil_merge, List.merge_right]
      | cons b r ihr =>
          rw [List.cons_merge_cons, List.cons_merge_cons, ih, ihr]
          cases first a b <;> rfl

theorem ascending_merge (order : OrdersOn lt p) (allLeft : ∀ x ∈ l, p x) (allRight : ∀ x ∈ r, p x)
    (left : Ascending lt l) (right : Ascending lt r) : Ascending lt (l.merge r fun a b => !lt b a) := by
  induction l generalizing r with
  | nil => rwa [List.nil_merge]
  | cons a l ih =>
      induction r with
      | nil => rwa [List.merge_right]
      | cons b r ihr =>
          obtain ⟨ha, othersLeft⟩ := List.forall_mem_cons.1 allLeft
          obtain ⟨hb, othersRight⟩ := List.forall_mem_cons.1 allRight
          obtain ⟨belowLeft, risingLeft⟩ := List.pairwise_cons.1 left
          obtain ⟨belowRight, risingRight⟩ := List.pairwise_cons.1 right
          rw [List.cons_merge_cons]
          cases less : lt b a with
          | false =>
              apply List.pairwise_cons.2 ⟨_, ih othersLeft allRight risingLeft right⟩
              intro x there
              rcases List.mem_merge.1 there with own | other
              · exact belowLeft x own
              · rcases List.mem_cons.1 other with rfl | later
                · exact less
                · exact order.trans ha hb (othersRight x later) less (belowRight x later)
          | true =>
              apply List.pairwise_cons.2 ⟨_, ihr othersRight risingRight⟩
              intro x there
              rcases List.mem_merge.1 there with other | own
              · rcases List.mem_cons.1 other with rfl | later
                · exact order.asymm hb ha less
                · have hx := othersLeft x later
                  exact order.asymm hb hx (order.lt_of_lt_of_le hb ha hx less (belowLeft x later))
              · exact belowRight x own

theorem filter_merge (order : OrdersOn lt p) {x : α} (hx : p x) (allLeft : ∀ x ∈ l, p x) (allRight : ∀ x ∈ r, p x)
    (left : Ascending lt l) (right : Ascending lt r) :
    (l.merge r fun a b => !lt b a).filter (tied lt x) = l.filter (tied lt x) ++ r.filter (tied lt x) := by
  induction l generalizing r with
  | nil => rw [List.nil_merge, List.filter_nil, List.nil_append]
  | cons a l ih =>
      induction r with
      | nil => rw [List.merge_right, List.filter_nil, List.append_nil]
      | cons b r ihr =>
          obtain ⟨ha, othersLeft⟩ := List.forall_mem_cons.1 allLeft
          obtain ⟨hb, othersRight⟩ := List.forall_mem_cons.1 allRight
          obtain ⟨belowLeft, risingLeft⟩ := List.pairwise_cons.1 left
          obtain ⟨-, risingRight⟩ := List.pairwise_cons.1 right
          rw [List.cons_merge_cons]
          cases less : lt b a with
          | false =>
              simp only [Bool.not_false, if_true]
              rw [List.filter_cons, ih othersLeft allRight risingLeft right, List.filter_cons (x := a)]
              split <;> rfl
          | true =>
              simp only [Bool.not_true, Bool.false_eq_true, if_false]
              rw [List.filter_cons, ihr othersRight risingRight, List.filter_cons (x := b)]
              split
              · rename_i own
                -- nothing on the left is of the rank of `b`, which is less than all of it
                have none : (a :: l).filter (tied lt x) = [] := by
                  apply List.filter_eq_nil_iff.2
                  intro y there rank
                  have hy := allLeft y there
                  have above : lt b y = true := by
                    rcases List.mem_cons.1 there with rfl | later
                    · exact less
                    · exact order.lt_of_lt_of_le hb ha hy less (belowLeft y later)
                  rw [order.lt_of_tied hx hb hy own rank] at above
                  cases above
                rw [none, List.nil_append, List.nil_append]
              · rfl

theorem Sorts.merge {u v : List α} (order : OrdersOn lt p) (allLeft : ∀ x ∈ s, p x) (allRight : ∀ x ∈ t, p x)
    (left : Sorts lt p s u) (right : Sorts lt p t v) :
    Sorts lt p (s ++ t) (u.merge v fun a b => !lt b a) := by
  have ownLeft := left.forall_mem allLeft
  have ownRight := right.forall_mem allRight
  refine .of_keeps (left.toKeeps.append right.toKeeps) ⟨⟨List.merge_perm_append _, fun x hx => ?_⟩, ?_⟩
  · rw [List.filter_append]
    exact filter_merge order hx ownLeft ownRight left.ascending right.ascending
  · exact ascending_merge order ownLeft ownRight left.ascending right.ascending

theorem Sorts.mergeBack {u v : List α} (order : OrdersOn lt p) (allLeft : ∀ x ∈ s, p x) (allRight : ∀ x ∈ t, p x)
    (left : Sorts lt p s u) (right : Sorts lt p t v) :
    Sorts lt p (s ++ t) (u.reverse.merge v.reverse fun a b => lt b a).reverse := by
  have allLeft' : ∀ x ∈ s.reverse, p x := fun x there => allLeft x (List.mem_reverse.1 there)
  have allRight' : ∀ x ∈ t.reverse, p x := fun x there => allRight x (List.mem_reverse.1 there)
  have merged := (right.reverse.merge order.flip allRight' allLeft' left.reverse).reverse
  rwa [List.reverse_append, List.reverse_reverse, List.reverse_reverse,
    ← merge_swap (fun a b => lt b a) u.reverse v.reverse] at merged

/-- From either end a merge gives the stable sort, so both give the same. -/
theorem merge_eq_reverse_merge (order : OrdersOn lt p) (allLeft : ∀ x ∈ l, p x) (allRight : ∀ x ∈ r, p x)
    (left : Ascending lt l) (right : Ascending lt r) :
    (l.merge r fun a b => !lt b a) = (l.reverse.merge r.reverse fun a b => lt b a).reverse := by
  have sortsLeft : Sorts lt p l l := .of_ascending left
  have sortsRight : Sorts lt p r r := .of_ascending right
  have all : ∀ x ∈ l ++ r, p x := List.forall_mem_append.2 ⟨allLeft, allRight⟩
  exact (sortsLeft.merge order allLeft allRight sortsRight).unique order all
    (sortsLeft.mergeBack order allLeft allRight sortsRight)

section

variable {first : α → α → Bool} {n : Nat}

theorem countP_merge {mark : α → Bool} (first : α → α → Bool) (own : ∀ x ∈ l, mark x = true)
    (other : ∀ x ∈ r, mark x = false) : (l.merge r first).countP mark = l.length := by
  rw [(List.merge_perm_append _).countP_eq, List.countP_append, List.countP_eq_length.2 own,
    List.countP_eq_zero.2 fun x there => Bool.eq_false_iff.1 (other x there), Nat.add_zero]

theorem mergeFirst_cons_cons (first : α → α → Bool) (n : Nat) (a b : α) (l r : List α) :
    mergeFirst first (n + 1) (a :: l) (b :: r) =
      if first a b then
        (a :: (mergeFirst first n l (b :: r)).1, (mergeFirst first n l (b :: r)).2 + 1)
      else (b :: (mergeFirst first n (a :: l) r).1, (mergeFirst first n (a :: l) r).2) := rfl

theorem mergeFirst_le (first : α → α → Bool) (n : Nat) (l r : List α) : (mergeFirst first n l r).2 ≤ n := by
  induction n generalizing l r with
  | zero => exact Nat.le_refl 0
  | succ n ih =>
      cases l with
      | nil => exact Nat.zero_le _
      | cons a l =>
          cases r with
          | nil => exact Nat.zero_le _
          | cons b r =>
              rw [mergeFirst_cons_cons]
              split
              · exact Nat.succ_le_succ (ih l (b :: r))
              · exact Nat.le_succ_of_le (ih (a :: l) r)

theorem merge_eq (first : α → α → Bool) (left : n ≤ l.length) (right : n ≤ r.length) :
    l.merge r first = (mergeFirst first n l r).1 ++
      (l.drop (mergeFirst first n l r).2).merge (r.drop (n - (mergeFirst first n l r).2)) first := by
  induction n generalizing l r with
  | zero => rfl
  | succ n ih =>
      obtain ⟨a, l, rfl⟩ := List.exists_cons_of_length_pos (Nat.lt_of_lt_of_le n.succ_pos left)
      obtain ⟨b, r, rfl⟩ := List.exists_cons_of_length_pos (Nat.lt_of_lt_of_le n.succ_pos right)
      have shortLeft := Nat.le_of_succ_le_succ left
      have shortRight := Nat.le_of_succ_le_succ right
      rw [mergeFirst_cons_cons, List.cons_merge_cons]
      split
      · rw [ih (r := b :: r) shortLeft (Nat.le_succ_of_le shortRight)]
        simp only [List.cons_append, List.drop_succ_cons, Nat.add_sub_add_right]
      · have whole := mergeFirst_le first n (a :: l) r
        rw [ih (l := a :: l) (Nat.le_succ_of_le shortLeft) shortRight, Nat.succ_sub whole]
        simp only [List.cons_append, List.drop_succ_cons]

theorem perm_mergeFirst (first : α → α → Bool) (left : n ≤ l.length) (right : n ≤ r.length) :
    (mergeFirst first n l r).1 ~
      l.take (mergeFirst first n l r).2 ++ r.take (n - (mergeFirst first n l r).2) := by
  induction n generalizing l r with
  | zero => exact List.Perm.refl _
  | succ n ih =>
      obtain ⟨a, l, rfl⟩ := List.exists_cons_of_length_pos (Nat.lt_of_lt_of_le n.succ_pos left)
      obtain ⟨b, r, rfl⟩ := List.exists_cons_of_length_pos (Nat.lt_of_lt_of_le n.succ_pos right)
      have shortLeft := Nat.le_of_succ_le_succ left
      have shortRight := Nat.le_of_succ_le_succ right
      rw [mergeFirst_cons_cons]
      split
      · have later := ih (r := b :: r) shortLeft (Nat.le_succ_of_le shortRight)
        rw [List.take_succ_cons, Nat.add_sub_add_right, List.cons_append]
        exact later.cons a
      · have later := ih (l := a :: l) (Nat.le_succ_of_le shortLeft) shortRight
        have whole := mergeFirst_le first n (a :: l) r
        rw [Nat.succ_sub whole, List.take_succ_cons]
        exact (later.cons b).trans List.perm_middle.symm

theorem perm_mergeFirst_reverse (first : α → α → Bool) (left : n ≤ l.length) (right : n ≤ r.length) :
    (mergeFirst first n l.reverse r.reverse).1 ~
      l.drop (l.length - (mergeFirst first n l.reverse r.reverse).2) ++
        r.drop (r.length - (n - (mergeFirst first n l.reverse r.reverse).2)) := by
  rw [← List.length_reverse] at left right
  have merged := perm_mergeFirst first left right
  rw [List.take_reverse, List.take_reverse] at merged
  exact merged.trans ((List.reverse_perm _).append (List.reverse_perm _))

theorem length_mergeFirst (first : α → α → Bool) (left : n ≤ l.length) (right : n ≤ r.length) :
    (mergeFirst first n l r).1.length = n := by
  have whole := mergeFirst_le first n l r
  rw [(perm_mergeFirst first left right).length_eq, List.length_append, List.length_take, List.length_take]
  omega

theorem countP_mergeFirst {mark : α → Bool} (first : α → α → Bool) (left : n ≤ l.length) (right : n ≤ r.length)
    (own : ∀ x ∈ l, mark x = true) (other : ∀ x ∈ r, mark x = false) :
    (mergeFirst first n l r).1.countP mark = (mergeFirst first n l r).2 := by
  have whole := mergeFirst_le first n l r
  have taken : (l.take (mergeFirst first n l r).2).countP mark = (l.take (mergeFirst first n l r).2).length :=
    List.countP_eq_length.2 fun x there => own x (List.mem_of_mem_take there)
  have none : (r.take (n - (mergeFirst first n l r).2)).countP mark = 0 :=
    List.countP_eq_zero.2 fun x there => Bool.eq_false_iff.1 (other x (List.mem_of_mem_take there))
  rw [(perm_mergeFirst first left right).countP_eq, List.countP_append, taken, none, List.length_take]
  omega

theorem mergeFirst_map {β : Type} (f : β → α) (n : Nat) (l r : List β) :
    mergeFirst first n (l.map f) (r.map f) =
      ((mergeFirst (fun a b => first (f a) (f b)) n l r).1.map f,
        (mergeFirst (fun a b => first (f a) (f b)) n l r).2) := by
  induction n generalizing l r with
  | zero => rfl
  | succ n ih =>
      cases l with
      | nil => rfl
      | cons a l =>
          cases r with
          | nil => rfl
          | cons b r =>
              have left := ih l (b :: r)
              have right := ih (a :: l) r
              rw [List.map_cons] at left right
              rw [List.map_cons, List.map_cons, mergeFirst_cons_cons, mergeFirst_cons_cons, left, right]
              split <;> rfl

theorem head?_merge {m : α} (head : (l.merge r first).head? = some m) : l.head? = some m ∨ r.head? = some m := by
  cases l with
  | nil =>
      rw [List.nil_merge] at head
      exact .inr head
  | cons a l =>
      cases r with
      | nil =>
          rw [List.merge_right] at head
          exact .inl head
      | cons b r =>
          rw [List.cons_merge_cons] at head
          split at head
          · exact .inl head
          · exact .inr head

end

theorem take_append_drop_append_drop {i k : Nat} (le : i ≤ k) (s : List α) :
    s.take i ++ ((s.drop i).take (k - i) ++ s.drop k) = s := by
  have later : s.drop k = (s.drop i).drop (k - i) := by
    rw [List.drop_drop, Nat.add_sub_cancel' le]
  rw [later, List.take_append_drop, List.take_append_drop]

/-- What both ends take, and what is left between them, is the list: whatever the comparison, each of its elements
is there once. -/
theorem perm_of_mergeHalves? (merged : mergeHalves? lt s = some t) : t ~ s := by
  classical
  unfold mergeHalves? at merged
  simp only at merged
  generalize size : s.length / 2 = half at merged
  have lengthLeft : (s.take half).length = half := by
    rw [List.length_take]
    omega
  have lengthRight : half ≤ (s.drop half).length := by
    rw [List.length_drop]
    omega
  have whole : s.take half ++ s.drop half = s := List.take_append_drop half s
  generalize s.take half = left at merged lengthLeft whole
  generalize s.drop half = right at merged lengthRight whole
  subst whole
  have front := perm_mergeFirst (fun a b => !lt b a) (Nat.le_of_eq lengthLeft.symm) lengthRight
  have back := perm_mergeFirst_reverse (fun a b => lt b a) (Nat.le_of_eq lengthLeft.symm) lengthRight
  have backLe := mergeFirst_le (fun a b => lt b a) half left.reverse right.reverse
  generalize mergeFirst (fun a b => !lt b a) half left right = f at merged front
  generalize mergeFirst (fun a b => lt b a) half left.reverse right.reverse = b at merged back backLe
  split at merged
  · rename_i fits
    cases merged
    have cutLeft := take_append_drop_append_drop (i := f.2) (k := half - b.2) (by omega) left
    have cutRight := take_append_drop_append_drop (i := half - f.2) (k := right.length - (half - b.2)) (by omega)
      right
    have sizeLeft : half - (f.2 + b.2) = half - b.2 - f.2 := by omega
    have sizeRight : right.length - (half - f.2 + (half - b.2)) = right.length - (half - b.2) - (half - f.2) := by
      omega
    rw [lengthLeft] at back
    -- what is in the halves is taken by one of the ends, or is left between them
    rw [List.perm_iff_count]
    intro x
    have countFront := front.count_eq x
    have countBack := back.count_eq x
    have countLeft := congrArg (List.count x) cutLeft
    have countRight := congrArg (List.count x) cutRight
    simp only [List.count_append, List.count_reverse] at countFront countBack countLeft countRight ⊢
    rw [sizeLeft, sizeRight]
    omega
  · cases merged

/-- A merge up to its first element, by marks that tell the two lists apart. -/
theorem take_merge_of_marked {mark : α → Bool} {n : Nat} (few : n ≤ 1) (first : α → α → Bool)
    (own : ∀ x ∈ l, mark x = true) (other : ∀ x ∈ r, mark x = false) :
    l.take (((l.merge r first).take n).countP mark) ++ r.take (n - ((l.merge r first).take n).countP mark) =
      (l.merge r first).take n := by
  cases n with
  | zero => rfl
  | succ n =>
      obtain rfl := Nat.le_zero.1 (Nat.le_of_succ_le_succ few)
      cases merged : l.merge r first with
      | nil =>
          have length := congrArg List.length merged
          rw [List.length_merge, List.length_nil, Nat.add_eq_zero_iff] at length
          rw [List.eq_nil_of_length_eq_zero length.1, List.eq_nil_of_length_eq_zero length.2]
          rfl
      | cons m rest =>
          have head : (l.merge r first).head? = some m := by rw [merged, List.head?_cons]
          rw [Nat.zero_add, List.take_succ_cons, List.take_zero]
          rcases head?_merge head with left | right
          · obtain ⟨l, rfl⟩ := List.head?_eq_some_iff.1 left
            rw [List.countP_cons_of_pos (own m List.mem_cons_self)]
            rfl
          · obtain ⟨r, rfl⟩ := List.head?_eq_some_iff.1 right
            rw [List.countP_cons_of_neg (Bool.eq_false_iff.1 (other m List.mem_cons_self))]
            rfl

theorem eq_take_append_reverse {front back rest later : List α} {n : Nat}
    (whole : front ++ rest = (back ++ later).reverse) (length : rest.length = n + back.length) :
    rest = rest.take n ++ back.reverse := by
  have split : front ++ rest.take n ++ rest.drop n = later.reverse ++ back.reverse := by
    rw [List.append_assoc, List.take_append_drop, whole, List.reverse_append]
  have last : (rest.drop n).length = back.reverse.length := by
    rw [List.length_drop, List.length_reverse, length, Nat.add_sub_cancel_left]
  rw [← (List.append_inj' split last).2, List.take_append_drop]

theorem mergeHalves?_map {β : Type} (f : β → α) (s : List β) :
    mergeHalves? lt (s.map f) = (mergeHalves? (fun a b => lt (f a) (f b)) s).map (List.map f) := by
  simp only [mergeHalves?, List.length_map, ← List.map_take, ← List.map_drop, ← List.map_reverse, mergeFirst_map]
  split
  · simp only [Option.map_some, List.map_append, List.map_take, List.map_drop, List.map_reverse]
  · rfl

/-- Halves in order are merged, if a mark tells which half an element comes from. -/
theorem mergeHalves?_of_marked (mark : α → Bool) (order : OrdersOn lt p) (allLeft : ∀ x ∈ l, p x)
    (allRight : ∀ x ∈ r, p x) (half : l.length = (l ++ r).length / 2) (left : Ascending lt l)
    (right : Ascending lt r) (own : ∀ x ∈ l, mark x = true) (other : ∀ x ∈ r, mark x = false) :
    mergeHalves? lt (l ++ r) = some (l.merge r fun a b => !lt b a) := by
  have ⟨enough, odd⟩ : l.length ≤ r.length ∧ r.length ≤ l.length + 1 := by
    rw [List.length_append] at half
    omega
  have ends := merge_eq_reverse_merge order allLeft allRight left right
  have sameLeft : l.length ≤ l.reverse.length := Nat.le_of_eq List.length_reverse.symm
  have enoughRight : l.length ≤ r.reverse.length := by rwa [List.length_reverse]
  have front := merge_eq (fun a b => !lt b a) (Nat.le_refl l.length) enough
  have back := merge_eq (fun a b => lt b a) sameLeft enoughRight
  have frontLength := length_mergeFirst (fun a b => !lt b a) (Nat.le_refl l.length) enough
  have backLength := length_mergeFirst (fun a b => lt b a) sameLeft enoughRight
  have frontCount := countP_mergeFirst (fun a b => !lt b a) (Nat.le_refl l.length) enough own other
  have backCount := countP_mergeFirst (fun a b => lt b a) sameLeft enoughRight
    (fun x there => own x (List.mem_reverse.1 there)) (fun x there => other x (List.mem_reverse.1 there))
  unfold mergeHalves?
  simp only [← half, List.take_left', List.drop_left']
  generalize mergeFirst (fun a b => !lt b a) l.length l r = f at *
  generalize mergeFirst (fun a b => lt b a) l.length l.reverse r.reverse = b at *
  have middle := take_merge_of_marked (n := r.length - l.length) (by omega) (fun a b => !lt b a)
    (fun x there => own x (List.mem_of_mem_drop (i := f.2) there))
    (fun x there => other x (List.mem_of_mem_drop (i := l.length - f.2) there))
  have restLength : ((l.drop f.2).merge (r.drop (l.length - f.2)) fun a b => !lt b a).length =
      r.length - l.length + b.1.length := by
    have whole := congrArg List.length front
    rw [List.length_merge, List.length_append] at whole
    omega
  have cut := eq_take_append_reverse ((front.symm.trans ends).trans (congrArg List.reverse back)) restLength
  generalize ((l.drop f.2).merge (r.drop (l.length - f.2)) fun a b => !lt b a) = rest at *
  have counts : f.2 + ((rest.take (r.length - l.length)).countP mark + b.2) = l.length := by
    have all := countP_merge (fun a b => !lt b a) own other
    rwa [front, cut, List.countP_append, List.countP_append, List.countP_reverse, frontCount, backCount] at all
  have few : (rest.take (r.length - l.length)).countP mark ≤ r.length - l.length :=
    Nat.le_trans List.countP_le_length (List.length_take_le _ _)
  have fromLeft : l.length - (f.2 + b.2) = (rest.take (r.length - l.length)).countP mark := by omega
  have fromRight : r.length - (l.length - f.2 + (l.length - b.2)) =
      r.length - l.length - (rest.take (r.length - l.length)).countP mark := by omega
  rw [if_pos (by omega), fromLeft, fromRight, List.append_assoc f.1, middle, front, List.append_assoc, ← cut]

theorem mergeHalves?_append (order : OrdersOn lt p) (allLeft : ∀ x ∈ l, p x) (allRight : ∀ x ∈ r, p x)
    (half : l.length = (l ++ r).length / 2) (left : Ascending lt l) (right : Ascending lt r) :
    mergeHalves? lt (l ++ r) = some (l.merge r fun a b => !lt b a) := by
  let value : α ⊕ α → α := Sum.elim id id
  have lefts : (l.map Sum.inl).map value = l := by simp [value, Function.comp_def]
  have rights : (r.map Sum.inr).map value = r := by simp [value, Function.comp_def]
  have merged : mergeHalves? (fun a b => lt (value a) (value b)) (l.map Sum.inl ++ r.map Sum.inr) =
      some ((l.map Sum.inl).merge (r.map Sum.inr) fun a b => !lt (value b) (value a)) := by
    apply mergeHalves?_of_marked Sum.isLeft (order.comap value)
    · simpa [value] using allLeft
    · simpa [value] using allRight
    · simpa using half
    · exact List.pairwise_map.2 left
    · exact List.pairwise_map.2 right
    · simp
    · simp
  have values : mergeHalves? lt (l ++ r) =
      (mergeHalves? (fun a b => lt (value a) (value b)) (l.map Sum.inl ++ r.map Sum.inr)).map (List.map value) := by
    rw [← mergeHalves?_map, List.map_append, lefts, rights]
  have unmarked := List.map_merge (f := value) (r := fun a b => !lt (value b) (value a)) (s := fun a b => !lt b a)
    (l := l.map Sum.inl) fun a _ b (_ : b ∈ r.map Sum.inr) => rfl
  rw [lefts, rights] at unmarked
  rw [values, merged, Option.map_some, unmarked]

/-- The halves of a list, each in order, become its stable sort. -/
theorem Sorts.mergeHalves? {u v : List α} (order : OrdersOn lt p) (allLeft : ∀ x ∈ s, p x)
    (allRight : ∀ x ∈ t, p x) (half : s.length = (s ++ t).length / 2) (left : Sorts lt p s u)
    (right : Sorts lt p t v) : ∃ w, mergeHalves? lt (u ++ v) = some w ∧ Sorts lt p (s ++ t) w := by
  refine ⟨_, mergeHalves?_append order (left.forall_mem allLeft) (right.forall_mem allRight) ?_ left.ascending
    right.ascending, left.merge order allLeft allRight right⟩
  rwa [List.length_append, left.perm.length_eq, right.perm.length_eq, ← List.length_append]

end RecordSearch.Sorting
