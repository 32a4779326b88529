import RecordSearch.Proofs.Sorting.Short
import RecordSearch.Sorting.Stable

/-!
Sorting by runs. Cutting a list into runs and joining these keeps the elements of each rank as they stand; where the
comparison is no order, a result has the elements of the list all the same.
-/

namespace RecordSearch.Sorting

open scoped List

variable {α : Type} {lt : α → α → Bool} {p : α → Prop} {s t : List α} {room : Nat}
  {quick : List α → Option (List α)}

theorem append_drop_length_take (n : Nat) (s : List α) : s.take n ++ s.drop (s.take n).length = s := by
  rcases Nat.le_total n s.length with short | long
  · rw [List.length_take_of_le short, List.take_append_drop]
  · rw [List.take_of_length_le long, List.drop_length, List.append_nil]

theorem pairwise_chained (next : α → α → Bool)
    (trans : ∀ {a b c}, p a → p b → p c → next a b = true → next b c = true → next a c = true) {a : α} (ha : p a)
    (all : ∀ x ∈ s, p x) : (a :: s.take (chained next a s)).Pairwise fun a b => next a b = true := by
  induction s generalizing a with
  | nil => exact List.pairwise_singleton _ a
  | cons b rest ih =>
      obtain ⟨hb, others⟩ := List.forall_mem_cons.1 all
      rw [chained]
      split
      · rename_i goesOn
        have later := ih hb others
        rw [List.take_succ_cons]
        apply List.pairwise_cons.2 ⟨_, later⟩
        intro x there
        rcases List.mem_cons.1 there with rfl | behind
        · exact goesOn
        · exact trans ha hb (others x (List.mem_of_mem_take behind)) goesOn
            (List.rel_of_pairwise_cons later behind)
      · exact List.pairwise_singleton _ a

/-- A list of which each element is less than those before it has one of each rank, so it may be turned round. -/
theorem Sorts.of_falling (order : OrdersOn lt p) (all : ∀ x ∈ s, p x)
    (falling : s.Pairwise fun a b => lt b a = true) : Sorts lt p s s.reverse := by
  refine ⟨⟨List.reverse_perm s, fun x hx => ?_⟩, ?_⟩
  · rw [List.filter_reverse]
    have ranked := falling.filter (tied lt x)
    have own : ∀ y ∈ s.filter (tied lt x), p y ∧ tied lt x y = true := fun y there =>
      ⟨all y (List.mem_filter.1 there).1, (List.mem_filter.1 there).2⟩
    match s.filter (tied lt x), ranked, own with
    | [], _, _ => rfl
    | [a], _, _ => rfl
    | a :: b :: rest, ranked, own =>
        obtain ⟨ha, first⟩ := own a List.mem_cons_self
        obtain ⟨hb, second⟩ := own b (List.mem_cons_of_mem a List.mem_cons_self)
        have less := List.rel_of_pairwise_cons ranked List.mem_cons_self
        rw [order.lt_of_tied hx hb ha second first] at less
        cases less
  · apply List.pairwise_reverse.2
    exact falling.imp_of_mem fun ha hb less => order.asymm (all _ hb) (all _ ha) less

theorem slope_pos (nonempty : s ≠ []) : 0 < (slope lt s).1 := by
  match s, nonempty with
  | [a], _ => exact Nat.one_pos
  | a :: b :: rest, _ =>
      rw [slope]
      split <;> exact Nat.succ_pos _

theorem sorts_slope (order : OrdersOn lt p) (all : ∀ x ∈ s, p x) :
    Sorts lt p (s.take (slope lt s).1)
      (if (slope lt s).2 then (s.take (slope lt s).1).reverse else s.take (slope lt s).1) := by
  match s, all with
  | [], _ => exact .of_ascending List.Pairwise.nil
  | [a], _ => exact .of_ascending (List.pairwise_singleton _ a)
  | a :: b :: rest, all =>
      obtain ⟨ha, others⟩ := List.forall_mem_cons.1 all
      rw [slope]
      split
      · rename_i falls
        have falling := pairwise_chained (fun a b => lt b a) order.flip.lt_trans ha others
        rw [chained, if_pos falls] at falling
        exact .of_falling order (fun x there => all x (List.mem_of_mem_take there)) falling
      · rename_i rises
        rw [Bool.not_eq_true] at rises
        have rising := pairwise_chained (fun a b => !lt b a) (fun ha hb hc first second => by
          rw [Bool.not_eq_true'] at first second ⊢
          exact order.trans ha hb hc first second) ha others
        rw [chained, if_pos (by rw [rises]; rfl)] at rising
        exact .of_ascending (rising.imp fun notLess => by rwa [Bool.not_eq_true'] at notLess)

theorem perm_of_firstRun? {eager : Bool} {least : Nat} {r : Run α} (result : firstRun? lt eager least s = some r) :
    r.items ++ s.drop r.items.length ~ s := by
  have taken : ∀ {n : Nat} {u : List α}, u ~ s.take n → u ++ s.drop u.length ~ s := fun {n u} same => by
    have whole := same.append_right (s.drop (s.take n).length)
    rwa [append_drop_length_take, ← same.length_eq] at whole
  unfold firstRun? at result
  simp only at result
  split at result
  · cases result
    split
    · exact taken (List.reverse_perm _)
    · exact taken (List.Perm.refl _)
  · split at result
    · obtain ⟨u, sorted, rfl⟩ := Option.map_eq_some_iff.1 result
      exact taken (perm_of_sortShort? sorted)
    · cases result
      exact taken (List.Perm.refl _)

theorem perm_mergeRuns (s t : List α) : mergeRuns lt s t ~ s ++ t := by
  unfold mergeRuns
  split
  · exact List.merge_perm_append _
  · calc
      (s.reverse.merge t.reverse fun a b => lt b a).reverse ~ s.reverse.merge t.reverse fun a b => lt b a :=
        List.reverse_perm _
      _ ~ s.reverse ++ t.reverse := List.merge_perm_append _
      _ ~ s ++ t := (List.reverse_perm s).append (List.reverse_perm t)

def unstacked : List (Run α × Nat) → List α
  | [] => []
  | (r, _) :: stack => unstacked stack ++ r.items

theorem stack_of_collapse?_zero {stack : List (Run α × Nat)} {r : Run α} {joined : List (Run α × Nat) × Run α}
    (result : collapse? lt room quick 0 stack r = some joined) : joined.1 = [] := by
  induction stack generalizing r with
  | nil =>
      cases result
      rfl
  | cons top stack ih =>
      obtain ⟨before, d⟩ := top
      rw [collapse?, if_pos (Nat.zero_le d)] at result
      obtain ⟨both, -, others⟩ := Option.bind_eq_some_iff.1 result
      exact ih others

section

variable (perm_quick : ∀ {s t}, quick s = some t → t ~ s)
include perm_quick

theorem perm_of_finish? {r : Run α} (result : r.finish? quick = some t) : t ~ r.items := by
  unfold Run.finish? at result
  split at result
  · cases result
    exact List.Perm.refl _
  · exact perm_quick result

theorem perm_of_join? {left right r : Run α} (result : join? lt room quick left right = some r) :
    r.items ~ left.items ++ right.items := by
  unfold join? at result
  split at result
  · obtain ⟨u, first, result⟩ := Option.bind_eq_some_iff.1 result
    obtain ⟨v, second, result⟩ := Option.bind_eq_some_iff.1 result
    cases result
    exact (perm_mergeRuns u v).trans ((perm_of_finish? perm_quick first).append (perm_of_finish? perm_quick second))
  · cases result
    exact List.Perm.refl _

theorem perm_of_collapse? {depth : Nat} {stack : List (Run α × Nat)} {r : Run α}
    {joined : List (Run α × Nat) × Run α}
    (result : collapse? lt room quick depth stack r = some joined) :
    unstacked joined.1 ++ joined.2.items ~ unstacked stack ++ r.items := by
  induction stack generalizing r with
  | nil =>
      cases result
      exact List.Perm.refl _
  | cons top stack ih =>
      obtain ⟨before, d⟩ := top
      rw [collapse?] at result
      split at result
      · obtain ⟨both, first, others⟩ := Option.bind_eq_some_iff.1 result
        rw [unstacked, List.append_assoc]
        exact (ih others).trans ((perm_of_join? perm_quick first).append_left _)
      · cases result
        exact List.Perm.refl _

theorem perm_of_joinRuns? {eager : Bool} {least scale scanned : Nat} {stack : List (Run α × Nat)} {r : Run α}
    {rest : List α} (result : joinRuns? lt room quick eager least scale stack r scanned rest = some t) :
    t ~ unstacked stack ++ r.items ++ rest := by
  induction rest using WellFounded.induction (measure List.length).wf generalizing stack r scanned with
  | _ rest ih =>
      rw [joinRuns?] at result
      split at result
      · rename_i finished
        obtain ⟨joined, all, last⟩ := Option.bind_eq_some_iff.1 result
        have whole := perm_of_collapse? perm_quick all
        rw [stack_of_collapse?_zero all] at whole
        rw [List.isEmpty_iff.1 finished, List.append_nil]
        exact (perm_of_finish? perm_quick last).trans whole
      · obtain ⟨next, cut, result⟩ := Option.bind_eq_some_iff.1 result
        obtain ⟨joined, before, result⟩ := Option.bind_eq_some_iff.1 result
        split at result
        · rename_i shorter
          calc
            t ~ unstacked joined.1 ++ joined.2.items ++ next.items ++ rest.drop next.items.length :=
              ih _ shorter result
            _ ~ unstacked stack ++ r.items ++ next.items ++ rest.drop next.items.length :=
              ((perm_of_collapse? perm_quick before).append_right _).append_right _
            _ ~ unstacked stack ++ r.items ++ (next.items ++ rest.drop next.items.length) :=
              .of_eq (List.append_assoc _ _ _)
            _ ~ unstacked stack ++ r.items ++ rest := (perm_of_firstRun? cut).append_left _
        · cases result

theorem perm_of_sortByRuns? {eager : Bool} (result : sortByRuns? lt room quick eager s = some t) : t ~ s := by
  obtain ⟨r, cut, joined⟩ := Option.bind_eq_some_iff.1 result
  exact (perm_of_joinRuns? perm_quick joined).trans (perm_of_firstRun? cut)

end

theorem sorts_mergeRuns {u v : List α} (order : OrdersOn lt p) (allLeft : ∀ x ∈ s, p x) (allRight : ∀ x ∈ t, p x)
    (left : Sorts lt p s u) (right : Sorts lt p t v) : Sorts lt p (s ++ t) (mergeRuns lt u v) := by
  unfold mergeRuns
  split
  · exact left.merge order allLeft allRight right
  · exact left.mergeBack order allLeft allRight right

def Quick (lt : α → α → Bool) (p : α → Prop) (quick : List α → Option (List α)) : Prop :=
  ∀ s, (∀ x ∈ s, p x) → ∃ t, quick s = some t ∧ Sorts lt p s t

/-- A run in order is, and one that is not can be sorted. -/
structure Run.Sound (lt : α → α → Bool) (p : α → Prop) (quick : List α → Option (List α)) (r : Run α) : Prop where
  forall_mem : ∀ x ∈ r.items, p x
  ascending : r.ordered = true → Ascending lt r.items
  sorting : r.ordered = false → Quick lt p quick

theorem Run.Sound.finish? {r : Run α} (sound : r.Sound lt p quick) :
    ∃ t, r.finish? quick = some t ∧ Sorts lt p r.items t := by
  unfold Run.finish?
  split
  · exact ⟨_, rfl, .of_ascending (sound.ascending ‹_›)⟩
  · exact sound.sorting (Bool.eq_false_iff.2 ‹_›) _ sound.forall_mem

theorem sound_firstRun? {eager : Bool} (order : OrdersOn lt p) (sorting : eager = false → Quick lt p quick)
    (least : Nat) (nonempty : s ≠ []) (all : ∀ x ∈ s, p x) :
    ∃ r, firstRun? lt eager least s = some r ∧ r.Sound lt p quick ∧ r.items ≠ [] ∧
      Keeps lt p s (r.items ++ s.drop r.items.length) := by
  have own : ∀ {n : Nat}, ∀ x ∈ s.take n, p x := fun x there => all x (List.mem_of_mem_take there)
  have taken : ∀ {n : Nat} {u : List α}, Keeps lt p (s.take n) u → Keeps lt p s (u ++ s.drop u.length) :=
    fun {n u} keeps => by
      have whole := keeps.append (.refl (s.drop (s.take n).length))
      rwa [append_drop_length_take, ← keeps.perm.length_eq] at whole
  have filled : ∀ {n : Nat} {u : List α}, Keeps lt p (s.take n) u → 0 < n → u ≠ [] := fun keeps positive empty => by
    have length := keeps.perm.length_eq
    rw [empty, List.length_nil, List.length_take] at length
    have := List.length_pos_iff.2 nonempty
    omega
  have positive : 0 < (slope lt s).1 := slope_pos nonempty
  unfold firstRun?
  simp only
  split
  · have sorts := sorts_slope order all
    exact ⟨_, rfl, ⟨sorts.forall_mem own, fun _ => sorts.ascending, nofun⟩,
      filled sorts.toKeeps positive, taken sorts.toKeeps⟩
  · split
    · obtain ⟨t, result, sorts⟩ := sorts_sortShort? order (s := s.take shortLength) own
      refine ⟨⟨t, true⟩, by rw [result, Option.map_some], ?_, filled sorts.toKeeps (by decide), taken sorts.toKeeps⟩
      exact ⟨sorts.forall_mem own, fun _ => sorts.ascending, nofun⟩
    · refine ⟨_, rfl, ⟨own, nofun, fun _ => sorting (Bool.eq_false_iff.2 ‹_›)⟩,
        filled (.refl _) (by omega), taken (.refl _)⟩

theorem Run.Sound.join? {left right : Run α} (order : OrdersOn lt p) (room : Nat) (first : left.Sound lt p quick)
    (second : right.Sound lt p quick) :
    ∃ r, join? lt room quick left right = some r ∧ r.Sound lt p quick ∧
      Keeps lt p (left.items ++ right.items) r.items := by
  have both : ∀ x ∈ left.items ++ right.items, p x := List.forall_mem_append.2 ⟨first.forall_mem, second.forall_mem⟩
  unfold Sorting.join?
  split
  · obtain ⟨u, finished, sortsLeft⟩ := first.finish?
    obtain ⟨v, finishedToo, sortsRight⟩ := second.finish?
    have sorts := sorts_mergeRuns order first.forall_mem second.forall_mem sortsLeft sortsRight
    refine ⟨⟨mergeRuns lt u v, true⟩, by rw [finished, finishedToo]; rfl, ?_, sorts.toKeeps⟩
    exact ⟨sorts.forall_mem both, fun _ => sorts.ascending, nofun⟩
  · rename_i neither
    refine ⟨⟨left.items ++ right.items, false⟩, rfl, ⟨both, nofun, fun _ => ?_⟩,
      .refl _⟩
    apply first.sorting
    rw [Bool.or_eq_true, Bool.or_eq_true, not_or, not_or] at neither
    exact Bool.eq_false_iff.2 neither.1.1

theorem sound_collapse? {stack : List (Run α × Nat)} {r : Run α} (order : OrdersOn lt p) (room depth : Nat)
    (below : ∀ e ∈ stack, e.1.Sound lt p quick) (last : r.Sound lt p quick) :
    ∃ joined, collapse? lt room quick depth stack r = some joined ∧ (∀ e ∈ joined.1, e.1.Sound lt p quick) ∧
      joined.2.Sound lt p quick ∧
      Keeps lt p (unstacked stack ++ r.items) (unstacked joined.1 ++ joined.2.items) := by
  induction stack generalizing r with
  | nil => exact ⟨_, rfl, below, last, .refl _⟩
  | cons top stack ih =>
      obtain ⟨before, d⟩ := top
      obtain ⟨own, others⟩ := List.forall_mem_cons.1 below
      rw [collapse?]
      split
      · obtain ⟨both, result, sound, keeps⟩ := Run.Sound.join? order room own last
        obtain ⟨joined, later, belowToo, lastToo, keepsToo⟩ := ih others sound
        refine ⟨joined, by rw [result, Option.bind_some, later], belowToo, lastToo, ?_⟩
        rw [unstacked, List.append_assoc]
        exact ((Keeps.refl _).append keeps).trans keepsToo
      · exact ⟨_, rfl, below, last, .refl _⟩

/-- What is stacked, the run behind it and the rest become the stable sort of all. -/
theorem sorts_joinRuns? {eager : Bool} {stack : List (Run α × Nat)} {r : Run α} {rest : List α}
    (order : OrdersOn lt p) (room least scale scanned : Nat) (sorting : eager = false → Quick lt p quick)
    (below : ∀ e ∈ stack, e.1.Sound lt p quick) (last : r.Sound lt p quick) (all : ∀ x ∈ rest, p x) :
    ∃ t, joinRuns? lt room quick eager least scale stack r scanned rest = some t ∧
      Sorts lt p (unstacked stack ++ r.items ++ rest) t := by
  induction rest using WellFounded.induction (measure List.length).wf generalizing stack r scanned with
  | _ rest ih =>
      rw [joinRuns?]
      split
      · rename_i finished
        obtain ⟨joined, result, -, sound, keeps⟩ := sound_collapse? order room 0 below last
        obtain ⟨t, finish, sorts⟩ := sound.finish?
        rw [stack_of_collapse?_zero result] at keeps
        refine ⟨t, by rw [result, Option.bind_some, finish], ?_⟩
        rw [List.isEmpty_iff.1 finished, List.append_nil]
        exact .of_keeps keeps sorts
      · rename_i more
        have nonempty : rest ≠ [] := fun empty => more (List.isEmpty_iff.2 empty)
        obtain ⟨next, cut, sound, filled, kept⟩ := sound_firstRun? order sorting least nonempty all
        rw [cut, Option.bind_some]
        obtain ⟨joined, result, belowToo, lastToo, keeps⟩ := sound_collapse? order room
          (meetingDepth scale (scanned - r.items.length) scanned (scanned + next.items.length)) below last
        have shorter : (rest.drop next.items.length).length < rest.length := by
          rw [List.length_drop]
          have := List.length_pos_iff.2 filled
          have := List.length_pos_iff.2 nonempty
          omega
        have stacked : ∀ d, ∀ e ∈ (joined.2, d) :: joined.1, e.1.Sound lt p quick := fun d =>
          List.forall_mem_cons.2 ⟨lastToo, belowToo⟩
        obtain ⟨t, later, sorts⟩ := ih _ shorter _ (stacked _) sound fun x there =>
          all x (List.mem_of_mem_drop there)
        refine ⟨t, by simp only [result, Option.bind_some]; rw [dif_pos shorter, later], .of_keeps ?_ sorts⟩
        rw [unstacked, List.append_assoc _ next.items]
        exact keeps.append kept

theorem sorts_sortByRuns? {eager : Bool} (order : OrdersOn lt p) (sorting : eager = false → Quick lt p quick)
    (nonempty : s ≠ []) (all : ∀ x ∈ s, p x) :
    ∃ t, sortByRuns? lt room quick eager s = some t ∧ Sorts lt p s t := by
  obtain ⟨r, cut, sound, -, kept⟩ := sound_firstRun? order sorting (leastRun s.length) nonempty all
  have nothing : ∀ e ∈ ([] : List (Run α × Nat)), e.1.Sound lt p quick := nofun
  obtain ⟨t, joined, sorts⟩ := sorts_joinRuns? order room (leastRun s.length)
    ((1 <<< 62 + s.length - 1) / s.length) r.items.length sorting nothing sound fun x there =>
      all x (List.mem_of_mem_drop there)
  exact ⟨t, by rw [sortByRuns?, cut, Option.bind_some, joined], .of_keeps kept sorts⟩

end RecordSearch.Sorting
