import RecordSearch.Proofs.Condition.Value
import RecordSearch.ResultSet.Plan

namespace RecordSearch

namespace Condition

variable {truth : String → Value → Option Bool}

theorem isNegated_openGroup {root : Condition} (plain : root.isNegated = false) (join : Connector) :
    (root.openGroup join).isNegated = false := by
  obtain ⟨connector, negated, children⟩ := root
  rw [openGroup]
  split
  · exact plain
  · split
    · rfl
    · exact plain

/-- An opened node holds what it held before, as something that `join` can stand in front of. -/
theorem joinedValue?_openGroup {root : Condition} (plain : root.isNegated = false)
    (join : Connector) :
    joinedValue? truth join (root.openGroup join).children = root.value? truth ∧
      ((root.openGroup join).children = [] ∨ (root.openGroup join).connector = join) := by
  obtain ⟨connector, negated, children⟩ := root
  cases plain
  rw [openGroup]
  split
  · rename_i single
    constructor
    · rw [value?_node]
      have few : children.length < 2 := by omega
      exact joinedValue?_of_length_lt few join connector
    · exact Or.inr rfl
  · split
    · constructor
      · exact joinedValue?_single join _
      · exact Or.inr rfl
    · rename_i same
      rw [value?_node]
      by_cases alike : connector = join
      · subst alike
        exact ⟨rfl, Or.inr rfl⟩
      · have vacant : children = [] := by simpa [alike] using same
        subst vacant
        exact ⟨rfl, Or.inl rfl⟩

theorem value?_closeGroup {root group : Condition} (plain : root.isNegated = false)
    (whole : group.isNegated = false) (join : Connector) :
    ((root.openGroup join).closeGroup group).value? truth =
      join.join (root.value? truth) (group.value? truth) := by
  have grouped : childValue? truth (.node (node group.connector false group.children)) =
      group.value? truth := by
    rw [value?_of_plain whole]
    exact value?_node group.connector group.children
  obtain ⟨held, shape⟩ : joinedValue? truth join (root.openGroup join).children =
      root.value? truth ∧ _ := joinedValue?_openGroup plain join
  rw [closeGroup, isNegated_openGroup plain join, value?_node]
  rcases shape with none_there | same
  · rw [none_there] at held ⊢
    rw [← held, List.nil_append, joinedValue?_single, grouped]
    exact (Connector.none_join join _).symm
  · rw [same, joinedValue?_append, joinedValue?_single, held, grouped]

theorem isNegated_closeGroup {parent : Condition} (plain : parent.isNegated = false)
    (group : Condition) : (parent.closeGroup group).isNegated = false := plain

/-- Where children may follow a root without a group of their own: nothing is there before them, no other
connector follows the first, or it is the same. -/
def MayFollow (root : Condition) (join connector : Connector) (count : Nat) : Prop :=
  root.children = [] ∨ count < 2 ∨ join = connector

theorem mayFollow_of_not_needsGroup {root : Condition} {join connector : Connector} {count : Nat}
    (needless : needsGroup root join connector count = false) :
    MayFollow root join connector count := by
  simp only [needsGroup, isEmpty, Bool.and_eq_false_iff, Bool.not_eq_false',
    List.isEmpty_iff, bne_eq_false_iff_eq, decide_eq_false_iff_not] at needless
  rcases needless with (vacant | same) | few
  · exact Or.inl vacant
  · exact Or.inr (Or.inr same.symm)
  · exact Or.inr (Or.inl (by omega))

theorem value?_of_children_nil {c : Condition} (vacant : c.children = []) :
    c.value? truth = none := by
  obtain ⟨connector, negated, children⟩ := c
  cases vacant
  rfl

theorem join_first {root : Condition} {join connector : Connector} {count : Nat}
    (follows : MayFollow root join connector (count + 1)) (first rest : Option Bool)
    (last : count = 0 → rest = none) :
    connector.join (join.join (root.value? truth) first) rest =
      join.join (root.value? truth) (connector.join first rest) := by
  rcases follows with vacant | few | rfl
  · rw [value?_of_children_nil vacant, Connector.none_join, Connector.none_join]
  · rw [last (by omega), Connector.join_none, Connector.join_none]
  · exact Connector.join_assoc join _ _ _

mutual

theorem value?_extend (respects : Respects truth) : ∀ (c root : Condition) (join : Connector),
    root.isNegated = false → (root.children = [] ∨ c.isNegated = false) →
      (root.extend join c).value? truth = join.join (root.value? truth) (c.value? truth) ∧
        (root.extend join c).isNegated = false
  | node connector negated children, root, join => by
      intro plain whole
      rw [extend]
      cases grouped : needsGroup root join connector children.length with
      | true =>
          obtain ⟨filled, plainFilled⟩ := value?_extendBy respects children empty join connector rfl
            (Or.inl rfl)
          rw [value?_of_children_nil (c := empty) rfl, Connector.none_join] at filled
          cases negated with
          | false =>
              refine ⟨?_, isNegated_closeGroup (isNegated_openGroup plain join) _⟩
              rw [value?_node, ← filled]
              exact value?_closeGroup plain plainFilled join
          | true =>
              refine ⟨?_, isNegated_closeGroup (isNegated_openGroup plain join) _⟩
              rw [value?_negated, ← filled, ← value?_negate]
              exact value?_closeGroup plain (isNegated_negate _) join
      | false =>
          obtain ⟨filled, plainFilled⟩ := value?_extendBy respects children root join connector plain
            (mayFollow_of_not_needsGroup grouped)
          cases negated with
          | false =>
              refine ⟨?_, plainFilled⟩
              rw [value?_node]
              exact filled
          | true =>
              -- only an empty root may be negated with what is joined to it
              have vacant : root.children = [] := by
                rcases whole with vacant | plainC
                · exact vacant
                · cases plainC
              rw [value?_of_children_nil vacant, Connector.none_join] at filled ⊢
              refine ⟨?_, isNegated_negate _⟩
              rw [value?_negated, ← filled]
              exact value?_negate _

theorem value?_extendBy (respects : Respects truth) :
    ∀ (children : List Child) (root : Condition) (join connector : Connector),
      root.isNegated = false → MayFollow root join connector children.length →
        (extendBy root join connector children).value? truth =
            join.join (root.value? truth) (joinedValue? truth connector children) ∧
          (extendBy root join connector children).isNegated = false
  | [], root, join, connector => by
      intro plain _
      rw [extendBy]
      exact ⟨(Connector.join_none join _).symm, plain⟩
  | .node inner :: rest, root, join, connector => by
      intro plain follows
      obtain ⟨group, plainGroup⟩ := value?_extend respects inner empty .and rfl (Or.inl rfl)
      rw [value?_of_children_nil (c := empty) rfl, Connector.none_join] at group
      have closed : ((root.openGroup join).closeGroup (extend empty .and inner)).value? truth = _ :=
        value?_closeGroup plain plainGroup join
      obtain ⟨all, plainAll⟩ := value?_extendBy respects rest
        ((root.openGroup join).closeGroup (extend empty .and inner)) connector connector
        (isNegated_closeGroup (isNegated_openGroup plain join) _) (Or.inr (Or.inr rfl))
      rw [extendBy]
      refine ⟨?_, plainAll⟩
      rw [all, closed, group, joinedValue?_cons]
      exact join_first follows _ _ fun none_left => by
        rw [List.length_eq_zero_iff.1 none_left]
        rfl
  | .leaf expression v :: rest, root, join, connector => by
      intro plain follows
      have added := value?_addChild respects plain (.leaf expression v) join
      obtain ⟨all, plainAll⟩ := value?_extendBy respects rest
        (root.addChild (.leaf expression v) join) connector connector
        (isNegated_addChild plain _ join) (Or.inr (Or.inr rfl))
      rw [extendBy]
      refine ⟨?_, plainAll⟩
      rw [all, added, joinedValue?_cons]
      exact join_first follows _ _ fun none_left => by
        rw [List.length_eq_zero_iff.1 none_left]
        rfl

end

end Condition

namespace Plan

open Condition (value? value?_extend value?_eq_none_iff_of_total)

/-- The plans that are made from the empty one by joining conditions and plans to it. -/
inductive Filtered : Plan → Prop where
  | empty : Filtered .empty
  | addFilter {p : Plan} {c : Condition} (join : Connector) :
      Filtered p → c.Built → Filtered (p.addFilter c join)
  | combine {p other : Plan} (join : Connector) :
      Filtered p → Filtered other → Filtered (p.combine other join)

theorem isNegated_filter_addFilter {p : Plan} (plain : p.filter.isNegated = false) {c : Condition}
    (whole : c.isNegated = false) (join : Connector) :
    (p.addFilter c join).filter.isNegated = false := by
  have respects : Condition.Respects fun _ _ => none := fun _ _ _ _ => rfl
  exact (value?_extend respects c p.filter join plain (Or.inr whole)).2

theorem Filtered.isNegated {p : Plan} (filtered : p.Filtered) : p.filter.isNegated = false := by
  induction filtered with
  | empty => rfl
  | addFilter join _ built plain => exact isNegated_filter_addFilter plain built.isNegated join
  | combine join _ _ plain plainOther => exact isNegated_filter_addFilter plain plainOther join

/-- What is joined to a plan keeps its value and that of the plan, under every truth of lookups that tells
no equal ones apart; only a tree without lookups has no value, and roots are never negated. -/
theorem value?_filter_addFilter (truth : String → Value → Bool)
    (respects : ∀ expression v w, (v == w) = true → truth expression v = truth expression w)
    {p other : Plan} (filtered : p.Filtered) (filteredOther : other.Filtered) {c : Condition}
    (built : c.Built) (join : Connector) :
    let value := value? fun expression v => some (truth expression v)
    (value (p.addFilter c join).filter = join.join (value p.filter) (value c) ∧
      (p.addFilter c join).filter.isNegated = false) ∧
    (value (p.combine other join).filter = join.join (value p.filter) (value other.filter) ∧
      (p.combine other join).filter.isNegated = false) ∧
    ∀ t, value t = none ↔ t.leaves = [] := by
  have equal : Condition.Respects fun expression v => some (truth expression v) := by
    intro expression v w same
    exact congrArg some (respects expression v w same)
  refine ⟨?_, ?_, fun t => value?_eq_none_iff_of_total truth t⟩
  · exact value?_extend equal c p.filter join filtered.isNegated (Or.inr built.isNegated)
  · exact value?_extend equal other.filter p.filter join filtered.isNegated
      (Or.inr filteredOther.isNegated)

theorem value?_filter_addFilter_grouped :
    let a := Condition.lookup "author" (.text "daniel")
    let alternatives := (Condition.lookup "title" (.text "moof")).combine
      (Condition.lookup "id__in" (.list [.integer 1, .null])).inverted .or
    let value := value? fun expression _ => some (expression == "author")
    value ((Plan.empty.addFilter a .and).addFilter alternatives .and).filter =
      Connector.and.join (value (Plan.empty.addFilter a .and).filter) (value alternatives) :=
  (value?_filter_addFilter (fun expression _ => expression == "author") (fun _ _ _ _ => rfl)
    (.addFilter .and .empty (.lookup _ _)) .empty
    (.combine .or (.lookup _ _) (.inverted (.lookup _ _))) .and).1.1

end Plan

end RecordSearch
