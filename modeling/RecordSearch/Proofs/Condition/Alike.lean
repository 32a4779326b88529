import Mathlib
import RecordSearch.Proofs.Condition.Extend
import RecordSearch.Proofs.Condition.Operators

/-!
Values of trees when only the lookups that they hold are known. Comparison of values is no equality, as
zeros of both signs compare as equal, so what is known has to agree on lookups that do.
-/

namespace RecordSearch

namespace Value

/-- Values that compare as equal are the same, but for floats and what holds them. -/
theorem eq_or_of_beq {v w : Value} (same : beq v w = true) :
    v = w ∨ (∃ a b, v = float a ∧ w = float b ∧ (a.toFloat == b.toFloat) = true) ∨
      ∃ items others, v = list items ∧ w = list others ∧ beqItems items others = true := by
  cases v with
  | float a =>
      cases w with
      | float b => exact Or.inr (Or.inl ⟨a, b, rfl, rfl, same⟩)
      | _ => cases same
  | list items =>
      cases w with
      | list others => exact Or.inr (Or.inr ⟨items, others, rfl, rfl, same⟩)
      | _ => cases same
  | null =>
      cases w with
      | null => exact Or.inl rfl
      | _ => cases same
  | text s =>
      cases w with
      | text t => exact Or.inl (congrArg text (beq_iff_eq.1 same))
      | _ => cases same
  | integer n =>
      cases w with
      | integer m => exact Or.inl (congrArg integer (beq_iff_eq.1 same))
      | _ => cases same
  | boolean b =>
      cases w with
      | boolean c => exact Or.inl (congrArg boolean (beq_iff_eq.1 same))
      | _ => cases same
  | date d =>
      cases w with
      | date e => exact Or.inl (congrArg date (beq_iff_eq.1 same))
      | _ => cases same
  | dateTime t =>
      cases w with
      | dateTime u => exact Or.inl (congrArg dateTime (beq_iff_eq.1 same))
      | _ => cases same

mutual

theorem beq_symm : ∀ v w : Value, beq v w = true → beq w v = true
  | v, w => by
      intro same
      rcases eq_or_of_beq same with rfl | ⟨a, b, rfl, rfl, floats⟩ | ⟨items, others, rfl, rfl, -⟩
      · exact same
      · exact BEq.symm floats
      · exact beqItems_symm items others same

theorem beqItems_symm : ∀ vs ws : List Value, beqItems vs ws = true → beqItems ws vs = true
  | [], [] => fun same => same
  | v :: vs, w :: ws => by
      intro same
      simp only [beqItems, Bool.and_eq_true] at same ⊢
      exact ⟨beq_symm v w same.1, beqItems_symm vs ws same.2⟩
  | [], _ :: _ => by
      intro same
      cases same
  | _ :: _, [] => by
      intro same
      cases same

end

mutual

theorem beq_trans : ∀ u v w : Value, beq u v = true → beq v w = true → beq u w = true
  | u, v, w => by
      intro first second
      rcases eq_or_of_beq first with rfl | ⟨a, b, rfl, rfl, floats⟩ | ⟨items, others, rfl, rfl, -⟩
      · exact second
      · rcases eq_or_of_beq second with rfl | ⟨_, d, start, rfl, last⟩ | ⟨_, _, start, _⟩
        · exact first
        · cases start
          exact PartialEquivBEq.trans floats last
        · cases start
      · rcases eq_or_of_beq second with rfl | ⟨_, _, start, _⟩ | ⟨_, last, start, rfl, _⟩
        · exact first
        · cases start
        · cases start
          exact beqItems_trans items others last first second

theorem beqItems_trans : ∀ us vs ws : List Value,
    beqItems us vs = true → beqItems vs ws = true → beqItems us ws = true
  | [], [], _ => fun _ second => second
  | u :: us, v :: vs, w :: ws => by
      intro first second
      simp only [beqItems, Bool.and_eq_true] at first second ⊢
      exact ⟨beq_trans u v w first.1 second.1, beqItems_trans us vs ws first.2 second.2⟩
  | [], _ :: _, _ => by
      intro first
      cases first
  | _ :: _, [], _ => by
      intro first
      cases first
  | _ :: _, _ :: _, [] => by
      intro _ second
      cases second

end

end Value

namespace Condition

variable {truth other : String → Value → Option Bool}

mutual

theorem value?_congr : ∀ c : Condition,
    (∀ leaf ∈ c.leaves, truth leaf.1 leaf.2 = other leaf.1 leaf.2) → c.value? truth = c.value? other
  | node connector negated children => by
      intro agree
      rw [value?, value?, joinedValue?_congr connector children agree]

theorem joinedValue?_congr (connector : Connector) : ∀ children : List Child,
    (∀ leaf ∈ childrenLeaves children, truth leaf.1 leaf.2 = other leaf.1 leaf.2) →
      joinedValue? truth connector children = joinedValue? other connector children
  | [] => fun _ => rfl
  | .node inner :: rest => by
      intro agree
      rw [childrenLeaves] at agree
      rw [joinedValue?, joinedValue?,
        value?_congr inner fun leaf listed => agree leaf (List.mem_append_left _ listed),
        joinedValue?_congr connector rest fun leaf listed => agree leaf (List.mem_append_right _ listed)]
  | .leaf expression v :: rest => by
      intro agree
      rw [childrenLeaves] at agree
      rw [joinedValue?, joinedValue?, agree (expression, v) List.mem_cons_self,
        joinedValue?_congr connector rest fun leaf listed => agree leaf (List.mem_cons_of_mem _ listed)]

end

theorem leaves_openGroup (root : Condition) (join : Connector) :
    (root.openGroup join).leaves = root.leaves := by
  obtain ⟨connector, negated, children⟩ := root
  rw [openGroup]
  split
  · rfl
  · split
    · exact childrenLeaves_single _
    · rfl

theorem leaves_closeGroup (parent group : Condition) :
    (parent.closeGroup group).leaves = parent.leaves ++ group.leaves := by
  rw [closeGroup, leaves_node, childrenLeaves_append, childrenLeaves_single, leaves_eq parent,
    leaves_eq group]
  rfl

theorem leaves_negate (c : Condition) : c.negate.leaves = c.leaves := by
  obtain ⟨connector, negated, children⟩ := c
  exact childrenLeaves_single _

theorem leaves_group (root filled : Condition) (join : Connector) (negated grouped : Bool) :
    (let group := if negated then filled.negate else filled
      if grouped then (root.openGroup join).closeGroup group else group).leaves =
      if grouped then root.leaves ++ filled.leaves else filled.leaves := by
  cases negated <;> cases grouped <;>
    simp [leaves_closeGroup, leaves_openGroup, leaves_negate]

mutual

theorem leaves_extend_subset : ∀ (c root : Condition) (join : Connector),
    (root.extend join c).leaves ⊆ root.leaves ++ c.leaves
  | node connector negated children, root, join => by
      rw [extend, leaves_group]
      split
      · have filled := leaves_extendBy_subset children empty join connector
        exact List.append_subset.2 ⟨List.subset_append_left _ _,
          List.Subset.trans filled (List.subset_append_right _ _)⟩
      · exact leaves_extendBy_subset children root join connector

theorem leaves_extendBy_subset : ∀ (children : List Child) (root : Condition) (join connector : Connector),
    (extendBy root join connector children).leaves ⊆ root.leaves ++ childrenLeaves children
  | [], root, join, connector => by
      rw [extendBy]
      exact List.subset_append_left _ _
  | .node inner :: rest, root, join, connector => by
      have group := leaves_extend_subset inner empty .and
      have others := leaves_extendBy_subset rest
        ((root.openGroup join).closeGroup (extend empty .and inner)) connector connector
      rw [leaves_closeGroup, leaves_openGroup] at others
      rw [extendBy, childrenLeaves]
      intro leaf listed
      rcases List.mem_append.1 (others listed) with front | back
      · rcases List.mem_append.1 front with before | inside
        · exact List.mem_append_left _ before
        · exact List.mem_append_right _ (List.mem_append_left _ (group inside))
      · exact List.mem_append_right _ (List.mem_append_right _ back)
  | .leaf expression v :: rest, root, join, connector => by
      have added := (gathers_addChild root (.leaf expression v) join).1
      have others := leaves_extendBy_subset rest (root.addChild (.leaf expression v) join) connector
        connector
      rw [extendBy, childrenLeaves]
      intro leaf listed
      rcases List.mem_append.1 (others listed) with front | back
      · rcases List.mem_append.1 (added front) with before | own
        · exact List.mem_append_left _ before
        · exact List.mem_append_right _ (List.mem_cons.2 (Or.inl (List.mem_singleton.1 own)))
      · exact List.mem_append_right _ (List.mem_cons_of_mem _ back)

end

/-- Lookups that are the same or compare as equal. -/
def Matches (p q : Leaf) : Prop := p = q ∨ EqualLeaves p q

/-- What is known does not tell lookups apart that compare as equal. -/
def Alike (truth : String → Value → Option Bool) (known : List Leaf) : Prop :=
  ∀ p ∈ known, ∀ q ∈ known, EqualLeaves p q → truth p.1 p.2 = truth q.1 q.2

theorem matches_iff {expression : String} {v w : Value} (same : (v == w) = true) (p : Leaf) :
    Matches p (expression, v) ↔ Matches p (expression, w) := by
  constructor
  · rintro (rfl | ⟨named, equal⟩)
    · exact Or.inr ⟨rfl, same⟩
    · exact Or.inr ⟨named, Value.beq_trans _ _ _ equal same⟩
  · rintro (rfl | ⟨named, equal⟩)
    · exact Or.inr ⟨rfl, Value.beq_symm _ _ same⟩
    · exact Or.inr ⟨named, Value.beq_trans _ _ _ equal (Value.beq_symm _ _ same)⟩

open Classical in
/-- The truth that is known, also of what compares as equal to a lookup of which it is known. -/
noncomputable def spread (truth : String → Value → Option Bool) (known : List Leaf)
    (expression : String) (v : Value) : Option Bool :=
  if ∃ p ∈ known, Matches p (expression, v) ∧ truth p.1 p.2 = some true then some true
  else if ∃ p ∈ known, Matches p (expression, v) ∧ truth p.1 p.2 = some false then some false
  else none

open Classical in
theorem respects_spread (truth : String → Value → Option Bool) (known : List Leaf) :
    Respects (spread truth known) := by
  intro expression v w same
  have alike : ∀ value, (∃ p ∈ known, Matches p (expression, v) ∧ truth p.1 p.2 = value) ↔
      ∃ p ∈ known, Matches p (expression, w) ∧ truth p.1 p.2 = value := by
    intro value
    simp only [matches_iff same]
  exact if_congr (alike (some true)) rfl (if_congr (alike (some false)) rfl rfl)

theorem spread_of_mem {known : List Leaf} (alike : Alike truth known) {leaf : Leaf}
    (listed : leaf ∈ known) : spread truth known leaf.1 leaf.2 = truth leaf.1 leaf.2 := by
  have agrees : ∀ value, (∃ p ∈ known, Matches p (leaf.1, leaf.2) ∧ truth p.1 p.2 = some value) ↔
      truth leaf.1 leaf.2 = some value := by
    intro value
    constructor
    · rintro ⟨p, there, rfl | equal, found⟩
      · exact found
      · rw [← alike p there leaf listed equal]
        exact found
    · intro found
      exact ⟨leaf, listed, Or.inl rfl, found⟩
  simp only [spread, agrees]
  rcases truth leaf.1 leaf.2 with _ | _ | _ <;> rfl

/-- Joining a tree to a root joins their values, under what is known of their lookups. -/
theorem value?_extend_of_alike {root c : Condition} (alike : Alike truth (root.leaves ++ c.leaves))
    (join : Connector) (plain : root.isNegated = false) (whole : c.isNegated = false) :
    (root.extend join c).value? truth = join.join (root.value? truth) (c.value? truth) := by
  have known : ∀ t : Condition, t.leaves ⊆ root.leaves ++ c.leaves →
      t.value? (spread truth (root.leaves ++ c.leaves)) = t.value? truth := by
    intro t subset
    exact value?_congr t fun leaf listed => spread_of_mem alike (subset listed)
  have joined := (value?_extend (respects_spread truth (root.leaves ++ c.leaves)) c root join plain
    (Or.inr whole)).1
  rw [known _ (leaves_extend_subset c root join), known root (List.subset_append_left _ _),
    known c (List.subset_append_right _ _)] at joined
  exact joined

end Condition

end RecordSearch
