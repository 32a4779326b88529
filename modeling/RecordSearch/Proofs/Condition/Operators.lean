import Mathlib.Data.List.Forall2
import RecordSearch.Proofs.Condition.Value

namespace RecordSearch.Condition

abbrev Leaf := String × Value

/-- Leaves with one expression, and values that compare as equal. -/
def EqualLeaves (p q : Leaf) : Prop := p.1 = q.1 ∧ (p.2 == q.2) = true

/-- The leaves of one list are those of another, equal ones not told apart. -/
def Gathers (all parts : List Leaf) : Prop :=
  all ⊆ parts ∧ ∀ p ∈ parts, ∃ q ∈ all, p = q ∨ EqualLeaves p q

theorem gathers_refl (all : List Leaf) : Gathers all all := by
  constructor
  · exact List.Subset.refl all
  · intro p listed
    exact ⟨p, listed, Or.inl rfl⟩

def childLeaves : Child → List Leaf
  | .node inner => inner.leaves
  | .leaf expression v => [(expression, v)]

theorem childrenLeaves_cons (child : Child) (rest : List Child) :
    childrenLeaves (child :: rest) = childLeaves child ++ childrenLeaves rest := by
  cases child with
  | node inner => rfl
  | leaf expression v => rfl

theorem childrenLeaves_append (front rest : List Child) :
    childrenLeaves (front ++ rest) = childrenLeaves front ++ childrenLeaves rest := by
  induction front with
  | nil => rfl
  | cons child front ih => simp [childrenLeaves_cons, ih]

theorem childrenLeaves_single (child : Child) : childrenLeaves [child] = childLeaves child := by
  simp [childrenLeaves_cons, childrenLeaves]

theorem leaves_node (connector : Connector) (negated : Bool) (children : List Child) :
    leaves (node connector negated children) = childrenLeaves children := rfl

theorem leaves_eq (c : Condition) : c.leaves = childrenLeaves c.children := by
  cases c with
  | node connector negated children => rfl

mutual

theorem equalLeaves_of_beq :
    ∀ a b : Condition, beq a b = true → List.Forall₂ EqualLeaves a.leaves b.leaves
  | node c n children, node c' n' children' => by
      intro same
      simp only [beq, Bool.and_eq_true] at same
      exact equalLeaves_of_beqChildren children children' same.2

theorem equalLeaves_of_beqChild :
    ∀ a b : Child, beqChild a b = true →
      List.Forall₂ EqualLeaves (childLeaves a) (childLeaves b)
  | .node a, .node b => equalLeaves_of_beq a b
  | .leaf expression v, .leaf expression' w => by
      intro same
      simp only [beqChild, Bool.and_eq_true, beq_iff_eq] at same
      exact .cons same .nil
  | .node _, .leaf _ _ => by
      intro same
      cases same
  | .leaf _ _, .node _ => by
      intro same
      cases same

theorem equalLeaves_of_beqChildren :
    ∀ as bs : List Child, beqChildren as bs = true →
      List.Forall₂ EqualLeaves (childrenLeaves as) (childrenLeaves bs)
  | [], [] => fun _ => .nil
  | a :: as, b :: bs => by
      intro same
      simp only [beqChildren, Bool.and_eq_true] at same
      rw [childrenLeaves_cons, childrenLeaves_cons]
      exact List.rel_append (equalLeaves_of_beqChild a b same.1)
        (equalLeaves_of_beqChildren as bs same.2)
  | [], _ :: _ => by
      intro same
      cases same
  | _ :: _, [] => by
      intro same
      cases same

end

theorem mem_childrenLeaves {children : List Child} {child : Child} (present : child ∈ children)
    {p : Leaf} (listed : p ∈ childLeaves child) : p ∈ childrenLeaves children := by
  induction children with
  | nil => cases present
  | cons first rest ih =>
      rw [childrenLeaves_cons, List.mem_append]
      rcases List.mem_cons.1 present with rfl | later
      · exact Or.inl listed
      · exact Or.inr (ih later)

theorem exists_of_forall₂ {as bs : List Leaf} (equal : List.Forall₂ EqualLeaves as bs) {p : Leaf}
    (listed : p ∈ as) : ∃ q ∈ bs, EqualLeaves p q := by
  induction equal with
  | nil => cases listed
  | cons first _ ih =>
      rcases List.mem_cons.1 listed with rfl | later
      · exact ⟨_, List.mem_cons_self, first⟩
      · obtain ⟨q, there, same⟩ := ih later
        exact ⟨q, List.mem_cons_of_mem _ there, same⟩

/-- Adding a child adds its leaves, except those of a child that is there already. -/
theorem gathers_addChild (parent : Condition) (child : Child) (join : Connector) :
    Gathers (parent.addChild child join).leaves (parent.leaves ++ childLeaves child) := by
  unfold addChild
  split
  · rename_i known
    simp only [Bool.and_eq_true, List.contains_iff_exists_mem_beq] at known
    obtain ⟨-, other, present, same⟩ := known
    constructor
    · exact List.subset_append_left _ _
    · intro p listed
      rcases List.mem_append.1 listed with before | left_out
      · exact ⟨p, before, Or.inl rfl⟩
      · obtain ⟨q, there, equal⟩ :=
          exists_of_forall₂ (equalLeaves_of_beqChild child other same) left_out
        rw [leaves_eq]
        exact ⟨q, mem_childrenLeaves present there, Or.inr equal⟩
  · have appended : ∀ connector negated,
        leaves (node connector negated (parent.children ++ [child])) =
          parent.leaves ++ childLeaves child := by
      intro connector negated
      rw [leaves_node, childrenLeaves_append, childrenLeaves_single, leaves_eq]
    split
    · cases child with
      | leaf expression v =>
          rw [appended]
          exact gathers_refl _
      | node inner =>
          simp only
          split
          · rw [leaves_node, childrenLeaves_append, ← leaves_eq, ← leaves_eq]
            exact gathers_refl _
          · rw [appended]
            exact gathers_refl _
    · rw [leaves_node, childrenLeaves_cons, childrenLeaves_single]
      exact gathers_refl _

theorem leaves_add_empty (c : Condition) (join : Connector) : (empty.add c join).leaves = c.leaves := by
  have unknown : (join == empty.connector && empty.children.contains (.node c)) = false := by
    cases join <;> rfl
  have level : (join == empty.connector || decide (empty.size < 2)) = true := by
    cases join <;> rfl
  rw [add, addChild, unknown, level]
  simp only [Bool.false_eq_true, if_false, if_true]
  split
  · exact (leaves_eq c).symm
  · exact childrenLeaves_single (.node c)

theorem leaves_of_isEmpty {c : Condition} (vacant : c.isEmpty = true) : c.leaves = [] := by
  rw [leaves_eq, List.isEmpty_iff.1 vacant, childrenLeaves]

theorem gathers_combine (a b : Condition) (join : Connector) :
    Gathers (a.combine b join).leaves (a.leaves ++ b.leaves) := by
  unfold combine
  split
  · rename_i vacant
    rw [leaves_of_isEmpty vacant, List.append_nil]
    exact gathers_refl _
  · split
    · rename_i vacant
      rw [leaves_of_isEmpty vacant, List.nil_append]
      exact gathers_refl _
    · have added := gathers_addChild (empty.add a join) (.node b) join
      rw [leaves_add_empty] at added
      exact added

section

variable {truth : String → Value → Option Bool}

theorem value?_add (respects : Respects truth) {a : Condition} (plain : a.isNegated = false)
    (b : Condition) (join : Connector) :
    (a.add b join).value? truth = join.join (a.value? truth) (b.value? truth) :=
  value?_addChild respects plain (.node b) join

theorem value?_of_isEmpty {c : Condition} (vacant : c.isEmpty = true) : c.value? truth = none := by
  obtain ⟨connector, negated, children⟩ := c
  obtain rfl : children = [] := List.isEmpty_iff.1 vacant
  rfl

theorem value?_add_empty (respects : Respects truth) (c : Condition) (join : Connector) :
    (empty.add c join).value? truth = c.value? truth := by
  rw [value?_add respects rfl, value?_of_isEmpty (c := empty) rfl, Connector.none_join]

theorem value?_combine (respects : Respects truth) (a b : Condition) (join : Connector) :
    (a.combine b join).value? truth = join.join (a.value? truth) (b.value? truth) := by
  unfold combine
  split
  · rename_i vacant
    rw [value?_of_isEmpty vacant, Connector.join_none]
  · split
    · rename_i vacant
      rw [value?_of_isEmpty vacant, Connector.none_join]
    · have plain : (empty.add a join).isNegated = false := isNegated_addChild rfl _ join
      rw [value?_add respects plain, value?_add_empty respects]

theorem value?_inverted (respects : Respects truth) (c : Condition) :
    c.inverted.value? truth = (c.value? truth).map (!·) := by
  rw [inverted, value?_negate, value?_add_empty respects]

end

/-- Whatever truth the lookups have, and whether they have one or not: combining and adding trees joins
their values, inverting and negating flips them, only trees without a lookup that has a value have none,
roots are never negated, and a combination has just the leaves of its operands. -/
theorem value?_operators (truth : String → Value → Option Bool)
    (respects : ∀ expression v w, (v == w) = true → truth expression v = truth expression w)
    {a : Condition} (built : a.Built) (b : Condition) (join : Connector) :
    (value? truth (a.combine b join) = join.join (value? truth a) (value? truth b) ∧
      value? truth (a.add b join) = join.join (value? truth a) (value? truth b)) ∧
    (value? truth a.inverted = (value? truth a).map (!·) ∧
      value? truth a.negate = (value? truth a).map (!·)) ∧
    (∀ t : Condition, value? truth t = none ↔ ∀ leaf ∈ t.leaves, truth leaf.1 leaf.2 = none) ∧
    (∀ t : Condition, t.Built → t.isNegated = false) ∧
    Gathers (a.combine b join).leaves (a.leaves ++ b.leaves) := by
  refine ⟨⟨?_, ?_⟩, ⟨?_, ?_⟩, ?_, ?_, ?_⟩
  · exact value?_combine respects a b join
  · exact value?_add respects built.isNegated b join
  · exact value?_inverted respects a
  · exact value?_negate a
  · exact value?_eq_none_iff truth
  · exact fun t builtT => builtT.isNegated
  · exact gathers_combine a b join

theorem value?_operators_notes :
    let truth := fun (expression : String) (_ : Value) =>
      if expression = "unknown" then none else some (expression == "author")
    let a := (lookup "author" (.text "daniel")).combine (lookup "title" (.text "moof")).inverted .or
    let b := ofPairs [("unknown", .null), ("id__in", .list [.integer 1])]
    a.Built ∧ value? truth (a.combine b .and) = some false ∧
      value? truth (a.combine b .and) = Connector.and.join (value? truth a) (value? truth b) := by
  intro truth a b
  have built : a.Built := .combine .or (.lookup _ _) (.inverted (.lookup _ _))
  have joined := (value?_operators truth (fun _ _ _ _ => rfl) built b .and).1.1
  exact ⟨built, by decide +kernel, joined⟩

end RecordSearch.Condition
