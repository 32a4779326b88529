import RecordSearch.Condition.Tree

/-!
The value of a condition tree when its lookups are true or false. A lookup may have no value, and a
node without children that have one has none.
-/

namespace RecordSearch

/-- Two values under a connector; what has no value changes nothing. -/
def Connector.join : Connector → Option Bool → Option Bool → Option Bool
  | _, none, b => b
  | _, a, none => a
  | and, some a, some b => some (a && b)
  | or, some a, some b => some (a || b)

namespace Connector

theorem none_join (c : Connector) (a : Option Bool) : c.join none a = a := by
  cases c <;> cases a <;> rfl

theorem join_none (c : Connector) (a : Option Bool) : c.join a none = a := by
  cases c <;> cases a <;> rfl

theorem join_assoc (c : Connector) (a b d : Option Bool) :
    c.join (c.join a b) d = c.join a (c.join b d) := by
  rcases c with _ | _ <;> rcases a with _ | _ | _ <;> rcases b with _ | _ | _ <;>
    rcases d with _ | _ | _ <;> rfl

theorem join_comm (c : Connector) (a b : Option Bool) : c.join a b = c.join b a := by
  rcases c with _ | _ <;> rcases a with _ | _ | _ <;> rcases b with _ | _ | _ <;> rfl

theorem join_self (c : Connector) (a : Option Bool) : c.join a a = a := by
  rcases c with _ | _ <;> rcases a with _ | _ | _ <;> rfl

theorem join_eq_none_iff {c : Connector} {a b : Option Bool} :
    c.join a b = none ↔ a = none ∧ b = none := by
  rcases c with _ | _ <;> rcases a with _ | _ | _ <;> rcases b with _ | _ | _ <;> decide

end Connector

namespace Condition

variable {truth : String → Value → Option Bool}

mutual

/-- The children with a value joined by the connector, and flipped in a negated node. -/
def value? (truth : String → Value → Option Bool) : Condition → Option Bool
  | node connector negated children =>
    (joinedValue? truth connector children).map fun b => b != negated

/-- The values of children under a connector. -/
def joinedValue? (truth : String → Value → Option Bool) (connector : Connector) :
    List Child → Option Bool
  | [] => none
  | .node inner :: rest => connector.join (value? truth inner) (joinedValue? truth connector rest)
  | .leaf expression v :: rest =>
    connector.join (truth expression v) (joinedValue? truth connector rest)

end

def childValue? (truth : String → Value → Option Bool) : Child → Option Bool
  | .node inner => inner.value? truth
  | .leaf expression v => truth expression v

theorem joinedValue?_cons (connector : Connector) (child : Child) (rest : List Child) :
    joinedValue? truth connector (child :: rest) =
      connector.join (childValue? truth child) (joinedValue? truth connector rest) := by
  cases child <;> rfl

theorem joinedValue?_append (connector : Connector) (front rest : List Child) :
    joinedValue? truth connector (front ++ rest) =
      connector.join (joinedValue? truth connector front) (joinedValue? truth connector rest) := by
  induction front with
  | nil => exact (Connector.none_join _ _).symm
  | cons child front ih =>
      rw [List.cons_append, joinedValue?_cons, joinedValue?_cons, ih, Connector.join_assoc]

theorem joinedValue?_single (connector : Connector) (child : Child) :
    joinedValue? truth connector [child] = childValue? truth child := by
  rw [joinedValue?_cons, joinedValue?, Connector.join_none]

theorem joinedValue?_of_length_lt {children : List Child} (few : children.length < 2)
    (c d : Connector) : joinedValue? truth c children = joinedValue? truth d children := by
  match children, few with
  | [], _ => rfl
  | [child], _ => rw [joinedValue?_single, joinedValue?_single]

/-- Joining the value of a child once more changes nothing. -/
theorem join_childValue?_of_mem {connector : Connector} {children : List Child} {child : Child}
    (present : child ∈ children) :
    connector.join (joinedValue? truth connector children) (childValue? truth child) =
      joinedValue? truth connector children := by
  induction children with
  | nil => cases present
  | cons first rest ih =>
      rw [joinedValue?_cons, Connector.join_assoc]
      rcases List.mem_cons.1 present with rfl | later
      · rw [Connector.join_comm connector _ (childValue? truth child), ← Connector.join_assoc,
          Connector.join_self]
      · rw [ih later]

theorem value?_node (connector : Connector) (children : List Child) :
    value? truth (node connector false children) = joinedValue? truth connector children := by
  simp [value?]

theorem value?_negated (connector : Connector) (children : List Child) :
    value? truth (node connector true children) =
      (joinedValue? truth connector children).map (!·) := by
  simp [value?]

theorem value?_of_plain {c : Condition} (plain : c.isNegated = false) :
    c.value? truth = joinedValue? truth c.connector c.children := by
  obtain ⟨connector, negated, children⟩ := c
  cases plain
  exact value?_node connector children

theorem value?_wrap (connector : Connector) (c : Condition) :
    value? truth (node connector false [.node c]) = c.value? truth := by
  rw [value?_node, joinedValue?_single]
  rfl

theorem value?_negate (c : Condition) : c.negate.value? truth = (c.value? truth).map (!·) := by
  obtain ⟨connector, negated, children⟩ := c
  rw [negate, value?_wrap, value?, value?, Option.map_map]
  congr 1
  funext b
  cases b <;> cases negated <;> rfl

/-- Truths that do not tell equal lookups apart. -/
def Respects (truth : String → Value → Option Bool) : Prop :=
  ∀ expression v w, (v == w) = true → truth expression v = truth expression w

mutual

theorem value?_of_beq (respects : Respects truth) :
    ∀ a b : Condition, beq a b = true → a.value? truth = b.value? truth
  | node c n children, node c' n' children' => by
      intro same
      simp only [beq, Bool.and_eq_true, beq_iff_eq] at same
      obtain ⟨⟨rfl, rfl⟩, same⟩ := same
      rw [value?, value?, joinedValue?_of_beq respects c children children' same]

theorem childValue?_of_beq (respects : Respects truth) :
    ∀ a b : Child, beqChild a b = true → childValue? truth a = childValue? truth b
  | .node a, .node b => value?_of_beq respects a b
  | .leaf expression v, .leaf expression' w => by
      intro same
      simp only [beqChild, Bool.and_eq_true, beq_iff_eq] at same
      obtain ⟨rfl, same⟩ := same
      exact respects expression v w same
  | .node _, .leaf _ _ => by
      intro same
      cases same
  | .leaf _ _, .node _ => by
      intro same
      cases same

theorem joinedValue?_of_beq (respects : Respects truth) (connector : Connector) :
    ∀ as bs : List Child, beqChildren as bs = true →
      joinedValue? truth connector as = joinedValue? truth connector bs
  | [], [] => fun _ => rfl
  | a :: as, b :: bs => by
      intro same
      simp only [beqChildren, Bool.and_eq_true] at same
      rw [joinedValue?_cons, joinedValue?_cons, childValue?_of_beq respects a b same.1,
        joinedValue?_of_beq respects connector as bs same.2]
  | [], _ :: _ => by
      intro same
      cases same
  | _ :: _, [] => by
      intro same
      cases same

end

theorem isNegated_addChild {parent : Condition} (plain : parent.isNegated = false) (child : Child)
    (join : Connector) : (parent.addChild child join).isNegated = false := by
  unfold addChild
  split
  · exact plain
  · split
    · split
      · split
        · exact plain
        · exact plain
      · exact plain
    · rfl

theorem value?_of_absorbs {join : Connector} {c : Condition} (absorbed : absorbs join c = true) :
    c.value? truth = joinedValue? truth join c.children := by
  obtain ⟨connector, negated, children⟩ := c
  simp only [absorbs, Bool.and_eq_true, Bool.not_eq_true', Bool.or_eq_true, beq_iff_eq] at absorbed
  obtain ⟨rfl, rfl | single⟩ := absorbed
  · exact value?_node connector children
  · rw [value?_node]
    exact joinedValue?_of_length_lt (by omega) connector join

/-- Adding a child joins its value, where no equal child that makes it left out has another one. -/
theorem value?_addChild_of_equal {parent : Condition} (plain : parent.isNegated = false) (child : Child)
    (equal : ∀ other, beqChild child other = true → childValue? truth child = childValue? truth other)
    (join : Connector) :
    (parent.addChild child join).value? truth =
      join.join (parent.value? truth) (childValue? truth child) := by
  rw [value?_of_plain plain]
  unfold addChild
  split
  · rename_i known
    simp only [Bool.and_eq_true, beq_iff_eq, List.contains_iff_exists_mem_beq] at known
    obtain ⟨rfl, other, present, same⟩ := known
    rw [value?_of_plain plain, equal other same,
      join_childValue?_of_mem present]
  · split
    · rename_i level
      have renamed : joinedValue? truth parent.connector parent.children =
          joinedValue? truth join parent.children := by
        simp only [Bool.or_eq_true, beq_iff_eq, decide_eq_true_eq] at level
        rcases level with rfl | few
        · rfl
        · exact joinedValue?_of_length_lt few _ _
      rw [renamed, plain]
      split
      · rename_i inner
        split
        · rename_i absorbed
          rw [value?_node, joinedValue?_append, ← value?_of_absorbs absorbed]
          rfl
        · rw [value?_node, joinedValue?_append, joinedValue?_single]
      · rw [value?_node, joinedValue?_append, joinedValue?_single]
    · rw [value?_node, joinedValue?_cons, joinedValue?_single]
      rw [← value?_of_plain plain]
      rfl

theorem value?_addChild (respects : Respects truth) {parent : Condition}
    (plain : parent.isNegated = false) (child : Child) (join : Connector) :
    (parent.addChild child join).value? truth =
      join.join (parent.value? truth) (childValue? truth child) :=
  value?_addChild_of_equal plain child (childValue?_of_beq respects child) join

/-- The trees that lookups and the operations on trees make. -/
inductive Built : Condition → Prop where
  | empty : Built .empty
  | lookup (expression : String) (v : Value) : Built (.lookup expression v)
  | ofPairs (pairs : List (String × Value)) : Built (.ofPairs pairs)
  | content (v : Value) : Built (.content v)
  | add {a b : Condition} (join : Connector) : Built a → Built b → Built (a.add b join)
  | combine {a b : Condition} (join : Connector) : Built a → Built b → Built (a.combine b join)
  | negate {a : Condition} : Built a → Built a.negate
  | inverted {a : Condition} : Built a → Built a.inverted

theorem isNegated_negate (c : Condition) : c.negate.isNegated = false := by
  cases c
  rfl

theorem Built.isNegated {c : Condition} (built : Built c) : c.isNegated = false := by
  induction built with
  | empty | lookup | ofPairs | content => rfl
  | add join _ _ plain _ => exact isNegated_addChild plain _ join
  | combine join _ _ plainA plainB =>
      unfold Condition.combine
      split
      · exact plainA
      · split
        · exact plainB
        · exact isNegated_addChild (isNegated_addChild rfl _ join) _ join
  | negate _ _ => exact isNegated_negate _
  | inverted _ _ => exact isNegated_negate _

mutual

theorem value?_eq_none_iff (truth : String → Value → Option Bool) :
    ∀ c : Condition, c.value? truth = none ↔ ∀ leaf ∈ c.leaves, truth leaf.1 leaf.2 = none
  | node connector negated children => by
      rw [value?, Option.map_eq_none_iff, leaves]
      exact joinedValue?_eq_none_iff truth connector children

theorem joinedValue?_eq_none_iff (truth : String → Value → Option Bool) (connector : Connector) :
    ∀ children : List Child, joinedValue? truth connector children = none ↔
      ∀ leaf ∈ childrenLeaves children, truth leaf.1 leaf.2 = none
  | [] => by simp [joinedValue?, childrenLeaves]
  | .node inner :: rest => by
      rw [joinedValue?, Connector.join_eq_none_iff, value?_eq_none_iff truth inner,
        joinedValue?_eq_none_iff truth connector rest, childrenLeaves, List.forall_mem_append]
  | .leaf expression v :: rest => by
      rw [joinedValue?, Connector.join_eq_none_iff,
        joinedValue?_eq_none_iff truth connector rest, childrenLeaves, List.forall_mem_cons]

end

theorem value?_eq_none_iff_of_total (truth : String → Value → Bool) (c : Condition) :
    c.value? (fun expression v => some (truth expression v)) = none ↔ c.leaves = [] := by
  rw [value?_eq_none_iff, List.eq_nil_iff_forall_not_mem]
  constructor
  · intro nothing leaf listed
    cases nothing leaf listed
  · intro vacant leaf listed
    exact absurd listed (vacant leaf)

end Condition

end RecordSearch
