import RecordSearch.Proofs.Condition.Value
import RecordSearch.Proofs.Query.Lookup
import RecordSearch.Table.Score

namespace RecordSearch

namespace Connector

def joinAll (connector : Connector) : List Bool → Option Bool
  | [] => none
  | b :: rest => connector.join (some b) (connector.joinAll rest)

def ofAll (values : List Bool) : Connector → Bool
  | and => values.all id
  | or => values.any id

theorem joinAll_eq (connector : Connector) {values : List Bool} (present : values ≠ []) :
    connector.joinAll values = some (connector.ofAll values) := by
  induction values with
  | nil => exact absurd rfl present
  | cons b rest ih =>
      cases rest with
      | nil => cases connector <;> simp [joinAll, join, ofAll]
      | cons next rest =>
          rw [joinAll, ih (List.cons_ne_nil next rest)]
          cases connector <;> rfl

end Connector

namespace Clause

variable {contentField : String} {r : Row}

theorem accepts_not (clause : Clause) :
    (not clause).accepts contentField r = !clause.accepts contentField r := by
  rw [accepts, accepts, score]
  cases clause.score contentField r <;> rfl

theorem isSome_scoreAll {strict : Bool} {clauses : List Clause}
    (plain : ∀ clause ∈ clauses, clause.isBoost = false) (total : Float) :
    (scoreAll contentField r strict total clauses).isSome =
      clauses.all fun clause => clause.accepts contentField r := by
  induction clauses generalizing total with
  | nil => rfl
  | cons clause rest ih =>
      have others := ih fun other present => plain other (List.mem_cons_of_mem clause present)
      rw [scoreAll, List.all_cons, accepts]
      cases points : clause.score contentField r with
      | some points => exact others _
      | none =>
          rw [plain clause List.mem_cons_self]
          rfl

theorem isSome_scoreAny (clauses : List Clause) (total : Option Float) :
    (scoreAny contentField r total clauses).isSome =
      (total.isSome || clauses.any fun clause => clause.accepts contentField r) := by
  induction clauses generalizing total with
  | nil => rw [scoreAny, List.any_nil, Bool.or_false]
  | cons clause rest ih =>
      unfold scoreAny
      rw [ih, List.any_cons, accepts]
      cases total <;> cases clause.score contentField r <;> simp

/-- Joined clauses accept what the connector makes of what each of them accepts. -/
theorem joinAll_accepts (contentField : String) (r : Row) (connector : Connector) {clause : Clause}
    {clauses : List Clause} (plain : ∀ other ∈ clause :: clauses, other.isBoost = false) :
    connector.joinAll ((clause :: clauses).map fun other => other.accepts contentField r) =
      some ((connector.clause (clause :: clauses)).accepts contentField r) := by
  cases clauses with
  | nil => cases connector <;> exact Connector.join_none _ _
  | cons next clauses =>
      have filled : ((clause :: next :: clauses).map fun other => other.accepts contentField r) ≠ [] :=
        List.cons_ne_nil _ _
      rw [connector.joinAll_eq filled]
      cases connector with
      | and =>
          rw [Connector.ofAll, List.all_map]
          exact congrArg some (isSome_scoreAll plain 0).symm
      | or =>
          rw [Connector.ofAll, List.any_map]
          exact congrArg some (isSome_scoreAny (clause :: next :: clauses) none).symm

theorem accepts_unlimited (field : Option String) :
    (range field none none true true).accepts contentField r =
      (r.searched? contentField field).isSome := by
  rw [accepts, score]
  cases r.searched? contentField field <;> rfl

end Clause

namespace Condition

open Lucene (querySyntax StandsFor unaryClause? isName)

/-- Whether a row satisfies a lookup: with null, by having no value in the field; otherwise, by matching
what the lookup alone is read as. None for a lookup that writes nothing. -/
def holds? (contentField : String) (r : Row) (expression : String) (v : Value) : Option Bool :=
  match v with
  | .null => some (r.searched? contentField
      (some (target (querySyntax contentField) expression).1)).isNone
  | v =>
    let text := writeLeaf (querySyntax contentField) expression v
    if text.isEmpty then none
    else
      match Lucene.read text with
      | .ok clause => some (clause.accepts contentField r)
      | .error _ => some false

def fits (contentField : String) (leaf : String × Value) : Bool :=
  let text := writeLeaf (querySyntax contentField) leaf.1 leaf.2
  isName (target (querySyntax contentField) leaf.1).1 &&
    (text.isEmpty || (unaryClause? text).isSome)

/-- A lookup in the text of documents, or one that fits. Only a field with a plain name can be asked to be
absent. -/
def composes (contentField : String) (leaf : String × Value) : Bool :=
  let field := (target (querySyntax contentField) leaf.1).1
  let text := writeLeaf (querySyntax contentField) leaf.1 leaf.2
  (isName field || (field == contentField && !leaf.2.isNull)) &&
    (text.isEmpty || (unaryClause? text).isSome)

theorem composes_of_fits {contentField : String} {leaf : String × Value}
    (fit : fits contentField leaf = true) : composes contentField leaf = true := by
  simp only [fits, Bool.and_eq_true] at fit
  simp only [composes, fit.1, fit.2, Bool.true_or, Bool.and_self]

theorem isName_of_composes_null {contentField expression : String}
    (fit : composes contentField (expression, .null) = true) :
    isName (target (querySyntax contentField) expression).1 = true := by
  simp only [composes, Value.isNull, Bool.not_true, Bool.and_false, Bool.or_false,
    Bool.and_eq_true] at fit
  exact fit.1

theorem writeLeaf_of_ne_null {syn : QuerySyntax} {expression : String} {v : Value} (other : v ≠ .null) :
    writeLeaf syn expression v = syn.lookup (target syn expression).1 (target syn expression).2 v := by
  cases v with
  | null => exact absurd rfl other
  | _ => rfl

theorem holds?_of_ne_null {contentField expression : String} {r : Row} {v : Value} (other : v ≠ .null) :
    holds? contentField r expression v =
      if (writeLeaf (querySyntax contentField) expression v).isEmpty then none
      else
        match Lucene.read (writeLeaf (querySyntax contentField) expression v) with
        | .ok clause => some (clause.accepts contentField r)
        | .error _ => some false := by
  cases v with
  | null => exact absurd rfl other
  | _ => rfl

/-- The text is empty where there is no value, and otherwise stands for a clause that accepts the row
exactly if the value is true. -/
def Means (contentField : String) (r : Row) (text : String) (value : Option Bool) : Prop :=
  text = "" ∧ value = none ∨
    ∃ clause, StandsFor text.toList clause ∧ value = some (clause.accepts contentField r)

section

variable {contentField : String} {r : Row}

theorem Means.eq_empty_iff {text : String} {value : Option Bool}
    (means : Means contentField r text value) : text = "" ↔ value = none := by
  rcases means with ⟨empty, absent⟩ | ⟨clause, stands, present⟩
  · exact ⟨fun _ => absent, fun _ => empty⟩
  · obtain ⟨first, s, start, -⟩ := stands.starts
    constructor
    · intro empty
      rw [empty] at start
      cases start
    · intro absent
      rw [absent] at present
      cases present

theorem standsFor_presence {field : String} (named : isName field = true) :
    StandsFor ((querySyntax contentField).presence field).toList
      (.range (some field) none none true true) := by
  have mark : field.toList ≠ [] ∧ ∀ c ∈ field.toList, Lucene.isFieldChar c = true := by
    simp only [isName, Bool.and_eq_true, Bool.not_eq_true', List.isEmpty_eq_false_iff,
      List.all_eq_true] at named
    exact named
  have marks := Lucene.Marks.name mark.1 mark.2
  have stands := marks.standsFor_rangeText .square [] [' '] rfl rfl
    .unlimited .unlimited
  rw [String.ofList_toList] at stands
  have text : ((querySyntax contentField).presence field).toList = field.toList ++ [':'] ++
      Lucene.rangeText '[' ']' [] ['*'] [' '] ['*'] := by
    simp [querySyntax, Lucene.rangeText]
  rw [text]
  exact stands

theorem standsFor_parentheses {text : String} {clause : Clause} (stands : StandsFor text.toList clause) :
    StandsFor ("(" ++ text ++ ")").toList clause := by
  have whole : ("(" ++ text ++ ")").toList = '(' :: text.toList ++ [')'] := by
    simp
  rw [whole]
  exact stands.parenthesized

theorem standsFor_negated {text : String} {clause : Clause}
    (stands : StandsFor ("(" ++ text ++ ")").toList clause) :
    StandsFor ("NOT (" ++ text ++ ")").toList (.not clause) := by
  have whole : ("NOT (" ++ text ++ ")").toList =
      'N' :: 'O' :: 'T' :: ' ' :: ("(" ++ text ++ ")").toList := by
    simp
  rw [whole]
  exact stands.not

theorem means_absence {field : String} (named : isName field = true) :
    Means contentField r ("NOT (" ++ (querySyntax contentField).presence field ++ ")")
      (some (r.searched? contentField (some field)).isNone) := by
  refine Or.inr ⟨_, standsFor_negated (standsFor_parentheses (standsFor_presence named)), ?_⟩
  rw [Clause.accepts_not, Clause.accepts_unlimited]
  cases r.searched? contentField (some field) <;> rfl

theorem holds?_of_standsFor {expression : String} {v : Value} {clause : Clause} (other : v ≠ .null)
    (stands : StandsFor (writeLeaf (querySyntax contentField) expression v).toList clause) :
    holds? contentField r expression v = some (clause.accepts contentField r) := by
  rw [holds?_of_ne_null other, stands.isEmpty, if_neg Bool.false_ne_true, Lucene.read_of_standsFor stands]

theorem means_of_standsFor {expression : String} {v : Value} {clause : Clause} (other : v ≠ .null)
    (stands : StandsFor (writeLeaf (querySyntax contentField) expression v).toList clause) :
    Means contentField r (writeLeaf (querySyntax contentField) expression v)
      (holds? contentField r expression v) :=
  Or.inr ⟨clause, stands, holds?_of_standsFor other stands⟩

theorem means_lookup {expression : String} {v : Value} (other : v ≠ .null)
    (fit : composes contentField (expression, v) = true) :
    Means contentField r (writeLeaf (querySyntax contentField) expression v)
      (holds? contentField r expression v) := by
  simp only [composes, Bool.and_eq_true, Bool.or_eq_true, beq_iff_eq, String.isEmpty_iff] at fit
  obtain ⟨place, accepted⟩ := fit
  have named : (target (querySyntax contentField) expression).1 = contentField ∨
      isName (target (querySyntax contentField) expression).1 = true := by
    rcases place with name | ⟨content, -⟩
    · exact Or.inr name
    · exact Or.inl content
  have written : writeLeaf (querySyntax contentField) expression v =
      Lucene.lookup contentField (target (querySyntax contentField) expression).1
        (target (querySyntax contentField) expression).2 v := writeLeaf_of_ne_null other
  rcases accepted with nothing | accepted
  · refine Or.inl ⟨nothing, ?_⟩
    rw [holds?_of_ne_null other, nothing]
    rfl
  · obtain ⟨clause, whole⟩ := Option.isSome_iff_exists.1 accepted
    have alone := Lucene.readUnary?_of_unaryClause? whole
    rw [written] at alone
    have stands := Lucene.standsFor_lookup named _ v alone
    rw [← written] at stands
    exact means_of_standsFor other stands

theorem means_writeLeaf {expression : String} {v : Value}
    (fit : composes contentField (expression, v) = true) :
    Means contentField r (writeLeaf (querySyntax contentField) expression v)
      (holds? contentField r expression v) := by
  cases v with
  | null => exact means_absence (isName_of_composes_null fit)
  | _ =>
      apply means_lookup _ fit
      rintro ⟨⟩

/-- A lookup whose text means what it asks for; it can be asked to be absent only of a plain name. -/
structure Sound (contentField : String) (leaf : String × Value) : Prop where
  means : ∀ r, Means contentField r (writeLeaf (querySyntax contentField) leaf.1 leaf.2)
    (holds? contentField r leaf.1 leaf.2)
  named : leaf.2 = .null → isName (target (querySyntax contentField) leaf.1).1 = true

theorem sound_of_composes {leaf : String × Value} (fit : composes contentField leaf = true) :
    Sound contentField leaf := by
  constructor
  · intro r
    exact means_writeLeaf fit
  · intro absent
    obtain ⟨expression, v⟩ := leaf
    cases absent
    exact isName_of_composes_null fit

theorem joinAll_parts (connector : Connector) {part : List Char × Clause}
    {parts : List (List Char × Clause)} (stand : ∀ p ∈ part :: parts, StandsFor p.1 p.2) :
    connector.joinAll ((part :: parts).map fun p => p.2.accepts contentField r) =
      some ((connector.clause ((part :: parts).map Prod.snd)).accepts contentField r) := by
  have plain : ∀ clause ∈ (part :: parts).map Prod.snd, clause.isBoost = false := by
    intro clause listed
    obtain ⟨p, present, rfl⟩ := List.mem_map.1 listed
    exact (stand p present).plain
  have joined := Clause.joinAll_accepts contentField r connector plain
  rw [List.map_cons, List.map_map] at joined
  exact joined

theorem means_writeNode (connector : Connector) (negated : Bool) {texts : List String}
    {parts : List (List Char × Clause)} (same : texts.map String.toList = parts.map Prod.fst)
    (stand : ∀ p ∈ parts, StandsFor p.1 p.2) :
    Means contentField r (writeNode connector negated texts)
      ((connector.joinAll (parts.map fun p => p.2.accepts contentField r)).map
        fun b => b != negated) := by
  cases parts with
  | nil =>
      rw [List.map_nil, List.map_eq_nil_iff] at same
      rw [same]
      exact Or.inl ⟨rfl, rfl⟩
  | cons part parts =>
      have group : StandsFor ("(" ++ (" " ++ connector.text ++ " ").intercalate texts ++ ")").toList
          (connector.clause ((part :: parts).map Prod.snd)) := by
        rw [Lucene.toList_parentheses connector same]
        exact Lucene.standsFor_group connector stand
      have joined := Lucene.toList_joined connector same
      have filled : ((" " ++ connector.text ++ " ").intercalate texts).isEmpty = false := by
        obtain ⟨c, s, start, -⟩ := (stand part List.mem_cons_self).starts.joinedText connector parts []
        rw [List.append_nil] at start
        exact Lucene.isEmpty_of_toList (joined.trans start)
      rw [joinAll_parts connector stand]
      simp only [writeNode, filled, Bool.false_eq_true, if_false]
      cases negated with
      | true =>
          refine Or.inr ⟨_, standsFor_negated group, ?_⟩
          rw [Clause.accepts_not, Option.map_some, Bool.bne_true]
      | false =>
          rw [Option.map_some, Bool.bne_false]
          simp only [Bool.false_eq_true, if_false]
          split
          -- a single part is written without parentheses
          · rename_i single
            have alone : parts = [] := by
              have lengths := congrArg List.length same
              rw [List.length_map, List.length_map, single, List.length_cons] at lengths
              exact List.length_eq_zero_iff.1 (by omega)
            subst alone
            rw [Lucene.joinedText_single] at joined
            refine Or.inr ⟨part.2, ?_, ?_⟩
            · rw [joined]
              exact stand part List.mem_cons_self
            · cases connector <;> rfl
          · exact Or.inr ⟨_, group, rfl⟩

/-- What the children write, without those that write nothing, and the clauses for which it stands. -/
def ChildrenMean (contentField : String) (r : Row) (connector : Connector) (children : List Child) :
    Prop :=
  ∃ parts : List (List Char × Clause),
    ((writeChildren (querySyntax contentField) children).filter fun text => !text.isEmpty).map
      String.toList = parts.map Prod.fst ∧
    (∀ p ∈ parts, StandsFor p.1 p.2) ∧
    joinedValue? (holds? contentField r) connector children =
      connector.joinAll (parts.map fun p => p.2.accepts contentField r)

theorem childrenMean_cons {connector : Connector} {child : Child} {rest : List Child} {text : String}
    (written : writeChildren (querySyntax contentField) (child :: rest) =
      text :: writeChildren (querySyntax contentField) rest)
    (first : Means contentField r text (childValue? (holds? contentField r) child))
    (others : ChildrenMean contentField r connector rest) :
    ChildrenMean contentField r connector (child :: rest) := by
  obtain ⟨parts, same, stand, value⟩ := others
  rcases first with ⟨rfl, absent⟩ | ⟨clause, stands, present⟩
  · refine ⟨parts, ?_, stand, ?_⟩
    · rw [written, List.filter_cons_of_neg (by decide), same]
    · rw [joinedValue?_cons, absent, Connector.none_join, value]
  · refine ⟨(text.toList, clause) :: parts, ?_, ?_, ?_⟩
    · have filled : (!text.isEmpty) = true := by rw [stands.isEmpty, Bool.not_false]
      rw [written, List.filter_cons_of_pos (by exact filled), List.map_cons, same, List.map_cons]
    · intro p listed
      rcases List.mem_cons.1 listed with rfl | later
      · exact stands
      · exact stand p later
    · rw [joinedValue?_cons, present, value, List.map_cons]
      rfl

mutual

theorem means_tree : ∀ c : Condition, (∀ leaf ∈ c.leaves, Sound contentField leaf) →
    Means contentField r (c.write (querySyntax contentField)) (c.value? (holds? contentField r))
  | node connector negated children => by
      intro fit
      rw [leaves] at fit
      by_cases presence : negated = true ∧ ∃ expression, children = [.leaf expression .null]
      · obtain ⟨rfl, expression, rfl⟩ := presence
        have named := (fit (expression, .null) List.mem_cons_self).named rfl
        refine Or.inr ⟨_, standsFor_presence named, ?_⟩
        rw [Clause.accepts_unlimited, value?_negated, joinedValue?_single]
        change some (!(r.searched? contentField _).isNone) = some (r.searched? contentField _).isSome
        cases r.searched? contentField _ <;> rfl
      · obtain ⟨parts, same, stand, value⟩ := means_children connector children fit
        rw [value?, value, write]
        · exact means_writeNode connector negated same stand
        · rintro expression rfl rfl
          exact presence ⟨rfl, expression, rfl⟩

theorem means_children (connector : Connector) : ∀ children : List Child,
    (∀ leaf ∈ childrenLeaves children, Sound contentField leaf) →
    ChildrenMean contentField r connector children
  | [] => fun _ => ⟨[], rfl, fun _ listed => (List.not_mem_nil listed).elim, rfl⟩
  | .node inner :: rest => by
      intro fit
      rw [childrenLeaves] at fit
      apply childrenMean_cons rfl
      · exact means_tree inner fun leaf present => fit leaf (List.mem_append_left _ present)
      · exact means_children connector rest fun leaf present => fit leaf (List.mem_append_right _ present)
  | .leaf expression v :: rest => by
      intro fit
      rw [childrenLeaves] at fit
      apply childrenMean_cons rfl
      · exact (fit (expression, v) List.mem_cons_self).means r
      · exact means_children connector rest fun leaf present => fit leaf (List.mem_cons_of_mem _ present)

end

theorem means_write (c : Condition) (fit : ∀ leaf ∈ c.leaves, fits contentField leaf = true) :
    Means contentField r (c.write (querySyntax contentField)) (c.value? (holds? contentField r)) :=
  means_tree c fun leaf listed => sound_of_composes (composes_of_fits (fit leaf listed))

/-- A condition whose lookups fit writes nothing exactly if it has no value; otherwise its text is read as
a clause that scores the rows of which it is true, and no others. -/
theorem score_write (c : Condition) (fit : ∀ leaf ∈ c.leaves, fits contentField leaf = true) :
    (c.write (querySyntax contentField) = "" ↔ c.value? (holds? contentField r) = none) ∧
    ∀ b, c.value? (holds? contentField r) = some b →
      ∃ clause, Lucene.read (c.write (querySyntax contentField)) = .ok clause ∧
        (clause.score contentField r).isSome = b := by
  rcases means_write (r := r) c fit with ⟨empty, absent⟩ | ⟨clause, stands, present⟩
  · refine ⟨⟨fun _ => absent, fun _ => empty⟩, ?_⟩
    intro b value
    rw [absent] at value
    cases value
  · obtain ⟨first, s, start, -⟩ := stands.starts
    refine ⟨⟨?_, ?_⟩, ?_⟩
    · intro empty
      rw [empty] at start
      cases start
    · intro value
      rw [present] at value
      cases value
    · intro b value
      rw [present] at value
      obtain rfl := Option.some.inj value
      exact ⟨clause, Lucene.read_of_standsFor stands, rfl⟩

theorem score_write_fox :
    ∃ clause, Lucene.read ((node .or true [.leaf "title" (.text "red fox"),
        .node (node .and false [.leaf "year__gt" (.integer 3), .leaf "author" .null,
          .leaf "@content" (.text "")])]).write (querySyntax "text")) = .ok clause ∧
      (clause.score "text" ⟨"1", "note", "text", .ofList [("title", .text "Blue fox")], .empty⟩).isSome =
        true := by
  apply (score_write _ _).2 true
  · decide +kernel
  · decide +kernel

end

end Condition

end RecordSearch
