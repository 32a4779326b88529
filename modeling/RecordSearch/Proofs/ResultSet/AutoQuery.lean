import RecordSearch.Object.Record
import RecordSearch.Proofs.Query.Refused
import RecordSearch.Proofs.ResultSet.Compiled
import RecordSearch.Proofs.ResultSet.Pieces

/-!
A user's query is compiled to the conjunction of its phrases and words, or, with a keyword among them, to
text that cannot be read.
-/

namespace RecordSearch

open Condition (holds? target writeLeaf Leaf Sound childValue? joinedValue?)
open Lucene (querySyntax StandsFor Refused IsPart keywords)

/-- Whether a lookup by the name of a field alone compares that very field. -/
def Lookup.Keeps (field : String) : Prop := split (prepareKey field) = (field, .exact)

instance (field : String) : Decidable (Lookup.Keeps field) :=
  inferInstanceAs (Decidable (Lookup.split (Lookup.prepareKey field) = (field, .exact)))

theorem Lookup.keeps_of_not_mark {field : String} (plain : ¬ mark <:+: field.toList) : Keeps field := by
  have unmarked : splitKeyword? field = none := by
    rw [splitKeyword?]
    cases found : Text.splitLast? mark field.toList with
    | none => rfl
    | some parts => exact absurd ⟨_, _, (Text.eq_of_splitLast? found).symm⟩ plain
  have flat : Path.flattenRelations field.toList = field.toList := Text.replaceAll_of_not_infix plain
  have same : prepareKey field = field := by
    rw [prepareKey, unmarked]
    exact (congrArg String.ofList flat).trans String.ofList_toList
  rw [Keeps, same, split, unmarked]

def Row.saysText (contentField : String) (r : Row) (text : List Char) : Bool :=
  (r.searched? contentField none).any fun v => v.scalars.any fun v => Match.equals v (String.ofList text) 0

namespace Condition

variable {truth : String → Value → Option Bool}

theorem getD_joinedValue?_and (children : List Child) :
    (joinedValue? truth .and children).getD true =
      children.all fun child => (childValue? truth child).getD true := by
  induction children with
  | nil => rfl
  | cons child children ih => rw [joinedValue?_cons, Connector.getD_join_and, ih, List.all_cons]

theorem extend_same (root : Condition) (join : Connector) (children : List Child) :
    root.extend join (node join false children) = root.extendBy join join children := by
  have needless : needsGroup root join join children.length = false := by
    rw [needsGroup, bne_self_eq_false, Bool.and_false, Bool.false_and]
  rw [extend]
  simp only [needless, Bool.false_eq_true, if_false]

def writeChild (syn : QuerySyntax) : Child → String
  | .node inner => inner.write syn
  | .leaf expression v => writeLeaf syn expression v

theorem writeChildren_eq_map (syn : QuerySyntax) (children : List Child) :
    writeChildren syn children = children.map (writeChild syn) := by
  induction children with
  | nil => rfl
  | cons child children ih => cases child <;> rw [writeChildren, ih, List.map_cons, writeChild]

theorem writeNode_negation {text : String} (filled : text.isEmpty = false) :
    writeNode .and false ([writeNode .and true ([text].filter fun text => !text.isEmpty)].filter
      fun text => !text.isEmpty) = "NOT (" ++ text ++ ")" := by
  have negation : writeNode .and true [text] = "NOT (" ++ text ++ ")" := by
    rw [writeNode, String.intercalate_singleton]
    simp only [filled, Bool.false_eq_true, if_false, if_true]
  have start : ("NOT (" ++ text ++ ")").toList =
      'N' :: 'O' :: 'T' :: ' ' :: '(' :: (text.toList ++ [')']) := by
    simp
  have longer := Lucene.isEmpty_of_toList start
  have single : ∀ other : String, other.isEmpty = false →
      [other].filter (fun part => !part.isEmpty) = [other] := by
    intro other present
    simp [present]
  rw [single text filled, negation, single _ longer, writeNode, String.intercalate_singleton]
  simp only [longer, Bool.false_eq_true, if_false, List.length_singleton, if_true]

end Condition

namespace ResultSet

open Condition (writeChild)

variable {contentField : String} {piece : Piece} {truth : String → Value → Option Bool}

namespace Piece

def leaf (contentField : String) (piece : Piece) : Leaf :=
  (Lookup.prepareKey contentField, .text (String.ofList piece.text))

/-- Whether a row is as a piece asks; a piece without text asks for nothing. -/
def accepts (contentField : String) (r : Row) (piece : Piece) : Bool :=
  piece.text.isEmpty || (r.saysText contentField piece.text != piece.excluded)

def child (contentField : String) (piece : Piece) : Child :=
  let leaf := Child.leaf (piece.leaf contentField).1 (piece.leaf contentField).2
  if piece.excluded then .node (.node .and false [.node (.node .and true [leaf])]) else leaf

theorem eq_of_beq_child {a b : Piece} (plain : a.excluded = false)
    (same : Condition.beqChild (a.child contentField) (b.child contentField) = true) : b = a := by
  obtain ⟨text, _⟩ := a
  obtain ⟨other, excluded⟩ := b
  obtain rfl := plain
  cases excluded with
  | true => cases same
  | false =>
      have texts : (Value.text (String.ofList text) == Value.text (String.ofList other)) = true :=
        (Bool.and_eq_true _ _ ▸ same).2
      have equal : String.ofList text = String.ofList other := beq_iff_eq.1 texts
      rw [String.ofList_injective equal]

theorem childLeaves_child : Condition.childLeaves (piece.child contentField) = [piece.leaf contentField] := by
  unfold child
  simp only
  split <;> rfl

theorem childValue?_child : childValue? truth (piece.child contentField) =
    (truth (piece.leaf contentField).1 (piece.leaf contentField).2).map (· != piece.excluded) := by
  unfold child
  simp only
  cases piece.excluded with
  | true =>
      simp only [if_true, childValue?, Condition.value?_wrap, Condition.value?_negated,
        Condition.joinedValue?_single, Bool.bne_true]
  | false => simp only [Bool.false_eq_true, if_false, childValue?, Bool.bne_false, Option.map_id']

theorem extend_condition (contentField : String) (piece : Piece) (chosen : List Piece) :
    ∃ more : List Piece, (more = [] ∧ piece ∈ chosen ∨ more = [piece]) ∧
      (Condition.node .and false (chosen.map (child contentField))).extend .and
        (piece.condition contentField) =
      .node .and false ((chosen ++ more).map (child contentField)) := by
  obtain ⟨text, excluded⟩ := piece
  cases excluded with
  | true =>
      -- the negation is joined as a group, and groups are never compared with what is there
      refine ⟨[⟨text, true⟩], Or.inr rfl, ?_⟩
      have level : (Condition.node .and false (chosen.map (child contentField))).openGroup .and =
          .node .and false (chosen.map (child contentField)) := by
        unfold Condition.openGroup
        simp only [bne_self_eq_false, Bool.false_and, Bool.false_eq_true, if_false, ite_self]
      have appended : (Condition.node .and false (chosen.map (child contentField))).extend .and
          (condition contentField ⟨text, true⟩) =
          ((Condition.node .and false (chosen.map (child contentField))).openGroup .and).closeGroup
            (.node .and false [.node (.node .and true
              [.leaf (Lookup.prepareKey contentField) (.text (String.ofList text))])]) :=
        Condition.extend_same _ .and _
      rw [appended, level, List.map_append]
      rfl
  | false =>
      have added : (Condition.node .and false (chosen.map (child contentField))).extend .and
          (condition contentField ⟨text, false⟩) =
          (Condition.node .and false (chosen.map (child contentField))).addChild
            (child contentField ⟨text, false⟩) .and := Condition.extend_same _ .and _
      rw [added]
      unfold Condition.addChild
      split
      · rename_i known
        obtain ⟨other, listed, same⟩ :=
          List.contains_iff_exists_mem_beq.1 (Bool.and_eq_true _ _ ▸ known).2
        obtain ⟨twin, chosenTwin, rfl⟩ := List.mem_map.1 listed
        rw [eq_of_beq_child rfl same] at chosenTwin
        exact ⟨[], Or.inl ⟨rfl, chosenTwin⟩, by rw [List.append_nil]⟩
      · refine ⟨[⟨text, false⟩], Or.inr rfl, ?_⟩
        rw [List.map_append]
        rfl

theorem leaf_ne_null : (piece.leaf contentField).2 ≠ .null := by
  rintro ⟨⟩

def lookupText (contentField : String) (piece : Piece) : String :=
  writeLeaf (querySyntax contentField) (piece.leaf contentField).1 (piece.leaf contentField).2

theorem lookupText_eq (kept : Lookup.Keeps contentField) :
    piece.lookupText contentField = Lucene.term (.text (String.ofList piece.text)) := by
  have own : target (querySyntax contentField) (Lookup.prepareKey contentField) =
      (contentField, .exact) := by
    rw [target, kept]
    simp only [querySyntax, ite_self]
  have asked : (querySyntax contentField).lookup = Lucene.lookup contentField := rfl
  rw [lookupText, Condition.writeLeaf_of_ne_null leaf_ne_null, leaf, own, asked, Lucene.lookup,
    Lucene.fieldMark, if_pos rfl]
  exact String.empty_append

theorem lookupText_of_nil (kept : Lookup.Keeps contentField) (empty : piece.text = []) :
    piece.lookupText contentField = "" := by
  rw [lookupText_eq kept, empty]
  rfl

/-- A piece that is no keyword is written as a clause of its own, that says just its text. -/
theorem exists_standsFor_lookupText (kept : Lookup.Keeps contentField) (present : piece.text ≠ [])
    (free : piece.text ∉ keywords) :
    ∃ clause, StandsFor (piece.lookupText contentField).toList clause ∧
      ∀ r, clause.accepts contentField r = r.saysText contentField piece.text := by
  rw [lookupText_eq kept, Lucene.term]
  cases blank : Text.hasBlank (String.ofList piece.text).toList with
  | true =>
      refine ⟨.phrase none (String.ofList piece.text) none, ?_, ?_⟩
      · rw [if_pos rfl, Lucene.toList_inQuotes]
        exact Lucene.Marks.text.standsFor_quote _
      · intro r
        exact Plan.accepts_phrase contentField r none _
  | false =>
      rw [String.toList_ofList] at blank
      refine ⟨.term none (String.ofList piece.text), ?_, ?_⟩
      · rw [if_neg Bool.false_ne_true, Lucene.clean, String.toList_ofList, String.toList_ofList]
        exact Lucene.Marks.text.standsFor_escape present (Lucene.solid_of_hasBlank blank) free
      · intro r
        exact Plan.accepts_term contentField r none _

theorem holds?_leaf (kept : Lookup.Keeps contentField) (free : piece.text ∉ keywords) (r : Row) :
    holds? contentField r (piece.leaf contentField).1 (piece.leaf contentField).2 =
      if piece.text = [] then none else some (r.saysText contentField piece.text) := by
  split
  · rename_i empty
    have nothing : writeLeaf (querySyntax contentField) (piece.leaf contentField).1
        (piece.leaf contentField).2 = "" := lookupText_of_nil kept empty
    rw [Condition.holds?_of_ne_null leaf_ne_null, nothing]
    rfl
  · rename_i present
    obtain ⟨clause, stands, accepted⟩ := exists_standsFor_lookupText kept present free
    rw [Condition.holds?_of_standsFor leaf_ne_null stands, accepted]

theorem sound_leaf (kept : Lookup.Keeps contentField) (free : piece.text ∉ keywords) :
    Sound contentField (piece.leaf contentField) := by
  constructor
  · intro r
    by_cases empty : piece.text = []
    · refine Or.inl ⟨lookupText_of_nil kept empty, ?_⟩
      rw [holds?_leaf kept free, if_pos empty]
    · obtain ⟨clause, stands, -⟩ := exists_standsFor_lookupText kept empty free
      exact Condition.means_of_standsFor leaf_ne_null stands
  · intro absent
    exact absurd absent leaf_ne_null

theorem childValue?_holds? (kept : Lookup.Keeps contentField) (free : piece.text ∉ keywords) (r : Row) :
    (childValue? (holds? contentField r) (piece.child contentField)).getD true =
        piece.accepts contentField r := by
  rw [childValue?_child, holds?_leaf kept free, accepts]
  split
  · rename_i empty
    simp [empty]
  · rename_i present
    simp [present]

def written (contentField : String) (piece : Piece) : String :=
  writeChild (querySyntax contentField) (piece.child contentField)

theorem written_eq : piece.written contentField =
    if piece.excluded then
      Condition.writeNode .and false ([Condition.writeNode .and true
        ([piece.lookupText contentField].filter fun text => !text.isEmpty)].filter
          fun text => !text.isEmpty)
    else piece.lookupText contentField := by
  unfold written child
  cases piece.excluded with
  | true =>
      simp only [if_true]
      rw [writeChild, Condition.write, Condition.writeChildren_eq_map]
      · rfl
      · rintro expression ⟨⟩
  | false =>
      simp only [Bool.false_eq_true, if_false]
      rfl

theorem written_of_nil (kept : Lookup.Keeps contentField) (empty : piece.text = []) :
    piece.written contentField = "" := by
  rw [written_eq, lookupText_of_nil kept empty]
  cases piece.excluded <;> rfl

theorem written_of_filled (filled : (piece.lookupText contentField).isEmpty = false) :
    piece.written contentField =
      if piece.excluded then "NOT (" ++ piece.lookupText contentField ++ ")"
      else piece.lookupText contentField := by
  rw [written_eq, Condition.writeNode_negation filled]

theorem refused_lookupText (kept : Lookup.Keeps contentField) (listed : piece.text ∈ keywords) :
    Refused (piece.lookupText contentField).toList := by
  have refused := Lucene.refused_keyword listed
  rw [lookupText_eq kept]
  have bare : (Lucene.term (.text (String.ofList piece.text))).toList = piece.text := by
    simp only [keywords, List.mem_cons, List.not_mem_nil, or_false] at listed
    rcases listed with same | same | same | same <;> rw [same] <;> decide
  rw [bare]
  exact refused

theorem refused_written (kept : Lookup.Keeps contentField) (listed : piece.text ∈ keywords) :
    Refused (piece.written contentField).toList := by
  have refused := refused_lookupText kept listed
  rw [written_of_filled (Lucene.isEmpty_of_isPart (Or.inr refused))]
  split
  · exact Lucene.refused_negated refused
  · exact refused

theorem isPart_written (kept : Lookup.Keeps contentField) (present : piece.text ≠ []) :
    IsPart (piece.written contentField).toList := by
  by_cases listed : piece.text ∈ keywords
  · exact Or.inr (refused_written kept listed)
  · obtain ⟨clause, stands, -⟩ := exists_standsFor_lookupText kept present listed
    rw [written_of_filled stands.isEmpty]
    split
    · exact Or.inl ⟨_, Condition.standsFor_negated (Condition.standsFor_parentheses stands)⟩
    · exact Or.inl ⟨clause, stands⟩

end Piece

theorem exists_foldl_extend (contentField : String) (pieces chosen : List Piece) :
    ∃ every : List Piece, (∀ piece, piece ∈ every ↔ piece ∈ chosen ∨ piece ∈ pieces) ∧
      (pieces.map (Piece.condition contentField)).foldl (fun (root : Condition) c => root.extend .and c)
          (.node .and false (chosen.map (Piece.child contentField))) =
        .node .and false (every.map (Piece.child contentField)) := by
  induction pieces generalizing chosen with
  | nil => exact ⟨chosen, by simp, rfl⟩
  | cons piece pieces ih =>
      obtain ⟨more, known, extended⟩ := piece.extend_condition contentField chosen
      obtain ⟨every, members, folded⟩ := ih (chosen ++ more)
      refine ⟨every, ?_, ?_⟩
      · intro other
        rw [members, List.mem_append, List.mem_cons]
        rcases known with ⟨rfl, listed⟩ | rfl
        · have twin : other = piece → other ∈ chosen := fun same => same ▸ listed
          simp only [List.not_mem_nil, or_false]
          tauto
        · rw [List.mem_singleton, or_assoc]
      · rw [List.map_cons, List.foldl_cons, extended, folded]

theorem foldl_addFilter (conditions : List Condition) (p : Plan) :
    conditions.foldl (fun plan c => plan.addFilter c .and) p =
      { p with filter := conditions.foldl (fun root c => root.extend .and c) p.filter } := by
  induction conditions generalizing p with
  | nil => rfl
  | cons c conditions ih =>
      rw [List.foldl_cons, ih, List.foldl_cons]
      rfl

def joinedPlan (contentField : String) (every : List Piece) : Plan :=
  { Plan.empty with filter := .node .and false (every.map (Piece.child contentField)) }

/-- The conditions of a user's query are those of its pieces. -/
theorem exists_plan_autoQuery (Obj : Type) (settings : Settings) {query : String} {pieces : List Piece}
    (cut : IsCut query.toList pieces) :
    ∃ every : List Piece, (∀ piece, piece ∈ every ↔ piece ∈ pieces) ∧
      ((ofSettings settings : ResultSet Obj).autoQuery settings query).plan =
        joinedPlan settings.contentField every := by
  obtain ⟨every, members, folded⟩ := exists_foldl_extend settings.contentField pieces []
  refine ⟨every, ?_, ?_⟩
  · intro piece
    rw [members]
    simp only [List.not_mem_nil, false_or]
  · rw [autoQuery, withPlan, autoConditions_eq cut, foldl_addFilter]
    exact congrArg (fun filter => { Plan.empty with filter := filter }) folded

section

variable {settings : Settings} {every : List Piece}

theorem query_joinedPlan (syn : QuerySyntax) :
    (joinedPlan contentField every).query syn settings =
      (joinedPlan contentField every).conditionQuery syn settings := rfl

theorem leaves_joinedPlan : (joinedPlan contentField every).filter.leaves =
    every.map (Piece.leaf contentField) := by
  change Condition.childrenLeaves (every.map (Piece.child contentField)) = _
  induction every with
  | nil => rfl
  | cons piece every ih =>
      rw [List.map_cons, Condition.childrenLeaves_cons, Piece.childLeaves_child, ih]
      rfl

theorem sound_joinedPlan (kept : Lookup.Keeps contentField) (free : ∀ piece ∈ every, piece.text ∉ keywords) :
    ∀ leaf ∈ ((joinedPlan contentField every).restricted settings).leaves, Sound contentField leaf := by
  rw [Plan.restricted_of_models_nil rfl, leaves_joinedPlan]
  intro leaf listed
  obtain ⟨piece, there, rfl⟩ := List.mem_map.1 listed
  exact Piece.sound_leaf kept (free piece there)

theorem verdict?_joinedPlan (kept : Lookup.Keeps contentField)
    (free : ∀ piece ∈ every, piece.text ∉ keywords) (r : Row) :
    ((joinedPlan contentField every).verdict? contentField settings r).getD true =
      every.all (Piece.accepts contentField r) := by
  have conditions : (joinedPlan contentField every).filter =
      .node .and false (every.map (Piece.child contentField)) := rfl
  rw [Plan.verdict?, Plan.restricted_of_models_nil rfl, conditions, Condition.value?_node,
    Condition.getD_joinedValue?_and, List.all_map]
  apply Bool.eq_iff_iff.2
  rw [List.all_eq_true, List.all_eq_true]
  apply forall₂_congr
  intro piece there
  rw [Function.comp_apply, Piece.childValue?_holds? kept (free piece there)]

def texts (contentField : String) (every : List Piece) : List String :=
  (every.map (Piece.written contentField)).filter fun text => !text.isEmpty

theorem query_joinedPlan_of_ne_nil (present : every ≠ []) :
    (joinedPlan contentField every).query (querySyntax contentField) settings =
      Condition.writeNode .and false (texts contentField every) := by
  have conditions : (joinedPlan contentField every).filter =
      .node .and false (every.map (Piece.child contentField)) := rfl
  have filled : (joinedPlan contentField every).filter.isEmpty = false := by
    rw [conditions]
    exact List.isEmpty_eq_false_iff.2 fun empty => present (List.map_eq_nil_iff.1 empty)
  rw [query_joinedPlan, Plan.conditionQuery, Plan.restricted_of_models_nil rfl]
  simp only [filled, Bool.false_eq_true, if_false]
  rw [conditions, Condition.write, Condition.writeChildren_eq_map, List.map_map]
  · rfl
  · rintro expression ⟨⟩

theorem isPart_of_mem_texts (kept : Lookup.Keeps contentField) {text : String}
    (listed : text ∈ texts contentField every) : IsPart text.toList := by
  obtain ⟨mapped, filled⟩ := List.mem_filter.1 listed
  obtain ⟨piece, -, rfl⟩ := List.mem_map.1 mapped
  apply Piece.isPart_written kept
  intro empty
  rw [Piece.written_of_nil kept empty] at filled
  cases filled

theorem written_mem_texts (there : piece ∈ every) (part : IsPart (piece.written contentField).toList) :
    piece.written contentField ∈ texts contentField every := by
  rw [texts, List.mem_filter, Lucene.isEmpty_of_isPart part]
  exact ⟨List.mem_map_of_mem there, rfl⟩

theorem texts_eq_nil (kept : Lookup.Keeps contentField) (empty : ∀ piece ∈ every, piece.text = []) :
    texts contentField every = [] := by
  rw [texts, List.filter_eq_nil_iff]
  intro text mapped
  obtain ⟨piece, there, rfl⟩ := List.mem_map.1 mapped
  rw [Piece.written_of_nil kept (empty piece there)]
  decide

/-- The text of a conjunction with a keyword cannot be read. -/
theorem read_joinedPlan_of_keyword (kept : Lookup.Keeps contentField)
    (named : ∃ piece ∈ every, piece.text ∈ keywords) :
    Lucene.read ((joinedPlan contentField every).query (querySyntax contentField) settings) =
      .error .malformedQuery := by
  obtain ⟨piece, there, listed⟩ := named
  have refused := Piece.refused_written kept listed
  have among := written_mem_texts there (Or.inr refused)
  have stuck := Lucene.readChars?_writeNode (fun _ => isPart_of_mem_texts kept) ⟨_, among, refused⟩
  rw [query_joinedPlan_of_ne_nil (List.ne_nil_of_mem there), Lucene.read, stuck]

theorem query_joinedPlan_eq_empty_iff (kept : Lookup.Keeps contentField) :
    (joinedPlan contentField every).query (querySyntax contentField) settings = "" ↔
      every ≠ [] ∧ ∀ piece ∈ every, piece.text = [] := by
  constructor
  · intro empty
    have present : every ≠ [] := by
      rintro rfl
      exact (by decide : Lucene.everything ≠ "") empty
    rw [query_joinedPlan_of_ne_nil present] at empty
    refine ⟨present, ?_⟩
    intro piece there
    by_contra text
    have listed := written_mem_texts there (Piece.isPart_written kept text)
    obtain ⟨first, rest, whole⟩ := List.exists_cons_of_ne_nil (List.ne_nil_of_mem listed)
    have part : IsPart first.toList := isPart_of_mem_texts kept (whole ▸ List.mem_cons_self)
    rw [whole] at empty
    exact Lucene.writeNode_ne_empty part rest empty
  · rintro ⟨present, empty⟩
    rw [query_joinedPlan_of_ne_nil present, texts_eq_nil kept empty]
    rfl

end

/-- A user's query is cut into phrases and words in one way. It is written as nothing where all of them are
empty, it cannot be read where a keyword is among them, and otherwise it is read as a clause that accepts
the rows that are as each of them asks. -/
theorem read_autoQuery (Obj : Type) (settings : Settings) (kept : Lookup.Keeps settings.contentField)
    (query : String) :
    let text := ((ofSettings settings : ResultSet Obj).autoQuery settings query).plan.query
      (querySyntax settings.contentField) settings
    ∃ pieces : List Piece, (∀ other, IsCut query.toList other ↔ other = pieces) ∧
      (text = "" ↔ pieces ≠ [] ∧ ∀ piece ∈ pieces, piece.text = []) ∧
      ((∃ piece ∈ pieces, piece.text ∈ keywords) → Lucene.read text = .error .malformedQuery) ∧
      ((∀ piece ∈ pieces, piece.text ∉ keywords) → text ≠ "" →
        ∃ clause, Lucene.read text = .ok clause ∧
          ∀ r, clause.accepts settings.contentField r =
            pieces.all (Piece.accepts settings.contentField r)) := by
  obtain ⟨pieces, unique⟩ := exists_isCut_iff query.toList
  obtain ⟨every, members, same⟩ := exists_plan_autoQuery Obj settings ((unique pieces).2 rfl)
  intro text
  have compiled : text = (joinedPlan settings.contentField every).query
      (querySyntax settings.contentField) settings := by
    rw [← same]
  refine ⟨pieces, unique, ?_, ?_, ?_⟩
  · have vacant : every = [] ↔ pieces = [] := by
      rw [List.eq_nil_iff_forall_not_mem, List.eq_nil_iff_forall_not_mem]
      simp only [members]
    rw [compiled, query_joinedPlan_eq_empty_iff kept, ne_eq, vacant]
    simp only [members]
  · rintro ⟨piece, there, listed⟩
    rw [compiled]
    exact read_joinedPlan_of_keyword kept ⟨piece, (members piece).2 there, listed⟩
  · intro free writes
    have freeEvery : ∀ piece ∈ every, piece.text ∉ keywords :=
      fun piece there => free piece ((members piece).1 there)
    rw [compiled, query_joinedPlan] at writes
    obtain ⟨clause, stands, accepted⟩ :=
      Plan.exists_standsFor_conditionQuery (sound_joinedPlan kept freeEvery) writes
    refine ⟨clause, ?_, ?_⟩
    · rw [compiled, query_joinedPlan]
      exact Lucene.read_of_standsFor stands
    · intro r
      rw [accepted, verdict?_joinedPlan kept freeEvery, Bool.eq_iff_iff, List.all_eq_true,
        List.all_eq_true]
      simp only [members]

theorem read_autoQuery_foxes :
    Lookup.Keeps "content" ∧
    ∃ clause, Lucene.read (((ofSettings .default : ResultSet Record).autoQuery .default
        "\"red fox\" -dog c++").plan.query (querySyntax "content") .default) = .ok clause ∧
      ∀ r, clause.accepts "content" r =
        [Piece.phrase "red fox".toList, ⟨"dog".toList, true⟩, ⟨"c++".toList, false⟩].all
          (Piece.accepts "content" r) := by
  have kept : Lookup.Keeps "content" := Lookup.keeps_of_not_mark (by decide)
  refine ⟨kept, ?_⟩
  obtain ⟨pieces, unique, empty, -, reads⟩ :=
    read_autoQuery Record .default kept "\"red fox\" -dog c++"
  have cut : IsCut "\"red fox\" -dog c++".toList
      [Piece.phrase "red fox".toList, ⟨"dog".toList, true⟩, ⟨"c++".toList, false⟩] :=
    ⟨["red fox".toList], "  -dog c++".toList, ["-dog".toList, "c++".toList],
      quoted_iff.2 (by decide +kernel), Text.separated_iff.2 (by decide), rfl⟩
  obtain rfl := (unique _).1 cut
  apply reads
  · decide
  · rw [ne_eq, empty]
    intro nothing
    exact absurd (nothing.2 _ List.mem_cons_self) (by decide)

/-- A word that is a keyword makes a query that cannot be read, and where the name of the field of the text
holds a comparison or a relation, the words are looked up in another field. -/
theorem not_read_autoQuery :
    let query := fun (settings : Settings) (text : String) =>
      ((ofSettings settings : ResultSet Record).autoQuery settings text).plan.query
        (querySyntax settings.contentField) settings
    let settings : Settings := { Settings.default with contentField := "note__text" }
    let r : Row := ⟨"1", "app.note", "text", .ofList [("text", .text "A red fox")], .empty⟩
    query .default "cats AND dogs" ≠ "" ∧
      (Lucene.read (query .default "cats AND dogs")).isOk = false ∧
      (Lucene.read (query settings "fox")).isOk = true ∧
      r.saysText settings.contentField "fox".toList = true ∧
      r.satisfies settings.contentField (query settings "fox") = false := by
  decide +kernel

end ResultSet

end RecordSearch
