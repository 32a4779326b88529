import RecordSearch.Proofs.Condition.Meaning
import RecordSearch.Proofs.Condition.Operators
import RecordSearch.Proofs.Query.Boost
import RecordSearch.Proofs.ResultSet.Found

namespace RecordSearch

open Condition (composes holds? target value? Leaf Means Sound)
open Lucene (querySyntax searchedField isName StandsFor Weighs spaced)

theorem Connector.getD_join_and (a b : Option Bool) :
    (Connector.and.join a b).getD true = (a.getD true && b.getD true) := by
  rcases a with _ | _ | _ <;> rcases b with _ | _ | _ <;> rfl

theorem Value.eq_of_beqItems {items others : List Value} (texts : ∀ item ∈ items, ∃ s, item = text s)
    (same : beqItems items others = true) : others = items := by
  induction items generalizing others with
  | nil =>
      cases others with
      | nil => rfl
      | cons _ _ => cases same
  | cons item items ih =>
      cases others with
      | nil => cases same
      | cons other others =>
          rw [beqItems, Bool.and_eq_true] at same
          obtain ⟨s, rfl⟩ := texts item List.mem_cons_self
          rw [ih (fun item listed => texts item (List.mem_cons_of_mem _ listed)) same.2]
          cases other with
          | text t => rw [beq_iff_eq.1 same.1]
          | _ => cases same.1

def Row.blank : Row := ⟨"", "", "", .empty, .empty⟩

namespace Settings

def typeTarget (settings : Settings) (contentField : String) : String × Comparison :=
  target (querySyntax contentField) (Lookup.prepareKey (settings.typeField ++ "__in"))

def namesTypes (settings : Settings) (contentField : String) : Bool :=
  (settings.typeTarget contentField).2 == .within &&
    (isName (settings.typeTarget contentField).1 ||
      (settings.typeTarget contentField).1 == contentField)

end Settings

/-- Whether a row carries a label in the field in which model types are looked up. -/
def Row.carries (settings : Settings) (contentField : String) (r : Row) (label : String) : Bool :=
  (r.searched? contentField (searchedField contentField (settings.typeTarget contentField).1)).any
    fun v => v.scalars.any fun v => Match.equals v label 0

namespace Plan

def typeLookup (p : Plan) (settings : Settings) : Leaf :=
  (Lookup.prepareKey (settings.typeField ++ "__in"), .list (p.models.map fun m => .text m.label))

def typeCondition (p : Plan) (settings : Settings) : Child :=
  .node (.node .and false [.leaf (p.typeLookup settings).1 (p.typeLookup settings).2])

/-- Whether a term with its factor is written as one weighted word. -/
def Weighable (term : String) (factor : Float) : Prop :=
  Lucene.isWord term.toList = true ∧ Decimal.IsFactor factor

/-- Plans whose lookups and weighted words are written as clauses of their own. -/
structure Composes (p : Plan) (contentField : String) (settings : Settings) : Prop where
  raw : p.rawQuery = none
  lookups : ∀ leaf ∈ p.filter.leaves, composes contentField leaf = true
  types : p.models = [] ∨ settings.namesTypes contentField = true
  boosts : ∀ entry ∈ p.boosts.entries, Weighable entry.1 entry.2

/-- Whether the conditions of a plan are true of a row, none if they ask for nothing. -/
def verdict? (p : Plan) (contentField : String) (settings : Settings) (r : Row) : Option Bool :=
  (p.restricted settings).value? (holds? contentField r)

/-- Whether a row carries the label of a model of the plan, none if the plan has no models. -/
def typeVerdict? (p : Plan) (contentField : String) (settings : Settings) (r : Row) : Option Bool :=
  if p.models.isEmpty then none
  else some (p.models.any fun m => r.carries settings contentField m.label)

variable {p : Plan} {contentField : String} {settings : Settings}

theorem restricted_of_models_nil (free : p.models = []) : p.restricted settings = p.filter := by
  rw [restricted, free]
  rfl

theorem restricted_eq_addChild (bound : p.models ≠ []) :
    p.restricted settings = p.filter.addChild (p.typeCondition settings) .and := by
  rw [restricted, List.isEmpty_eq_false_iff.2 bound, if_neg Bool.false_ne_true]
  rfl

theorem typeLookup_ne_null : (p.typeLookup settings).2 ≠ .null := by
  rintro ⟨⟩

theorem standsFor_typeLookup (bound : p.models ≠ []) (named : settings.namesTypes contentField = true) :
    StandsFor (Condition.writeLeaf (querySyntax contentField) (p.typeLookup settings).1
        (p.typeLookup settings).2).toList
      (.joined .or (p.models.map fun m => .phrase
        (searchedField contentField (settings.typeTarget contentField).1) m.label none)) := by
  simp only [Settings.namesTypes, Bool.and_eq_true, Bool.or_eq_true, beq_iff_eq] at named
  have place : (settings.typeTarget contentField).1 = contentField ∨
      isName (settings.typeTarget contentField).1 = true := named.2.symm
  have present : (p.models.map fun m => Value.text m.label) ≠ [] :=
    fun empty => bound (List.map_eq_nil_iff.1 empty)
  have stands := Lucene.standsFor_options place present
  have filled : (p.models.map fun m => Value.text m.label).isEmpty = false := by
    rw [List.isEmpty_map]
    exact List.isEmpty_eq_false_iff.2 bound
  have text : Condition.writeLeaf (querySyntax contentField) (p.typeLookup settings).1
      (p.typeLookup settings).2 = "(" ++ " OR ".intercalate ((p.models.map fun m => Value.text m.label).map
        fun item => Lucene.fieldMark contentField (settings.typeTarget contentField).1 ++
          Lucene.phrase item) ++ ")" := by
    have own : target (querySyntax contentField) (p.typeLookup settings).1 =
        settings.typeTarget contentField := rfl
    have asked : (querySyntax contentField).lookup = Lucene.lookup contentField := rfl
    rw [Condition.writeLeaf_of_ne_null typeLookup_ne_null, own, named.1, asked, typeLookup, Lucene.lookup]
    simp only [List.isEmpty_map] at filled ⊢
    rw [filled, if_neg Bool.false_ne_true]
  rw [text]
  have clauses : ((p.models.map fun m => Value.text m.label).map Lucene.phraseText).map
      (fun text => Clause.phrase
        (searchedField contentField (settings.typeTarget contentField).1) text none) =
      p.models.map fun m => .phrase
        (searchedField contentField (settings.typeTarget contentField).1) m.label none := by
    rw [List.map_map, List.map_map]
    rfl
  rw [← clauses]
  exact stands

theorem sound_typeLookup (bound : p.models ≠ []) (named : settings.namesTypes contentField = true) :
    Sound contentField (p.typeLookup settings) := by
  constructor
  · intro r
    exact Condition.means_of_standsFor typeLookup_ne_null (standsFor_typeLookup bound named)
  · intro absent
    exact absurd absent typeLookup_ne_null

theorem accepts_of_score {clause : Clause} {r : Row} {field : Option String}
    (scored : clause.score contentField r = match r.searched? contentField field with
      | some v => if Match.value clause v then some 1 else none
      | none => none) :
    clause.accepts contentField r = (r.searched? contentField field).any (Match.value clause) := by
  rw [Clause.accepts, scored]
  cases r.searched? contentField field with
  | none => rfl
  | some v =>
      rw [Option.any_some]
      cases matched : Match.value clause v <;> simp [matched]

theorem accepts_phrase (contentField : String) (r : Row) (field : Option String) (text : String) :
    (Clause.phrase field text none).accepts contentField r =
      (r.searched? contentField field).any fun v => v.scalars.any fun v => Match.equals v text 0 :=
  accepts_of_score (by unfold Clause.score; rfl)

theorem accepts_term (contentField : String) (r : Row) (field : Option String) (text : String) :
    (Clause.term field text).accepts contentField r =
      (r.searched? contentField field).any fun v => v.scalars.any fun v => Match.equals v text 0 :=
  accepts_of_score (by unfold Clause.score; rfl)

theorem accepts_phrases (contentField : String) (r : Row) (field : Option String) {texts : List String}
    (present : texts ≠ []) :
    (Clause.joined .or (texts.map fun text => .phrase field text none)).accepts contentField r =
      texts.any fun text => (r.searched? contentField field).any fun v =>
        v.scalars.any fun v => Match.equals v text 0 := by
  cases texts with
  | nil => exact absurd rfl present
  | cons text rest =>
      have plain : ∀ clause ∈ (text :: rest).map fun text => Clause.phrase field text none,
          clause.isBoost = false := by
        intro clause listed
        obtain ⟨other, -, rfl⟩ := List.mem_map.1 listed
        rfl
      have joined := Clause.joinAll_accepts contentField r .or plain
      rw [← List.map_cons (f := fun text => Clause.phrase field text none),
        Connector.joinAll_eq _ (by simp), Connector.ofAll, List.map_map, List.any_map] at joined
      simp only [Function.comp_def, accepts_phrase, id] at joined
      exact (Option.some.inj joined).symm

theorem holds?_typeLookup (bound : p.models ≠ []) (named : settings.namesTypes contentField = true)
    (r : Row) :
    holds? contentField r (p.typeLookup settings).1 (p.typeLookup settings).2 =
      some (p.models.any fun m => r.carries settings contentField m.label) := by
  have labels : p.models.map ModelType.label ≠ [] := fun empty => bound (List.map_eq_nil_iff.1 empty)
  have accepted := accepts_phrases contentField r
    (searchedField contentField (settings.typeTarget contentField).1) labels
  rw [List.map_map, List.any_map] at accepted
  rw [Condition.holds?_of_standsFor typeLookup_ne_null (standsFor_typeLookup bound named)]
  exact congrArg some accepted

theorem Composes.sound (composing : p.Composes contentField settings) :
    ∀ leaf ∈ (p.restricted settings).leaves, Sound contentField leaf := by
  intro leaf listed
  by_cases free : p.models = []
  · rw [restricted_of_models_nil free] at listed
    exact Condition.sound_of_composes (composing.lookups leaf listed)
  · rw [restricted_eq_addChild free] at listed
    rcases List.mem_append.1 ((Condition.gathers_addChild _ _ _).1 listed) with own | restriction
    · exact Condition.sound_of_composes (composing.lookups leaf own)
    · rcases List.mem_singleton.1 restriction with rfl
      exact sound_typeLookup free (composing.types.resolve_left free)

theorem eq_typeCondition {other : Child}
    (same : Condition.beqChild (p.typeCondition settings) other = true) :
    other = p.typeCondition settings := by
  have texts : ∀ item ∈ p.models.map fun m => Value.text m.label, ∃ s, item = .text s := by
    intro item listed
    obtain ⟨m, -, rfl⟩ := List.mem_map.1 listed
    exact ⟨_, rfl⟩
  rcases other with ⟨connector, negated, children⟩ | ⟨expression, v⟩
  · simp only [typeCondition, typeLookup, Condition.beqChild, Condition.beq, Bool.and_eq_true,
      beq_iff_eq] at same
    obtain ⟨⟨rfl, rfl⟩, same⟩ := same
    rcases children with _ | ⟨child, _ | ⟨next, children⟩⟩
    · cases same
    · rcases child with inner | ⟨expression, v⟩
      · cases same
      · simp only [Condition.beqChildren, Condition.beqChild, Bool.and_eq_true, beq_iff_eq] at same
        obtain ⟨⟨rfl, same⟩, -⟩ := same
        cases v with
        | list others => rw [Value.eq_of_beqItems texts same, typeCondition, typeLookup]
        | _ => cases same
    · simp only [Condition.beqChildren, Bool.and_false, Bool.false_eq_true] at same
  · cases same

/-- A restriction to models is one more condition. -/
theorem verdict?_eq (composing : p.Composes contentField settings) (whole : p.filter.isNegated = false)
    (r : Row) :
    p.verdict? contentField settings r =
      Connector.and.join (p.filter.value? (holds? contentField r))
        (p.typeVerdict? contentField settings r) := by
  by_cases free : p.models = []
  · rw [verdict?, restricted_of_models_nil free, typeVerdict?, free]
    exact (Connector.join_none _ _).symm
  · have own : Condition.childValue? (holds? contentField r) (p.typeCondition settings) =
        holds? contentField r (p.typeLookup settings).1 (p.typeLookup settings).2 := by
      rw [typeCondition, Condition.childValue?, Condition.value?_node, Condition.joinedValue?_single]
      rfl
    rw [verdict?, restricted_eq_addChild free, Condition.value?_addChild_of_equal whole, own,
      holds?_typeLookup free (composing.types.resolve_left free), typeVerdict?,
      List.isEmpty_eq_false_iff.2 free, if_neg Bool.false_ne_true]
    intro other same
    rw [eq_typeCondition same]

/-- The conditions are written as nothing where they ask for nothing, but for those of an empty tree. -/
theorem conditionQuery_eq_empty_iff
    (sound : ∀ leaf ∈ (p.restricted settings).leaves, Sound contentField leaf) (r : Row) :
    p.conditionQuery (querySyntax contentField) settings = "" ↔
      (p.restricted settings).isEmpty = false ∧ p.verdict? contentField settings r = none := by
  unfold conditionQuery
  simp only
  cases vacant : (p.restricted settings).isEmpty with
  | true =>
      simp only [if_true, Bool.true_eq_false, false_and, iff_false]
      exact (by decide : Lucene.everything ≠ "")
  | false =>
      simp only [Bool.false_eq_true, if_false, true_and]
      exact (Condition.means_tree (r := r) (p.restricted settings) sound).eq_empty_iff

theorem exists_standsFor_conditionQuery
    (sound : ∀ leaf ∈ (p.restricted settings).leaves, Sound contentField leaf)
    (writes : p.conditionQuery (querySyntax contentField) settings ≠ "") :
    ∃ clause, StandsFor (p.conditionQuery (querySyntax contentField) settings).toList clause ∧
      ∀ r, clause.accepts contentField r = (p.verdict? contentField settings r).getD true := by
  unfold conditionQuery at writes ⊢
  simp only at writes ⊢
  cases vacant : (p.restricted settings).isEmpty with
  | true =>
      refine ⟨.all, Lucene.standsFor_everything, ?_⟩
      intro r
      rw [verdict?, Condition.value?_of_isEmpty vacant]
      rfl
  | false =>
      rw [vacant] at writes
      simp only [Bool.false_eq_true, if_false] at writes ⊢
      have means : ∀ r, ∃ clause,
          StandsFor ((p.restricted settings).write (querySyntax contentField)).toList clause ∧
            p.verdict? contentField settings r = some (clause.accepts contentField r) := by
        intro r
        rcases Condition.means_tree (r := r) (p.restricted settings) sound with ⟨empty, -⟩ | meant
        · exact absurd empty writes
        · exact meant
      -- a text stands for one clause, whatever the row
      obtain ⟨clause, stands, -⟩ := means .blank
      refine ⟨clause, stands, ?_⟩
      intro r
      obtain ⟨other, standsOther, value⟩ := means r
      have same : some other = some clause := standsOther.readChars?.symm.trans stands.readChars?
      rw [value, Option.some.inj same]
      rfl

theorem exists_weighs_entries (contentField : String) {entries : List (String × Float)}
    (weighable : ∀ entry ∈ entries, Weighable entry.1 entry.2) :
    ∃ parts : List (List Char × Clause),
      (entries.map fun entry => ((querySyntax contentField).boosted entry.1 entry.2).toList) =
        parts.map Prod.fst ∧ ∀ part ∈ parts, Weighs part.1 part.2 := by
  induction entries with
  | nil => exact ⟨[], rfl, fun _ listed => nomatch listed⟩
  | cons entry rest ih =>
      obtain ⟨word, factor⟩ := weighable entry List.mem_cons_self
      obtain ⟨parts, same, weigh⟩ := ih fun other listed => weighable other (List.mem_cons_of_mem _ listed)
      obtain ⟨clause, weighs⟩ := Lucene.exists_weighs word (Decimal.numeric_floatText factor)
      have text : ((querySyntax contentField).boosted entry.1 entry.2).toList =
          Lucene.weighted entry.1.toList (Decimal.floatText entry.2) := by
        simp [QuerySyntax.boosted, querySyntax, Lucene.clean, Lucene.weighted]
      refine ⟨(Lucene.weighted entry.1.toList (Decimal.floatText entry.2), clause) :: parts, ?_, ?_⟩
      · rw [List.map_cons, text, same, List.map_cons]
      · intro part listed
        rcases List.mem_cons.1 listed with rfl | later
        · exact weighs
        · exact weigh part later

/-- The query is read as a clause that accepts the rows of which the conditions are not false; weighted
words do not matter. -/
theorem exists_read_query (composing : p.Composes contentField settings)
    (writes : p.conditionQuery (querySyntax contentField) settings ≠ "") :
    ∃ clause, Lucene.read (p.query (querySyntax contentField) settings) = .ok clause ∧
      ∀ r, clause.accepts contentField r = (p.verdict? contentField settings r).getD true := by
  obtain ⟨clause, stands, accepted⟩ := exists_standsFor_conditionQuery composing.sound writes
  unfold query
  rw [composing.raw]
  obtain ⟨parts, texts, weigh⟩ :=
    exists_weighs_entries contentField composing.boosts
  cases entries : p.boosts.entries with
  | nil =>
      have unweighted : p.boosts.isEmpty = true := by rw [SortedMap.isEmpty, entries]; rfl
      simp only [unweighted, if_true]
      exact ⟨clause, Lucene.read_of_standsFor stands, accepted⟩
  | cons entry rest =>
      -- weighted words stand behind the conditions, and need not match
      have weighted : p.boosts.isEmpty = false := by rw [SortedMap.isEmpty, entries]; rfl
      rw [entries] at texts
      cases parts with
      | nil => cases texts
      | cons part parts =>
          have boosted : ∀ other ∈ (part :: parts).map Prod.snd, other.isBoost = true := by
            intro other listed
            obtain ⟨p, there, rfl⟩ := List.mem_map.1 listed
            exact (weigh p there).isBoost
          refine ⟨.and (clause :: (part :: parts).map Prod.snd), ?_, ?_⟩
          · have text : (p.conditionQuery (querySyntax contentField) settings ++ " " ++
                " ".intercalate ((entry :: rest).map fun entry =>
                  (querySyntax contentField).boosted entry.1 entry.2)).toList =
                (p.conditionQuery (querySyntax contentField) settings).toList ++
                  ' ' :: spaced (part :: parts) := by
              rw [spaced, ← texts, String.toList_append, String.toList_append,
                String.toList_intercalate, List.map_map]
              simp [Function.comp_def]
            simp only [weighted, Bool.false_eq_true, if_false]
            rw [Lucene.read, text, Lucene.readChars?_weighted stands weigh]
          · intro r
            rw [Clause.accepts_weighted stands.plain boosted, accepted]

/-- A row satisfies the query of a plan unless the conditions are false of it. -/
theorem satisfies_query (composing : p.Composes contentField settings)
    (writes : p.conditionQuery (querySyntax contentField) settings ≠ "") (r : Row) :
    r.satisfies contentField (p.query (querySyntax contentField) settings) =
      (p.verdict? contentField settings r).getD true := by
  obtain ⟨clause, read, accepted⟩ := exists_read_query composing writes
  rw [Row.satisfies_of_read read, accepted]

theorem all_insertSorted (q : String → Bool) (query : String) (queries : List String) :
    (insertSorted query queries).all q = (q query && queries.all q) := by
  rw [Bool.eq_iff_iff, Bool.and_eq_true, List.all_eq_true, List.all_eq_true]
  simp only [mem_insertSorted]
  constructor
  · intro every
    exact ⟨every query (Or.inl rfl), fun other listed => every other (Or.inr listed)⟩
  · rintro ⟨first, others⟩ other (rfl | listed)
    · exact first
    · exact others other listed

theorem isEmpty_query (raw : p.rawQuery = none) (syn : QuerySyntax)
    (writes : p.conditionQuery syn settings ≠ "") : (p.query syn settings).isEmpty = false := by
  rw [query, raw]
  simp only
  split
  · rw [← Bool.not_eq_true, String.isEmpty_iff]
    exact writes
  · rw [← Bool.not_eq_true, String.isEmpty_iff, ← String.toList_eq_nil_iff]
    simp

variable {Obj : Type} {c : Connection Table Obj}

/-- What a plan asks of a hit besides its conditions: to match the narrowing queries and to be similar. The
queries whose matches are counted have to be readable. -/
def admits (p : Plan) (c : Connection Table Obj) (r : Row) : Bool :=
  p.countsReadable && p.narrow.all (r.satisfies c.engine.settings.contentField) &&
    p.similarTo.all fun identity => c.engine.isSimilar identity r

/-- The conditions of hits that have to be similar are among the queries that narrow the search, unless
there are none. -/
theorem all_narrowing (composing : p.Composes c.engine.settings.contentField c.settings)
    (writes : p.conditionQuery (Engine.querySyntax c.engine) c.settings ≠ "") (r : Row) :
    (p.narrowing c).all (r.satisfies c.engine.settings.contentField) =
      ((p.similarTo.isNone || (p.verdict? c.engine.settings.contentField c.settings r).getD true) &&
        p.narrow.all (r.satisfies c.engine.settings.contentField)) := by
  have satisfied : r.satisfies c.engine.settings.contentField
      (p.query (Engine.querySyntax c.engine) c.settings) = _ := satisfies_query composing writes r
  unfold narrowing options
  simp only
  cases p.similarTo with
  | none => rfl
  | some identity =>
      simp only [Option.isSome_some, Bool.true_and, Option.isNone_some, Bool.false_or]
      split
      · rw [all_insertSorted, satisfied]
      · rename_i free
        simp only [Bool.or_eq_true, Bool.not_eq_true', not_or, Bool.not_eq_false] at free
        have unbound : p.models = [] := List.isEmpty_iff.1 free.2
        rw [verdict?, restricted_of_models_nil unbound, Condition.value?_of_isEmpty free.1]
        rfl

theorem selects_eq (composing : p.Composes c.engine.settings.contentField c.settings)
    (writes : p.conditionQuery (Engine.querySyntax c.engine) c.settings ≠ "") (r : Row) :
    p.selects c r = (p.admits c r &&
      (p.verdict? c.engine.settings.contentField c.settings r).getD true) := by
  have satisfied : r.satisfies c.engine.settings.contentField
      (p.query (Engine.querySyntax c.engine) c.settings) = _ := satisfies_query composing writes r
  have asked := isEmpty_query composing.raw (Engine.querySyntax c.engine) writes
  unfold selects admits
  simp only [all_narrowing composing writes, satisfied, asked]
  cases p.similarTo with
  | none =>
      simp only [Option.isNone_none, Bool.true_or, Option.all_none, Bool.not_false, Bool.true_and,
        Bool.and_true]
  | some identity =>
      simp only [Option.isNone_some, Bool.false_or, Option.all_some]
      ac_rfl

end Plan

end RecordSearch
