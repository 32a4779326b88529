import RecordSearch.Object.Record
import RecordSearch.Proofs.Condition.Alike
import RecordSearch.Proofs.ResultSet.Compiled
import RecordSearch.ResultSet.Basic

namespace RecordSearch

open Condition (composes holds? value? writeLeaf Leaf EqualLeaves Built)
open Lucene (querySyntax)

theorem Connector.getD_join_or {a b : Option Bool} (both : a = none ↔ b = none) :
    (Connector.or.join a b).getD true = (a.getD true || b.getD true) := by
  rcases a with _ | x <;> rcases b with _ | y
  · rfl
  · cases both.1 rfl
  · cases both.2 rfl
  · rfl

namespace Condition

variable {contentField : String}

/-- Lookups of which those that compare as equal are written alike. -/
def WrittenAlike (contentField : String) (leaves : List Leaf) : Prop :=
  ∀ p ∈ leaves, ∀ q ∈ leaves, EqualLeaves p q →
    writeLeaf (querySyntax contentField) p.1 p.2 = writeLeaf (querySyntax contentField) q.1 q.2

instance (p q : Leaf) : Decidable (EqualLeaves p q) :=
  inferInstanceAs (Decidable (p.1 = q.1 ∧ (p.2 == q.2) = true))

instance (contentField : String) (leaves : List Leaf) : Decidable (WrittenAlike contentField leaves) :=
  inferInstanceAs (Decidable (∀ p ∈ leaves, ∀ q ∈ leaves, EqualLeaves p q →
    writeLeaf (querySyntax contentField) p.1 p.2 = writeLeaf (querySyntax contentField) q.1 q.2))

theorem alike_of_writtenAlike {leaves : List Leaf} (written : WrittenAlike contentField leaves) (r : Row) :
    Alike (holds? contentField r) leaves := by
  rintro ⟨expression, v⟩ there ⟨expression', w⟩ thereToo equal
  obtain ⟨named, same⟩ : expression = expression' ∧ (v == w) = true := equal
  subst named
  have texts : writeLeaf (querySyntax contentField) expression v =
      writeLeaf (querySyntax contentField) expression w := written _ there _ thereToo ⟨rfl, same⟩
  change holds? contentField r expression v = holds? contentField r expression w
  by_cases null : v = .null
  · subst null
    cases w with
    | null => rfl
    | _ => cases same
  · have other : w ≠ .null := by
      rintro rfl
      cases v with
      | null => exact null rfl
      | _ => cases same
    rw [holds?_of_ne_null null, holds?_of_ne_null other, texts]

theorem isEmpty_extend {root c : Condition} (vacant : root.isEmpty = true) (none_there : c.isEmpty = true)
    (whole : c.isNegated = false) (join : Connector) : (root.extend join c).isEmpty = true := by
  obtain ⟨connector, negated, children⟩ := c
  obtain rfl : negated = false := whole
  obtain rfl : children = [] := List.isEmpty_iff.1 none_there
  have needless : needsGroup root join connector ([] : List Child).length = false := by
    rw [needsGroup, vacant]
    rfl
  rw [extend]
  simp only [needless, Bool.false_eq_true, if_false, extendBy]
  exact vacant

end Condition

namespace Plan

variable {p q : Plan} {contentField : String} {settings : Settings}

/-- Plans in which only conditions and models are set. -/
structure Plain (p : Plan) : Prop where
  raw : p.rawQuery = none
  unweighted : p.boosts = .empty
  counts : p.queryFacets = []
  narrow : p.narrow = []
  alone : p.similarTo = none
  whole : p.filter.isNegated = false

theorem plain_empty : Plain .empty := ⟨rfl, rfl, rfl, rfl, rfl, rfl⟩

theorem Plain.addFilter (plain : p.Plain) {c : Condition} (whole : c.isNegated = false)
    (join : Connector) : (p.addFilter c join).Plain :=
  ⟨plain.raw, plain.unweighted, plain.counts, plain.narrow, plain.alone,
    isNegated_filter_addFilter plain.whole whole join⟩

theorem Plain.addModels (plain : p.Plain) (models : List ModelType) : (p.addModels models).Plain :=
  ⟨plain.raw, plain.unweighted, plain.counts, plain.narrow, plain.alone, plain.whole⟩

theorem Plain.selects_eq {Obj : Type} {c : Connection Table Obj} (plain : p.Plain)
    (composing : p.Composes c.engine.settings.contentField c.settings)
    (writes : p.conditionQuery (Engine.querySyntax c.engine) c.settings ≠ "") (r : Row) :
    p.selects c r = (p.verdict? c.engine.settings.contentField c.settings r).getD true := by
  have free : p.admits c r = true := by
    rw [admits, countsReadable, plain.counts, plain.narrow, plain.alone]
    rfl
  rw [Plan.selects_eq composing writes, free, Bool.true_and]

theorem composes_combine (composing : p.Composes contentField settings)
    (other : q.Composes contentField settings) (join : Connector) :
    (p.combine q join).Composes contentField settings := by
  refine ⟨composing.raw, ?_, composing.types, composing.boosts⟩
  intro leaf listed
  rcases List.mem_append.1 (Condition.leaves_extend_subset q.filter p.filter join listed) with own | new
  · exact composing.lookups leaf own
  · exact other.lookups leaf new

/-- A combination has the conditions of both plans, and the models of the first. -/
theorem verdict?_combine (plain : p.Plain) (plainOther : q.Plain)
    (composing : p.Composes contentField settings) (other : q.Composes contentField settings)
    (written : Condition.WrittenAlike contentField (p.filter.leaves ++ q.filter.leaves))
    (join : Connector) (r : Row) :
    (p.combine q join).verdict? contentField settings r =
      Connector.and.join
        (join.join (p.filter.value? (holds? contentField r)) (q.filter.value? (holds? contentField r)))
        (p.typeVerdict? contentField settings r) := by
  have combined : (p.combine q join).Plain := plain.addFilter plainOther.whole join
  have joined : (p.combine q join).filter.value? (holds? contentField r) = _ :=
    Condition.value?_extend_of_alike (Condition.alike_of_writtenAlike written r) join plain.whole
      plainOther.whole
  rw [verdict?_eq (composes_combine composing other join) combined.whole, joined]
  rfl

theorem typeVerdict?_eq_none_iff {r : Row} :
    p.typeVerdict? contentField settings r = none ↔ p.models = [] := by
  unfold typeVerdict?
  cases models : p.models with
  | nil => simp
  | cons m rest => simp

/-- A plan whose conditions ask for nothing, and that is written nevertheless, has no condition at all. -/
theorem isEmpty_filter_of_writes (plain : p.Plain) (composing : p.Composes contentField settings)
    (writes : p.conditionQuery (querySyntax contentField) settings ≠ "") (free : p.models = []) {r : Row}
    (nothing : p.filter.value? (holds? contentField r) = none) : p.filter.isEmpty = true := by
  have absent : p.verdict? contentField settings r = none := by
    rw [verdict?_eq composing plain.whole, nothing, typeVerdict?_eq_none_iff.2 free]
    rfl
  have vacant : (p.restricted settings).isEmpty ≠ false := by
    intro filled
    exact writes ((conditionQuery_eq_empty_iff composing.sound r).2 ⟨filled, absent⟩)
  rw [restricted_of_models_nil free] at vacant
  exact eq_true_of_ne_false vacant

theorem conditionQuery_combine_ne (plain : p.Plain) (plainOther : q.Plain)
    (composing : p.Composes contentField settings) (other : q.Composes contentField settings)
    (written : Condition.WrittenAlike contentField (p.filter.leaves ++ q.filter.leaves))
    (writes : p.conditionQuery (querySyntax contentField) settings ≠ "")
    (writesOther : q.conditionQuery (querySyntax contentField) settings ≠ "")
    (types : p.models = [] → q.models = []) (join : Connector) :
    (p.combine q join).conditionQuery (querySyntax contentField) settings ≠ "" := by
  intro empty
  obtain ⟨filled, absent⟩ :=
    (conditionQuery_eq_empty_iff (composes_combine composing other join).sound .blank).1 empty
  rw [verdict?_combine plain plainOther composing other written, Connector.join_eq_none_iff,
    Connector.join_eq_none_iff, typeVerdict?_eq_none_iff] at absent
  obtain ⟨⟨nothing, nothingOther⟩, free⟩ := absent
  have vacant := Condition.isEmpty_extend (isEmpty_filter_of_writes plain composing writes free nothing)
    (isEmpty_filter_of_writes plainOther other writesOther (types free) nothingOther) plainOther.whole join
  rw [restricted_of_models_nil (p := p.combine q join) free] at filled
  rw [combine, addFilter, vacant] at filled
  cases filled

end Plan

namespace ResultSet

variable {Obj : Type} {settings : Settings}

/-- The result sets that are made from a new one by filtering, excluding and restricting to models. -/
inductive Chained (settings : Settings) : ResultSet Obj → Prop where
  | new : Chained settings (.ofSettings settings)
  | filter {s : ResultSet Obj} {c : Condition} : Chained settings s → c.Built →
      Chained settings (s.filter c)
  | filterOr {s : ResultSet Obj} {c : Condition} : Chained settings s → c.Built →
      Chained settings (s.filterOr c)
  | exclude {s : ResultSet Obj} {c : Condition} : Chained settings s → c.Built →
      Chained settings (s.exclude c)
  | models {s : ResultSet Obj} (models : List ModelType) : Chained settings s →
      Chained settings (s.models models)

theorem Chained.plain {s : ResultSet Obj} (chained : Chained settings s) : s.plan.Plain := by
  induction chained with
  | new => exact Plan.plain_empty
  | filter _ built plain => exact plain.addFilter built.isNegated .and
  | filterOr _ built plain => exact plain.addFilter built.isNegated .or
  | exclude _ built plain => exact plain.addFilter (Built.inverted built).isNegated .and
  | models models _ plain => exact plain.addModels models

/-- Chained result sets that ask for something, by lookups that are written as clauses of their own. -/
structure Searches (s : ResultSet Obj) (c : Connection Table Obj) : Prop where
  chained : Chained c.settings s
  composes : s.plan.Composes c.engine.settings.contentField c.settings
  writes : s.plan.conditionQuery (Engine.querySyntax c.engine) c.settings ≠ ""

variable {c : Connection Table Obj} {a b : ResultSet Obj} {r : Row}

theorem Searches.mem_found (searches : a.Searches c) :
    r ∈ a.plan.found c ↔ r ∈ c.engine.rows ∧
      ((a.plan.filter.value? (holds? c.engine.settings.contentField r)).getD true = true ∧
        (a.plan.typeVerdict? c.engine.settings.contentField c.settings r).getD true = true) := by
  have plain := searches.chained.plain
  rw [Plan.mem_found, plain.selects_eq searches.composes searches.writes,
    Plan.verdict?_eq searches.composes plain.whole, Connector.getD_join_and, Bool.and_eq_true]

theorem mem_found_combine (searchesA : a.Searches c) (searchesB : b.Searches c)
    (written : Condition.WrittenAlike c.engine.settings.contentField
      (a.plan.filter.leaves ++ b.plan.filter.leaves))
    (types : a.plan.models = [] → b.plan.models = []) (join : Connector) :
    r ∈ (a.combine b join).plan.found c ↔ r ∈ c.engine.rows ∧
      ((join.join (a.plan.filter.value? (holds? c.engine.settings.contentField r))
          (b.plan.filter.value? (holds? c.engine.settings.contentField r))).getD true = true ∧
        (a.plan.typeVerdict? c.engine.settings.contentField c.settings r).getD true = true) := by
  have plainA := searchesA.chained.plain
  have plainB := searchesB.chained.plain
  have combined : (a.combine b join).plan.Plain := plainA.addFilter plainB.whole join
  have writes : (a.combine b join).plan.conditionQuery (Engine.querySyntax c.engine) c.settings ≠ "" :=
    Plan.conditionQuery_combine_ne plainA plainB searchesA.composes searchesB.composes written
      searchesA.writes searchesB.writes types join
  have verdict : (a.combine b join).plan.verdict? c.engine.settings.contentField c.settings r = _ :=
    Plan.verdict?_combine plainA plainB searchesA.composes searchesB.composes written join r
  rw [Plan.mem_found,
    combined.selects_eq (Plan.composes_combine searchesA.composes searchesB.composes join) writes,
    verdict, Connector.getD_join_and, Bool.and_eq_true]

theorem getD_typeVerdict?_of_subset {contentField : String}
    (wider : b.plan.models = [] ∨ a.plan.models ≠ [] ∧ a.plan.models ⊆ b.plan.models)
    (among : (a.plan.typeVerdict? contentField settings r).getD true = true) :
    (b.plan.typeVerdict? contentField settings r).getD true = true := by
  rcases wider with free | ⟨bound, subset⟩
  · rw [Plan.typeVerdict?_eq_none_iff.2 free]
    rfl
  · unfold Plan.typeVerdict? at among ⊢
    rw [List.isEmpty_eq_false_iff.2 bound] at among
    split
    · rfl
    · obtain ⟨m, listed, carried⟩ := List.any_eq_true.1 among
      exact List.any_eq_true.2 ⟨m, subset listed, carried⟩

theorem found_combine_and (searchesA : a.Searches c) (searchesB : b.Searches c)
    (written : Condition.WrittenAlike c.engine.settings.contentField
      (a.plan.filter.leaves ++ b.plan.filter.leaves))
    (wider : b.plan.models = [] ∨ a.plan.models ≠ [] ∧ a.plan.models ⊆ b.plan.models) :
    r ∈ (a.combine b .and).plan.found c ↔ r ∈ a.plan.found c ∧ r ∈ b.plan.found c := by
  have types : a.plan.models = [] → b.plan.models = [] := by
    intro free
    exact wider.resolve_right fun bound => bound.1 free
  rw [mem_found_combine searchesA searchesB written types, searchesA.mem_found, searchesB.mem_found,
    Connector.getD_join_and, Bool.and_eq_true]
  constructor
  · rintro ⟨there, ⟨first, second⟩, among⟩
    exact ⟨⟨there, first, among⟩, there, second, getD_typeVerdict?_of_subset wider among⟩
  · rintro ⟨⟨there, first, among⟩, -, second, -⟩
    exact ⟨there, ⟨first, second⟩, among⟩

theorem found_combine_or (searchesA : a.Searches c) (searchesB : b.Searches c)
    (written : Condition.WrittenAlike c.engine.settings.contentField
      (a.plan.filter.leaves ++ b.plan.filter.leaves))
    (same : a.plan.models = b.plan.models)
    (both : a.plan.filter.write (Engine.querySyntax c.engine) = "" ↔
      b.plan.filter.write (Engine.querySyntax c.engine) = "") :
    r ∈ (a.combine b .or).plan.found c ↔ r ∈ a.plan.found c ∨ r ∈ b.plan.found c := by
  have asks : ∀ {s : ResultSet Obj}, s.Searches c →
      (s.plan.filter.write (Engine.querySyntax c.engine) = "" ↔
        s.plan.filter.value? (holds? c.engine.settings.contentField r) = none) := by
    intro s searches
    exact (Condition.means_tree s.plan.filter fun leaf listed =>
      Condition.sound_of_composes (searches.composes.lookups leaf listed)).eq_empty_iff
  have present : a.plan.filter.value? (holds? c.engine.settings.contentField r) = none ↔
      b.plan.filter.value? (holds? c.engine.settings.contentField r) = none := by
    rw [← asks searchesA, ← asks searchesB, both]
  have types : a.plan.typeVerdict? c.engine.settings.contentField c.settings r =
      b.plan.typeVerdict? c.engine.settings.contentField c.settings r := by
    rw [Plan.typeVerdict?, same, Plan.typeVerdict?]
  rw [mem_found_combine searchesA searchesB written (fun free => same ▸ free), searchesA.mem_found,
    searchesB.mem_found, Connector.getD_join_or present, Bool.or_eq_true, types]
  constructor
  · rintro ⟨there, first | second, among⟩
    · exact Or.inl ⟨there, first, among⟩
    · exact Or.inr ⟨there, second, among⟩
  · rintro (⟨there, first, among⟩ | ⟨there, second, among⟩)
    · exact ⟨there, Or.inl first, among⟩
    · exact ⟨there, Or.inr second, among⟩

/-- Answers rank hits. What two result sets share is hit by the one combined with the other by AND, if the
other is not restricted to models or the one is to some of them; what one of them hits is hit by both
combined by OR, if they are restricted to the same models and both have conditions that ask for something, or
none of them. -/
theorem found_combine (searchesA : a.Searches c) (searchesB : b.Searches c)
    (written : Condition.WrittenAlike c.engine.settings.contentField
      (a.plan.filter.leaves ++ b.plan.filter.leaves)) :
    (∀ p ∈ [a.plan, b.plan, (a.combine b .and).plan, (a.combine b .or).plan],
      Table.Ranks (p.found c) (p.answers c)) ∧
    (b.plan.models = [] ∨ a.plan.models ≠ [] ∧ a.plan.models ⊆ b.plan.models →
      ∀ r, r ∈ (a.combine b .and).plan.found c ↔ r ∈ a.plan.found c ∧ r ∈ b.plan.found c) ∧
    (a.plan.models = b.plan.models →
      (a.plan.filter.write (Engine.querySyntax c.engine) = "" ↔
        b.plan.filter.write (Engine.querySyntax c.engine) = "") →
      ∀ r, r ∈ (a.combine b .or).plan.found c ↔ r ∈ a.plan.found c ∨ r ∈ b.plan.found c) := by
  refine ⟨?_, ?_, ?_⟩
  · exact fun p _ => p.ranks_answers c
  · intro wider r
    exact found_combine_and searchesA searchesB written wider
  · intro same both r
    exact found_combine_or searchesA searchesB written same both

def shelf : Connection Table Record where
  engine := ⟨.default, [
    ⟨"app.note.1", "app.note", "text",
      .ofList [("model_type", .text "app.note"), ("text", .text "A red fox"), ("year", .integer 7)], .empty⟩,
    ⟨"app.page.1", "app.page", "text",
      .ofList [("model_type", .text "app.page"), ("text", .text "A red dog"), ("code", .text "0")],
      .empty⟩]⟩
  settings := .default
  registry := .empty
  log := .ofEnabled false
  storeCalls := []

def reds : ResultSet Record :=
  ((ofSettings .default).filter (.content (.text "red"))).models [⟨"app", "note"⟩, ⟨"app", "page"⟩]

def dogs : ResultSet Record :=
  (((ofSettings .default).exclude (.lookup "year__lte" (.integer 5))).filterOr
    (.lookup "text" (.text "red dog"))).models [⟨"app", "note"⟩, ⟨"app", "page"⟩]

theorem found_combine_shelf :
    reds.Searches shelf ∧ dogs.Searches shelf ∧
    (∀ r, r ∈ (reds.combine dogs .and).plan.found shelf ↔
      r ∈ reds.plan.found shelf ∧ r ∈ dogs.plan.found shelf) ∧
    ∀ r, r ∈ (reds.combine dogs .or).plan.found shelf ↔
      r ∈ reds.plan.found shelf ∨ r ∈ dogs.plan.found shelf := by
  have searchesReds : reds.Searches shelf :=
    ⟨.models _ (.filter .new (.content _)),
      ⟨rfl, by decide, Or.inr (by decide +kernel), fun _ listed => nomatch listed⟩,
      by decide +kernel⟩
  have searchesDogs : dogs.Searches shelf :=
    ⟨.models _ (.filterOr (.exclude .new (.lookup _ _)) (.lookup _ _)),
      ⟨rfl, by decide +kernel, Or.inr (by decide +kernel), fun _ listed => nomatch listed⟩,
      by decide +kernel⟩
  obtain ⟨-, both, either⟩ := found_combine searchesReds searchesDogs (by decide +kernel)
  exact ⟨searchesReds, searchesDogs, both (Or.inr (by decide)),
    either (by decide) (by decide +kernel)⟩

/-- The models of the second set are dropped, and a set without conditions adds no alternative. A condition
that asks for nothing has no hits on its own. A field name with a connector in it is no condition of its own,
and one of two zeros is left out. -/
theorem not_mem_found_combine :
    let identities := fun s : ResultSet Record => (s.plan.found shelf).map Row.identity
    let all : ResultSet Record := ofSettings .default
    let notes := all.models [⟨"app", "note"⟩]
    let foxes := all.filter (.content (.text "fox"))
    let silent := all.filter (.content (.text ""))
    let broken := all.filter (.lookup "text:red OR code" (.text "1"))
    let zeros := all.filter (.lookup "code__startswith" (.float ⟨0⟩))
    let negativeZeros := all.filter (.lookup "code__startswith" (.float (Double.negate ⟨0⟩)))
    (identities notes = ["app.note.1"] ∧ identities all = ["app.note.1", "app.page.1"] ∧
      identities (all.combine notes .and) = ["app.note.1", "app.page.1"]) ∧
    (identities foxes = ["app.note.1"] ∧ identities (foxes.combine all .or) = ["app.note.1"]) ∧
    (identities silent = [] ∧ identities (silent.combine foxes .and) = ["app.note.1"]) ∧
    identities (broken.combine foxes .and) = ["app.note.1", "app.page.1"] ∧
    identities negativeZeros = [] ∧ identities (zeros.combine negativeZeros .and) = ["app.page.1"] := by
  decide +kernel

end ResultSet

end RecordSearch
