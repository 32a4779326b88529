import RecordSearch.Object.Record
import RecordSearch.Proofs.Index.Survival
import RecordSearch.Proofs.ResultSet.Compiled

namespace RecordSearch

open Condition (composes holds?)
open Lucene (querySyntax)

theorem Settings.Usual.typeTarget {settings : Settings} (usual : settings.Usual) (contentField : String) :
    settings.typeTarget contentField = (Settings.default.typeField, .within) := by
  have split : Lookup.split (Lookup.prepareKey (Settings.default.typeField ++ "__in")) =
      (Settings.default.typeField, .within) := by decide +kernel
  have named : Settings.default.typeField ≠ Condition.contentKey := by decide
  rw [Settings.typeTarget, usual.type, Condition.target, split]
  exact congrArg (·, Comparison.within) (if_neg named)

theorem Row.model_of_ofDocument {settings : Settings} {schema : Schema} {d : Document} {r : Row}
    (absent : settings.typeField ∉ schema.fields.map Prod.fst)
    (made : ofDocument settings schema d = .ok r) :
    d.find? settings.typeField = some (.text r.model) ∧
      r.indexed.find? settings.typeField = some (.text r.model) := by
  have own := isOf_of_ofDocument made
  refine ⟨own.model, ?_⟩
  rw [own.find?_indexed, Schema.field?_of_not_mem absent]
  exact own.model

namespace Table

variable {Obj : Type} [Source Obj]

/-- Calls that index documents under model types that can be read, without fields named like what every
document holds, or take documents away. -/
inductive Fills : Call Obj → Prop where
  | index {settings : Settings} {index : SearchIndex Obj} (objects : List Obj) : settings.Usual →
      (ModelType.ofLabel? index.model.label).isSome = true →
      (∀ name ∈ index.fields.map Prod.fst,
        name ∉ [Settings.default.idField, Settings.default.typeField, Settings.default.pkField]) →
      Fills (.index settings index objects)
  | remove (identity : String) : Fills (.remove identity)
  | clear (models : List ModelType) : Fills (.clear models)

/-- Whether a row was made of an object that was indexed under a model type. -/
def IndexedUnder (settings : Settings) (calls : List (Call Obj)) (r : Row) (m : ModelType) : Prop :=
  ∃ own index objects, Call.index own index objects ∈ calls ∧ index.model = m ∧
    ∃ o ∈ objects, ∃ d, index.prepare o own = .ok d ∧ Row.ofDocument settings index.toSchema d = .ok r

theorem IndexedUnder.label {settings : Settings} {calls : List (Call Obj)} {r : Row} {m : ModelType}
    (indexed : IndexedUnder settings calls r m) (usual : settings.Usual)
    (fills : ∀ call ∈ calls, Fills call) :
    (ModelType.ofLabel? m.label).isSome = true ∧ r.model = m.label ∧
      r.indexed.find? settings.typeField = some (.text m.label) := by
  obtain ⟨own, index, objects, listed, rfl, o, -, d, prepared, made⟩ := indexed
  cases fills _ listed with
  | index _ usualOwn readable apart =>
      have absent : settings.typeField ∉ index.fields.map Prod.fst := by
        intro there
        exact apart _ there (by simp [usual.type])
      have same : own.typeField = settings.typeField := usualOwn.type.trans usual.type.symm
      obtain ⟨pk, -, identifies⟩ := SearchIndex.exists_identifies usualOwn.distinct
        (SearchIndex.keepsHeading_of_usual usualOwn apart o) prepared
      obtain ⟨model, found⟩ := Row.model_of_ofDocument absent made
      rw [← same, identifies.type] at model
      have label : index.model.label = r.model := Value.text.inj (Option.some.inj model)
      rw [← label] at found
      exact ⟨readable, label.symm, found⟩

/-- A connection whose table was filled by indexing, with the usual names on both sides. -/
structure Filled (c : Connection Table Obj) (calls : List (Call Obj)) : Prop where
  engine : c.engine = (empty c.engine.settings).performAll calls
  fills : ∀ call ∈ calls, Fills call
  usual : c.engine.settings.Usual
  own : c.settings.Usual
  content : c.engine.settings.contentField ≠ c.engine.settings.typeField

variable {c : Connection Table Obj} {calls : List (Call Obj)} {r : Row}

end Table

namespace Plan

variable {p : Plan} {contentField : String} {settings : Settings} {models : List ModelType}

end Plan

namespace Table

variable {Obj : Type} [Source Obj] {c : Connection Table Obj} {calls : List (Call Obj)}

theorem Filled.namesTypes (filled : Filled c calls) :
    c.settings.namesTypes c.engine.settings.contentField = true := by
  rw [Settings.namesTypes, filled.own.typeTarget]
  rfl

end Table

end RecordSearch
