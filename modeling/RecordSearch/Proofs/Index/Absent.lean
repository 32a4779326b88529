import RecordSearch.Object.Record
import RecordSearch.Proofs.Condition.Meaning
import RecordSearch.Proofs.ResultSet.AutoQuery
import RecordSearch.Proofs.Table.Hits

/-!
Fields without a value. What an object has no value for is not in its document, and a search can ask for that;
only a payload is there even if it holds nothing.
-/

namespace RecordSearch

namespace Condition

open Lucene (querySyntax isName)

variable {contentField key : String} {r : Row}

/-- The text of the condition is read, and it accepts the row exactly if `p` holds. -/
def FindsIff (contentField : String) (c : Condition) (r : Row) (p : Prop) : Prop :=
  ∃ clause, Lucene.read (c.write (querySyntax contentField)) = .ok clause ∧
    (clause.accepts contentField r = true ↔ p)

theorem findsIff_of_means {c : Condition} {b : Bool} {p : Prop}
    (means : Means contentField r (c.write (querySyntax contentField)) (some b)) (same : b = true ↔ p) :
    c.FindsIff contentField r p := by
  rcases means with ⟨-, nothing⟩ | ⟨clause, stands, value⟩
  · cases nothing
  · refine ⟨clause, Lucene.read_of_standsFor stands, ?_⟩
    rw [← Option.some.inj value]
    exact same

/-- The field that a lookup asks about. -/
def asked (contentField key : String) : String := (target (querySyntax contentField) (Lookup.prepareKey key)).1

theorem asked_of_not_mark {name : String} (named : isName name = true)
    (plain : ¬ Lookup.mark <:+: name.toList) : asked contentField name = name := by
  have kept : Lookup.split (Lookup.prepareKey name) = (name, .exact) := Lookup.keeps_of_not_mark plain
  have other : name ≠ contentKey := by
    rintro rfl
    revert named
    decide
  rw [asked, target, kept]
  exact if_neg other

theorem sound_null (named : isName (asked contentField key) = true) :
    Sound contentField (Lookup.prepareKey key, .null) :=
  ⟨fun _ => means_absence named, fun _ => named⟩

theorem means_null (named : isName (asked contentField key) = true) :
    Means contentField r ((lookup key .null).write (querySyntax contentField))
        (some (r.searched? contentField (some (asked contentField key))).isNone) ∧
      Means contentField r ((lookup key .null).inverted.write (querySyntax contentField))
        (some (r.searched? contentField (some (asked contentField key))).isSome) := by
  have sound := sound_null named
  have inverted : (lookup key .null).inverted =
      node .and false [.node (node .and true [.leaf (Lookup.prepareKey key) .null])] := rfl
  have held : holds? contentField r (Lookup.prepareKey key) .null =
      some (r.searched? contentField (some (asked contentField key))).isNone := rfl
  constructor
  · have means := means_tree (r := r) (lookup key .null) fun leaf listed => List.mem_singleton.1 listed ▸ sound
    rw [lookup, value?_node, joinedValue?_single, childValue?, held] at means
    exact means
  · have means := means_tree (r := r) (lookup key .null).inverted
      fun leaf listed => List.mem_singleton.1 listed ▸ sound
    rw [inverted, value?_wrap, value?_negated, joinedValue?_single, childValue?, held, Option.map_some,
      Option.not_isNone] at means
    exact means

/-- A lookup of null finds the rows without the field, and its opposite those that have it. -/
theorem findsIff_null (named : isName (asked contentField key) = true) {p : Prop}
    (there : (r.searched? contentField (some (asked contentField key))).isSome = true ↔ p) :
    (lookup key .null).FindsIff contentField r (¬ p) ∧ (lookup key .null).inverted.FindsIff contentField r p := by
  obtain ⟨absence, presence⟩ := means_null (r := r) named
  refine ⟨findsIff_of_means absence ?_, findsIff_of_means presence there⟩
  rw [← there, Option.isNone_iff_eq_none, Option.not_isSome_iff_eq_none]

end Condition

theorem Field.prepare_of_null {Obj : Type} [Source Obj] {f : Field} {o : Obj} {renderer : Option (Renderer Obj)}
    (nothing : f.prepareRaw o renderer = .ok .null) :
    f.prepare o renderer = .ok (if f.kind = .packed then .text (Opaque.encode .null) else .null) := by
  rw [prepare, nothing]
  by_cases packed : f.kind = .packed
  · simp only [if_pos packed]
  · simp only [if_neg packed]
    exact if_pos rfl

theorem Row.searched?_ofDocument {own : Settings} {schema : Schema} {d : Document} {r : Row} {name : String}
    (made : ofDocument own schema d = .ok r)
    (apart : name = own.contentField → schema.documentField? = some name) :
    r.searched? own.contentField (some name) =
      if ((schema.field? name).map Field.isIndexed).getD true = true then d.find? name else none := by
  have row := isOf_of_ofDocument made
  have place : r.fieldName own.contentField (some name) = name := by
    rw [fieldName]
    split
    · rename_i content
      exact Option.some.inj (row.documentField.symm.trans (apart content))
    · rfl
  rw [searched?, place, row.find?_indexed]

namespace Table

theorem self_mem_putRow (r : Row) (rows : List Row) : r ∈ putRow r rows := by
  induction rows with
  | nil => exact List.mem_cons_self
  | cons other rest ih =>
      rw [putRow]
      split
      · exact List.mem_cons_self
      · exact List.mem_cons_of_mem other ih

theorem update_single {t : Table} {schema : Schema} {d : Document} {r : Row}
    (made : Row.ofDocument t.settings schema d = .ok r) :
    t.update schema [d] = .ok { t with rows := putRow r t.rows } := by
  rw [update, rowsOf, made]
  rfl

end Table

namespace SearchIndex

variable {Obj : Type} [Source Obj] {index : SearchIndex Obj} {settings : Settings} {o : Obj} {d : Document}

theorem exists_text_of_prepare
    (apart : ∀ name ∈ index.fields.map Prod.fst,
      name ∉ [settings.idField, settings.typeField, settings.pkField])
    (prepared : index.prepare o settings = .ok d) :
    ∀ name ∈ [settings.idField, settings.typeField, settings.pkField],
      ∃ text, d.find? name = some (.text text) := by
  obtain ⟨pk, -, whole⟩ := exists_addFields_of_prepare prepared
  intro name listed
  rw [find?_addFields_of_not_mem (fun declared => apart name declared listed) whole]
  simp only [heading, bookkeeping, List.foldl_cons, List.foldl_nil, Document.find?_add, Value.isNull, and_true]
  -- of names that are the same the last one counts
  split
  · exact ⟨_, rfl⟩
  · split
    · exact ⟨_, rfl⟩
    · rename_i otherPk otherType
      have id : name = settings.idField := by simpa [otherPk, otherType] using listed
      rw [if_pos id]
      exact ⟨_, rfl⟩

/-- A declared field for which an object has no value is not in its document, unless it is a payload. -/
theorem find?_of_null (distinct : (index.fields.map Prod.fst).Nodup)
    (apart : ∀ name ∈ index.fields.map Prod.fst,
      name ∉ [settings.idField, settings.typeField, settings.pkField])
    (overrides : index.overrides = .empty) (prepared : index.prepare o settings = .ok d) {name : String}
    {field : Field} (declared : (name, field) ∈ index.fields)
    (nothing : field.prepareRaw o index.renderer = .ok .null) :
    d.find? name = if field.kind = .packed then some (.text (Opaque.encode .null)) else none := by
  obtain ⟨pk, -, whole⟩ := exists_addFields_of_prepare prepared
  have named : name ∈ index.fields.map Prod.fst := List.mem_map.2 ⟨_, declared, rfl⟩
  obtain ⟨v, value, found⟩ := find?_addFields_of_mem named whole
  rw [prepareField_of_mem distinct overrides declared, Field.prepare_of_null nothing] at value
  rw [found, find?_heading_of_not_mem (apart name named), ← Except.ok.inj value]
  by_cases packed : field.kind = .packed
  · simp only [if_pos packed]
    rfl
  · simp only [if_neg packed]
    rfl

end SearchIndex

namespace Connection

open Condition (asked)
open Lucene (isName)

variable {Obj : Type} [Source Obj] {c : Connection Table Obj} {model : ModelType} {index : SearchIndex Obj}
  {store : ObjectStore Obj} {o : Obj} {d : Document} {r : Row}

theorem update_single (registered : c.registry.entry? model = some ⟨index, store⟩)
    (prepared : index.prepare o c.settings = .ok d)
    (made : Row.ofDocument c.engine.settings index.toSchema d = .ok r) :
    c.update model [o] = .ok { c with engine := { c.engine with rows := Table.putRow r c.engine.rows } } := by
  have documents : index.prepareAll c.settings [o] = .ok [d] := by
    rw [SearchIndex.prepareAll, prepared]
    rfl
  have updated : Engine.update c.engine index.toSchema [d] = .ok _ := Table.update_single made
  rw [update, Registry.index_of_entry? registered]
  simp only [Engine.index, documents, updated]
  rfl

/-- A declared field for which an object has no value is not in its document, unless it is a payload. Once the
document is stored, lookups that ask for the absence of the field find it, and those for its presence do not. -/
theorem findsIff_of_null (built : c.registry.Built)
    (registered : c.registry.entry? model = some ⟨index, store⟩)
    (distinct : (index.fields.map Prod.fst).Nodup)
    (apart : ∀ name ∈ index.fields.map Prod.fst,
      name ∉ [c.settings.idField, c.settings.typeField, c.settings.pkField])
    (overrides : index.overrides = .empty) (same : c.engine.settings.SameKeys c.settings)
    (prepared : index.prepare o c.settings = .ok d) {name : String} {field : Field}
    (declared : (name, field) ∈ index.fields) (nothing : field.prepareRaw o index.renderer = .ok .null) :
    d.find? name = (if field.kind = .packed then some (.text (Opaque.encode .null)) else none) ∧
    ∃ after, c.update model [o] = .ok after ∧ after.engine.settings = c.engine.settings ∧
      ∃ r ∈ after.engine.rows, Row.ofDocument c.engine.settings index.toSchema d = .ok r ∧
        let contentField := c.engine.settings.contentField
        isName name = true → (name = contentField → index.documentField? = some name) →
          (¬ Lookup.mark <:+: name.toList → asked contentField name = name) ∧
          ∀ key, asked contentField key = name →
            (Condition.lookup key .null).FindsIff contentField r
              (¬ (field.kind = .packed ∧ field.isIndexed = true)) ∧
            (Condition.lookup key .null).inverted.FindsIff contentField r
              (field.kind = .packed ∧ field.isIndexed = true) := by
  have carried := SearchIndex.find?_of_null distinct apart overrides prepared declared nothing
  obtain ⟨entry, rfl⟩ := Registry.mem_of_entry? registered
  obtain ⟨text, document⟩ :=
    Schema.exists_documentField? (Registry.exists_isDocument_of_built built _ entry)
  have texts := SearchIndex.exists_text_of_prepare apart prepared
  obtain ⟨identity, id⟩ := texts c.settings.idField (by simp)
  obtain ⟨label, type⟩ := texts c.settings.typeField (by simp)
  obtain ⟨r, made, -, -⟩ := Row.exists_ofDocument same id type document
  refine ⟨carried, _, update_single registered prepared made, rfl, r, Table.self_mem_putRow r _, made, ?_⟩
  intro contentField named elsewhere
  refine ⟨Condition.asked_of_not_mark named, ?_⟩
  rintro key rfl
  refine Condition.findsIff_null named ?_
  have own : index.field? _ = some field := Schema.field?_of_mem distinct declared
  rw [Row.searched?_ofDocument made elsewhere, own, carried]
  by_cases packed : field.kind = .packed
  · simp [packed]
  · simp [packed]

def parcel : Record := (Record.stored ⟨"app", "parcel"⟩ "1").set "weight" (.value .null)

def weight : Field :=
  { Field.ofKind .integer with attrPath := some "weight", allowsNull := true, name := some "weight" }

def extra : Field := { Field.ofKind .packed with name := some "extra" }

def parcels : SearchIndex Record where
  model := ⟨"app", "parcel"⟩
  fields := [
    ("text", { Field.ofKind .char with
      isDocument := true, default := some (.text "A box"), name := some "text" }),
    ("weight", weight), ("extra", extra),
    ("content", { Field.ofKind .char with name := some "content" }),
    ("sent__by", { Field.ofKind .char with name := some "sent__by" }),
    ("sent0_0_0by", { Field.ofKind .char with default := some (.text "Ann"), name := some "sent0_0_0by" }),
    ("", { Field.ofKind .char with name := some "" })]
  overrides := .empty
  renderer := none

def depot : Connection Table Record where
  engine := .empty .default
  settings := .default
  registry := ⟨[⟨parcels, ObjectList.empty.toStore⟩]⟩
  log := .ofEnabled false
  storeCalls := []

theorem prepareRaw_weight : weight.prepareRaw parcel parcels.renderer = .ok .null := by
  have null : (weight.prepareRaw parcel parcels.renderer).toOption.any Value.isNull = true := by decide +kernel
  cases made : weight.prepareRaw parcel parcels.renderer with
  | error e =>
      rw [made] at null
      cases null
  | ok v =>
      rw [made] at null
      cases v with
      | null => rfl
      | _ => cases null

theorem findsIff_of_null_parcel :
    ∃ d, parcels.prepare parcel depot.settings = .ok d ∧
      (d.find? "weight" = none ∧ d.find? "extra" = some (.text (Opaque.encode .null))) ∧
      ∃ after, depot.update parcels.model [parcel] = .ok after ∧ ∃ r ∈ after.engine.rows,
        (Condition.lookup "weight" .null).FindsIff "content" r
          (¬ (weight.kind = .packed ∧ weight.isIndexed = true)) ∧
        (Condition.lookup "weight__gt" .null).inverted.FindsIff "content" r
          (weight.kind = .packed ∧ weight.isIndexed = true) := by
  have known : Registry.empty.register parcels ObjectList.empty.toStore = .ok depot.registry := rfl
  have built : depot.registry.Built := .register .empty known
  have registered : depot.registry.entry? parcels.model = some ⟨parcels, ObjectList.empty.toStore⟩ := rfl
  have prepares : (parcels.prepare parcel depot.settings).isOk = true := by decide +kernel
  obtain ⟨d, prepared⟩ := Outcome.exists_eq_ok prepares
  have apart : ∀ name ∈ parcels.fields.map Prod.fst,
      name ∉ [depot.settings.idField, depot.settings.typeField, depot.settings.pkField] := by decide
  have distinct : (parcels.fields.map Prod.fst).Nodup := by decide
  obtain ⟨absent, after, updated, -, r, there, -, lookups⟩ :=
    findsIff_of_null built registered distinct apart rfl ⟨rfl, rfl⟩ prepared (.tail _ (.head _)) prepareRaw_weight
  obtain ⟨present, -⟩ :=
    findsIff_of_null built registered distinct apart rfl ⟨rfl, rfl⟩ prepared (.tail _ (.tail _ (.head _))) rfl
  have elsewhere : "weight" = depot.engine.settings.contentField → parcels.documentField? = some "weight" := by
    decide
  have name : asked depot.engine.settings.contentField "weight" = "weight" := by decide +kernel
  have order : asked depot.engine.settings.contentField "weight__gt" = "weight" := by decide +kernel
  have asks := (lookups (by decide) elsewhere).2
  exact ⟨d, prepared, ⟨absent, present⟩, after, updated, r, there, (asks "weight" name).1,
    (asks "weight__gt" order).2⟩

/-- A payload of nothing is found by its presence; and a field without a value may not be found by its absence
if its name is that of the text of documents, if it is flattened in lookups, or if it is empty. -/
theorem not_findsIff_of_null :
    let prepared := (parcels.prepare parcel depot.settings).toOption
    let row := prepared.bind fun d => (Row.ofDocument depot.engine.settings parcels.toSchema d).toOption
    let found := fun (condition : Condition) => row.map fun r =>
      r.satisfies "content" (condition.write (Lucene.querySyntax "content"))
    let isNull := fun name => (parcels.field? name).map fun field =>
      (field.prepareRaw parcel parcels.renderer).toOption.any Value.isNull
    let isThere := fun name => prepared.map fun d => (d.find? name).isSome
    (isNull "extra" = some true ∧ isThere "extra" = some true ∧
      found (.lookup "extra" .null) = some false ∧ found (Condition.lookup "extra" .null).inverted = some true) ∧
    (isNull "content" = some true ∧ isThere "content" = some false ∧
      found (.lookup "content" .null) = some false) ∧
    (isNull "sent__by" = some true ∧ isThere "sent__by" = some false ∧
      found (.lookup "sent__by" .null) = some false) ∧
    (isNull "" = some true ∧ isThere "" = some false ∧ found (.lookup "" .null) = some false) := by
  decide +kernel

end Connection

end RecordSearch
