import RecordSearch.Object.Record
import RecordSearch.Proofs.Index.Prepare
import RecordSearch.Proofs.Table.Hits

/-!
What every document carries besides its declared fields: identity, type and key. A declared field of the same
name takes the place of one of them. Where none does, objects with other keys leave the row of an object alone.
-/

namespace RecordSearch

/-- Settings with the names by default for what every document holds. -/
structure Settings.Usual (settings : Settings) : Prop where
  id : settings.idField = Settings.default.idField
  type : settings.typeField = Settings.default.typeField
  pk : settings.pkField = Settings.default.pkField

theorem Settings.Usual.distinct {settings : Settings} (usual : settings.Usual) :
    [settings.idField, settings.typeField, settings.pkField].Nodup := by
  rw [usual.id, usual.type, usual.pk]
  decide

theorem ModelType.identity_inj {model : ModelType} {pk other : String} :
    model.identity pk = model.identity other ↔ pk = other := by
  simp [identity]

namespace SearchIndex

variable {Obj : Type} [Source Obj] {index : SearchIndex Obj} {settings own : Settings} {o : Obj}
  {pk : String} {d : Document}

/-- A declared field of this name, if there is one, prepares to nothing or to the text itself. -/
def Spares (index : SearchIndex Obj) (o : Obj) (name text : String) : Prop :=
  name ∈ index.fields.map Prod.fst →
    ∃ v, index.prepareField name o = .ok v ∧ (v.isNull = true ∨ v = .text text)

/-- No declared field takes the place of what the document of an object carries. -/
def KeepsHeading (index : SearchIndex Obj) (settings : Settings) (o : Obj) : Prop :=
  ∀ pk, Source.pk? o = some pk →
    ∀ entry ∈ index.bookkeeping settings pk, index.Spares o entry.1 entry.2

/-- A document that carries the texts by which a table tells documents apart. -/
structure Identifies (index : SearchIndex Obj) (settings : Settings) (pk : String) (d : Document) :
    Prop where
  id : d.find? settings.idField = some (.text (index.model.identity pk))
  type : d.find? settings.typeField = some (.text index.model.label)

theorem find?_entry_iff (distinct : [settings.idField, settings.typeField, settings.pkField].Nodup)
    (prepared : index.prepare o settings = .ok d) (key : Source.pk? o = some pk)
    {entry : String × String} (listed : entry ∈ index.bookkeeping settings pk) :
    d.find? entry.1 = some (.text entry.2) ↔ index.Spares o entry.1 entry.2 := by
  obtain ⟨ownPk, ownKey, whole⟩ := exists_addFields_of_prepare prepared
  rw [key] at ownKey
  cases ownKey
  have before := find?_heading distinct listed
  by_cases declared : entry.1 ∈ index.fields.map Prod.fst
  · obtain ⟨v, value, found⟩ := find?_addFields_of_mem declared whole
    have spares : index.Spares o entry.1 entry.2 ↔ v.isNull = true ∨ v = .text entry.2 := by
      constructor
      · intro spares
        obtain ⟨w, other, harmless⟩ := spares declared
        rw [value] at other
        cases other
        exact harmless
      · intro harmless _
        exact ⟨v, value, harmless⟩
    rw [found, before, spares]
    cases v.isNull <;> simp
  · rw [find?_addFields_of_not_mem declared whole, before]
    exact ⟨fun _ there => absurd there declared, fun _ => rfl⟩

theorem keepsHeading_of_apart
    (apart : ∀ name ∈ index.fields.map Prod.fst,
      name ∉ [settings.idField, settings.typeField, settings.pkField]) (o : Obj) :
    index.KeepsHeading settings o := by
  intro pk _ entry listed declared
  have named : entry.1 ∈ (index.bookkeeping settings pk).map Prod.fst :=
    List.mem_map.2 ⟨entry, listed, rfl⟩
  exact absurd named (apart entry.1 declared)

theorem keepsHeading_of_usual (usual : settings.Usual)
    (apart : ∀ name ∈ index.fields.map Prod.fst,
      name ∉ [Settings.default.idField, Settings.default.typeField, Settings.default.pkField]) (o : Obj) :
    index.KeepsHeading settings o := by
  apply keepsHeading_of_apart
  rw [usual.id, usual.type, usual.pk]
  exact apart

theorem IsPlain.keepsHeading (plain : index.IsPlain settings) (o : Obj) :
    index.KeepsHeading settings o := by
  apply keepsHeading_of_apart
  intro name declared
  simpa using plain.apart name declared

theorem exists_identifies (distinct : [settings.idField, settings.typeField, settings.pkField].Nodup)
    (keeps : index.KeepsHeading settings o) (prepared : index.prepare o settings = .ok d) :
    ∃ pk, Source.pk? o = some pk ∧ index.Identifies settings pk d := by
  obtain ⟨pk, key, -⟩ := exists_addFields_of_prepare prepared
  have carried : ∀ entry ∈ index.bookkeeping settings pk, d.find? entry.1 = some (.text entry.2) := by
    intro entry listed
    exact (find?_entry_iff distinct prepared key listed).2 (keeps pk key entry listed)
  exact ⟨pk, key, carried _ List.mem_cons_self,
    carried _ (List.mem_cons_of_mem _ List.mem_cons_self)⟩

omit [Source Obj] in
theorem Identifies.identity_eq (identifies : index.Identifies settings pk d)
    (same : own.idField = settings.idField) {schema : Schema} {r : Row}
    (made : Row.ofDocument own schema d = .ok r) : r.identity = index.model.identity pk := by
  have written := (Row.isOf_of_ofDocument made).identity
  rw [same, identifies.id] at written
  exact (Value.text.inj (Option.some.inj written)).symm

variable {name : String} {objects : List Obj} {documents : List Document} {rows : List Row}

theorem exists_rows (distinct : [settings.idField, settings.typeField, settings.pkField].Nodup)
    (keeps : ∀ o ∈ objects, index.KeepsHeading settings o) (document : index.documentField? = some name)
    (same : own.SameKeys settings) (made : objects.mapM (index.prepare · settings) = .ok documents) :
    ∃ rows, documents.mapM (Row.ofDocument own index.toSchema) = .ok rows := by
  apply Outcome.exists_mapM_eq_ok
  intro d listed
  obtain ⟨o, given, prepared⟩ := Outcome.exists_of_mem_mapM made listed
  obtain ⟨pk, -, identifies⟩ := exists_identifies distinct (keeps o given) prepared
  obtain ⟨r, stored, -⟩ := Row.exists_ofDocument same identifies.id identifies.type document
  exact ⟨r, stored⟩

theorem exists_pk_of_mem_rows
    (distinct : [settings.idField, settings.typeField, settings.pkField].Nodup)
    (keeps : ∀ o ∈ objects, index.KeepsHeading settings o) (same : own.SameKeys settings)
    (made : objects.mapM (index.prepare · settings) = .ok documents)
    (stored : documents.mapM (Row.ofDocument own index.toSchema) = .ok rows) {r : Row}
    (listed : r ∈ rows) :
    ∃ o ∈ objects, ∃ pk, Source.pk? o = some pk ∧ r.identity = index.model.identity pk := by
  obtain ⟨d, there, row⟩ := Outcome.exists_of_mem_mapM stored listed
  obtain ⟨o, given, prepared⟩ := Outcome.exists_of_mem_mapM made there
  obtain ⟨pk, key, identifies⟩ := exists_identifies distinct (keeps o given) prepared
  exact ⟨o, given, pk, key, identifies.identity_eq same.id row⟩

end SearchIndex

namespace Table

/-- A row stays the latest of its identity as long as changes are not about it. -/
theorem IsLatest.stays {past more : List Change} {r : Row} (latest : IsLatest past r)
    (untouched : ∀ change ∈ more, ¬ change.Puts r.identity ∧ ¬ change.Drops r) :
    IsLatest (past ++ more) r := by
  obtain ⟨before, after, rfl, still⟩ := latest
  refine ⟨before, after ++ more, by simp, ?_⟩
  intro change listed
  rcases List.mem_append.1 listed with earlier | later
  · exact still change earlier
  · exact untouched change later

variable {Obj : Type} [Source Obj] {index : SearchIndex Obj} {settings own : Settings} {name : String}
  {objects front back : List Obj} {o : Obj} {pk : String} {d : Document} {r : Row}

theorem untouched_of_rows (distinct : [settings.idField, settings.typeField, settings.pkField].Nodup)
    (keeps : ∀ o ∈ objects, index.KeepsHeading settings o) (same : own.SameKeys settings)
    {documents : List Document} {rows : List Row}
    (made : objects.mapM (index.prepare · settings) = .ok documents)
    (stored : documents.mapM (Row.ofDocument own index.toSchema) = .ok rows)
    (others : ∀ o ∈ objects, Source.pk? o ≠ some pk) (identity : r.identity = index.model.identity pk) :
    ∀ change ∈ rows.map Change.put, ¬ change.Puts r.identity ∧ ¬ change.Drops r := by
  intro change listed
  obtain ⟨other, there, rfl⟩ := List.mem_map.1 listed
  obtain ⟨someone, given, otherPk, otherKey, otherIdentity⟩ :=
    SearchIndex.exists_pk_of_mem_rows distinct keeps same made stored there
  refine ⟨?_, fun dropped => dropped⟩
  rintro ⟨row, put, equal⟩
  cases put
  rw [otherIdentity, identity, ModelType.identity_inj] at equal
  rw [equal] at otherKey
  exact others someone given otherKey

theorem untouched_of_index (distinct : [settings.idField, settings.typeField, settings.pkField].Nodup)
    (keeps : ∀ o ∈ objects, index.KeepsHeading settings o) (same : own.SameKeys settings)
    (others : ∀ o ∈ objects, Source.pk? o ≠ some pk) (identity : r.identity = index.model.identity pk) :
    ∀ change ∈ (Call.index settings index objects).changes own,
      ¬ change.Puts r.identity ∧ ¬ change.Drops r := by
  intro change listed
  rw [Call.changes] at listed
  split at listed
  · rename_i documents made
    unfold batchChanges at listed
    split at listed
    · rename_i rows stored
      exact untouched_of_rows distinct keeps same made stored others identity change listed
    · cases listed
  · cases listed

/-- Indexing a batch leaves the row of an object in it, unless a later object has its key. -/
theorem exists_latest_of_index (calls : List (Call Obj))
    (distinct : [settings.idField, settings.typeField, settings.pkField].Nodup)
    (keeps : ∀ other ∈ front ++ o :: back, index.KeepsHeading settings other)
    (same : own.SameKeys settings) (document : index.documentField? = some name)
    (accepted : ∀ other ∈ front ++ o :: back, ∃ d, index.prepare other settings = .ok d)
    (prepared : index.prepare o settings = .ok d) (key : Source.pk? o = some pk)
    (last : ∀ other ∈ back, Source.pk? other ≠ some pk) :
    ∃ r, Row.ofDocument own index.toSchema d = .ok r ∧ r.identity = index.model.identity pk ∧
      IsLatest (history own (calls ++ [.index settings index (front ++ o :: back)])) r := by
  have inFront : ∀ other ∈ front, other ∈ front ++ o :: back := fun other => List.mem_append_left _
  have inBack : ∀ other ∈ back, other ∈ front ++ o :: back := fun other there =>
    List.mem_append_right front (List.mem_cons_of_mem o there)
  have keepsFront := fun other there => keeps other (inFront other there)
  have keepsBack := fun other there => keeps other (inBack other there)
  obtain ⟨early, madeEarly⟩ := Outcome.exists_mapM_eq_ok (f := (index.prepare · settings))
    fun other there => accepted other (inFront other there)
  obtain ⟨late, madeLate⟩ := Outcome.exists_mapM_eq_ok (f := (index.prepare · settings))
    fun other there => accepted other (inBack other there)
  obtain ⟨earlyRows, storedEarly⟩ := SearchIndex.exists_rows distinct keepsFront document same madeEarly
  obtain ⟨lateRows, storedLate⟩ := SearchIndex.exists_rows distinct keepsBack document same madeLate
  obtain ⟨ownPk, ownKey, identifies⟩ := SearchIndex.exists_identifies distinct
    (keeps o (List.mem_append_right front List.mem_cons_self)) prepared
  rw [key] at ownKey
  cases ownKey
  obtain ⟨r, stored, identity, -⟩ :=
    Row.exists_ofDocument same identifies.id identifies.type document
  have made := Outcome.mapM_append_ok madeEarly
    (Outcome.mapM_cons_ok (f := (index.prepare · settings)) prepared madeLate)
  have rows := Outcome.mapM_append_ok storedEarly (Outcome.mapM_cons_ok stored storedLate)
  refine ⟨r, stored, identity, ?_⟩
  rw [history, List.flatMap_append, List.flatMap_singleton, Call.changes, made]
  simp only [batchChanges, rows]
  refine ⟨history own calls ++ earlyRows.map .put, lateRows.map .put, ?_, ?_⟩
  · rw [history, List.map_append, List.map_cons, List.append_assoc]
  · exact untouched_of_rows distinct keepsBack same madeLate storedLate last identity

end Table

namespace SearchIndex

variable {Obj : Type} [Source Obj] {index : SearchIndex Obj} {settings : Settings} {o : Obj} {d : Document}

/-- A document carries its identity, type and key exactly where no declared field takes their place. Once an
object is indexed and no declared field does so, objects with other keys leave its row as it is. -/
theorem find?_bookkeeping_iff (distinct : [settings.idField, settings.typeField, settings.pkField].Nodup)
    (valid : index.validate = .ok ⟨⟩) (prepared : index.prepare o settings = .ok d) :
    ∃ pk, Source.pk? o = some pk ∧
      (∀ entry ∈ index.bookkeeping settings pk,
        d.find? entry.1 = some (.text entry.2) ↔ index.Spares o entry.1 entry.2) ∧
      ∀ (own : Settings) (calls : List (Table.Call Obj)) (front back later : List Obj),
        own.SameKeys settings →
        (∀ other ∈ front ++ o :: back, ∃ d, index.prepare other settings = .ok d) →
        (∀ other ∈ front ++ o :: back ++ later, index.KeepsHeading settings other) →
        (∀ other ∈ back ++ later, Source.pk? other ≠ some pk) →
        ∃ r ∈ ((Table.empty own).performAll
            (calls ++ [.index settings index (front ++ o :: back), .index settings index later])).rows,
          Row.ofDocument own index.toSchema d = .ok r ∧ r.identity = index.model.identity pk := by
  obtain ⟨pk, key, -⟩ := exists_addFields_of_prepare prepared
  obtain ⟨name, document⟩ := Schema.exists_documentField? (Schema.exists_isDocument_of_validate valid)
  refine ⟨pk, key, fun entry listed => find?_entry_iff distinct prepared key listed, ?_⟩
  intro own calls front back later same accepted keeps others
  have keepsBatch := fun other there => keeps other (List.mem_append_left later there)
  have keepsLater := fun other there => keeps other (List.mem_append_right (front ++ o :: back) there)
  have othersBack := fun other there => others other (List.mem_append_left later there)
  have othersLater := fun other there => others other (List.mem_append_right back there)
  obtain ⟨r, stored, identity, latest⟩ := Table.exists_latest_of_index calls distinct keepsBatch same
    document accepted prepared key othersBack
  refine ⟨r, ?_, stored, identity⟩
  apply Table.mem_rows_performAll.2
  have whole : Table.history own
      (calls ++ [.index settings index (front ++ o :: back), .index settings index later]) =
      Table.history own (calls ++ [.index settings index (front ++ o :: back)]) ++
        (Table.Call.index settings index later).changes own := by
    simp [Table.history]
  rw [whole]
  exact latest.stays (Table.untouched_of_index distinct keepsLater same othersLater identity)

def circulars : SearchIndex Record where
  model := ⟨"app", "circular"⟩
  fields := [
    ("text", { Field.ofKind .char with
      attrPath := some "text", isDocument := true, name := some "text" }),
    ("model_pk", { Field.ofKind .char with name := some "model_pk" })]
  overrides := .ofList [("model_pk", fun o => .ok ((Source.pk? o).elim .null .text))]
  renderer := none

theorem keepsHeading_circulars (o : Record) : circulars.KeepsHeading .default o := by
  intro pk key entry listed declared
  simp only [bookkeeping, List.mem_cons, List.not_mem_nil, or_false] at listed
  rcases listed with rfl | rfl | rfl
  · simp [circulars, Settings.default] at declared
  · simp [circulars, Settings.default] at declared
  · refine ⟨.text pk, ?_, Or.inr rfl⟩
    calc
      circulars.prepareField "model_pk" o = .ok ((Source.pk? o).elim .null .text) := rfl
      _ = .ok (.text pk) := by rw [key]; rfl

def circular (pk : String) : Record :=
  (Record.stored circulars.model pk).set "text" (.value (.text "A fox"))

theorem find?_bookkeeping_iff_circular :
    let o := circular "2"
    ∃ d, circulars.prepare o .default = .ok d ∧
      (∀ entry ∈ circulars.bookkeeping .default "2", d.find? entry.1 = some (.text entry.2)) ∧
      ∃ r ∈ ((Table.empty .default).performAll
          [.remove "app.circular.2", .index .default circulars [circular "1", o, circular "3"],
            .index .default circulars [circular "3", circular "4"]]).rows,
        Row.ofDocument .default circulars.toSchema d = .ok r ∧ r.identity = "app.circular.2" := by
  intro o
  have prepares : ∀ other ∈ [circular "1", o, circular "3"],
      (circulars.prepare other .default).isOk = true := by
    decide +kernel
  have accepted := fun other listed => Outcome.exists_eq_ok (prepares other listed)
  obtain ⟨d, prepared⟩ := accepted o (by simp)
  obtain ⟨pk, key, carried, stays⟩ := find?_bookkeeping_iff (by decide) rfl prepared
  cases key
  refine ⟨d, prepared, ?_, ?_⟩
  · intro entry listed
    exact (carried entry listed).2 (keepsHeading_circulars o "2" rfl entry listed)
  · exact stays .default [.remove "app.circular.2"] [circular "1"] [circular "3"]
      [circular "3", circular "4"] ⟨rfl, rfl⟩ accepted (fun other _ => keepsHeading_circulars other)
      (by decide)

def bulletin (pk : String) : Record :=
  (Record.stored ⟨"app", "bulletin"⟩ pk).set "slug" (.value (.text "spring"))

def bulletins : SearchIndex Record where
  model := ⟨"app", "bulletin"⟩
  fields := [
    ("text", { Field.ofKind .char with
      isDocument := true, default := some (.text "A fox"), name := some "text" }),
    ("id", { Field.ofKind .char with attrPath := some "slug", name := some "id" })]
  overrides := .empty
  renderer := none

/-- A declared field takes the place of the identity, and two bulletins are stored as one. -/
theorem not_find?_bookkeeping :
    let settings := Settings.default
    let found := fun pk name =>
      (bulletins.prepare (bulletin pk) settings).toOption.bind fun d => (d.find? name).bind Value.text?
    [settings.idField, settings.typeField, settings.pkField].Nodup ∧ bulletins.validate = .ok ⟨⟩ ∧
      (found "1" settings.pkField = some "1" ∧ found "1" settings.idField = some "spring") ∧
      (found "2" settings.pkField = some "2" ∧ found "2" settings.idField = some "spring") ∧
      ((Table.empty settings).performAll
        [.index settings bulletins [bulletin "1", bulletin "2"]]).rows.map Row.identity = ["spring"] := by
  decide +kernel

end SearchIndex

end RecordSearch
