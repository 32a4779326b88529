import RecordSearch.Proofs.Index.Bookkeeping
import RecordSearch.Proofs.Text.Split

namespace RecordSearch

namespace ModelType

variable {model other : ModelType}

theorem toList_label (model : ModelType) : model.label.toList = model.app.toList ++ '.' :: model.name.toList := by
  simp [label]

theorem toList_identity (model : ModelType) (pk : String) :
    (model.identity pk).toList = model.app.toList ++ '.' :: (model.name.toList ++ '.' :: pk.toList) := by
  simp [identity]

theorem ofLabel?_eq_some_iff {text : String} :
    ofLabel? text = some model ↔
      text = model.label ∧ model.app ≠ "" ∧ model.name ≠ "" ∧ '.' ∉ model.app.toList ∧ '.' ∉ model.name.toList := by
  constructor
  · intro read
    unfold ofLabel? at read
    split at read
    · rename_i app name found
      split at read
      · cases read
      · rename_i proper
        cases read
        have whole : text.toList = app ++ ['.'] ++ name := Text.eq_of_splitFirst? found
        simp only [Bool.or_eq_true, not_or, List.isEmpty_iff, List.contains_eq_mem, decide_eq_true_eq] at proper
        obtain ⟨⟨first, second⟩, single⟩ := proper
        refine ⟨?_, ?_, ?_, ?_, ?_⟩
        · apply String.toList_inj.1
          simp [toList_label, whole]
        · simpa using first
        · simpa using second
        · simpa using Text.not_mem_of_splitFirst? found
        · simpa using single
    · cases read
  · rintro ⟨rfl, app, name, first, second⟩
    unfold ofLabel?
    rw [toList_label, Text.splitFirst?_append first]
    simp [app, name, second]

theorem eq_of_label_eq (same : model.label = other.label) (app : '.' ∉ other.app.toList)
    (name : '.' ∉ other.name.toList) : model = other := by
  have texts := congrArg String.toList same
  rw [toList_label, toList_label] at texts
  have parts : model.app.toList = other.app.toList ∧ model.name.toList = other.name.toList := by
    rcases List.append_eq_append_iff.1 texts with ⟨between, behind, rest⟩ | ⟨between, behind, rest⟩
    · cases between with
      | nil =>
          rw [List.append_nil] at behind
          exact ⟨behind.symm, (List.cons.inj rest).2⟩
      | cons c between =>
          refine absurd ?_ app
          rw [behind, ← (List.cons.inj rest).1]
          exact List.mem_append_right _ List.mem_cons_self
    · cases between with
      | nil =>
          rw [List.append_nil] at behind
          exact ⟨behind, (List.cons.inj rest).2.symm⟩
      | cons c between =>
          refine absurd ?_ name
          rw [(List.cons.inj rest).2]
          exact List.mem_append_right _ List.mem_cons_self
  cases model
  cases other
  rw [ModelType.mk.injEq]
  exact ⟨String.toList_inj.1 parts.1, String.toList_inj.1 parts.2⟩

theorem ofLabel?_label (readable : (ofLabel? model.label).isSome = true) :
    ofLabel? model.label = some model := by
  obtain ⟨read, found⟩ := Option.isSome_iff_exists.1 readable
  obtain ⟨same, -, -, app, name⟩ := ofLabel?_eq_some_iff.1 found
  rw [found, eq_of_label_eq same app name]

end ModelType

namespace Field

variable {Obj : Type} [Source Obj] {f : Field} {o : Obj} {renderer : Option (Renderer Obj)} {raw v : Value}

/-- How a result shows a field whose value was `raw` before it was coerced. -/
structure ShownAs (f : Field) (raw : Value) (entry : Option Value) : Prop where
  unstored : f.isStored = false → entry = none
  packed : f.isStored = true → f.kind = .packed → entry = some raw
  null : f.isStored = true → f.kind ≠ .packed → raw.isNull = true → entry = none
  converted : f.isStored = true → f.kind ≠ .packed → raw.isNull = false →
    ∃ v, f.convert raw = .ok v ∧ entry = some v

/-- The value as the field declares it, or as it is if it cannot be converted. -/
def restored (f : Field) (v : Value) : Value :=
  match f.convert v with
  | .ok converted => converted
  | .error _ => v

/-- Prepared and then restored, a value is what it was coerced into, and what was packed is as before. -/
theorem shownAs_restored (made : f.prepareRaw o renderer = .ok raw)
    (prepared : f.prepare o renderer = .ok v) (words : f.kind = .packed → raw.HasWordLengths) :
    f.ShownAs raw
      (if f.isStored = true then (if v.isNull = true then none else some v).map f.restored else none) := by
  rw [prepare, made] at prepared
  by_cases packed : f.kind = .packed
  · simp only [if_pos packed] at prepared
    cases prepared
    refine ⟨?_, ?_, ?_, ?_⟩
    · intro unstored
      simp [unstored]
    · intro stored _
      simp [stored, Value.isNull, restored, convert_encode packed (words packed)]
    · intro _ unpacked
      exact absurd packed unpacked
    · intro _ unpacked
      exact absurd packed unpacked
  · simp only [if_neg packed] at prepared
    have null := isNull_convert packed prepared
    refine ⟨?_, ?_, ?_, ?_⟩
    · intro unstored
      simp [unstored]
    · intro _ same
      exact absurd same packed
    · intro stored _ nothing
      simp [stored, null, nothing]
    · intro stored _ present
      refine ⟨v, prepared, ?_⟩
      simp [stored, null, present, restored, convert_convert packed prepared]

theorem exists_prepareRaw (prepared : f.prepare o renderer = .ok v) :
    ∃ raw, f.prepareRaw o renderer = .ok raw := by
  unfold prepare at prepared
  split at prepared
  · cases prepared
  · exact ⟨_, by assumption⟩

end Field

namespace Hit

variable {Obj : Type} [Source Obj] {registry : Registry Obj} {settings : Settings}
  {index : SearchIndex Obj} {store : ObjectStore Obj} {o : Obj} {pk : String} {d : Document}

/-- What a hit shows of an object: its type and its key, and its fields as they are declared. -/
structure Shows (index : SearchIndex Obj) (o : Obj) (pk : String) (h : Hit Obj) : Prop where
  model : h.model = index.model
  pk : h.pk = pk
  field : ∀ name field, (name, field) ∈ index.fields →
    ∃ raw, field.prepareRaw o index.renderer = .ok raw ∧ field.ShownAs raw (h.fields.find? name)

theorem shows_ofRaw? (registered : registry.entry? index.model = some ⟨index, store⟩)
    (plain : index.IsPlain settings) (readable : (ModelType.ofLabel? index.model.label).isSome = true)
    (lengths : ∀ name field, (name, field) ∈ index.fields → field.kind = .packed →
      ∀ raw, field.prepareRaw o index.renderer = .ok raw → raw.HasWordLengths)
    (described : index.Describes settings o pk d) {raw : RawHit}
    (shown : raw.fields = Row.storedOf index.toSchema d) :
    ∃ h, ofRaw? registry settings raw = some h ∧ h.Shows index o pk := by
  have bookkeeping := plain.bookkeeping
  simp only [List.nodup_cons, List.mem_cons, List.not_mem_nil, or_false, not_or] at bookkeeping
  obtain ⟨-, typePk, -⟩ := bookkeeping
  have model : modelOf? settings raw = some index.model := by
    rw [modelOf?, shown, Row.find?_storedOf_of_not_mem fun there => (plain.apart _ there).2.1 rfl,
      described.type]
    exact ModelType.ofLabel?_label readable
  have key : pkOf? settings raw = some pk := by
    rw [pkOf?, withoutType, SortedMap.find?_erase, if_neg (Ne.symm typePk), shown,
      Row.find?_storedOf_of_not_mem fun there => (plain.apart _ there).2.2 rfl, described.pk]
    rfl
  rw [ofRaw?, model, key]
  refine ⟨_, rfl, rfl, rfl, ?_⟩
  intro name field listed
  obtain ⟨-, notType, notPk⟩ := plain.apart name (List.mem_map.2 ⟨_, listed, rfl⟩)
  have found : index.field? name = some field := Schema.field?_of_mem plain.declared listed
  obtain ⟨v, prepared, written⟩ := described.field name field listed
  obtain ⟨value, made⟩ := Field.exists_prepareRaw prepared
  refine ⟨value, made, ?_⟩
  have entry := Field.shownAs_restored made prepared fun packed => lengths name field listed packed value made
  have restores : restore registry index.model name = field.restored := by
    funext v
    rw [restore, Registry.field?, registered]
    simp only [Option.bind_some, found]
    rfl
  have stored : raw.fields.find? name =
      if field.isStored = true then (if v.isNull = true then none else some v) else none := by
    rw [shown, Row.find?_storedOf, found, written]
    rfl
  rw [SortedMap.find?_mapValues, SortedMap.find?_erase, if_neg notPk, withoutType,
    SortedMap.find?_erase, if_neg notType, stored, restores]
  split at entry
  · rename_i holds
    rw [if_pos holds]
    exact entry
  · rename_i unstored
    rw [if_neg unstored]
    exact entry

end Hit

namespace Table

variable {Obj : Type} [Source Obj] {index : SearchIndex Obj} {settings own : Settings} {name : String}
  {front back : List Obj} {o : Obj} {pk : String} {d : Document}

theorem exists_row_of_index (calls : List (Call Obj)) (plain : index.IsPlain settings)
    (same : own.SameKeys settings) (document : index.documentField? = some name)
    (accepted : ∀ other ∈ front ++ o :: back, ∃ d, index.prepare other settings = .ok d)
    (prepared : index.prepare o settings = .ok d) (key : Source.pk? o = some pk)
    (last : ∀ other ∈ back, Source.pk? other ≠ some pk) :
    ∃ r ∈ ((empty own).performAll (calls ++ [.index settings index (front ++ o :: back)])).rows,
      r.identity = index.model.identity pk ∧ r.stored = Row.storedOf index.toSchema d := by
  obtain ⟨r, stored, identity, latest⟩ := exists_latest_of_index calls plain.bookkeeping
    (fun other _ => plain.keepsHeading other) same document accepted prepared key last
  exact ⟨r, mem_rows_performAll.2 latest, identity, (Row.isOf_of_ofDocument stored).stored⟩

theorem eq_of_identity_eq {calls : List (Call Obj)} {r other : Row}
    (there : r ∈ ((empty settings).performAll calls).rows)
    (otherThere : other ∈ ((empty settings).performAll calls).rows)
    (same : r.identity = other.identity) : r = other :=
  List.inj_on_of_nodup_map (nodup_performAll settings calls) there otherThere same

end Table

namespace Connection

variable {Obj : Type} [Source Obj] {c : Connection Table Obj} {model : ModelType} {index : SearchIndex Obj}
  {store : ObjectStore Obj}

theorem update_eq {objects : List Obj} {documents : List Document}
    (registered : c.registry.entry? model = some ⟨index, store⟩)
    (made : objects.mapM (index.prepare · c.settings) = .ok documents) :
    c.update model objects =
      .ok { c with engine := c.engine.perform (.index c.settings index objects) } := by
  rw [update, Registry.index_of_entry? registered]
  simp only [Table.perform, Table.index_eq, made]
  rfl

/-- Once a batch with an object is indexed, whatever finds the object shows its type, its key and its stored
fields as they were prepared. -/
theorem shows_update {own : Settings} {calls : List (Table.Call Obj)}
    (ran : c.engine = (Table.empty own).performAll calls) (same : own.SameKeys c.settings)
    (built : c.registry.Built) (registered : c.registry.entry? model = some ⟨index, store⟩)
    (plain : index.IsPlain c.settings) (readable : (ModelType.ofLabel? model.label).isSome = true)
    {front back : List Obj} {o : Obj} {pk : String}
    (accepted : ∀ other ∈ front ++ o :: back, ∃ d, index.prepare other c.settings = .ok d)
    (key : Source.pk? o = some pk) (last : ∀ other ∈ back, Source.pk? other ≠ some pk)
    (lengths : ∀ name field, (name, field) ∈ index.fields → field.kind = .packed →
      ∀ raw, field.prepareRaw o index.renderer = .ok raw → raw.HasWordLengths) :
    ∃ after, c.update model (front ++ o :: back) = .ok after ∧
      (∃ r ∈ after.engine.rows,
        r.stored.find? c.settings.idField = some (.text (model.identity pk))) ∧
      ∀ (p : Plan) (start : Nat) (stop : Option Nat), ∀ raw ∈ (p.ask after start stop).2.1.results,
        raw.fields.find? c.settings.idField = some (.text (model.identity pk)) →
          ∃ h ∈ (p.run after start stop).1.results,
            Hit.ofRaw? after.registry after.settings raw = some h ∧ h.Shows index o pk := by
  obtain ⟨entry, rfl⟩ := Registry.mem_of_entry? registered
  obtain ⟨name, document⟩ :=
    Schema.exists_documentField? (Registry.exists_isDocument_of_built built _ entry)
  obtain ⟨documents, made⟩ := Outcome.exists_mapM_eq_ok (f := (index.prepare · c.settings)) accepted
  obtain ⟨d, prepared⟩ := accepted o (List.mem_append_right front List.mem_cons_self)
  obtain ⟨ownPk, ownKey, described⟩ := SearchIndex.describes_of_prepare plain prepared
  rw [key] at ownKey
  cases ownKey
  refine ⟨_, update_eq registered made, ?_⟩
  have engine : c.engine.perform (.index c.settings index (front ++ o :: back)) =
      (Table.empty own).performAll (calls ++ [.index c.settings index (front ++ o :: back)]) := by
    rw [ran, Table.performAll, Table.performAll, List.foldl_append]
    rfl
  obtain ⟨r, there, identity, stored⟩ :=
    Table.exists_row_of_index calls plain same document accepted prepared key last
  rw [engine]
  constructor
  · refine ⟨r, there, ?_⟩
    rw [stored, Row.find?_storedOf_of_not_mem fun there => (plain.apart _ there).1 rfl]
    exact described.id
  · intro p start stop raw listed found
    obtain ⟨other, otherThere, shown⟩ := p.showsRows_ask _ start stop raw listed
    rw [shown, ← same.id] at found
    -- a row that stores the identity of the object has it, and there is only one such row
    have otherIdentity := Table.find?_stored_of_mem_performAll otherThere found
    have one : other = r := by
      apply Table.eq_of_identity_eq otherThere there
      rw [identity]
      exact (Value.text.inj otherIdentity).symm
    rw [one, stored] at shown
    obtain ⟨h, read, shows⟩ := Hit.shows_ofRaw? registered plain readable lengths described shown
    refine ⟨h, ?_, read, shows⟩
    rw [Plan.results_run]
    exact List.mem_filterMap.2 ⟨raw, listed, read⟩

def letter (pk author : String) : Record :=
  ((Record.stored ⟨"app", "letter"⟩ pk).set "author" (.value (.text author))).set "weight"
    (.value (.float ⟨0x7ff8000000000001⟩))

/-- A text, a number, a payload with a text that looks like one, a flag that is not stored, and a day that
may be missing. -/
def letters : SearchIndex Record where
  model := ⟨"app", "letter"⟩
  fields := [
    ("author", { Field.ofKind .char with
      attrPath := some "author", isDocument := true, name := some "author" }),
    ("weight", { Field.ofKind .float with attrPath := some "weight", name := some "weight" }),
    ("extra", { Field.ofKind .packed with
      default := some (.list [.null, .text "opaque:AAAA", .integer (-1)]), name := some "extra" }),
    ("read", { Field.ofKind .boolean with
      isStored := false, default := some (.integer 2), name := some "read" }),
    ("sent", { Field.ofKind .date with allowsNull := true, name := some "sent" })]
  overrides := .empty
  renderer := none

def letterBox : Connection Table Record where
  engine := (Table.empty .default).performAll
    [.index .default letters [letter "1" "Ann", letter "2" "Bea"], .remove "app.letter.2"]
  settings := .default
  registry := ⟨[⟨letters, ObjectList.empty.toStore⟩]⟩
  log := .ofEnabled false
  storeCalls := []

theorem shows_update_letter :
    let front : List Record := [letter "3" "Dan", letter "1" "Eve"]
    let o := letter "1" "Cleo"
    let back : List Record := [letter "4" "Fay"]
    let identity := letters.model.identity "1"
    ((letterBox.update letters.model (front ++ o :: back)).toOption.any fun after =>
      (Plan.empty.ask after 0 none).2.1.results.any fun raw =>
        (raw.fields.find? letterBox.settings.idField).bind Value.text? == some identity) = true ∧
    ∃ after, letterBox.update letters.model (front ++ o :: back) = .ok after ∧
      (∃ r ∈ after.engine.rows, r.stored.find? letterBox.settings.idField = some (.text identity)) ∧
      ∀ (p : Plan) (start : Nat) (stop : Option Nat), ∀ raw ∈ (p.ask after start stop).2.1.results,
        raw.fields.find? letterBox.settings.idField = some (.text identity) →
          ∃ h ∈ (p.run after start stop).1.results,
            Hit.ofRaw? after.registry after.settings raw = some h ∧ h.Shows letters o "1" := by
  intro front o back identity
  refine ⟨by decide +kernel, ?_⟩
  have registered :
      Registry.empty.register letters ObjectList.empty.toStore = .ok letterBox.registry := rfl
  have plain : letters.IsPlain letterBox.settings := ⟨by decide, by decide, by decide, rfl⟩
  have prepares : ∀ other ∈ front ++ o :: back,
      (letters.prepare other letterBox.settings).isOk = true := by
    decide +kernel
  have accepted : ∀ other ∈ front ++ o :: back,
      ∃ d, letters.prepare other letterBox.settings = .ok d := by
    intro other listed
    cases made : letters.prepare other letterBox.settings with
    | ok d => exact ⟨d, rfl⟩
    | error e =>
        have fine := prepares other listed
        rw [made] at fine
        cases fine
  have key : Source.pk? o = some "1" := rfl
  have last : ∀ other ∈ back, Source.pk? other ≠ some "1" := by decide
  refine shows_update rfl ⟨rfl, rfl⟩ (.register .empty registered) rfl plain rfl accepted key last ?_
  intro name field listed packed raw made
  simp only [letters, Field.ofKind, List.mem_cons, Prod.mk.injEq, List.not_mem_nil, or_false] at listed
  -- only the third field is packed
  rcases listed with ⟨-, rfl⟩ | ⟨-, rfl⟩ | ⟨-, rfl⟩ | ⟨-, rfl⟩ | ⟨-, rfl⟩
  all_goals cases packed
  cases made
  simp only [Option.getD_some, Value.HasWordLengths, Value.ItemsHaveWordLengths]
  decide

end Connection

end RecordSearch
