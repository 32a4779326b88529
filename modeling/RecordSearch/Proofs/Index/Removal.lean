import RecordSearch.Proofs.Index.Survival

/-!
Removing the documents of objects. Documents are stored under any identity, but removed only under one that
can be read: with names of word characters and a key of digits.
-/

namespace RecordSearch

namespace ModelType

open Unicode (isWordCharacter isDigit)

def isRemovable (model : ModelType) (pk : String) : Bool :=
  model.app.toList.all isWordCharacter && model.name.toList.all isWordCharacter &&
    !pk.toList.isEmpty && pk.toList.all isDigit

theorem isDigit_point : isDigit '.' = false := by
  decide

theorem ofIdentity?_identity {model : ModelType} (readable : (ofLabel? model.label).isSome = true)
    (pk : String) :
    ofIdentity? (model.identity pk) = if model.isRemovable pk = true then some (model, pk) else none := by
  obtain ⟨-, app, name, first, second⟩ := ofLabel?_eq_some_iff.1 (ofLabel?_label readable)
  replace app : model.app.toList.isEmpty = false := by simpa using app
  replace name : model.name.toList.isEmpty = false := by simpa using name
  unfold ofIdentity?
  rw [toList_identity, Text.splitAll_append first, Text.splitAll_append second]
  by_cases point : '.' ∈ pk.toList
  · have unreadable : model.isRemovable pk = false := by
      rw [isRemovable, Bool.and_eq_false_iff]
      right
      rw [List.all_eq_false]
      exact ⟨'.', point, by rw [isDigit_point]; decide⟩
    obtain ⟨first, second, rest, pieces⟩ := Text.exists_splitAll_of_mem point
    simp [pieces, unreadable]
  · rw [Text.splitAll_of_not_mem point]
    simp only [String.ofList_toList, isRemovable, app, name, Bool.not_false, Bool.true_and,
      Bool.and_true]
    rfl

end ModelType

namespace Table

/-- Where identities are distinct, removing the identity of a row takes out this row and no other. -/
theorem exists_remove_of_mem {t : Table} (distinct : (t.rows.map Row.identity).Nodup) {r : Row}
    (there : r ∈ t.rows) :
    ∃ front back, t.rows = front ++ r :: back ∧
      t.remove r.identity = ⟨t.settings, front ++ back⟩ := by
  obtain ⟨front, back, rows⟩ := List.append_of_mem there
  refine ⟨front, back, rows, ?_⟩
  rw [rows, List.map_append, List.map_cons, List.nodup_middle, List.nodup_cons,
    ← List.map_append] at distinct
  have others : ∀ other ∈ front ++ back, other.identity ≠ r.identity := by
    intro other listed equal
    exact distinct.1 (List.mem_map.2 ⟨other, listed, equal⟩)
  have kept : (front ++ back).filter (fun other => other.identity ≠ r.identity) = front ++ back :=
    List.filter_eq_self.2 fun other listed => decide_eq_true (others other listed)
  rw [remove, rows]
  rw [List.filter_append] at kept ⊢
  simpa using kept

end Table

namespace Connection

variable {Obj : Type} [Source Obj] {c after : Connection Table Obj} {model : ModelType} {pk : String}
  {index : SearchIndex Obj} {store : ObjectStore Obj} {objects : List Obj} {o : Obj}

theorem eq_of_update (registered : c.registry.entry? model = some ⟨index, store⟩)
    (updated : c.update model objects = .ok after) :
    after = { c with engine := c.engine.perform (.index c.settings index objects) } := by
  rw [update, Registry.index_of_entry? registered] at updated
  simp only at updated
  cases indexed : Engine.index c.engine c.settings index objects with
  | error e =>
      rw [indexed] at updated
      cases updated
  | ok t =>
      have performed : c.engine.perform (.index c.settings index objects) = t := by
        rw [Table.perform, indexed]
        rfl
      rw [indexed] at updated
      cases updated
      rw [performed]

theorem remove_eq (readable : (ModelType.ofLabel? model.label).isSome = true)
    (typed : Source.model? o = some model) (key : Source.pk? o = some pk) :
    c.remove o =
      if model.isRemovable pk = true then .ok { c with engine := c.engine.remove (model.identity pk) }
      else .error (.notIdentity (model.identity pk)) := by
  have identity : Source.identity o = .ok (model.identity pk) := by
    rw [Source.identity, Source.identity?, typed, key]
  rw [remove, Engine.removeObject, identity]
  simp only [Engine.removeIdentity, ModelType.ofIdentity, ModelType.ofIdentity?_identity readable]
  cases model.isRemovable pk with
  | true => rfl
  | false => rfl

/-- A document that an update stored is removed with its object, and no other document is, if the identity can
be read. If it cannot, the removal fails. -/
theorem remove_of_update {own : Settings} {calls : List (Table.Call Obj)} {d : Document} {r : Row}
    (ran : c.engine = (Table.empty own).performAll calls) (usualOwn : own.Usual) (usual : c.settings.Usual)
    (registered : c.registry.entry? model = some ⟨index, store⟩)
    (readable : (ModelType.ofLabel? model.label).isSome = true)
    (apart : ∀ name ∈ index.fields.map Prod.fst,
      name ∉ [Settings.default.idField, Settings.default.typeField, Settings.default.pkField])
    (updated : c.update model objects = .ok after) (typed : Source.model? o = some model)
    (key : Source.pk? o = some pk) (prepared : index.prepare o c.settings = .ok d)
    (made : Row.ofDocument own index.toSchema d = .ok r) (stored : r ∈ after.engine.rows) :
    (model.isRemovable pk = true → ∃ front back, after.engine.rows = front ++ r :: back ∧
      after.remove o = .ok { after with engine := ⟨after.engine.settings, front ++ back⟩ }) ∧
    (model.isRemovable pk = false → after.remove o = .error (.notIdentity (model.identity pk))) := by
  obtain ⟨entry, rfl⟩ := Registry.mem_of_entry? registered
  obtain ⟨ownPk, ownKey, identifies⟩ := SearchIndex.exists_identifies usual.distinct
    (SearchIndex.keepsHeading_of_usual usual apart o) prepared
  rw [key] at ownKey
  cases ownKey
  have identity := identifies.identity_eq (usualOwn.id.trans usual.id.symm) made
  have engine : after.engine =
      (Table.empty own).performAll (calls ++ [.index c.settings index objects]) := by
    rw [eq_of_update registered updated, ran, Table.performAll, Table.performAll, List.foldl_append]
    rfl
  have distinct : (after.engine.rows.map Row.identity).Nodup := by
    rw [engine]
    exact Table.nodup_performAll own _
  obtain ⟨front, back, rows, removed⟩ := Table.exists_remove_of_mem distinct stored
  rw [remove_eq readable typed key]
  constructor
  · intro removable
    refine ⟨front, back, rows, ?_⟩
    rw [if_pos removable, ← identity, removed]
  · intro unreadable
    rw [unreadable]
    rfl

def letterCalls : List (Table.Call Record) :=
  [.index .default letters [letter "1" "Ann", letter "2" "Bea"], .remove "app.letter.2"]

def newLetters : List Record := [letter "1" "Eve"] ++ letter "3" "Cleo" :: [letter "c3" "Dan"]

theorem remove_of_update_letter :
    ∃ after r, letterBox.update letters.model newLetters = .ok after ∧ r.identity = "app.letter.3" ∧
      ∃ front back, after.engine.rows = front ++ r :: back ∧
        after.remove (letter "3" "Cleo") =
          .ok { after with engine := ⟨after.engine.settings, front ++ back⟩ } := by
  have prepares : ∀ other ∈ newLetters, (letters.prepare other .default).isOk = true := by
    decide +kernel
  have updates : (letterBox.update letters.model newLetters).isOk = true := by
    decide +kernel
  have accepted := fun other listed => Outcome.exists_eq_ok (prepares other listed)
  obtain ⟨d, prepared⟩ := accepted (letter "3" "Cleo") (by simp [newLetters])
  obtain ⟨after, updated⟩ := Outcome.exists_eq_ok updates
  have usual : letterBox.settings.Usual := ⟨rfl, rfl, rfl⟩
  have apart : ∀ name ∈ letters.fields.map Prod.fst,
      name ∉ [Settings.default.idField, Settings.default.typeField, Settings.default.pkField] := by
    decide
  have keeps := fun other (_ : other ∈ newLetters) =>
    SearchIndex.keepsHeading_of_usual usual apart other
  obtain ⟨r, made, identity, latest⟩ := Table.exists_latest_of_index letterCalls usual.distinct keeps
    ⟨rfl, rfl⟩ rfl accepted prepared rfl (by decide)
  have stored : r ∈ after.engine.rows := by
    have engine : after.engine =
        (Table.empty .default).performAll (letterCalls ++ [.index .default letters newLetters]) := by
      rw [eq_of_update rfl updated]
      rfl
    rw [engine]
    exact Table.mem_rows_performAll.2 latest
  have ran : letterBox.engine = (Table.empty .default).performAll letterCalls := rfl
  refine ⟨after, r, updated, identity, ?_⟩
  exact (remove_of_update ran usual usual rfl rfl apart updated rfl rfl prepared made stored).1
    (by decide)

/-- A letter with a key that is no number is stored and cannot be removed, and neither can a letter of an
application whose name is no word. -/
theorem not_remove_of_update :
    let abroad : SearchIndex Record := { letters with model := ⟨"my-app", "letter"⟩ }
    let box : Connection Table Record :=
      { letterBox with engine := .empty .default, registry := ⟨[⟨abroad, ObjectList.empty.toStore⟩]⟩ }
    let stays := fun (c : Connection Table Record) (o : Record) (model : ModelType) (pk : String) =>
      (c.update model [o]).toOption.any fun after =>
        (after.engine.rows.map Row.identity).contains (model.identity pk) && !(after.remove o).isOk
    ((ModelType.ofLabel? letters.model.label).isSome = true ∧
      stays letterBox (letter "c3" "Dan") letters.model "c3" = true) ∧
    (ModelType.ofLabel? abroad.model.label).isSome = true ∧
      stays box { letter "3" "Cleo" with model := some abroad.model } abroad.model "3" = true := by
  decide +kernel

end Connection

end RecordSearch
