import RecordSearch.Proofs.Index.Prepare
import RecordSearch.Proofs.ResultSet.Source
import RecordSearch.Proofs.Sorting.Stable
import RecordSearch.Proofs.Table.History

namespace RecordSearch

open scoped List

namespace Table

theorem perm_of_sortMatches? {sortBy : List String} {matched rows : List Scored}
    (result : sortMatches? sortBy matched = some rows) : rows ~ matched := by
  unfold sortMatches? at result
  split at result
  · exact Sorting.perm_of_stable? result
  · exact Sorting.perm_of_stable? result

theorem perm_sortMatches (sortBy : List String) (matched : List Scored) :
    sortMatches sortBy matched ~ matched := by
  unfold sortMatches
  cases result : sortMatches? sortBy matched with
  | none => exact List.Perm.refl matched
  | some rows => exact perm_of_sortMatches? result

variable {t : Table}

/-- Every hit of an answer shows what a row of the table stores. -/
def ShowsRows (t : Table) (answer : RawResults) : Prop :=
  ∀ raw ∈ answer.results, ∃ r ∈ t.rows, raw.fields = r.stored

theorem showsRows_empty (t : Table) : t.ShowsRows .empty := by
  intro raw listed
  cases listed

theorem window_subset {α : Type} (start : Nat) (stop : Option Nat) (s : List α) :
    window start stop s ⊆ s := by
  unfold window
  exact List.Subset.trans (List.drop_subset _ _) (List.take_subset _ _)

theorem showsRows_respond {options : SearchOptions} {words : Option (List (List Char))}
    {matched : List Scored} {answer : RawResults} (own : ∀ m ∈ matched, m.row ∈ t.rows)
    (answered : t.respond options words matched = .ok answer) : t.ShowsRows answer := by
  unfold respond at answered
  simp only at answered
  cases facets : facetCounts t.settings.contentField options
      ((sortMatches options.sortBy matched).map Scored.row) with
  | error e =>
      rw [facets] at answered
      cases answered
  | ok counts =>
      rw [facets] at answered
      cases answered
      intro raw listed
      obtain ⟨m, shown, rfl⟩ := List.mem_map.1 listed
      have there := (perm_sortMatches options.sortBy matched).mem_iff.1 (window_subset _ _ _ shown)
      exact ⟨m.row, own m there, rfl⟩

theorem mem_rows_of_matching {clause : Clause} {narrow : List Clause} :
    ∀ m ∈ t.matching clause narrow, m.row ∈ t.rows := by
  intro m listed
  obtain ⟨r, passing, scored⟩ := List.mem_filterMap.1 listed
  obtain ⟨score, -, rfl⟩ := Option.map_eq_some_iff.1 scored
  exact (List.mem_filter.1 passing).1

theorem mem_rows_of_sharing {source : Row} {narrow : List Clause} :
    ∀ m ∈ t.sharing source narrow, m.row ∈ t.rows := by
  intro m listed
  obtain ⟨r, passing, scored⟩ := List.mem_filterMap.1 listed
  simp only at scored
  split at scored
  · cases scored
    exact (List.mem_filter.1 passing).1
  · cases scored

theorem showsRows_search {query : String} {options : SearchOptions} {answer : RawResults}
    (answered : t.search query options = .ok answer) : t.ShowsRows answer := by
  unfold search at answered
  split at answered
  · cases answered
  · cases answered
  · exact showsRows_respond mem_rows_of_matching answered

theorem showsRows_similar {identity : String} {options : SearchOptions} {answer : RawResults}
    (answered : t.similar identity options = .ok answer) : t.ShowsRows answer := by
  unfold similar at answered
  split at answered
  · cases answered
  · split at answered
    · cases answered
    · exact showsRows_respond mem_rows_of_sharing answered

theorem showsRows_orEmpty {answer : Except Error RawResults}
    (shows : ∀ results, answer = .ok results → t.ShowsRows results) :
    t.ShowsRows (Engine.orEmpty (answer, t)).1 := by
  cases answer with
  | error e => exact t.showsRows_empty
  | ok results => exact shows results rfl

end Table

theorem Plan.showsRows_ask {Obj : Type} (p : Plan) (c : Connection Table Obj) (start : Nat)
    (stop : Option Nat) : c.engine.ShowsRows (p.ask c start stop).2.1 := by
  unfold ask
  cases p.similarTo with
  | some identity => exact Table.showsRows_orEmpty fun results => Table.showsRows_similar
  | none =>
      simp only [Engine.find]
      split
      · exact c.engine.showsRows_empty
      · exact Table.showsRows_orEmpty fun results => Table.showsRows_search

structure Settings.SameKeys (own settings : Settings) : Prop where
  id : own.idField = settings.idField
  type : own.typeField = settings.typeField

namespace Row

variable {settings : Settings} {schema : Schema} {d : Document} {r : Row}

theorem textOf_eq_ok_iff {name text : String} :
    textOf d name = .ok text ↔ d.find? name = some (.text text) := by
  unfold textOf
  cases d.find? name with
  | none => simp
  | some v => cases v <;> simp [Value.text?]

/-- What a row stores of a document. -/
def storedOf (schema : Schema) (d : Document) : SortedMap String Value :=
  d.fields.filterKeys fun name => ((schema.field? name).map Field.isStored).getD true

theorem find?_storedOf (schema : Schema) (d : Document) (name : String) :
    (storedOf schema d).find? name =
      if ((schema.field? name).map Field.isStored).getD true = true then d.find? name else none :=
  SortedMap.find?_filterKeys _ _ _

theorem find?_storedOf_of_not_mem {name : String} (absent : name ∉ schema.fields.map Prod.fst) :
    (storedOf schema d).find? name = d.find? name := by
  rw [find?_storedOf, Schema.field?_of_not_mem absent]
  rfl

theorem exists_ofDocument {own : Settings} (same : own.SameKeys settings) {identity model name : String}
    (id : d.find? settings.idField = some (.text identity))
    (type : d.find? settings.typeField = some (.text model))
    (document : schema.documentField? = some name) :
    ∃ r, ofDocument own schema d = .ok r ∧ r.identity = identity ∧ r.stored = storedOf schema d := by
  rw [ofDocument, same.id, same.type, textOf_eq_ok_iff.2 id, textOf_eq_ok_iff.2 type, document]
  exact ⟨_, rfl, rfl, rfl⟩

structure IsOf (settings : Settings) (schema : Schema) (d : Document) (r : Row) : Prop where
  identity : d.find? settings.idField = some (.text r.identity)
  model : d.find? settings.typeField = some (.text r.model)
  documentField : schema.documentField? = some r.documentField
  indexed : r.indexed = d.fields.filterKeys fun name => ((schema.field? name).map Field.isIndexed).getD true
  stored : r.stored = storedOf schema d

theorem isOf_of_ofDocument (made : ofDocument settings schema d = .ok r) : IsOf settings schema d r := by
  unfold ofDocument at made
  cases id : textOf d settings.idField with
  | error e =>
      rw [id] at made
      cases made
  | ok identity =>
      cases type : textOf d settings.typeField with
      | error e =>
          rw [id, type] at made
          cases made
      | ok model =>
          rw [id, type] at made
          cases document : schema.documentField? with
          | none =>
              rw [document] at made
              cases made
          | some name =>
              rw [document] at made
              cases made
              exact ⟨textOf_eq_ok_iff.1 id, textOf_eq_ok_iff.1 type, document, rfl, rfl⟩

theorem IsOf.find?_indexed (own : IsOf settings schema d r) (name : String) :
    r.indexed.find? name =
      if ((schema.field? name).map Field.isIndexed).getD true = true then d.find? name else none := by
  rw [own.indexed]
  exact SortedMap.find?_filterKeys _ _ _

theorem find?_stored_idField (made : ofDocument settings schema d = .ok r) {v : Value}
    (found : r.stored.find? settings.idField = some v) : v = .text r.identity := by
  have own := isOf_of_ofDocument made
  rw [own.stored, find?_storedOf] at found
  split at found
  · rw [own.identity] at found
    exact (Option.some.inj found).symm
  · cases found

end Row

namespace Table

variable {Obj : Type} [Source Obj] {settings : Settings}

theorem exists_ofDocument_of_mem_history {calls : List (Call Obj)} {r : Row}
    (listed : Change.put r ∈ history settings calls) :
    ∃ schema d, Row.ofDocument settings schema d = .ok r := by
  have batch : ∀ schema documents, Change.put r ∈ batchChanges settings schema documents →
      ∃ d, Row.ofDocument settings schema d = .ok r := by
    intro schema documents there
    unfold batchChanges at there
    split at there
    · rename_i rows made
      obtain ⟨row, listed, same⟩ := List.mem_map.1 there
      cases same
      obtain ⟨d, -, one⟩ := Outcome.exists_of_mem_mapM made listed
      exact ⟨d, one⟩
    · cases there
  obtain ⟨call, -, there⟩ := List.mem_flatMap.1 listed
  cases call with
  | update schema documents => exact ⟨schema, batch schema documents there⟩
  | index own declared objects =>
      rw [Call.changes] at there
      split at there
      · exact ⟨_, batch _ _ there⟩
      · cases there
  | remove identity => cases List.mem_singleton.1 there
  | clear models => cases List.mem_singleton.1 there

/-- A row of a table that stores an identity stores its own. -/
theorem find?_stored_of_mem_performAll {calls : List (Call Obj)} {r : Row}
    (there : r ∈ ((empty settings).performAll calls).rows) {v : Value}
    (found : r.stored.find? settings.idField = some v) : v = .text r.identity := by
  obtain ⟨before, after, whole, -⟩ := mem_rows_performAll.1 there
  have put : Change.put r ∈ history settings calls := by
    rw [whole]
    exact List.mem_append_right before List.mem_cons_self
  obtain ⟨schema, d, made⟩ := exists_ofDocument_of_mem_history put
  exact Row.find?_stored_idField made found

end Table

end RecordSearch
