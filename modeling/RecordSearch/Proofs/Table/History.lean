import RecordSearch.Engine.Table
import RecordSearch.Proofs.Outcome
import RecordSearch.Proofs.Table.Changes

/-!
Tables over whole runs of calls, failing ones included: the rows are those that the calls put last, in the
order in which their identities came in.
-/

namespace RecordSearch.Table

inductive Call (Obj : Type) where
  | update (schema : Schema) (documents : List Document)
  | index (settings : Settings) (index : SearchIndex Obj) (objects : List Obj)
  | remove (identity : String)
  | clear (models : List ModelType)

variable {Obj : Type} [Source Obj]

def orKeep (t : Table) : Except Error Table → Table
  | .ok t => t
  | .error _ => t

def perform (t : Table) : Call Obj → Table
  | .update schema documents => t.orKeep (t.update schema documents)
  | .index settings index objects => t.orKeep (Engine.index t settings index objects)
  | .remove identity => t.remove identity
  | .clear models => t.clear models

def performAll (t : Table) (calls : List (Call Obj)) : Table := calls.foldl perform t

def batchChanges (settings : Settings) (schema : Schema) (documents : List Document) : List Change :=
  match documents.mapM (Row.ofDocument settings schema) with
  | .ok rows => rows.map .put
  | .error _ => []

/-- What a call does to the rows of a table with these settings. -/
def Call.changes (settings : Settings) : Call Obj → List Change
  | .update schema documents => batchChanges settings schema documents
  | .index own declared objects =>
    match objects.mapM (declared.prepare · own) with
    | .ok documents => batchChanges settings declared.toSchema documents
    | .error _ => []
  | .remove identity => [.remove identity]
  | .clear models => [.clear models]

def history (settings : Settings) (calls : List (Call Obj)) : List Change :=
  calls.flatMap (Call.changes settings)

theorem rowsOf_eq_mapM (settings : Settings) (schema : Schema) (documents : List Document) :
    rowsOf settings schema documents = documents.mapM (Row.ofDocument settings schema) := by
  induction documents with
  | nil => rfl
  | cons d rest ih =>
      rw [rowsOf, ih]
      cases first : Row.ofDocument settings schema d with
      | error e => exact (Outcome.mapM_head_error first rest).symm
      | ok row =>
          cases others : rest.mapM (Row.ofDocument settings schema) with
          | error e => exact (Outcome.mapM_cons_error first others).symm
          | ok rows => exact (Outcome.mapM_cons_ok first others).symm

end RecordSearch.Table

namespace RecordSearch

theorem SearchIndex.prepareAll_eq_mapM {Obj : Type} [Source Obj] (index : SearchIndex Obj)
    (settings : Settings) (objects : List Obj) :
    index.prepareAll settings objects = objects.mapM (index.prepare · settings) := by
  induction objects with
  | nil => rfl
  | cons o rest ih =>
      rw [prepareAll, ih]
      cases first : index.prepare o settings with
      | error e => exact (Outcome.mapM_head_error (f := (index.prepare · settings)) first rest).symm
      | ok d =>
          cases others : rest.mapM (index.prepare · settings) with
          | error e =>
              exact (Outcome.mapM_cons_error (f := (index.prepare · settings)) first others).symm
          | ok ds => exact (Outcome.mapM_cons_ok (f := (index.prepare · settings)) first others).symm

namespace Table

variable {Obj : Type} [Source Obj]

theorem foldl_putRow (rows before : List Row) :
    rows.foldl (fun stored row => putRow row stored) before =
      (rows.map Change.put).foldl Change.apply before := by
  rw [List.foldl_map]
  rfl

theorem orKeep_update (t : Table) (schema : Schema) (documents : List Document) :
    t.orKeep (t.update schema documents) =
      ⟨t.settings, (batchChanges t.settings schema documents).foldl Change.apply t.rows⟩ := by
  rw [update, rowsOf_eq_mapM, batchChanges]
  cases documents.mapM (Row.ofDocument t.settings schema) with
  | error e => rfl
  | ok rows =>
      simp only [Except.map, orKeep, foldl_putRow]

theorem index_eq (t : Table) (settings : Settings) (index : SearchIndex Obj) (objects : List Obj) :
    Engine.index t settings index objects =
      (objects.mapM (index.prepare · settings)).map fun documents =>
        t.orKeep (t.update index.toSchema documents) := by
  rw [Engine.index, index.prepareAll_eq_mapM]
  cases objects.mapM (index.prepare · settings) with
  | error e => rfl
  | ok documents =>
      have handed : Engine.update t index.toSchema documents = t.update index.toSchema documents := rfl
      simp only [Except.map, handed]
      cases t.update index.toSchema documents with
      | error e => rfl
      | ok after => rfl

/-- One call makes the changes that it stands for. -/
theorem perform_eq_changes (t : Table) (call : Call Obj) :
    t.perform call = ⟨t.settings, (call.changes t.settings).foldl Change.apply t.rows⟩ := by
  cases call with
  | update schema documents => exact t.orKeep_update schema documents
  | index settings index objects =>
      rw [perform, index_eq, Call.changes]
      cases objects.mapM (index.prepare · settings) with
      | error e => rfl
      | ok documents => exact t.orKeep_update index.toSchema documents
  | remove identity => rfl
  | clear models =>
      simp only [perform, Table.clear, Call.changes, List.foldl_cons, List.foldl_nil, Change.apply]
      split
      · rfl
      · rfl

theorem performAll_eq_history (t : Table) (calls : List (Call Obj)) :
    t.performAll calls = ⟨t.settings, (history t.settings calls).foldl Change.apply t.rows⟩ := by
  induction calls generalizing t with
  | nil => rfl
  | cons call rest ih =>
      have first := t.perform_eq_changes call
      calc
        t.performAll (call :: rest) = (t.perform call).performAll rest := rfl
        _ = ⟨t.settings, (history t.settings rest).foldl Change.apply
              ((call.changes t.settings).foldl Change.apply t.rows)⟩ := by
          rw [ih, first]
        _ = ⟨t.settings, (history t.settings (call :: rest)).foldl Change.apply t.rows⟩ := by
          rw [history, history, List.flatMap_cons, List.foldl_append]

/-- A table as it comes out of a run of calls. -/
theorem performAll_empty (settings : Settings) (calls : List (Call Obj)) :
    (empty settings).performAll calls = ⟨settings, rowsAfter (history settings calls)⟩ :=
  (empty settings).performAll_eq_history calls

theorem mem_rows_performAll {settings : Settings} {calls : List (Call Obj)} {r : Row} :
    r ∈ ((empty settings).performAll calls).rows ↔ IsLatest (history settings calls) r := by
  rw [performAll_empty]
  exact mem_rowsAfter

theorem nodup_performAll (settings : Settings) (calls : List (Call Obj)) :
    (((empty settings).performAll calls).rows.map Row.identity).Nodup := by
  rw [performAll_empty]
  exact nodup_rowsAfter (history settings calls)

/-- The rows of a table are those that these changes leave, in the order in which they came in. -/
structure Reflects (t : Table) (past : List Change) : Prop where
  distinct : (t.rows.map Row.identity).Nodup
  latest : ∀ r, r ∈ t.rows ↔ IsLatest past r
  cameIn : ∀ r ∈ t.rows, ∃ place, CameIn past r.identity place
  ordered : t.rows.Pairwise fun r s =>
    ∀ i j, CameIn past r.identity i → CameIn past s.identity j → i < j

end RecordSearch.Table
