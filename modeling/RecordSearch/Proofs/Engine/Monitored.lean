import RecordSearch.Engine.Monitored
import RecordSearch.Proofs.Table.Checked

/-!
Monitored tables. They answer as tables do, and tell whether a search broke off: where a clause that is asked has no
score for a row, or the rows that match cannot be brought in order.
-/

namespace RecordSearch

section

variable {α : Type} {P : List α → α → Prop} {a : α} {s : List α}

theorem not_exists_cut_nil : ¬ ∃ front x rest, [] = front ++ x :: rest ∧ P front x := by
  rintro ⟨front, x, rest, whole, -⟩
  exact List.append_ne_nil_of_right_ne_nil front (List.cons_ne_nil x rest) whole.symm

theorem exists_cut_cons : (∃ front x rest, a :: s = front ++ x :: rest ∧ P front x) ↔
    P [] a ∨ ∃ front x rest, s = front ++ x :: rest ∧ P (a :: front) x := by
  constructor
  · rintro ⟨front, x, rest, whole, holds⟩
    cases front with
    | nil =>
        cases whole
        exact .inl holds
    | cons first front =>
        cases whole
        exact .inr ⟨front, x, rest, rfl, holds⟩
  · rintro (holds | ⟨front, x, rest, rfl, holds⟩)
    · exact ⟨[], a, s, rfl, holds⟩
    · exact ⟨a :: front, x, rest, rfl, holds⟩

end

namespace Clause

variable {contentField : String} {r : Row} {clause : Clause} {front rest clauses : List Clause}

/-- A clause has no score for a row, and those before it match, so it is asked. -/
def LacksScore (contentField : String) (r : Row) (clauses : List Clause) : Prop :=
  ∃ front clause rest, clauses = front ++ clause :: rest ∧
    (∀ earlier ∈ front, ∃ points, earlier.score? contentField r = some (some points)) ∧
    clause.score? contentField r = none

theorem not_lacksScore_nil : ¬ LacksScore contentField r [] := not_exists_cut_nil

theorem lacksScore_cons : LacksScore contentField r (clause :: rest) ↔
    clause.score? contentField r = none ∨
      (∃ points, clause.score? contentField r = some (some points)) ∧ LacksScore contentField r rest := by
  unfold LacksScore
  rw [exists_cut_cons]
  apply or_congr
  · exact and_iff_right nofun
  · constructor
    · rintro ⟨front, asked, behind, rfl, matching, missing⟩
      obtain ⟨matched, others⟩ := List.forall_mem_cons.1 matching
      exact ⟨matched, front, asked, behind, rfl, others, missing⟩
    · rintro ⟨matched, front, asked, behind, rfl, others, missing⟩
      exact ⟨front, asked, behind, rfl, List.forall_mem_cons.2 ⟨matched, others⟩, missing⟩

theorem breaksOff_iff : breaksOff contentField r clauses = true ↔ LacksScore contentField r clauses := by
  induction clauses with
  | nil => exact iff_of_false nofun not_lacksScore_nil
  | cons clause rest ih =>
      rw [breaksOff, lacksScore_cons, ← ih]
      cases clause.score? contentField r with
      | none => exact iff_of_true rfl (.inl rfl)
      | some points => cases points <;> simp

theorem lacksScore_singleton : LacksScore contentField r [clause] ↔ clause.score? contentField r = none := by
  rw [lacksScore_cons]
  exact or_iff_left fun more => not_lacksScore_nil more.2

/-- Where nothing breaks off, the scores that are asked for are worked out right. -/
theorem score?_of_not_lacksScore (fine : ¬ LacksScore contentField r (front ++ clause :: rest))
    (matching : ∀ earlier ∈ front, (earlier.score contentField r).isSome) :
    clause.score? contentField r = some (clause.score contentField r) := by
  induction front with
  | nil =>
      rcases rightUnless_score? clause with right | ⟨missing, -⟩
      · exact right
      · exact absurd (lacksScore_cons.2 (.inl missing)) fine
  | cons first front ih =>
      obtain ⟨matched, others⟩ := List.forall_mem_cons.1 matching
      obtain ⟨points, scored⟩ := Option.isSome_iff_exists.1 matched
      rw [List.cons_append, lacksScore_cons, not_or] at fine
      rcases rightUnless_score? first with right | ⟨missing, -⟩
      · rw [scored] at right
        exact ih (fun lacks => fine.2 ⟨⟨points, right⟩, lacks⟩) others
      · exact absurd missing fine.1

end Clause

namespace Table

variable {contentField : String} {rows : List Row} {t : Table} {options : SearchOptions}

def FacetLacksScore (contentField : String) (rows : List Row) (facets : List (String × String)) : Prop :=
  ∃ front facet rest, facets = front ++ facet :: rest ∧
    (∀ earlier ∈ front, (Lucene.read (queryFacetKey earlier.1 earlier.2)).isOk) ∧
    ∃ clause, Lucene.read (queryFacetKey facet.1 facet.2) = .ok clause ∧
      ∃ r ∈ rows, clause.score? contentField r = none

theorem facetsBreakOff_iff {facets : List (String × String)} :
    facetsBreakOff contentField rows facets = true ↔ FacetLacksScore contentField rows facets := by
  induction facets with
  | nil => exact iff_of_false nofun not_exists_cut_nil
  | cons facet rest ih =>
      unfold facetsBreakOff FacetLacksScore
      rw [exists_cut_cons]
      cases read : Lucene.read (queryFacetKey facet.1 facet.2) with
      | error e =>
          refine iff_of_false nofun ?_
          rintro (⟨-, clause, found, -⟩ | ⟨front, last, behind, -, readable, -⟩)
          · cases found
          · have fine := readable facet List.mem_cons_self
            rw [read] at fine
            cases fine
      | ok clause =>
          simp only [Bool.or_eq_true, List.any_eq_true, Clause.breaksOff_iff, Clause.lacksScore_singleton, ih]
          apply or_congr
          · constructor
            · exact fun missing => ⟨nofun, clause, rfl, missing⟩
            · rintro ⟨-, _, ⟨⟩, missing⟩
              exact missing
          · simp only [FacetLacksScore, List.forall_mem_cons, read, Except.isOk, Except.toBool, true_and]

/-- The rows that match cannot be answered with: they have no order, or a facet query no score for one of them. -/
def CannotRespond (t : Table) (options : SearchOptions) (matched : List Scored) : Prop :=
  sortMatches? options.sortBy matched = none ∨
    FacetLacksScore t.settings.contentField (matched.map Scored.row) options.queryFacets

theorem respondBreaksOff_iff {matched : List Scored} :
    t.respondBreaksOff options matched = true ↔ t.CannotRespond options matched := by
  rw [respondBreaksOff, Bool.or_eq_true, Option.isNone_iff_eq_none, facetsBreakOff_iff]
  rfl

/-- A search breaks off just if its queries can be read and a score that is asked for is missing, or the rows that
match cannot be answered with. -/
theorem searchBreaksOff_iff {query : String} :
    t.searchBreaksOff query options = true ↔
      ∃ clause narrow, Lucene.read query = .ok clause ∧ readAll options.narrow = .ok narrow ∧
        ((∃ r ∈ t.rows, Clause.LacksScore t.settings.contentField r (narrow ++ [clause])) ∨
          t.CannotRespond options (t.matching clause narrow)) := by
  unfold searchBreaksOff
  cases Lucene.read query with
  | error e => exact iff_of_false nofun nofun
  | ok clause =>
      cases readAll options.narrow with
      | error e => exact iff_of_false nofun nofun
      | ok narrow =>
          simp only [Bool.or_eq_true, List.any_eq_true, Clause.breaksOff_iff, respondBreaksOff_iff]
          constructor
          · exact fun broken => ⟨clause, narrow, rfl, rfl, broken⟩
          · rintro ⟨_, _, ⟨⟩, ⟨⟩, broken⟩
            exact broken

theorem similarBreaksOff_iff {identity : String} :
    t.similarBreaksOff identity options = true ↔
      ∃ narrow source, readAll options.narrow = .ok narrow ∧
        (t.rows.find? fun r => r.identity = identity) = some source ∧
        ((∃ r ∈ t.rows, r.identity ≠ identity ∧ Clause.LacksScore t.settings.contentField r narrow) ∨
          t.CannotRespond options (t.sharing source narrow)) := by
  unfold similarBreaksOff
  cases readAll options.narrow with
  | error e => exact iff_of_false nofun nofun
  | ok narrow =>
      cases t.rows.find? fun r => r.identity = identity with
      | none => exact iff_of_false nofun nofun
      | some source =>
          simp only [Bool.or_eq_true, List.any_eq_true, List.mem_filter, decide_eq_true_eq, and_assoc,
            Clause.breaksOff_iff, respondBreaksOff_iff]
          constructor
          · exact fun broken => ⟨narrow, source, rfl, rfl, broken⟩
          · rintro ⟨_, _, ⟨⟩, ⟨⟩, broken⟩
            exact broken

end Table

inductive EngineCall where
  | update (schema : Schema) (documents : List Document)
  | remove (identity : String)
  | clear (models : List ModelType)
  | search (query : String) (options : SearchOptions)
  | similar (identity : String) (options : SearchOptions)

def EngineCall.breaksOff (t : Table) : EngineCall → Bool
  | update _ _ | remove _ | clear _ => false
  | search query options => t.searchBreaksOff query options
  | similar identity options => t.similarBreaksOff identity options

namespace Engine

variable {σ : Type}

def kept (e : σ) : Except Error σ → Except Error (Option RawResults) × σ
  | .ok after => (.ok none, after)
  | .error err => (.error err, e)

variable [Engine σ]

def answer (e : σ) : EngineCall → Except Error (Option RawResults) × σ
  | .update schema documents => kept e (update e schema documents)
  | .remove identity => kept e (remove e identity)
  | .clear models => kept e (clear e models)
  | .search query options => (search e query options).map (·.map some) id
  | .similar identity options => (similar e identity options).map (·.map some) id

def answerAll (e : σ) : List EngineCall → List (Except Error (Option RawResults)) × σ
  | [] => ([], e)
  | call :: rest => (answerAll (answer e call).2 rest).map ((answer e call).1 :: ·) id

end Engine

namespace MonitoredTable

open Engine (answer answerAll kept)

theorem kept_changed (m : MonitoredTable) (change : Table → Except Error Table) :
    kept m (m.changed change) =
      ((kept m.table (change m.table)).1, ⟨(kept m.table (change m.table)).2, m.brokeOff⟩) := by
  unfold changed
  cases change m.table with
  | ok t => rfl
  | error e => rfl

theorem answer_eq (m : MonitoredTable) (call : EngineCall) :
    answer m call =
      ((answer m.table call).1, ⟨(answer m.table call).2, m.brokeOff || call.breaksOff m.table⟩) := by
  cases call with
  | update schema documents =>
      rw [EngineCall.breaksOff, Bool.or_false]
      exact m.kept_changed (Engine.update · schema documents)
  | remove identity =>
      rw [EngineCall.breaksOff, Bool.or_false]
      exact m.kept_changed (Engine.remove · identity)
  | clear models =>
      rw [EngineCall.breaksOff, Bool.or_false]
      exact m.kept_changed (Engine.clear · models)
  | search query options => rfl
  | similar identity options => rfl

/-- Calls are answered as by the table, which is the same after them; a search among them is remembered if it breaks
off. -/
theorem answerAll_eq (m : MonitoredTable) (calls : List EngineCall) :
    (answerAll m calls).1 = (answerAll m.table calls).1 ∧
      (answerAll m calls).2.table = (answerAll m.table calls).2 ∧
      ((answerAll m calls).2.brokeOff = true ↔ m.brokeOff = true ∨
        ∃ front call rest, calls = front ++ call :: rest ∧ call.breaksOff (answerAll m.table front).2 = true) := by
  induction calls generalizing m with
  | nil =>
      exact ⟨rfl, rfl, (or_iff_left not_exists_cut_nil).symm⟩
  | cons call rest ih =>
      obtain ⟨answers, table, broken⟩ := ih (answer m call).2
      rw [answer_eq] at answers table broken
      simp only [answerAll, Prod.map_fst, Prod.map_snd, id, answer_eq] at answers table broken ⊢
      refine ⟨congrArg _ answers, table, broken.trans ?_⟩
      rw [Bool.or_eq_true, or_assoc, exists_cut_cons]
      rfl

end MonitoredTable

namespace Connection

variable {σ Obj : Type}

/-- A number has outgrown its word just if a search broke off or a window ends beyond the words. -/
theorem hasOutgrown_iff (c : Connection MonitoredTable Obj) :
    c.hasOutgrown = true ↔
      c.engine.brokeOff = true ∨ ∃ r ∈ c.log.records, ∃ stop, r.stop = some stop ∧ UInt64.size ≤ stop := by
  have beyond : ∀ r : QueryRecord, r.isBeyond = true ↔ ∃ stop, r.stop = some stop ∧ UInt64.size ≤ stop := by
    intro r
    rw [QueryRecord.isBeyond, decide_eq_true_iff]
    cases r.stop with
    | none => exact iff_of_false (by decide) nofun
    | some stop => simp
  simp only [hasOutgrown, Bool.or_eq_true, List.any_eq_true, beyond]
  rfl

theorem foldl_recordQuery (records : List QueryRecord) (c : Connection σ Obj) :
    records.foldl recordQuery c =
      { c with log := records.foldl (fun log r => if c.settings.debug then log.record r else log) c.log } := by
  induction records generalizing c with
  | nil => rfl
  | cons r rest ih =>
      rw [List.foldl_cons, ih, List.foldl_cons, recordQuery]
      split <;> rfl

theorem records_foldl_record (records : List QueryRecord) {log : QueryLog} (enabled : log.enabled = true) :
    (records.foldl QueryLog.record log).records = log.records ++ records := by
  induction records generalizing log with
  | nil => exact (List.append_nil _).symm
  | cons r rest ih =>
      have later : (rest.foldl QueryLog.record { log with records := log.records ++ [r] }).records =
          (log.records ++ [r]) ++ rest := ih enabled
      rw [List.foldl_cons, QueryLog.record, if_pos enabled, later, List.append_assoc]
      rfl

/-- What is recorded while a connection is monitored is recorded after it as if it had not been. -/
theorem released_foldl_recordQuery (c : Connection σ Obj) (records : List QueryRecord) :
    (records.foldl recordQuery c.monitored).released c =
      records.foldl recordQuery { c with log := c.log.reset, storeCalls := [] } := by
  have recorded : (records.foldl QueryLog.record (.ofEnabled true)).records = records :=
    records_foldl_record records rfl
  rw [foldl_recordQuery, foldl_recordQuery]
  simp only [released, monitored, if_true, recorded]

end Connection

end RecordSearch
