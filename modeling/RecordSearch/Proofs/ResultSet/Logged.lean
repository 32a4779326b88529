import RecordSearch.Proofs.ResultSet.Spared

namespace RecordSearch

namespace Connection

variable {σ Obj : Type}

def recording (c : Connection σ Obj) : Connection σ Obj :=
  { c with settings := { c.settings with debug := true }, log := .ofEnabled true }

structure Records (c : Connection σ Obj) : Prop where
  debug : c.settings.debug = true
  enabled : c.log.enabled = true

theorem records_recording (c : Connection σ Obj) : c.recording.Records := ⟨rfl, rfl⟩

theorem Records.recordQuery {c : Connection σ Obj} (records : c.Records) (r : QueryRecord) :
    (c.recordQuery r).Records ∧ (c.recordQuery r).log.records = c.log.records ++ [r] := by
  have recorded : c.recordQuery r = { c with log := { c.log with records := c.log.records ++ [r] } } := by
    rw [Connection.recordQuery, if_pos records.debug, QueryLog.record, if_pos records.enabled]
  rw [recorded]
  exact ⟨⟨records.debug, records.enabled⟩, rfl⟩

end Connection

namespace Plan

variable {Obj : Type}

def recordOf (p : Plan) (c : Connection Table Obj) (w : Nat × Nat) : QueryRecord :=
  ⟨(p.ask c 0 none).1, (p.found c).length, w.1, some w.2⟩

theorem query_ask (p : Plan) (c : Connection Table Obj) (start : Nat) (stop : Option Nat) :
    (p.ask c start stop).1 = (p.ask c 0 none).1 := by
  unfold ask
  cases p.similarTo <;> rfl

theorem records_run (p : Plan) {c d : Connection Table Obj} (alike : c.Alike d) (records : d.Records)
    (start stop : Nat) :
    (p.run d start (some stop)).2.Records ∧
      (p.run d start (some stop)).2.log.records = d.log.records ++ [p.recordOf c (start, stop)] := by
  obtain ⟨hits, -⟩ := p.ask_results c start stop
  have asked := ask_alike alike p start (some stop)
  have entry : (⟨(p.ask d start (some stop)).1, (p.ask d start (some stop)).2.1.hits, start, some stop⟩ :
      QueryRecord) = p.recordOf c (start, stop) := by
    rw [asked, hits, p.query_ask c start (some stop), recordOf]
  have engine : ({ d with engine := (p.ask d start (some stop)).2.2 } : Connection Table Obj).Records :=
    ⟨records.debug, records.enabled⟩
  rw [← entry]
  exact engine.recordQuery _

end Plan

namespace ResultSet

variable {Obj : Type} {c d : Connection Table Obj}

theorem log_loadModels {σ : Type} (s : ResultSet Obj) (c : Connection σ Obj)
    (entries : List (ModelType × List String)) : (s.loadModels c entries).2.log = c.log := by
  induction entries generalizing c with
  | nil => rfl
  | cons entry rest ih =>
      have one : (s.loadModel c entry.1 entry.2).2.log = c.log := by
        unfold loadModel
        cases s.storeFor? c.registry entry.1 <;> rfl
      rw [← one]
      exact ih (s.loadModel c entry.1 entry.2).2

theorem log_loadItems {σ : Type} (s : ResultSet Obj) (c : Connection σ Obj) (hits : List (Hit Obj)) :
    (s.loadItems c hits).2.log = c.log := by
  unfold loadItems
  cases s.loadAll with
  | false => rfl
  | true => exact s.log_loadModels c (keysByModel hits).entries

theorem records_fetch (s : ResultSet Obj) (alike : c.Alike d) (records : d.Records) (w : Nat × Nat) :
    (s.fetch d w.1 w.2).2.Records ∧
      (s.fetch d w.1 w.2).2.log.records = d.log.records ++ [s.plan.recordOf c w] := by
  obtain ⟨kept, logged⟩ := s.plan.records_run alike records w.1 w.2
  have settings := (s.alike_loadItems (s.plan.run d w.1 (some w.2)).2
    (s.plan.run d w.1 (some w.2)).1.results).settings
  have log := s.log_loadItems (s.plan.run d w.1 (some w.2)).2 (s.plan.run d w.1 (some w.2)).1.results
  refine ⟨⟨?_, ?_⟩, ?_⟩
  · exact (congrArg Settings.debug settings).trans kept.debug
  · exact (congrArg QueryLog.enabled log).trans kept.enabled
  · exact (congrArg QueryLog.records log).trans logged

theorem records_afterWindows (s : ResultSet Obj) (alike : c.Alike d) (records : d.Records)
    (windows : List (Nat × Nat)) :
    (Reading.afterWindows s.fetch d windows).log.records =
      d.log.records ++ windows.map (s.plan.recordOf c) := by
  induction windows generalizing d with
  | nil => exact (List.append_nil _).symm
  | cons w rest ih =>
      obtain ⟨still, logged⟩ := s.records_fetch alike records w
      calc
        (Reading.afterWindows s.fetch d (w :: rest)).log.records =
            (s.fetch d w.1 w.2).2.log.records ++ rest.map (s.plan.recordOf c) :=
          ih (s.alike_fetch alike w.1 w.2) still
        _ = d.log.records ++ (w :: rest).map (s.plan.recordOf c) := by
          rw [logged, List.append_assoc, List.map_cons, List.singleton_append]

/-- The queries that a read runs, as they are recorded. -/
def queries (s : ResultSet Obj) (c : Connection Table Obj) (read : Read) : List QueryRecord :=
  (s.perform c.recording read).2.2.log.records

/-- A read that leaves the connection as some windows do runs one query for each of them. -/
theorem queries_eq (s : ResultSet Obj) (c : Connection Table Obj) {read : Read} {windows : List (Nat × Nat)}
    (fetched : (s.perform c.recording read).2.2 = Reading.afterWindows s.fetch c.recording windows) :
    s.queries c read = windows.map (s.plan.recordOf c) := by
  have logged := s.records_afterWindows (Connection.Alike.refl c.recording) c.records_recording windows
  rw [queries, fetched, logged]
  rfl

end ResultSet

end RecordSearch
