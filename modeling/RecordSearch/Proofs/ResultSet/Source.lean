import RecordSearch.Engine.Table
import RecordSearch.Proofs.ResultSet.Load
import RecordSearch.Proofs.ResultSet.Reading
import RecordSearch.ResultSet.Read

namespace RecordSearch

namespace Table

theorem window_some {α : Type} (start stop : Nat) (s : List α) :
    window start (some stop) s = (s.take stop).drop start := by
  apply List.ext_getElem?
  intro i
  simp only [window, Option.getD_some]
  rw [List.getElem?_drop, List.getElem?_drop, List.getElem?_take, List.getElem?_take]
  by_cases inside : start + i < min stop s.length
  · rw [if_pos (by omega), if_pos (by omega), show min start s.length = start by omega]
  · rw [if_neg (by omega)]
    split
    · exact (List.getElem?_eq_none (by omega)).symm
    · rfl

theorem window_none {α : Type} (s : List α) : window 0 none s = s := by
  simp only [window, Option.getD_none, Nat.zero_min, Nat.min_self, Nat.zero_max, List.take_length,
    List.drop_zero]

theorem window_map {α β : Type} (f : α → β) (start : Nat) (stop : Option Nat) (s : List α) :
    window start stop (s.map f) = (window start stop s).map f := by
  simp only [window, List.length_map, List.map_drop, List.map_take]

/-- An answer that fails for every window, or gives every window of one list of hits. -/
def Windowed (answer : Nat → Option Nat → Except Error RawResults) : Prop :=
  (∃ e, ∀ start stop, answer start stop = .error e) ∨
    ∃ (all : List RawHit) (facets : FacetCounts), ∀ start stop,
      answer start stop = .ok ⟨all.length, window start stop all, facets⟩

section

variable (t : Table) (p : Plan) (syn : QuerySyntax) (settings : Settings)

theorem windowed_respond (words : Option (List (List Char))) (matched : List Scored) :
    Windowed fun start stop => t.respond (p.options syn settings start stop) words matched := by
  have counts : ∀ start stop rows,
      facetCounts t.settings.contentField (p.options syn settings start stop) rows =
        facetCounts t.settings.contentField (p.options syn settings 0 none) rows := fun _ _ _ => rfl
  simp only [Windowed, respond, counts]
  have order : ∀ start stop, (p.options syn settings start stop).sortBy = p.orderBy := fun _ _ => rfl
  simp only [order]
  cases facetCounts t.settings.contentField (p.options syn settings 0 none)
      ((sortMatches p.orderBy matched).map Scored.row) with
  | error e => exact Or.inl ⟨e, fun _ _ => rfl⟩
  | ok facets =>
      refine Or.inr ⟨(sortMatches p.orderBy matched).map (toHit words), facets, ?_⟩
      intro start stop
      rw [List.length_map, window_map]
      rfl

theorem windowed_search (query : String) :
    Windowed fun start stop => t.search query (p.options syn settings start stop) := by
  have narrowed : ∀ start stop, readAll (p.options syn settings start stop).narrow =
      readAll (p.options syn settings 0 none).narrow := fun _ _ => rfl
  unfold search
  simp only [narrowed]
  cases Lucene.read query with
  | error e => exact Or.inl ⟨e, fun _ _ => rfl⟩
  | ok clause =>
      cases readAll (p.options syn settings 0 none).narrow with
      | error e => exact Or.inl ⟨e, fun _ _ => rfl⟩
      | ok narrow =>
          exact windowed_respond t p syn settings
            (if p.highlight then some (clause.textWords t.settings.contentField) else none)
            (t.matching clause narrow)

theorem windowed_similar (identity : String) :
    Windowed fun start stop => t.similar identity (p.options syn settings start stop) := by
  have narrowed : ∀ start stop, readAll (p.options syn settings start stop).narrow =
      readAll (p.options syn settings 0 none).narrow := fun _ _ => rfl
  simp only [similar, narrowed]
  cases readAll (p.options syn settings 0 none).narrow with
  | error e => exact Or.inl ⟨e, fun _ _ => rfl⟩
  | ok narrow =>
      cases t.rows.find? fun r => r.identity = identity with
      | none => exact Or.inl ⟨_, fun _ _ => rfl⟩
      | some source => exact windowed_respond t p syn settings none _

end

def Windows (answer : Nat → Option Nat → RawResults × Table) (t : Table) (all : List RawHit) : Prop :=
  ∀ start stop, (answer start stop).1.hits = all.length ∧
    (answer start stop).1.results = window start stop all ∧ (answer start stop).2 = t

theorem window_nil {α : Type} (start : Nat) (stop : Option Nat) : window start stop ([] : List α) = [] := by
  rw [window, List.take_nil, List.drop_nil]

theorem Windowed.orEmpty {answer : Nat → Option Nat → Except Error RawResults} (t : Table)
    (windowed : Windowed answer) :
    ∃ all, Windows (fun start stop => Engine.orEmpty (answer start stop, t)) t all := by
  rcases windowed with ⟨e, failed⟩ | ⟨all, facets, answered⟩
  · refine ⟨[], ?_⟩
    intro start stop
    simp only [failed]
    exact ⟨rfl, (window_nil start stop).symm, rfl⟩
  · refine ⟨all, ?_⟩
    intro start stop
    simp only [answered]
    exact ⟨rfl, rfl, rfl⟩

end Table

namespace Plan

variable {Obj : Type}

/-- What the table answers to a plan are windows of one list of hits. -/
theorem ask_window (p : Plan) (c : Connection Table Obj) :
    ∃ all, Table.Windows (fun start stop => (p.ask c start stop).2) c.engine all := by
  unfold ask
  cases p.similarTo with
  | some identity => exact (Table.windowed_similar c.engine p _ c.settings identity).orEmpty c.engine
  | none =>
      by_cases empty : (p.query (Engine.querySyntax c.engine) c.settings).isEmpty
      · refine ⟨[], ?_⟩
        intro start stop
        simp only [Engine.find, if_pos empty]
        exact ⟨rfl, (Table.window_nil start stop).symm, trivial⟩
      · simp only [Engine.find, if_neg empty]
        exact (Table.windowed_search c.engine p _ c.settings _).orEmpty c.engine

/-- Every hit of a plan can be read from its document. -/
def KeepsHits (p : Plan) (c : Connection Table Obj) : Prop :=
  ∀ raw ∈ (p.ask c 0 none).2.1.results, (Hit.ofRaw? c.registry c.settings raw).isSome

def hits (p : Plan) (c : Connection Table Obj) : List (Hit Obj) := (p.run c 0 none).1.results

theorem map_eq_filterMap {α β : Type} {f : α → Option β} {s : List α} (kept : ∀ a ∈ s, (f a).isSome) :
    s.map f = (s.filterMap f).map some := by
  induction s with
  | nil => rfl
  | cons a rest ih =>
      obtain ⟨b, read⟩ := Option.isSome_iff_exists.1 (kept a List.mem_cons_self)
      rw [List.map_cons, List.filterMap_cons_some read, List.map_cons, read,
        ih fun other later => kept other (List.mem_cons_of_mem a later)]

theorem filterMap_window {α β : Type} {f : α → Option β} {s : List α} (kept : ∀ a ∈ s, (f a).isSome)
    (start : Nat) (stop : Option Nat) :
    (Table.window start stop s).filterMap f = Table.window start stop (s.filterMap f) := by
  calc
    (Table.window start stop s).filterMap f = (Table.window start stop (s.map f)).filterMap id := by
      rw [Table.window_map, List.filterMap_map]
      rfl
    _ = ((Table.window start stop (s.filterMap f)).map some).filterMap id := by
      rw [map_eq_filterMap kept, Table.window_map]
    _ = Table.window start stop (s.filterMap f) := by
      rw [List.filterMap_map]
      exact List.filterMap_some

theorem ask_alike {c d : Connection Table Obj} (alike : c.Alike d) (p : Plan) (start : Nat)
    (stop : Option Nat) : p.ask d start stop = p.ask c start stop := by
  rw [ask, ask, alike.engine, alike.settings]

theorem alike_run (p : Plan) (c : Connection Table Obj) (start : Nat) (stop : Option Nat) :
    Connection.Alike { c with engine := (p.ask c start stop).2.2 } (p.run c start stop).2 :=
  Connection.alike_recordQuery _ _

theorem results_run (p : Plan) (c : Connection Table Obj) (start : Nat) (stop : Option Nat) :
    (p.run c start stop).1.results =
      (p.ask c start stop).2.1.results.filterMap (Hit.ofRaw? c.registry c.settings) := by
  have read : (p.run c start stop).1.results = (p.ask c start stop).2.1.results.filterMap
      (Hit.ofRaw? (p.run c start stop).2.registry (p.run c start stop).2.settings) := rfl
  rw [read, (p.alike_run c start stop).registry, (p.alike_run c start stop).settings]

theorem run_window {p : Plan} {c d : Connection Table Obj} (kept : p.KeepsHits c) (alike : c.Alike d)
    (start stop : Nat) :
    (p.run d start (some stop)).1.hits = (p.hits c).length ∧
      (p.run d start (some stop)).1.results = ((p.hits c).take stop).drop start ∧
      c.Alike (p.run d start (some stop)).2 := by
  obtain ⟨all, windows⟩ := p.ask_window c
  obtain ⟨-, whole, -⟩ := windows 0 none
  rw [Table.window_none] at whole
  have every : ∀ raw ∈ all, (Hit.ofRaw? c.registry c.settings raw).isSome := by
    rw [← whole]
    exact kept
  have hits : p.hits c = all.filterMap (Hit.ofRaw? c.registry c.settings) := by
    rw [Plan.hits, p.results_run c 0 none, whole]
  -- both connections ask the same table, of which all windows show one list
  have same := ask_alike alike p start (some stop)
  obtain ⟨count, results, engine⟩ := windows start (some stop)
  refine ⟨?_, ?_, ?_⟩
  · have length := congrArg List.length (map_eq_filterMap every)
    rw [List.length_map, List.length_map] at length
    have counted : (p.run d start (some stop)).1.hits = (p.ask d start (some stop)).2.1.hits := rfl
    rw [counted, same, hits, ← length]
    exact count
  · rw [results_run, same, results, alike.registry, alike.settings, filterMap_window every,
      Table.window_some, hits]
  · have asked : c.Alike { d with engine := (p.ask d start (some stop)).2.2 } := by
      refine ⟨?_, alike.settings, alike.registry⟩
      rw [same]
      exact engine
    exact asked.trans (p.alike_run d start (some stop))

end Plan

namespace ResultSet

variable {Obj : Type}

/-- What there is to read at each position: all hits of the plan, as they are shown. -/
def reference (s : ResultSet Obj) (c : Connection Table Obj) : List (Option (Hit Obj)) :=
  (s.plan.hits c).map (s.itemFor c.registry)

/-- Windows of the same hits are fetched as long as neither table nor stores change. -/
theorem faithful_fetch {s : ResultSet Obj} {c : Connection Table Obj} (kept : s.plan.KeepsHits c)
    (byKey : s.LoadsByKey c.registry) : Faithful s.fetch c.Alike (s.reference c) := by
  have fetched : ∀ d start stop, c.Alike d →
      Cache.IsWindow (s.fetch d start stop).1 (s.reference c) start stop ∧
        c.Alike (s.fetch d start stop).2 := by
    intro d start stop alike
    obtain ⟨count, results, after⟩ := Plan.run_window kept alike start stop
    have still : s.LoadsByKey (s.plan.run d start (some stop)).2.registry := by
      rw [after.registry]
      exact byKey
    obtain ⟨items, loaded⟩ := loadItems_eq still (s.plan.run d start (some stop)).1.results
    refine ⟨⟨?_, ?_⟩, after.trans loaded⟩
    · rw [reference, List.length_map]
      exact count
    · rw [reference, ← List.map_take, ← List.map_drop, ← results, ← after.registry]
      exact items
  exact ⟨fun d start stop alike => (fetched d start stop alike).1,
    fun d start stop alike => (fetched d start stop alike).2⟩

end ResultSet

end RecordSearch
