import RecordSearch.Engine.Connection
import RecordSearch.Engine.Table
import RecordSearch.Engine.Unreachable
import RecordSearch.Table.Checked

/-!
Connections watched for what a program ends at: numbers that outgrow machine words, as distances between the words
of phrases and ends of windows do, and rows that cannot be brought in order.
-/

namespace RecordSearch

namespace Clause

/-- Whether one of the clauses has no score for a row; those behind one that does not match are not asked. -/
def breaksOff (contentField : String) (r : Row) : List Clause → Bool
  | [] => false
  | clause :: rest =>
    match clause.score? contentField r with
    | none => true
    | some none => false
    | some (some _) => breaksOff contentField r rest

end Clause

namespace Table

/-- Whether a facet query has no score for a row; those behind one that cannot be read are not asked. -/
def facetsBreakOff (contentField : String) (rows : List Row) : List (String × String) → Bool
  | [] => false
  | facet :: rest =>
    match Lucene.read (queryFacetKey facet.1 facet.2) with
    | .error _ => false
    | .ok clause =>
      rows.any (fun r => Clause.breaksOff contentField r [clause]) ||
        facetsBreakOff contentField rows rest

/-- Whether the rows that match have no order, or a facet query no score for one of them. -/
def respondBreaksOff (t : Table) (options : SearchOptions) (matched : List Scored) : Bool :=
  (sortMatches? options.sortBy matched).isNone ||
    facetsBreakOff t.settings.contentField (matched.map Scored.row) options.queryFacets

def searchBreaksOff (t : Table) (query : String) (options : SearchOptions) : Bool :=
  match Lucene.read query, readAll options.narrow with
  | .ok clause, .ok narrow =>
    t.rows.any (fun r => Clause.breaksOff t.settings.contentField r (narrow ++ [clause])) ||
      t.respondBreaksOff options (t.matching clause narrow)
  | _, _ => false

def similarBreaksOff (t : Table) (identity : String) (options : SearchOptions) : Bool :=
  match readAll options.narrow, t.rows.find? fun r => r.identity = identity with
  | .ok narrow, some source =>
    (t.rows.filter fun r => r.identity ≠ identity).any
        (fun r => Clause.breaksOff t.settings.contentField r narrow) ||
      t.respondBreaksOff options (t.sharing source narrow)
  | _, _ => false

end Table

/-- Engines that may know how many documents they have, and whether a search of theirs broke off. -/
class Monitored (σ : Type) extends Engine σ where
  size? : σ → Option Nat
  brokeOff : σ → Bool

instance : Monitored Unreachable := ⟨fun _ => none, fun _ => false⟩

/-- A table that remembers whether a search of it broke off. -/
structure MonitoredTable where
  table : Table
  brokeOff : Bool

namespace MonitoredTable

def empty (settings : Settings) : MonitoredTable := ⟨.empty settings, false⟩

def changed (m : MonitoredTable) (change : Table → Except Error Table) : Except Error MonitoredTable :=
  (change m.table).map fun table => { m with table := table }

instance : Monitored MonitoredTable where
  querySyntax m := Engine.querySyntax m.table
  update m schema documents := m.changed fun t => Engine.update t schema documents
  remove m identity := m.changed fun t => Engine.remove t identity
  clear m models := m.changed fun t => Engine.clear t models
  search m query options :=
    (m.table.search query options, { m with brokeOff := m.brokeOff || m.table.searchBreaksOff query options })
  similar m identity options :=
    (m.table.similar identity options,
      { m with brokeOff := m.brokeOff || m.table.similarBreaksOff identity options })
  size? m := some m.table.size
  brokeOff := MonitoredTable.brokeOff

end MonitoredTable

def QueryRecord.isBeyond (r : QueryRecord) : Bool := UInt64.size ≤ r.stop.getD 0

namespace Connection

variable {σ Obj : Type}

def monitored (c : Connection σ Obj) : Connection σ Obj :=
  { c with settings := { c.settings with debug := true }, log := .ofEnabled true, storeCalls := [] }

/-- Whether a number has outgrown its machine word. -/
def hasOutgrown [Monitored σ] (c : Connection σ Obj) : Bool :=
  Monitored.brokeOff c.engine || c.log.records.any QueryRecord.isBeyond

/-- A monitored connection with what `before` would have recorded from there on. -/
def released (c before : Connection σ Obj) : Connection σ Obj :=
  { c with
    settings := before.settings
    log := c.log.records.foldl (fun log r => if before.settings.debug then log.record r else log)
      before.log.reset }

end Connection

end RecordSearch
