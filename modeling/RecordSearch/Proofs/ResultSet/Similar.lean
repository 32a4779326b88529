import RecordSearch.Proofs.ResultSet.Restricted

namespace RecordSearch

namespace Table

variable {t : Table} {source r : Row} {query : String}

def matched (t : Table) (query : String) : List Row :=
  t.rows.filter fun r => r.satisfies t.settings.contentField query

end Table

namespace Plan

variable {Obj : Type} {c : Connection Table Obj} {p : Plan} {r : Row}

variable [Source Obj] {settings : Settings} {calls : List (Table.Call Obj)} {source : Row}

end Plan

end RecordSearch
