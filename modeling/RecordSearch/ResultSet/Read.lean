import RecordSearch.ResultSet.Load

namespace RecordSearch

namespace ResultSet

variable {σ Obj : Type} [Engine σ]

def readWith {β : Type} (s : ResultSet Obj) (c : Connection σ Obj)
    (reader : Reading (Connection σ Obj) (Hit Obj) → β × Reading (Connection σ Obj) (Hit Obj)) :
    β × ResultSet Obj × Connection σ Obj :=
  let (answer, r) := reader ⟨s.cache, c⟩
  (answer, { s with cache := r.cache }, r.source)

/-- The number of hits; it is asked for once. -/
def count (s : ResultSet Obj) (c : Connection σ Obj) : Nat × ResultSet Obj × Connection σ Obj :=
  match s.cache.hitCount with
  | some n => (n, s, c)
  | none =>
    let (response, c) := s.plan.run c 0 (some 0)
    (response.hits, { s with cache := s.cache.setCount response.hits }, c)

def get (s : ResultSet Obj) (c : Connection σ Obj) (position : Nat) :
    Option (Hit Obj) × ResultSet Obj × Connection σ Obj :=
  s.readWith c fun r => r.get s.fetch s.pageSize position

def fillCache (s : ResultSet Obj) (c : Connection σ Obj) (start stop : Nat) :
    Bool × ResultSet Obj × Connection σ Obj :=
  s.readWith c fun r => r.fill s.fetch start stop

def slice (s : ResultSet Obj) (c : Connection σ Obj) (start : Nat) (stop : Option Nat) :
    List (Hit Obj) × ResultSet Obj × Connection σ Obj :=
  s.readWith c fun r => r.slice s.fetch s.pageSize start stop

def sliceStep (s : ResultSet Obj) (c : Connection σ Obj) (start : Nat) (stop : Option Nat)
    (step : Nat) : List (Hit Obj) × ResultSet Obj × Connection σ Obj :=
  s.readWith c fun r => r.sliceStep s.fetch s.pageSize start stop step

/-- The hits from a position on that an iterator has come to, all of them without a limit. -/
def iterAt (s : ResultSet Obj) (c : Connection σ Obj) (position : Nat) (limit : Option Nat) :
    List (Hit Obj) × ResultSet Obj × Connection σ Obj :=
  s.readWith c fun r => r.iterAt s.fetch s.pageSize position limit

def iter (s : ResultSet Obj) (c : Connection σ Obj) (limit : Option Nat) :
    List (Hit Obj) × ResultSet Obj × Connection σ Obj := s.iterAt c 0 limit

/-- The first hits, fetched page by page past the cache. -/
def stream (s : ResultSet Obj) (c : Connection σ Obj) (limit : Option Nat) :
    List (Hit Obj) × Connection σ Obj :=
  Reading.stream s.fetch s.pageSize limit c

def facetCounts (s : ResultSet Obj) (c : Connection σ Obj) : FacetCounts × Connection σ Obj :=
  let (response, c) := s.plan.run c 0 (some 0)
  (response.facets, c)

def bestMatch (s : ResultSet Obj) (c : Connection σ Obj) :
    Option (Hit Obj) × ResultSet Obj × Connection σ Obj :=
  s.get c 0

def latest (s : ResultSet Obj) (c : Connection σ Obj) (field : String) :
    Option (Hit Obj) × Connection σ Obj :=
  let (hit, _, c) := (s.latestFirst field).bestMatch c
  (hit, c)

def loadAt (s : ResultSet Obj) (c : Connection σ Obj) (position : Nat) (h : Hit Obj) :
    Hit Obj × ResultSet Obj × Connection σ Obj :=
  let (h, c) := h.load c
  (h, { s with cache := s.cache.setValue position h }, c)

def countText : Option Nat → String
  | some n => "Some(" ++ toString n ++ ")"
  | none => "None"

def describe (s : ResultSet Obj) (syn : QuerySyntax) (settings : Settings) : String :=
  "SearchQuerySet \x7b query: " ++ Text.quoted (s.plan.query syn settings) ++
    ", page_size: " ++ toString s.pageSize.val ++
    ", hit_count: " ++ countText s.cache.hitCount ++
    ", cached: " ++ toString s.cache.filledCount ++
    ", load_all: " ++ Value.booleanText s.loadAll ++
    ", related: " ++ Value.booleanText s.related ++ " \x7d"

end ResultSet

end RecordSearch
