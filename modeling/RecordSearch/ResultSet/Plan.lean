import RecordSearch.Condition.Extend
import RecordSearch.Condition.Write
import RecordSearch.ResultSet.Hit

namespace RecordSearch

structure Plan where
  filter : Condition
  orderBy : List String
  models : List ModelType
  boosts : SortedMap String Float
  facets : List String
  dateFacets : SortedMap String DateFacet
  queryFacets : List (String × String)
  narrow : List String
  highlight : Bool
  rawQuery : Option String
  similarTo : Option String

namespace Plan

def empty : Plan where
  filter := .empty
  orderBy := []
  models := []
  boosts := .empty
  facets := []
  dateFacets := .empty
  queryFacets := []
  narrow := []
  highlight := false
  rawQuery := none
  similarTo := none

def addFilter (p : Plan) (c : Condition) (join : Connector) : Plan :=
  { p with filter := p.filter.extend join c }

def combine (p other : Plan) (join : Connector) : Plan := p.addFilter other.filter join

def addOrder (p : Plan) (fields : List String) : Plan := { p with orderBy := p.orderBy ++ fields }

def addModels (p : Plan) (models : List ModelType) : Plan :=
  { p with models := models.foldl (fun all m => insertSorted m all) p.models }

def addBoost (p : Plan) (term : String) (boost : Float) : Plan :=
  { p with boosts := p.boosts.insert term boost }

def addFacet (p : Plan) (field : String) : Plan := { p with facets := insertSorted field p.facets }

def addDateFacet (p : Plan) (field : String) (facet : DateFacet) : Plan :=
  { p with dateFacets := p.dateFacets.insert field facet }

def addQueryFacet (p : Plan) (field query : String) : Plan :=
  { p with queryFacets := p.queryFacets ++ [(field, query)] }

def addNarrow (p : Plan) (query : String) : Plan := { p with narrow := insertSorted query p.narrow }

/-- The conditions with the restriction to models. -/
def restricted (p : Plan) (settings : Settings) : Condition :=
  if p.models.isEmpty then p.filter
  else
    let labels := p.models.map fun m => Value.text m.label
    p.filter.add (.lookup (settings.typeField ++ "__in") (.list labels)) .and

def conditionQuery (p : Plan) (syn : QuerySyntax) (settings : Settings) : String :=
  let root := p.restricted settings
  if root.isEmpty then syn.everything else root.write syn

def query (p : Plan) (syn : QuerySyntax) (settings : Settings) : String :=
  match p.rawQuery with
  | some raw => raw
  | none =>
    let query := p.conditionQuery syn settings
    if p.boosts.isEmpty then query
    else
      query ++ " " ++
        " ".intercalate (p.boosts.entries.map fun entry => syn.boosted entry.1 entry.2)

/-- The request for the hits of a window; similar documents have to match the conditions too. -/
def options (p : Plan) (syn : QuerySyntax) (settings : Settings) (start : Nat)
    (stop : Option Nat) : SearchOptions where
  start := start
  stop := stop
  sortBy := p.orderBy
  highlight := p.highlight
  facets := p.facets
  dateFacets := p.dateFacets
  queryFacets := p.queryFacets
  narrow :=
    if p.similarTo.isSome && (!p.filter.isEmpty || !p.models.isEmpty) then
      insertSorted (p.query syn settings) p.narrow
    else p.narrow

structure Response (Obj : Type) where
  hits : Nat
  results : List (Hit Obj)
  facets : FacetCounts

variable {σ : Type} [Engine σ] {Obj : Type}

def ask (p : Plan) (c : Connection σ Obj) (start : Nat) (stop : Option Nat) :
    String × RawResults × σ :=
  let syn := Engine.querySyntax c.engine
  let options := p.options syn c.settings start stop
  match p.similarTo with
  | some identity => ("more_like_this:" ++ identity, Engine.findSimilar c.engine identity options)
  | none =>
    let query := p.query syn c.settings
    (query, Engine.find c.engine query options)

def run (p : Plan) (c : Connection σ Obj) (start : Nat) (stop : Option Nat) :
    Response Obj × Connection σ Obj :=
  let (query, raw, engine) := p.ask c start stop
  let c := { c with engine := engine }
  let c := c.recordQuery ⟨query, raw.hits, start, stop⟩
  ({ hits := raw.hits
     results := raw.results.filterMap (Hit.ofRaw? c.registry c.settings)
     facets := raw.facets }, c)

end Plan

end RecordSearch
