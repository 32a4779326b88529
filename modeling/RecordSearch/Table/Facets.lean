import RecordSearch.Query.Lucene
import RecordSearch.Search.Options
import RecordSearch.Table.Order
import RecordSearch.Table.Score

namespace RecordSearch.Table

open Calendar (DateTime)

def facetKey (v : Value) : String :=
  match v with
  | .date _ | .dateTime _ => Lucene.dateText v
  | v => v.display

def fieldItems (field : String) (rows : List Row) : List Value :=
  rows.flatMap fun r => ((r.value? field).map Value.scalars).getD []

def countKey (counts : SortedMap String Nat) (key : String) : SortedMap String Nat :=
  counts.insert key ((counts.find? key).getD 0 + 1)

/-- The keys of a field with their counts, the most frequent first and those of one count in order. -/
def fieldFacet (field : String) (rows : List Row) : List (String × Nat) :=
  let counts := ((fieldItems field rows).map facetKey).foldl countKey .empty
  Sorting.sorted (fun a b => a.2 > b.2) counts.entries

def inBucket (field : String) (start stop : DateTime) (r : Row) : Bool :=
  match r.value? field with
  | none => false
  | some v =>
    v.scalars.any fun item =>
      match item.dateTime? with
      | some t => start ≤ t && t < stop
      | none => false

def bucketLabel (start : DateTime) : String := String.ofList (start.text ++ ['Z'])

/-- The buckets from `start` on, as long as stepping leads further. -/
def buckets (facet : DateFacet) (field : String) (rows : List Row) (start : DateTime) :
    List (String × Nat) :=
  if _ : start < facet.stop then
    match start.step? facet.unit facet.amount with
    | none => []
    | some next =>
      if _ : start < next then
        (bucketLabel start, rows.countP (inBucket field start next)) ::
          buckets facet field rows next
      else []
  else []
termination_by (facet.stop.rank - start.rank).toNat
decreasing_by
  have before : start.rank < facet.stop.rank := ‹start < facet.stop›
  have later : start.rank < next.rank := ‹start < next›
  omega

def queryFacetKey (field query : String) : String := field ++ ":" ++ query

/-- The matches of each query on its field; the later of two with one key counts. -/
def queryFacets (contentField : String) (rows : List Row) (counts : SortedMap String Nat) :
    List (String × String) → Except Error (SortedMap String Nat)
  | [] => .ok counts
  | (field, query) :: rest =>
    let key := queryFacetKey field query
    match Lucene.read key with
    | .error e => .error e
    | .ok clause =>
      queryFacets contentField rows
        (counts.insert key (rows.countP (clause.accepts contentField))) rest

def facetCounts (contentField : String) (options : SearchOptions) (rows : List Row) :
    Except Error FacetCounts :=
  (queryFacets contentField rows .empty options.queryFacets).map fun queries =>
    { fields := .ofList (options.facets.map fun field => (field, fieldFacet field rows))
      dates := options.dateFacets.mapValues fun field facet => buckets facet field rows facet.start
      queries := queries }

end RecordSearch.Table
