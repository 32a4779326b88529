import RecordSearch.Calendar.DateTime
import RecordSearch.SortedMap
import RecordSearch.Value

namespace RecordSearch

open Calendar (DateTime TimeUnit)

structure DateFacet where
  start : DateTime
  stop : DateTime
  unit : TimeUnit
  amount : Nat
  deriving DecidableEq, Repr

structure SearchOptions where
  start : Nat
  /-- The position after the last hit to return; all hits are returned without it. -/
  stop : Option Nat
  /-- Fields to sort by, those in descending order with a dash in front. -/
  sortBy : List String
  highlight : Bool
  facets : List String
  dateFacets : SortedMap String DateFacet
  queryFacets : List (String × String)
  narrow : List String

namespace SearchOptions

def default : SearchOptions where
  start := 0
  stop := none
  sortBy := []
  highlight := false
  facets := []
  dateFacets := .empty
  queryFacets := []
  narrow := []

def countOnly : SearchOptions := { default with stop := some 0 }

end SearchOptions

structure RawHit where
  fields : SortedMap String Value
  score : Float
  highlighted : SortedMap String (List String)

structure FacetCounts where
  fields : SortedMap String (List (String × Nat))
  dates : SortedMap String (List (String × Nat))
  queries : SortedMap String Nat

namespace FacetCounts

def empty : FacetCounts := ⟨.empty, .empty, .empty⟩

def isEmpty (f : FacetCounts) : Bool := f.fields.isEmpty && f.dates.isEmpty && f.queries.isEmpty

end FacetCounts

structure RawResults where
  hits : Nat
  results : List RawHit
  facets : FacetCounts

def RawResults.empty : RawResults := ⟨0, [], .empty⟩

end RecordSearch
