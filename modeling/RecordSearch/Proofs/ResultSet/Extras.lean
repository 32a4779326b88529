import RecordSearch.Proofs.Index.Survival
import RecordSearch.Proofs.ResultSet.Found

/-!
Counts and marks that a search asks for besides its hits. They leave the hits and their order alone, unless a
query whose matches are to be counted cannot be read: then there are no hits.
-/

namespace RecordSearch

namespace RawHit

def bare (h : RawHit) : RawHit := { h with highlighted := .empty }

end RawHit

namespace RawResults

def bare (answer : RawResults) : RawResults := ⟨answer.hits, answer.results.map RawHit.bare, .empty⟩

end RawResults

namespace Hit

variable {Obj : Type}

/-- What tells a hit from others: its type, its key and its score. -/
def rank (h : Hit Obj) : ModelType × String × Float := (h.model, h.pk, h.score)

end Hit

namespace Plan

variable {Obj : Type}

def Response.ranking (r : Response Obj) : Nat × List (ModelType × String × Float) :=
  (r.hits, r.results.map Hit.rank)

def bare (p : Plan) : Plan :=
  { p with facets := [], dateFacets := .empty, queryFacets := [], highlight := false }

section

variable (p : Plan) (t : Table) (syn : QuerySyntax) (settings : Settings) (start : Nat) (stop : Option Nat)

end

end Plan

end RecordSearch
