import RecordSearch.ResultSet.Basic

namespace RecordSearch

namespace ResultSet

variable {σ Obj : Type}

def keysByModel (hits : List (Hit Obj)) : SortedMap ModelType (List String) :=
  hits.foldl (fun keys h => keys.insert h.model ((keys.find? h.model).getD [] ++ [h.pk])) .empty

def storeFor? (s : ResultSet Obj) (registry : Registry Obj) (model : ModelType) :
    Option (Bool × ObjectStore Obj) :=
  match s.stores.find? model with
  | some store => some (true, store)
  | none => (registry.entry? model).map fun entry => (false, entry.store)

/-- Loads the objects of one model by a single call. -/
def loadModel (s : ResultSet Obj) (c : Connection σ Obj) (model : ModelType) (pks : List String) :
    List (String × Obj) × Connection σ Obj :=
  match s.storeFor? c.registry model with
  | none => ([], c)
  | some (replacement, store) =>
    let found := match store.inBulk pks with
      | .ok found => found
      | .error _ => []
    (found, c.noteCall (.inBulk replacement model pks))

def loadModels (s : ResultSet Obj) (c : Connection σ Obj) :
    List (ModelType × List String) → List (ModelType × List (String × Obj)) × Connection σ Obj
  | [] => ([], c)
  | (model, pks) :: rest =>
    let (found, c) := s.loadModel c model pks
    let (others, c) := s.loadModels c rest
    ((model, found) :: others, c)

def objectOf? (loaded : List (ModelType × List (String × Obj))) (h : Hit Obj) : Option Obj :=
  match loaded.find? fun entry => entry.1 = h.model with
  | some entry => (entry.2.find? fun object => object.1 = h.pk).map Prod.snd
  | none => none

/-- A hit with its object; without one it is dropped where that is asked for. -/
def itemOf (related : Bool) (loaded : List (ModelType × List (String × Obj))) (h : Hit Obj) :
    Option (Hit Obj) :=
  match objectOf? loaded h with
  | some o => some (h.withObject o)
  | none => if related then none else some h

def loadItems (s : ResultSet Obj) (c : Connection σ Obj) (hits : List (Hit Obj)) :
    List (Option (Hit Obj)) × Connection σ Obj :=
  if s.loadAll then
    let (loaded, c) := s.loadModels c (keysByModel hits).entries
    (hits.map (itemOf s.related loaded), c)
  else (hits.map some, c)

variable [Engine σ]

def fetch (s : ResultSet Obj) : Fetch (Connection σ Obj) (Hit Obj) := fun c start stop =>
  let (response, c) := s.plan.run c start (some stop)
  let (items, c) := s.loadItems c response.results
  (⟨response.hits, items⟩, c)

end ResultSet

end RecordSearch
