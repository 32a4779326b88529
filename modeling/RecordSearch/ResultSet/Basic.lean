import RecordSearch.ResultSet.Plan
import RecordSearch.ResultSet.Reading
import RecordSearch.Text.Blank

namespace RecordSearch

structure ResultSet (Obj : Type) where
  plan : Plan
  pageSize : PageSize
  cache : Cache (Hit Obj)
  loadAll : Bool
  /-- Whether hits without an object are dropped when objects are loaded. -/
  related : Bool
  stores : SortedMap ModelType (ObjectStore Obj)

namespace ResultSet

variable {Obj : Type}

def ofPlan (settings : Settings) (plan : Plan) : ResultSet Obj where
  plan := plan
  pageSize := .of settings.pageSize
  cache := .fresh
  loadAll := false
  related := false
  stores := .empty

def ofSettings (settings : Settings) : ResultSet Obj := ofPlan settings .empty

def all (s : ResultSet Obj) : ResultSet Obj := { s with cache := .fresh }

def withPlan (s : ResultSet Obj) (plan : Plan) : ResultSet Obj :=
  { s with plan := plan, cache := .fresh }

def withPageSize (s : ResultSet Obj) (n : Nat) : ResultSet Obj := { s.all with pageSize := .of n }

def filter (s : ResultSet Obj) (c : Condition) : ResultSet Obj :=
  s.withPlan (s.plan.addFilter c .and)

def filterOr (s : ResultSet Obj) (c : Condition) : ResultSet Obj :=
  s.withPlan (s.plan.addFilter c .or)

def exclude (s : ResultSet Obj) (c : Condition) : ResultSet Obj := s.filter c.inverted

def orderBy (s : ResultSet Obj) (fields : List String) : ResultSet Obj :=
  s.withPlan (s.plan.addOrder fields)

def clearOrder (s : ResultSet Obj) (settings : Settings) : ResultSet Obj :=
  ofPlan settings { s.plan with orderBy := [] }

def models (s : ResultSet Obj) (models : List ModelType) : ResultSet Obj :=
  s.withPlan (s.plan.addModels models)

def highlight (s : ResultSet Obj) : ResultSet Obj := s.withPlan { s.plan with highlight := true }

def boost (s : ResultSet Obj) (term : String) (factor : Float) : ResultSet Obj :=
  s.withPlan (s.plan.addBoost term factor)

def facet (s : ResultSet Obj) (field : String) : ResultSet Obj := s.withPlan (s.plan.addFacet field)

def dateFacet (s : ResultSet Obj) (field : String) (facet : DateFacet) : ResultSet Obj :=
  s.withPlan (s.plan.addDateFacet field facet)

def queryFacet (s : ResultSet Obj) (field query : String) : ResultSet Obj :=
  s.withPlan (s.plan.addQueryFacet field query)

def narrow (s : ResultSet Obj) (query : String) : ResultSet Obj :=
  s.withPlan (s.plan.addNarrow query)

def rawSearch (s : ResultSet Obj) (query : String) : ResultSet Obj :=
  s.withPlan { s.plan with rawQuery := some query }

/-- Quoted phrases of a text, and the text with a blank in place of each. -/
def cutPhrases : List Char → List (List Char) × List Char
  | [] => ([], [])
  | c :: s =>
    match _found : if c = '"' || c = '\'' then Text.splitFirst? [c] s else none with
    | some (phrase, after) =>
      let (phrases, rest) := cutPhrases after
      (phrase :: phrases, ' ' :: rest)
    | none =>
      let (phrases, rest) := cutPhrases s
      (phrases, c :: rest)
termination_by s => s.length
decreasing_by
  · split at _found
    · have whole := congrArg List.length (Text.eq_of_splitFirst? _found)
      simp only [List.length_append, List.length_cons] at whole ⊢
      omega
    · contradiction
  · simp

/-- The condition that a word of a user's query stands for; a dash in front excludes a word. -/
def wordCondition (contentField : String) (word : List Char) : Condition :=
  let lookup := fun text => Condition.lookup contentField (.text (String.ofList text))
  match word with
  | ['-'] => lookup word
  | '-' :: excluded => (lookup excluded).inverted
  | _ => lookup word

/-- The conditions of a user's query: its phrases first, then its words. -/
def autoConditions (contentField : String) (query : String) : List Condition :=
  let (phrases, rest) := cutPhrases query.toList
  phrases.map (fun phrase => .lookup contentField (.text (String.ofList phrase))) ++
    (Text.blankSeparated rest).map (wordCondition contentField)

def autoQuery (s : ResultSet Obj) (settings : Settings) (query : String) : ResultSet Obj :=
  s.withPlan <| (autoConditions settings.contentField query).foldl
    (fun plan c => plan.addFilter c .and) s.plan

def moreLikeThis [Source Obj] (s : ResultSet Obj) (o : Obj) : Except Error (ResultSet Obj) :=
  (Source.identity o).map fun identity => s.withPlan { s.plan with similarTo := some identity }

def loadingAll (s : ResultSet Obj) : ResultSet Obj := { s.all with loadAll := true }

def relatedOnly (s : ResultSet Obj) : ResultSet Obj := { s.all with related := true }

/-- Loads the objects of a model from another store; only sets that drop hits without object do. -/
def loadingFrom (s : ResultSet Obj) (model : ModelType) (store : ObjectStore Obj) :
    Except Error (ResultSet Obj) :=
  if s.related then .ok { s.all with stores := s.stores.insert model store }
  else .error .replacementStore

def combine (s other : ResultSet Obj) (join : Connector) : ResultSet Obj :=
  s.withPlan (s.plan.combine other.plan join)

def latestFirst (s : ResultSet Obj) (field : String) : ResultSet Obj := s.orderBy ["-" ++ field]

end ResultSet

end RecordSearch
