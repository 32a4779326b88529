import RecordSearch.ResultSet.Load

namespace RecordSearch

variable {Obj : Type}

namespace ObjectStore

def object? (store : ObjectStore Obj) (pk : String) : Option Obj :=
  match store.get pk with
  | .ok found => found
  | .error _ => none

def objectAmong? (store : ObjectStore Obj) (pks : List String) (pk : String) : Option Obj :=
  match store.inBulk pks with
  | .ok found => (found.find? fun object => object.1 = pk).map Prod.snd
  | .error _ => none

/-- A store whose calls for several keys all fail, or answer for each of them as it does for one. -/
def KeyByKey (store : ObjectStore Obj) : Prop :=
  (∀ pks, pks ≠ [] → ∃ e, store.inBulk pks = .error e) ∨
    ∀ pks, (∃ found, store.inBulk pks = .ok found) ∧
      ∀ pk ∈ pks, store.objectAmong? pks pk = store.object? pk

/-- The other keys of a call do not matter. -/
theorem KeyByKey.objectAmong? {store : ObjectStore Obj} (keyByKey : store.KeyByKey) {pks : List String}
    {pk : String} (listed : pk ∈ pks) : store.objectAmong? pks pk = store.objectAmong? [pk] pk := by
  rcases keyByKey with failing | answering
  · have nothing : ∀ keys, pk ∈ keys → store.objectAmong? keys pk = none := by
      intro keys present
      obtain ⟨e, failed⟩ := failing keys (List.ne_nil_of_mem present)
      rw [ObjectStore.objectAmong?, failed]
    rw [nothing pks listed, nothing [pk] (List.mem_singleton_self pk)]
  · rw [(answering pks).2 pk listed, (answering [pk]).2 pk (List.mem_singleton_self pk)]

end ObjectStore

namespace ObjectList

theorem find?_findAll (s : ObjectList Obj) (pks : List String) (pk : String) :
    ((s.findAll pks).find? fun object => object.1 = pk).map Prod.snd =
      if pk ∈ pks then s.find? pk else none := by
  induction pks with
  | nil => rfl
  | cons first rest ih =>
      cases found : s.find? first with
      | none =>
          have skipped : s.findAll (first :: rest) = s.findAll rest :=
            List.filterMap_cons_none (by rw [found]; rfl)
          rw [skipped, ih]
          by_cases same : pk = first
          · rw [same, found, ite_self, ite_self]
          · simp only [List.mem_cons, same, false_or]
      | some o =>
          have taken : s.findAll (first :: rest) = (first, o) :: s.findAll rest :=
            List.filterMap_cons_some (by rw [found]; rfl)
          rw [taken, List.find?_cons]
          by_cases same : pk = first
          · simp only [same, decide_true, Option.map_some, List.mem_cons_self, if_true, found]
          · simp only [Ne.symm same, decide_false, List.mem_cons, same, false_or]
            exact ih

theorem keyByKey_toStore (s : ObjectList Obj) : s.toStore.KeyByKey := by
  refine Or.inr fun pks => ⟨⟨s.findAll pks, rfl⟩, ?_⟩
  intro pk listed
  change ((s.findAll pks).find? fun object => object.1 = pk).map Prod.snd = s.find? pk
  rw [find?_findAll, if_pos listed]

end ObjectList

namespace Connection

variable {σ : Type}

/-- The same engine, settings and registry; only the logs may differ. -/
structure Alike (c d : Connection σ Obj) : Prop where
  engine : d.engine = c.engine
  settings : d.settings = c.settings
  registry : d.registry = c.registry

theorem Alike.refl (c : Connection σ Obj) : c.Alike c := ⟨rfl, rfl, rfl⟩

theorem Alike.trans {c d e : Connection σ Obj} (first : c.Alike d) (second : d.Alike e) : c.Alike e :=
  ⟨second.engine.trans first.engine, second.settings.trans first.settings,
    second.registry.trans first.registry⟩

theorem alike_noteCall (c : Connection σ Obj) (call : StoreCall) : c.Alike (c.noteCall call) :=
  ⟨rfl, rfl, rfl⟩

theorem alike_recordQuery (c : Connection σ Obj) (r : QueryRecord) : c.Alike (c.recordQuery r) := by
  unfold recordQuery
  split
  · exact ⟨rfl, rfl, rfl⟩
  · exact Alike.refl c

end Connection

namespace ResultSet

variable {σ : Type}

def IsListed (keys : SortedMap ModelType (List String)) (h : Hit Obj) : Prop :=
  ∃ pks, keys.find? h.model = some pks ∧ h.pk ∈ pks

theorem IsListed.insert {keys : SortedMap ModelType (List String)} {h : Hit Obj} (g : Hit Obj)
    (listed : IsListed keys h ∨ h = g) :
    IsListed (keys.insert g.model ((keys.find? g.model).getD [] ++ [g.pk])) h := by
  unfold IsListed
  rw [SortedMap.find?_insert]
  split
  · rename_i same
    refine ⟨_, rfl, ?_⟩
    rcases listed with ⟨pks, found, present⟩ | rfl
    · rw [← same, found]
      exact List.mem_append_left _ present
    · exact List.mem_append_right _ (List.mem_singleton_self h.pk)
  · rename_i other
    rcases listed with before | rfl
    · exact before
    · exact absurd rfl other

theorem isListed_foldl {hits : List (Hit Obj)} {keys : SortedMap ModelType (List String)} {h : Hit Obj}
    (listed : IsListed keys h ∨ h ∈ hits) :
    IsListed (hits.foldl (fun keys h =>
      keys.insert h.model ((keys.find? h.model).getD [] ++ [h.pk])) keys) h := by
  induction hits generalizing keys with
  | nil =>
      rcases listed with before | present
      · exact before
      · cases present
  | cons g rest ih =>
      rw [List.foldl_cons]
      apply ih
      rcases listed with before | present
      · exact Or.inl (IsListed.insert g (Or.inl before))
      · rcases List.mem_cons.1 present with rfl | later
        · exact Or.inl (IsListed.insert h (Or.inr rfl))
        · exact Or.inr later

theorem isListed_keysByModel {hits : List (Hit Obj)} {h : Hit Obj} (present : h ∈ hits) :
    IsListed (keysByModel hits) h := isListed_foldl (Or.inr present)

def found (s : ResultSet Obj) (registry : Registry Obj) (model : ModelType) (pks : List String) :
    List (String × Obj) :=
  match s.storeFor? registry model with
  | none => []
  | some (_, store) =>
    match store.inBulk pks with
    | .ok found => found
    | .error _ => []

theorem loadModel_eq (s : ResultSet Obj) (c : Connection σ Obj) (model : ModelType) (pks : List String) :
    (s.loadModel c model pks).1 = s.found c.registry model pks ∧
      c.Alike (s.loadModel c model pks).2 := by
  unfold loadModel found
  cases s.storeFor? c.registry model with
  | none => exact ⟨rfl, Connection.Alike.refl c⟩
  | some entry =>
      refine ⟨?_, c.alike_noteCall _⟩
      cases entry.2.inBulk pks <;> rfl

theorem loadModels_eq (s : ResultSet Obj) (c : Connection σ Obj)
    (entries : List (ModelType × List String)) :
    (s.loadModels c entries).1 = entries.map (fun entry => (entry.1, s.found c.registry entry.1 entry.2)) ∧
      c.Alike (s.loadModels c entries).2 := by
  induction entries generalizing c with
  | nil => exact ⟨rfl, Connection.Alike.refl c⟩
  | cons entry rest ih =>
      obtain ⟨first, kept⟩ := s.loadModel_eq c entry.1 entry.2
      obtain ⟨others, still⟩ := ih (s.loadModel c entry.1 entry.2).2
      rw [kept.registry] at others
      refine ⟨?_, kept.trans still⟩
      rw [List.map_cons, ← first, ← others]
      rfl

def object? (s : ResultSet Obj) (registry : Registry Obj) (h : Hit Obj) : Option Obj :=
  (s.storeFor? registry h.model).bind fun entry => entry.2.objectAmong? [h.pk] h.pk

/-- Stores that answer for several keys as for each. -/
def LoadsByKey (s : ResultSet Obj) (registry : Registry Obj) : Prop :=
  ∀ model replacement store, s.storeFor? registry model = some (replacement, store) → store.KeyByKey

theorem objectOf?_of_find? {s : ResultSet Obj} {c : Connection σ Obj} {keys : SortedMap ModelType (List String)}
    {h : Hit Obj} {pks : List String} (listed : keys.find? h.model = some pks) :
    objectOf? (s.loadModels c keys.entries).1 h =
      (s.storeFor? c.registry h.model).bind fun source => source.2.objectAmong? pks h.pk := by
  obtain ⟨entry, there, rfl⟩ := Option.map_eq_some_iff.1 listed
  have model : entry.1 = h.model := by
    have fits := List.find?_some there
    exact of_decide_eq_true fits
  have loaded : (s.loadModels c keys.entries).1.find? (fun other => other.1 = h.model) =
      some (entry.1, s.found c.registry entry.1 entry.2) := by
    rw [(s.loadModels_eq c keys.entries).1, List.find?_map]
    exact congrArg (Option.map _) there
  rw [objectOf?, loaded, model]
  simp only [found]
  cases s.storeFor? c.registry h.model with
  | none => rfl
  | some source =>
      obtain ⟨replacement, store⟩ := source
      simp only [Option.bind_some, ObjectStore.objectAmong?]
      cases store.inBulk entry.2 <;> rfl

theorem objectOf?_loadModels {s : ResultSet Obj} {c : Connection σ Obj} (byKey : s.LoadsByKey c.registry)
    {hits : List (Hit Obj)} {h : Hit Obj} (present : h ∈ hits) :
    objectOf? (s.loadModels c (keysByModel hits).entries).1 h = s.object? c.registry h := by
  obtain ⟨pks, listed, inside⟩ := isListed_keysByModel present
  rw [objectOf?_of_find? listed, object?]
  cases used : s.storeFor? c.registry h.model with
  | none => rfl
  | some source => exact (byKey h.model source.1 source.2 used).objectAmong? inside

/-- What a hit is shown as: with its object, or not at all where it has none and that is asked for. -/
def itemFor (s : ResultSet Obj) (registry : Registry Obj) (h : Hit Obj) : Option (Hit Obj) :=
  if s.loadAll then
    match s.object? registry h with
    | some o => some (h.withObject o)
    | none => if s.related then none else some h
  else some h

/-- A page is loaded hit by hit. -/
theorem loadItems_eq {s : ResultSet Obj} {c : Connection σ Obj} (byKey : s.LoadsByKey c.registry)
    (hits : List (Hit Obj)) :
    (s.loadItems c hits).1 = hits.map (s.itemFor c.registry) ∧ c.Alike (s.loadItems c hits).2 := by
  unfold loadItems
  split
  · rename_i loading
    refine ⟨?_, (s.loadModels_eq c (keysByModel hits).entries).2⟩
    apply List.map_congr_left
    intro h present
    have object := objectOf?_loadModels byKey present
    cases found : s.object? c.registry h with
    | none => simp only [itemOf, object, found, itemFor, loading, if_true]
    | some o => simp only [itemOf, object, found, itemFor, loading, if_true]
  · rename_i plain
    refine ⟨?_, Connection.Alike.refl c⟩
    apply List.map_congr_left
    intro h _
    rw [itemFor, if_neg plain]

end ResultSet

end RecordSearch
