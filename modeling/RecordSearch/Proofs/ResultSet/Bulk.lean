import Mathlib.Data.String.Basic
import RecordSearch.Proofs.ResultSet.Agreement
import RecordSearch.Proofs.ResultSet.Fetches
import RecordSearch.Proofs.ResultSet.Load
import RecordSearch.Proofs.SortedMap

namespace RecordSearch

instance : IsStrictTotalOrder ModelType (· < ·) where
  irrefl a := by
    rintro (less | ⟨-, less⟩)
    · exact lt_irrefl a.app less
    · exact lt_irrefl a.name less
  trans a b c := by
    rintro (less | ⟨same, less⟩) (more | ⟨equal, more⟩)
    · exact .inl (less.trans more)
    · exact .inl (equal ▸ less)
    · exact .inl (same ▸ more)
    · exact .inr ⟨same.trans equal, less.trans more⟩
  trichotomous a b below above := by
    have app : a.app = b.app :=
      le_antisymm (not_lt.1 fun more => above (.inl more)) (not_lt.1 fun less => below (.inl less))
    have name : a.name = b.name :=
      le_antisymm (not_lt.1 fun more => above (.inr ⟨app.symm, more⟩))
        (not_lt.1 fun less => below (.inr ⟨app, less⟩))
    cases a
    cases b
    exact congrArg₂ ModelType.mk app name

def StoreCall.model : StoreCall → ModelType
  | .get model _ => model
  | .inBulk _ model _ => model

namespace ResultSet

variable {σ Obj : Type} {s : ResultSet Obj} {registry : Registry Obj} {hits : List (Hit Obj)} {h : Hit Obj}
  {model : ModelType}

def keysOf (model : ModelType) (hits : List (Hit Obj)) : List String :=
  (hits.filter fun h => h.model = model).map Hit.pk

inductive LoadsFrom (s : ResultSet Obj) (registry : Registry Obj) (model : ModelType) :
    Bool → ObjectStore Obj → Prop where
  | replaced {store : ObjectStore Obj} (given : s.stores.find? model = some store) :
      LoadsFrom s registry model true store
  | registered {entry : Registration Obj} (notGiven : s.stores.find? model = none)
      (found : registry.entry? model = some entry) : LoadsFrom s registry model false entry.store

/-- The call for all keys of its model among the hits succeeds, and has this object for the key of the hit. -/
def Gets (s : ResultSet Obj) (registry : Registry Obj) (hits : List (Hit Obj)) (h : Hit Obj) (o : Obj) : Prop :=
  ∃ replacement store found, s.LoadsFrom registry h.model replacement store ∧
    store.inBulk (keysOf h.model hits) = .ok found ∧
    (found.find? fun object => object.1 = h.pk).map Prod.snd = some o

/-- One call for each model among the hits that has a store, and no other call. -/
structure CallsInBulk (s : ResultSet Obj) (registry : Registry Obj) (hits : List (Hit Obj))
    (calls : List StoreCall) : Prop where
  once : (calls.map StoreCall.model).Nodup
  mem_iff : ∀ call, call ∈ calls ↔ ∃ h ∈ hits, ∃ replacement store,
    s.LoadsFrom registry h.model replacement store ∧
      call = .inBulk replacement h.model (keysOf h.model hits)

/-- What is shown for a hit: the hit with the object that it gets; one that gets none is dropped in a set
of related hits and shown as it is in others. -/
structure Shows (s : ResultSet Obj) (registry : Registry Obj) (hits : List (Hit Obj)) (h : Hit Obj)
    (shown : Option (Hit Obj)) : Prop where
  loaded : ∀ o, shown = some (h.withObject o) ↔ s.Gets registry hits h o
  bare : (∀ o, ¬s.Gets registry hits h o) → shown = if s.related then none else some h

theorem keysOf_cons (model : ModelType) (h : Hit Obj) (hits : List (Hit Obj)) :
    keysOf model (h :: hits) = (if h.model = model then [h.pk] else []) ++ keysOf model hits := by
  by_cases same : h.model = model <;> simp [keysOf, same]

theorem find?_foldl_keys (hits : List (Hit Obj)) (keys : SortedMap ModelType (List String)) (model : ModelType) :
    (hits.foldl (fun keys h => keys.insert h.model ((keys.find? h.model).getD [] ++ [h.pk])) keys).find? model =
      if model ∈ hits.map Hit.model then some ((keys.find? model).getD [] ++ keysOf model hits)
      else keys.find? model := by
  induction hits generalizing keys with
  | nil => rfl
  | cons h rest ih =>
      rw [List.foldl_cons, ih, SortedMap.find?_insert, keysOf_cons, List.map_cons]
      by_cases here : model = h.model
      · have none : h.model ∉ rest.map Hit.model → keysOf h.model rest = [] := by
          intro absent
          simpa [keysOf] using absent
        by_cases later : h.model ∈ rest.map Hit.model <;> simp [here, later, none]
      · simp [here, Ne.symm here]

theorem find?_keysByModel (hits : List (Hit Obj)) (model : ModelType) :
    (keysByModel hits).find? model =
      if model ∈ hits.map Hit.model then some (keysOf model hits) else none :=
  find?_foldl_keys hits .empty model

theorem ascending_keysByModel (hits : List (Hit Obj)) : SortedMap.Ascending (keysByModel hits).entries := by
  unfold keysByModel
  apply List.foldlRecOn hits _ (motive := fun keys : SortedMap ModelType (List String) =>
    SortedMap.Ascending keys.entries)
  · exact List.Pairwise.nil
  · intro keys ascending h _
    exact SortedMap.ascending_insertEntry ascending h.model _

theorem loadsFrom_iff {replacement : Bool} {store : ObjectStore Obj} :
    s.LoadsFrom registry model replacement store ↔
      s.storeFor? registry model = some (replacement, store) := by
  unfold storeFor?
  constructor
  · intro loads
    cases loads with
    | replaced given => rw [given]
    | registered notGiven found => rw [notGiven, found, Option.map_some]
  · intro used
    cases given : s.stores.find? model with
    | some other =>
        rw [given] at used
        cases used
        exact .replaced given
    | none =>
        rw [given] at used
        obtain ⟨entry, found, same⟩ := Option.map_eq_some_iff.1 used
        cases same
        exact .registered given found

def callFor? (s : ResultSet Obj) (registry : Registry Obj) (entry : ModelType × List String) :
    Option StoreCall :=
  (s.storeFor? registry entry.1).map fun source => .inBulk source.1 entry.1 entry.2

theorem model_of_callFor? {entry : ModelType × List String} {call : StoreCall}
    (made : s.callFor? registry entry = some call) : call.model = entry.1 := by
  obtain ⟨source, -, rfl⟩ := Option.map_eq_some_iff.1 made
  rfl

theorem storeCalls_loadModel (s : ResultSet Obj) (c : Connection σ Obj) (model : ModelType) (pks : List String) :
    (s.loadModel c model pks).2.storeCalls =
      c.storeCalls ++ (s.callFor? c.registry (model, pks)).toList := by
  unfold loadModel callFor?
  cases s.storeFor? c.registry model with
  | none => exact (List.append_nil _).symm
  | some source => rfl

theorem storeCalls_loadModels (s : ResultSet Obj) (c : Connection σ Obj)
    (entries : List (ModelType × List String)) :
    (s.loadModels c entries).2.storeCalls = c.storeCalls ++ entries.filterMap (s.callFor? c.registry) := by
  induction entries generalizing c with
  | nil => exact (List.append_nil _).symm
  | cons entry rest ih =>
      have kept := (s.loadModel_eq c entry.1 entry.2).2
      calc
        (s.loadModels c (entry :: rest)).2.storeCalls =
            (s.loadModels (s.loadModel c entry.1 entry.2).2 rest).2.storeCalls := rfl
        _ = c.storeCalls ++ (s.callFor? c.registry entry).toList ++
            rest.filterMap (s.callFor? c.registry) := by
          rw [ih, storeCalls_loadModel, kept.registry]
        _ = c.storeCalls ++ (entry :: rest).filterMap (s.callFor? c.registry) := by
          rw [List.append_assoc, List.filterMap_cons]
          cases s.callFor? c.registry entry <;> rfl

theorem sublist_models_filterMap (s : ResultSet Obj) (registry : Registry Obj)
    (entries : List (ModelType × List String)) :
    ((entries.filterMap (s.callFor? registry)).map StoreCall.model).Sublist (entries.map Prod.fst) := by
  induction entries with
  | nil => exact List.Sublist.slnil
  | cons entry rest ih =>
      rw [List.filterMap_cons, List.map_cons]
      cases made : s.callFor? registry entry with
      | none => exact ih.cons entry.1
      | some call =>
          rw [List.map_cons, model_of_callFor? made]
          exact ih.cons_cons entry.1

theorem callsInBulk_filterMap (s : ResultSet Obj) (registry : Registry Obj) (hits : List (Hit Obj)) :
    s.CallsInBulk registry hits ((keysByModel hits).entries.filterMap (s.callFor? registry)) := by
  have ascending := ascending_keysByModel hits
  refine ⟨(sublist_models_filterMap s registry _).nodup (SortedMap.nodup_of_ascending ascending), ?_⟩
  intro call
  rw [List.mem_filterMap]
  constructor
  · rintro ⟨⟨model, pks⟩, listed, made⟩
    have keys := (SortedMap.find?_eq_some_iff ascending).2 listed
    rw [find?_keysByModel] at keys
    split at keys
    · rename_i present
      obtain ⟨h, there, rfl⟩ := List.mem_map.1 present
      obtain ⟨⟨replacement, store⟩, used, rfl⟩ := Option.map_eq_some_iff.1 made
      cases keys
      exact ⟨h, there, replacement, store, loadsFrom_iff.2 used, rfl⟩
    · cases keys
  · rintro ⟨h, there, replacement, store, loads, rfl⟩
    refine ⟨(h.model, keysOf h.model hits), ?_, ?_⟩
    · rw [← SortedMap.find?_eq_some_iff ascending, find?_keysByModel,
        if_pos (List.mem_map_of_mem there)]
    · rw [callFor?, loadsFrom_iff.1 loads, Option.map_some]

/-- The object that a hit gets, if it gets one. -/
def bulkObject? (s : ResultSet Obj) (registry : Registry Obj) (hits : List (Hit Obj)) (h : Hit Obj) :
    Option Obj :=
  (s.storeFor? registry h.model).bind fun source => source.2.objectAmong? (keysOf h.model hits) h.pk

theorem bulkObject?_eq_some_iff {o : Obj} :
    s.bulkObject? registry hits h = some o ↔ s.Gets registry hits h o := by
  rw [bulkObject?, Option.bind_eq_some_iff]
  constructor
  · rintro ⟨⟨replacement, store⟩, used, object⟩
    simp only [ObjectStore.objectAmong?] at object
    cases found : store.inBulk (keysOf h.model hits) with
    | error e =>
        rw [found] at object
        cases object
    | ok objects =>
        rw [found] at object
        exact ⟨replacement, store, objects, loadsFrom_iff.2 used, found, object⟩
  · rintro ⟨replacement, store, objects, loads, found, object⟩
    refine ⟨(replacement, store), loadsFrom_iff.1 loads, ?_⟩
    simp only [ObjectStore.objectAmong?, found]
    exact object

def itemIn (s : ResultSet Obj) (registry : Registry Obj) (hits : List (Hit Obj)) (h : Hit Obj) :
    Option (Hit Obj) :=
  match s.bulkObject? registry hits h with
  | some o => some (h.withObject o)
  | none => if s.related then none else some h

theorem loadItems_of_loadAll {s : ResultSet Obj} (loading : s.loadAll = true) (c : Connection σ Obj)
    (hits : List (Hit Obj)) :
    (s.loadItems c hits).1 = hits.map (s.itemIn c.registry hits) := by
  rw [loadItems, if_pos loading]
  apply List.map_congr_left
  intro h present
  have keys : (keysByModel hits).find? h.model = some (keysOf h.model hits) := by
    rw [find?_keysByModel, if_pos (List.mem_map_of_mem present)]
  rw [itemOf, objectOf?_of_find? keys]
  rfl

theorem storeCalls_loadItems {s : ResultSet Obj} (loading : s.loadAll = true) (c : Connection σ Obj)
    (hits : List (Hit Obj)) :
    (s.loadItems c hits).2.storeCalls =
      c.storeCalls ++ (keysByModel hits).entries.filterMap (s.callFor? c.registry) := by
  rw [loadItems, if_pos loading]
  exact storeCalls_loadModels s c (keysByModel hits).entries

theorem shows_itemIn (unloaded : h.object = none) :
    s.Shows registry hits h (s.itemIn registry hits h) := by
  unfold itemIn
  refine ⟨?_, ?_⟩
  · intro o
    rw [← bulkObject?_eq_some_iff]
    cases s.bulkObject? registry hits h with
    | some other => simp [Hit.withObject]
    | none =>
        have other : h ≠ h.withObject o := by
          intro same
          have loaded := congrArg Hit.object same
          rw [unloaded] at loaded
          cases loaded
        cases s.related <;> simp [other]
  · intro none
    cases found : s.bulkObject? registry hits h with
    | some o => exact absurd (bulkObject?_eq_some_iff.1 found) (none o)
    | none => rfl

variable [Engine σ]

theorem storeCalls_run (p : Plan) (c : Connection σ Obj) (start : Nat) (stop : Option Nat) :
    (p.run c start stop).2.storeCalls = c.storeCalls ∧ (p.run c start stop).2.registry = c.registry := by
  simp only [Plan.run, Connection.recordQuery]
  split <;> exact ⟨rfl, rfl⟩

theorem object_of_mem_results {p : Plan} {c : Connection σ Obj} {start : Nat} {stop : Option Nat}
    (listed : h ∈ (p.run c start stop).1.results) : h.object = none := by
  obtain ⟨raw, -, made⟩ := List.mem_filterMap.1 listed
  unfold Hit.ofRaw? at made
  split at made
  · cases made
    rfl
  · cases made

/-- A window is loaded by one call for each model among its hits that has a store, to the replacement where
there is one, with the keys of the model in the order of the hits; no object is looked up by itself. A hit is
shown with an object exactly if the call for its model succeeds and has one for its key. In the cache, a
position that was not fetched before holds what is shown. Whatever stores other models have, a hit is
shown in the same way. -/
theorem fillCache_loadsInBulk (s : ResultSet Obj) (c : Connection σ Obj) (start stop : Nat)
    (loading : s.loadAll = true) :
    let response := (s.plan.run c start (some stop)).1
    let page := (s.fetch c start stop).1
    let after := (s.fillCache c start stop).2
    (∃ calls, after.2.storeCalls = c.storeCalls ++ calls ∧
      s.CallsInBulk c.registry response.results calls) ∧
    ∀ i h, response.results[i]? = some h →
      h.object = none ∧
      ∃ shown, page.items[i]? = some shown ∧ s.Shows c.registry response.results h shown ∧
        (start + i < stop → (s.cache.setCount response.hits).slot? (start + i) = some .pending →
          after.1.cache.slot? (start + i) = some (.ofItem (some shown))) ∧
        ∀ (t : ResultSet Obj) (d : Connection σ Obj), t.loadAll = true → t.related = s.related →
          (∀ replacement store, t.LoadsFrom d.registry h.model replacement store ↔
            s.LoadsFrom c.registry h.model replacement store) →
          (t.loadItems d response.results).1[i]? = some shown := by
  intro response page after
  obtain ⟨calls, registry⟩ := storeCalls_run s.plan c start (some stop)
  have items : page.items = (s.loadItems (s.plan.run c start (some stop)).2 response.results).1 := rfl
  rw [loadItems_of_loadAll loading, registry] at items
  refine ⟨⟨_, ?_, callsInBulk_filterMap s c.registry response.results⟩, ?_⟩
  · calc
      after.2.storeCalls = (s.loadItems (s.plan.run c start (some stop)).2 response.results).2.storeCalls := rfl
      _ = c.storeCalls ++ (keysByModel response.results).entries.filterMap (s.callFor? c.registry) := by
        rw [storeCalls_loadItems loading, calls, registry]
  · intro i h there
    have unloaded := object_of_mem_results (List.mem_of_getElem? there)
    have item : page.items[i]? = some (s.itemIn c.registry response.results h) := by
      rw [items, List.getElem?_map, there, Option.map_some]
    refine ⟨unloaded, _, item, shows_itemIn unloaded, ?_, ?_⟩
    · intro inside pending
      change ((s.cache.fill start stop page).slots)[start + i]? = _
      rw [Cache.slots_fill, Cache.getElem?_fillFrom, if_pos ⟨Nat.le_add_right start i, inside⟩,
        Nat.add_sub_cancel_left, item]
      exact congrArg (Option.map _) pending
    · intro t d alsoLoading related sameStores
      have same : t.storeFor? d.registry h.model = s.storeFor? c.registry h.model := by
        apply Option.ext
        intro source
        exact loadsFrom_iff.symm.trans ((sameStores source.1 source.2).trans loadsFrom_iff)
      rw [loadItems_of_loadAll alsoLoading, List.getElem?_map, there, Option.map_some, itemIn, bulkObject?, same,
        ← bulkObject?, related, ← itemIn]

def hitOf (label pk : String) : RawHit :=
  ⟨.ofList [("model_type", .text label), ("model_pk", .text pk)], 1, .empty⟩

def registrationOf (model : ModelType) (store : ObjectStore Nat) : Registration Nat :=
  ⟨⟨⟨model, []⟩, .empty, none⟩, store⟩

def mixed : Connection Prepared Nat where
  engine := ⟨[⟨5, [hitOf "app.tag" "7", hitOf "app.note" "2", hitOf "app.note" "1", hitOf "app.mark" "1",
    hitOf "app.note" "2"], .empty⟩]⟩
  settings := .default
  registry := ⟨[registrationOf ⟨"app", "note"⟩ ObjectList.empty.toStore,
    registrationOf ⟨"app", "tag"⟩ ⟨fun _ => .ok none, fun _ => .error (.unavailable "closed")⟩]⟩
  log := .ofEnabled false
  storeCalls := []

theorem fillCache_loadsInBulk_mixed :
    let notes : ObjectStore Nat := (ObjectList.mk [("2", 20), ("4", 40)]).toStore
    let s : ResultSet Nat := ⟨.empty, .of 2, .fresh, true, true, .ofList [(⟨"app", "note"⟩, notes)]⟩
    let after := (s.fillCache mixed 0 5).2
    s.loadAll = true ∧
      after.2.storeCalls = [.inBulk true ⟨"app", "note"⟩ ["2", "1", "2"], .inBulk false ⟨"app", "tag"⟩ ["7"]] ∧
      (after.1.cache.slots.map fun slot => (slot.value?.bind Hit.object).join) =
        [none, some 20, none, none, some 20] ∧
      ∃ calls, after.2.storeCalls = mixed.storeCalls ++ calls ∧
        s.CallsInBulk mixed.registry (s.plan.run mixed 0 (some 5)).1.results calls := by
  intro notes s after
  exact ⟨rfl, by decide, by decide, (fillCache_loadsInBulk s mixed 0 5 rfl).1⟩

end ResultSet

end RecordSearch
