import RecordSearch.Proofs.ResultSet.Sends

/-!
Reads of a result set on an engine that may answer anything. They end after no more requests than the hits
first reported and one, and keep to the slots of the cache.
-/

namespace RecordSearch

/-- Whether a read goes through the cache and asks for what it needs only. -/
def Read.IsCached : Read → Prop
  | .fillCache _ _ | .stream _ => False
  | _ => True

theorem Read.isCached_or (read : Read) :
    read.IsCached ∨ (∃ start stop, read = .fillCache start stop) ∨ ∃ limit, read = .stream limit := by
  cases read with
  | fillCache start stop => exact .inr (.inl ⟨start, stop, rfl⟩)
  | stream limit => exact .inr (.inr ⟨limit, rfl⟩)
  | _ => exact .inl trivial

theorem Request.isDue_of_isPendingAt {α : Type} {c : Cache α} {start stop i : Nat} (first : start ≤ i)
    (last : i < stop) (pending : c.isPendingAt i = true) : (Request.window start stop).IsDue c :=
  Or.inr ⟨i, first, last, pending⟩

theorem Read.isDue_of_maySend {α : Type} {size : PageSize} {read : Read} {c : Cache α} {request : Request}
    (sent : read.MaySend size.val c request) : request.IsDue c := by
  have positive := size.pos
  unfold MaySend at sent
  split at sent
  · rename_i unknown
    exact Or.inl unknown
  · cases read with
    | get position =>
        obtain ⟨pending, rfl⟩ := sent
        have rest := Nat.mod_lt position positive
        have page := Nat.mod_le position size.val
        exact Request.isDue_of_isPendingAt (Nat.sub_le _ _) (by omega) pending
    | slice start stop =>
        obtain ⟨first, last, run, rfl⟩ := sent
        exact Request.isDue_of_isPendingAt (Nat.le_refl first) (by omega)
          (run.pending first (Nat.le_refl first) run.wide)
    | sliceStep start stop step =>
        obtain ⟨k, pending, -, rfl⟩ := sent
        exact Request.isDue_of_isPendingAt (Nat.le_refl _) (Nat.lt_add_of_pos_right positive) pending
    | iterAt position limit =>
        obtain ⟨i, -, -, pending, rfl⟩ := sent
        exact Request.isDue_of_isPendingAt (Nat.le_refl i) (Nat.lt_add_of_pos_right positive) pending
    | count => exact sent.elim
    | fillCache start stop => exact sent.elim
    | stream limit => exact sent.elim

namespace ResultSet

variable {σ Obj : Type}

theorem loadModels_withCache (s : ResultSet Obj) (cache : Cache (Hit Obj)) (c : Connection σ Obj)
    (keys : List (ModelType × List String)) :
    { s with cache := cache }.loadModels c keys = s.loadModels c keys := by
  induction keys generalizing c with
  | nil => rfl
  | cons entry rest ih =>
      have one : { s with cache := cache }.loadModel c entry.1 entry.2 =
          s.loadModel c entry.1 entry.2 := rfl
      simp only [loadModels, one, ih]

theorem loadItems_withCache (s : ResultSet Obj) (cache : Cache (Hit Obj)) (c : Connection σ Obj)
    (hits : List (Hit Obj)) : { s with cache := cache }.loadItems c hits = s.loadItems c hits := by
  rw [loadItems, loadItems, loadModels_withCache]

variable [Engine σ]

def send (s : ResultSet Obj) : Ask (Connection σ Obj) (Hit Obj) := fun c request =>
  match request with
  | .count =>
    let (response, c) := s.plan.run c 0 (some 0)
    (⟨response.hits, []⟩, c)
  | .window start stop => s.fetch c start stop

/-- What was fetched does not change what is fetched next. -/
theorem send_withCache (s : ResultSet Obj) (cache : Cache (Hit Obj)) :
    send (σ := σ) { s with cache := cache } = s.send := by
  funext c request
  cases request with
  | count => rfl
  | window start stop => simp only [send, fetch, loadItems_withCache]

def after (s : ResultSet Obj) (r : Reading (Connection σ Obj) (Hit Obj)) :
    ResultSet Obj × Connection σ Obj := ({ s with cache := r.cache }, r.source)

theorem keeps_perform (s : ResultSet Obj) (c : Connection σ Obj) {read : Read} (cached : read.IsCached)
    {inv : Reading (Connection σ Obj) (Hit Obj) → Prop}
    (maintains : Reading.Maintains s.send (read.MaySend s.pageSize.val) inv) (holds : inv ⟨s.cache, c⟩) :
    ∃ r, inv r ∧ (s.perform c read).2 = s.after r := by
  cases read with
  | count =>
      cases known : s.cache.hitCount with
      | some n =>
          refine ⟨_, holds, ?_⟩
          simp only [perform, ResultSet.count, known]
          rfl
      | none =>
          have first : Read.count.MaySend s.pageSize.val s.cache .count := by
            rw [Read.MaySend, known]
            rfl
          refine ⟨_, maintains.receive _ .count holds first, ?_⟩
          simp only [perform, ResultSet.count, known, after, Reading.receive, Request.start, Request.stop,
            Cache.fill_nothing, send]
  | get position => exact ⟨_, Reading.keeps_get maintains holds, rfl⟩
  | slice start stop => exact ⟨_, Reading.keeps_slice maintains holds, rfl⟩
  | sliceStep start stop step => exact ⟨_, Reading.keeps_sliceStep maintains holds, rfl⟩
  | fillCache start stop => exact cached.elim
  | iterAt position limit => exact ⟨_, Reading.keeps_iterAt maintains holds, rfl⟩
  | stream limit => exact cached.elim

theorem performAll_cons (s : ResultSet Obj) (c : Connection σ Obj) (read : Read) (rest : List Read) :
    (s.performAll c (read :: rest)).2 =
      ((s.perform c read).2.1.performAll (s.perform c read).2.2 rest).2 := rfl

theorem keeps_performAll (s : ResultSet Obj) {inv : Reading (Connection σ Obj) (Hit Obj) → Prop}
    (maintains : ∀ read : Read, Reading.Maintains s.send (read.MaySend s.pageSize.val) inv)
    {r : Reading (Connection σ Obj) (Hit Obj)} (holds : inv r) {reads : List Read}
    (cached : ∀ read ∈ reads, read.IsCached) :
    ∃ last, inv last ∧ ((s.after r).1.performAll (s.after r).2 reads).2 = s.after last := by
  induction reads generalizing r with
  | nil => exact ⟨r, holds, rfl⟩
  | cons read rest ih =>
      have one := maintains read
      rw [← s.send_withCache r.cache] at one
      obtain ⟨next, kept, performed⟩ :=
        (s.after r).1.keeps_perform (s.after r).2 (cached read List.mem_cons_self) one holds
      obtain ⟨last, still, all⟩ := ih kept fun other listed => cached other (List.mem_cons_of_mem read listed)
      refine ⟨last, still, ?_⟩
      rw [performAll_cons, performed]
      exact all

theorem reaches_performAll (s : ResultSet Obj) (c : Connection σ Obj) (sized : s.cache.Sized)
    {reads : List Read} (cached : ∀ read ∈ reads, read.IsCached) :
    ∃ r, Reading.Reaches s.send ⟨s.cache, c⟩ r ∧ (s.performAll c reads).2 = s.after r := by
  refine s.keeps_performAll ?_ (Reading.Reaches.refl ⟨s.cache, c⟩) cached
  intro read
  constructor
  · intro r reaches
    exact reaches.sized sized
  · intro r request reaches sent
    exact reaches.trans ⟨[request], ⟨Read.isDue_of_maySend sent, trivial⟩, rfl⟩

/-- Reads through the cache send requests that keep to its slots and come to an end, whatever the engine
answers. -/
theorem orderly_performAll (s : ResultSet Obj) (fresh : s.cache = .fresh) (c : Connection σ Obj)
    (reads : List Read) (cached : ∀ read ∈ reads, read.IsCached) :
    ∃ requests, (s.performAll c reads).2 = s.after (Reading.afterRequests s.send c requests) ∧
      Reading.Orderly s.send c requests := by
  have sized : s.cache.Sized := by
    rw [fresh]
    exact Cache.sized_fresh
  obtain ⟨r, ⟨requests, due, rfl⟩, performed⟩ := s.reaches_performAll c sized cached
  rw [fresh] at due performed
  exact ⟨requests, performed, Reading.orderly_of_allDue due⟩

/-- An engine that gives prepared answers one after the other, whatever it is asked. -/
structure Prepared where
  answers : List RawResults

instance : Engine Prepared where
  querySyntax _ := Lucene.querySyntax "text"
  update e _ _ := .ok e
  remove e _ := .ok e
  clear e _ := .ok e
  search e _ _ :=
    match e.answers with
    | [] => (.error (.unavailable "no answer left"), e)
    | answer :: rest => (.ok answer, ⟨rest⟩)
  similar e _ _ := (.error (.unavailable "no answer prepared"), e)

def noteHit (pk : String) : RawHit :=
  ⟨.ofList [("model_type", .text "app.note"), ("model_pk", .text pk)], 1, .empty⟩

def changing : Connection Prepared Nat where
  engine := ⟨[⟨4, [noteHit "1"], .empty⟩, ⟨0, [], .empty⟩, ⟨9, [noteHit "2", noteHit "3"], .empty⟩]⟩
  settings := .default
  registry := ⟨[]⟩
  log := .ofEnabled false
  storeCalls := []

theorem orderly_performAll_changing :
    let s : ResultSet Nat := (ResultSet.ofPlan .default .empty).withPageSize 1
    let reads : List Read := [.get 1, .slice 2 (some 9), .sliceStep 0 none 3, .iterAt 1 none, .count]
    s.cache = .fresh ∧ (∀ read ∈ reads, read.IsCached) ∧
      ∃ requests, (s.performAll changing reads).2 = s.after (Reading.afterRequests s.send changing requests) ∧
        Reading.Orderly s.send changing requests := by
  intro s reads
  have cached : ∀ read ∈ reads, read.IsCached := by
    simp only [reads, List.forall_mem_cons, Read.IsCached, List.not_mem_nil, false_implies,
      implies_true, and_self]
  exact ⟨rfl, cached, orderly_performAll s rfl changing reads cached⟩

end ResultSet

end RecordSearch
