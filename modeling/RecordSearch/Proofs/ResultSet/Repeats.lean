import RecordSearch.Proofs.ResultSet.Fetches
import RecordSearch.Proofs.ResultSet.Found
import RecordSearch.Proofs.ResultSet.Windows

/-!
Which positions reads of a result set ask a table for again. The table notes each request with the number of
results that it returns.
-/

namespace RecordSearch

structure Served where
  start : Nat
  stop : Option Nat
  returned : Nat
  deriving DecidableEq, Repr

def Request.served (request : Request) (hits : Nat) : Served :=
  ⟨request.start, some request.stop, min request.stop hits - request.start⟩

namespace Served

def Covers (w : Served) (i : Nat) : Prop := w.start ≤ i ∧ ∀ stop ∈ w.stop, i < stop

/-- There is a result for the position. -/
def Returned (w : Served) (i : Nat) : Prop := w.start ≤ i ∧ i < w.start + w.returned

/-- What a request may repeat of those before it: it has a new result, asks for fewer positions again than a
page has, and for none of them if its window is longer. -/
structure IsThrifty (size : Nat) (front : List Served) (w : Served) : Prop where
  new : front ≠ [] → ∃ i, w.Returned i ∧ ∀ earlier ∈ front, ¬ earlier.Returned i
  few : ∃ few : List Nat, few.length < size ∧
    ∀ i, w.Covers i → ∀ earlier ∈ front, earlier.Returned i → i ∈ few
  whole : (∀ stop ∈ w.stop, w.start + size < stop) →
    ∀ i, w.Covers i → ∀ earlier ∈ front, ¬ earlier.Returned i

/-- Nothing that was returned before is asked for. -/
def RepeatsNothing (front : List Served) (w : Served) : Prop :=
  ∀ i, w.Covers i → ∀ earlier ∈ front, ¬ earlier.Returned i

theorem covers_served_iff {request : Request} {hits i : Nat} :
    (request.served hits).Covers i ↔ request.start ≤ i ∧ i < request.stop := by
  constructor
  · rintro ⟨later, before⟩
    exact ⟨later, before request.stop rfl⟩
  · rintro ⟨later, earlier⟩
    refine ⟨later, ?_⟩
    rintro _ ⟨⟩
    exact earlier

theorem returned_served_iff {request : Request} {hits i : Nat} :
    (request.served hits).Returned i ↔ request.start ≤ i ∧ i < request.stop ∧ i < hits := by
  unfold Returned Request.served
  simp only
  omega

theorem isThrifty_nil {size : Nat} (positive : 0 < size) (w : Served) : w.IsThrifty size [] := by
  refine ⟨?_, ⟨[], positive, ?_⟩, ?_⟩
  · intro more
    exact absurd rfl more
  · intro i _ earlier listed
    cases listed
  · intro _ i _ earlier listed
    cases listed

def Throughout (good : List Served → Served → Prop) (log : List Served) : Prop :=
  ∀ front w, front ++ [w] <+: log → good front w

variable {good : List Served → Served → Prop}

theorem throughout_nil : Throughout good [] := by
  intro front w before
  exact absurd (List.prefix_nil.1 before) (List.append_ne_nil_of_right_ne_nil front (List.cons_ne_nil w []))

theorem Throughout.append {log : List Served} {w : Served} (before : Throughout good log)
    (last : good log w) : Throughout good (log ++ [w]) := by
  intro front other listed
  rcases List.prefix_concat_iff.1 listed with whole | earlier
  · obtain ⟨rfl, same⟩ := List.append_inj' whole rfl
    obtain rfl := List.singleton_inj.1 same
    exact last
  · exact before front other earlier

end Served

/-- A table that notes the requests that it serves, the oldest first. -/
structure Watched where
  table : Table
  served : List Served

namespace Watched

def note (e : Watched) (options : SearchOptions) (answer : Except Error RawResults) :
    Except Error RawResults × Watched :=
  let returned := match answer with
    | .ok results => results.results.length
    | .error _ => 0
  (answer, { e with served := e.served ++ [⟨options.start, options.stop, returned⟩] })

instance : Engine Watched where
  querySyntax e := Engine.querySyntax e.table
  update e schema documents := (e.table.update schema documents).map fun t => { e with table := t }
  remove e identity := .ok { e with table := e.table.remove identity }
  clear e models := .ok { e with table := e.table.clear models }
  search e query options := e.note options (e.table.search query options)
  similar e identity options := e.note options (e.table.similar identity options)

end Watched

namespace Connection

variable {Obj : Type}

def watched (c : Connection Table Obj) : Connection Watched Obj :=
  ⟨⟨c.engine, []⟩, c.settings, c.registry, c.log, c.storeCalls⟩

def unwatched (c : Connection Watched Obj) : Connection Table Obj :=
  ⟨c.engine.table, c.settings, c.registry, c.log, c.storeCalls⟩

end Connection

namespace Plan

variable {Obj : Type} (p : Plan)

theorem ask_results (c : Connection Table Obj) (start stop : Nat) :
    (p.ask c start (some stop)).2.1.hits = (p.found c).length ∧
      (p.ask c start (some stop)).2.1.results.length = min stop (p.found c).length - start := by
  obtain ⟨ranked, same, shown⟩ := p.ranks_answers c
  obtain ⟨hits, results⟩ := shown start (some stop)
  have length := congrArg List.length results
  rw [List.length_map, Table.window_some, List.length_drop, List.length_take, List.length_map,
    same.length_eq] at length
  rw [same.length_eq] at hits
  exact ⟨hits, length⟩

theorem orEmpty_note (e : Watched) (options : SearchOptions) (answer : Except Error RawResults)
    (t : Table) :
    (Engine.orEmpty (e.note options answer)).1 = (Engine.orEmpty (answer, t)).1 ∧
      (Engine.orEmpty (e.note options answer)).2 = { e with served := e.served ++
        [⟨options.start, options.stop, (Engine.orEmpty (answer, t)).1.results.length⟩] } := by
  cases answer with
  | ok results => exact ⟨rfl, rfl⟩
  | error err => exact ⟨rfl, rfl⟩

/-- A request is answered as without the notes; an empty query is no request. -/
theorem ask_watched (c : Connection Watched Obj) (start : Nat) (stop : Option Nat) :
    (p.ask c start stop).2.1 = (p.ask c.unwatched start stop).2.1 ∧
      (p.ask c start stop).2.2.table = c.engine.table ∧
      ((p.ask c start stop).2.2.served = c.engine.served ∨
        (p.ask c start stop).2.2.served =
          c.engine.served ++ [⟨start, stop, (p.ask c start stop).2.1.results.length⟩]) := by
  unfold ask
  cases p.similarTo with
  | some identity =>
      obtain ⟨answer, engine⟩ := orEmpty_note c.engine
        (p.options (Engine.querySyntax c.engine) c.settings start stop)
        (c.engine.table.similar identity (p.options (Engine.querySyntax c.engine) c.settings start stop))
        c.engine.table
      have table := congrArg Watched.table engine
      have served := congrArg Watched.served engine
      rw [← answer] at served
      exact ⟨answer, table, Or.inr served⟩
  | none =>
      simp only [Engine.find]
      cases empty : (p.query (Engine.querySyntax c.engine) c.settings).isEmpty with
      | true =>
          have same : (p.query (Engine.querySyntax c.unwatched.engine) c.unwatched.settings).isEmpty = true :=
            empty
          rw [if_pos rfl, if_pos same]
          exact ⟨rfl, rfl, Or.inl rfl⟩
      | false =>
          have same : (p.query (Engine.querySyntax c.unwatched.engine) c.unwatched.settings).isEmpty = false :=
            empty
          rw [if_neg Bool.false_ne_true, same, if_neg Bool.false_ne_true]
          obtain ⟨answer, engine⟩ := orEmpty_note c.engine
            (p.options (Engine.querySyntax c.engine) c.settings start stop)
            (c.engine.table.search (p.query (Engine.querySyntax c.engine) c.settings)
              (p.options (Engine.querySyntax c.engine) c.settings start stop)) c.engine.table
          have table := congrArg Watched.table engine
          have served := congrArg Watched.served engine
          rw [← answer] at served
          exact ⟨answer, table, Or.inr served⟩

end Plan

namespace ResultSet

variable {Obj : Type} {s : ResultSet Obj} {c : Connection Table Obj}

theorem alike_loadItems {σ : Type} (s : ResultSet Obj) (c : Connection σ Obj) (hits : List (Hit Obj)) :
    c.Alike (s.loadItems c hits).2 := by
  unfold loadItems
  split
  · exact (s.loadModels_eq c (keysByModel hits).entries).2
  · exact Connection.Alike.refl c

theorem send_spec {σ : Type} [Engine σ] (s : ResultSet Obj) (c : Connection σ Obj) (request : Request) :
    (s.send c request).1.hits = (s.plan.ask c request.start (some request.stop)).2.1.hits ∧
      Connection.Alike { c with engine := (s.plan.ask c request.start (some request.stop)).2.2 }
        (s.send c request).2 := by
  cases request with
  | count => exact ⟨rfl, Connection.alike_recordQuery _ _⟩
  | window start stop =>
      exact ⟨rfl, (Connection.alike_recordQuery _ _).trans (s.alike_loadItems _ _)⟩

/-- How far reads of a set have come on a table that does not change: what was returned is in the cache. -/
structure Tracks (s : ResultSet Obj) (c : Connection Table Obj)
    (r : Reading (Connection Watched Obj) (Hit Obj)) : Prop where
  alike : c.Alike r.source.unwatched
  sized : r.cache.Sized
  counted : ∀ n, r.cache.hitCount = some n → n = (s.plan.found c).length
  unasked : r.cache.hitCount = none → r.source.engine.served = []
  returned : ∀ w ∈ r.source.engine.served, ∀ i, w.Returned i → r.cache.IsFetchedAt i

variable {r : Reading (Connection Watched Obj) (Hit Obj)}

theorem Tracks.length (tracks : s.Tracks c r) {n : Nat} (known : r.cache.hitCount = some n) :
    n = (s.plan.found c).length ∧ r.cache.slots.length = n := by
  have sized := tracks.sized
  rw [Cache.Sized, known, Option.getD_some] at sized
  exact ⟨tracks.counted n known, sized⟩

theorem Tracks.start (fresh : s.cache = .fresh) : s.Tracks c ⟨s.cache, c.watched⟩ := by
  rw [fresh]
  refine ⟨Connection.Alike.refl c, Cache.sized_fresh, ?_, fun _ => rfl, ?_⟩
  · intro n known
    cases known
  · intro w listed
    cases listed

theorem Tracks.isFetchedAt_receive (tracks : s.Tracks c r) {request : Request}
    (counted : (r.receive s.send request).cache.hitCount = some (s.plan.found c).length) {i : Nat}
    (inside : i < (s.plan.found c).length) (later : request.start ≤ i) (earlier : i < request.stop) :
    (r.receive s.send request).cache.IsFetchedAt i := by
  have length : (r.receive s.send request).cache.slots.length = (s.plan.found c).length := by
    have sized : (r.receive s.send request).cache.Sized := Reading.sized_receive tracks.sized request
    rw [sized, counted]
    rfl
  rw [← length] at inside
  exact tracks.sized.isFetchedAt_fill_iff.2 ⟨inside, Or.inr ⟨later, earlier⟩⟩

/-- Whatever is asked for, one request at most is noted, and its results are put into the cache. -/
theorem Tracks.receive (tracks : s.Tracks c r) (request : Request) :
    s.Tracks c (r.receive s.send request) ∧
      ((r.receive s.send request).source.engine.served = r.source.engine.served ∨
        (r.receive s.send request).source.engine.served =
          r.source.engine.served ++ [request.served (s.plan.found c).length]) := by
  obtain ⟨hits, after⟩ := s.send_spec r.source request
  obtain ⟨answer, table, noted⟩ := s.plan.ask_watched r.source request.start (some request.stop)
  obtain ⟨total, results⟩ := s.plan.ask_results c request.start request.stop
  rw [Plan.ask_alike tracks.alike] at answer
  rw [answer, total] at hits
  rw [answer, results] at noted
  have counted : (r.receive s.send request).cache.hitCount = some (s.plan.found c).length := by
    rw [Reading.receive, Cache.hitCount_fill, hits]
    cases known : r.cache.hitCount with
    | none => rfl
    | some n => rw [tracks.counted n known, Option.getD_some]
  have kept : ∀ w ∈ r.source.engine.served, ∀ i, w.Returned i →
      (r.receive s.send request).cache.IsFetchedAt i := by
    intro w listed i returned
    obtain ⟨slot, found, resolved⟩ := tracks.returned w listed i returned
    exact ⟨slot, tracks.sized.keeps_fill _ _ _ i slot found resolved, resolved⟩
  have served : (r.receive s.send request).source.engine.served =
      (s.plan.ask r.source request.start (some request.stop)).2.2.served :=
    congrArg Watched.served after.engine
  refine ⟨⟨?_, Reading.sized_receive tracks.sized request, ?_, ?_, ?_⟩, ?_⟩
  · exact ⟨(congrArg Watched.table after.engine).trans (table.trans tracks.alike.engine),
      after.settings.trans tracks.alike.settings, after.registry.trans tracks.alike.registry⟩
  · intro n known
    rw [counted] at known
    exact (Option.some.inj known).symm
  · intro unknown
    rw [counted] at unknown
    cases unknown
  · rw [served]
    rcases noted with same | added
    · rw [same]
      exact kept
    · rw [added, List.forall_mem_append, List.forall_mem_singleton]
      refine ⟨kept, ?_⟩
      intro i returned
      obtain ⟨later, earlier, inside⟩ := Served.returned_served_iff.1 returned
      exact tracks.isFetchedAt_receive counted inside later earlier
  · rw [served]
    exact noted

theorem Tracks.throughout_receive {good : List Served → Served → Prop} (tracks : s.Tracks c r)
    {request : Request} (before : Served.Throughout good r.source.engine.served)
    (next : good r.source.engine.served (request.served (s.plan.found c).length)) :
    Served.Throughout good (r.receive s.send request).source.engine.served := by
  obtain ⟨-, same | added⟩ := tracks.receive request
  · rw [same]
    exact before
  · rw [added]
    exact before.append next

variable {read : Read} {request : Request}

theorem Tracks.isThrifty (tracks : s.Tracks c r) (sent : read.MaySend s.pageSize.val r.cache request) :
    (request.served (s.plan.found c).length).IsThrifty s.pageSize.val r.source.engine.served := by
  unfold Read.MaySend at sent
  split at sent
  · rename_i unknown
    rw [tracks.unasked unknown]
    exact Served.isThrifty_nil s.pageSize.pos _
  · rename_i n known
    obtain ⟨rfl, length⟩ := tracks.length known
    obtain ⟨few, short, again⟩ := Read.exists_few_of_next sent
    obtain ⟨first, last, rfl, wide, ⟨i, later, earlier, pending⟩, all⟩ := Read.window_of_next sent
    refine ⟨?_, ⟨few, short, ?_⟩, ?_⟩
    · intro _
      have inside := Cache.lt_length_of_isPendingAt pending
      rw [length] at inside
      refine ⟨i, Served.returned_served_iff.2 ⟨later, Nat.lt_of_lt_of_le earlier wide, inside⟩, ?_⟩
      intro w listed returned
      exact Cache.not_isFetchedAt pending (tracks.returned w listed i returned)
    · intro i covered w listed returned
      obtain ⟨later, earlier⟩ := Served.covers_served_iff.1 covered
      exact again i later earlier (tracks.returned w listed i returned)
    · intro long i covered w listed returned
      obtain ⟨later, earlier⟩ := Served.covers_served_iff.1 covered
      exact Cache.not_isFetchedAt (all (long last rfl) i later earlier) (tracks.returned w listed i returned)

structure TracksThrifty (s : ResultSet Obj) (c : Connection Table Obj)
    (r : Reading (Connection Watched Obj) (Hit Obj)) : Prop where
  tracks : s.Tracks c r
  thrifty : Served.Throughout (Served.IsThrifty s.pageSize.val) r.source.engine.served

theorem maintains_thrifty (s : ResultSet Obj) (c : Connection Table Obj) (read : Read) :
    Reading.Maintains s.send (read.MaySend s.pageSize.val) (s.TracksThrifty c) := by
  constructor
  · rintro r ⟨tracks, -⟩
    exact tracks.sized
  · rintro r request ⟨tracks, thrifty⟩ sent
    exact ⟨(tracks.receive request).1, tracks.throughout_receive thrifty (tracks.isThrifty sent)⟩

structure TracksPages (s : ResultSet Obj) (c : Connection Table Obj)
    (r : Reading (Connection Watched Obj) (Hit Obj)) : Prop where
  tracks : s.Tracks c r
  whole : r.cache.HasWholePages s.pageSize.val
  once : Served.Throughout Served.RepeatsNothing r.source.engine.served

theorem Tracks.isAligned (tracks : s.Tracks c r) (whole : r.cache.HasWholePages s.pageSize.val)
    (keeps : read.KeepsToPages s.pageSize.val (s.plan.found c).length r.cache)
    (sent : read.MaySend s.pageSize.val r.cache request) :
    request.IsAligned s.pageSize.val (s.plan.found c).length := by
  unfold Read.MaySend at sent
  split at sent
  · rename_i unknown
    exact Read.isAligned_first? (fun _ => tracks.sized.not_isFetchedAt_of_unknown unknown) keeps sent
  · rename_i n known
    obtain ⟨rfl, length⟩ := tracks.length known
    exact Read.isAligned_of_next whole length keeps sent

theorem Tracks.repeatsNothing (tracks : s.Tracks c r) (whole : r.cache.HasWholePages s.pageSize.val)
    (aligned : request.IsAligned s.pageSize.val (s.plan.found c).length)
    (sent : read.MaySend s.pageSize.val r.cache request) :
    (request.served (s.plan.found c).length).RepeatsNothing r.source.engine.served := by
  intro i covered w listed returned
  obtain ⟨later, earlier⟩ := Served.covers_served_iff.1 covered
  have fetched := tracks.returned w listed i returned
  unfold Read.MaySend at sent
  split at sent
  · rename_i unknown
    exact tracks.sized.not_isFetchedAt_of_unknown unknown fetched
  · rename_i n known
    obtain ⟨rfl, length⟩ := tracks.length known
    exact Read.not_isFetchedAt_of_next sent length whole aligned later earlier fetched

theorem maintains_pages (s : ResultSet Obj) (c : Connection Table Obj) (read : Read) :
    Reading.Maintains s.send (read.MaySend s.pageSize.val) fun r =>
      s.TracksPages c r ∧ read.KeepsToPages s.pageSize.val (s.plan.found c).length r.cache := by
  constructor
  · rintro r ⟨⟨tracks, -, -⟩, -⟩
    exact tracks.sized
  · rintro r request ⟨⟨tracks, whole, once⟩, keeps⟩ sent
    have aligned := tracks.isAligned whole keeps sent
    have after := (tracks.receive request).1
    obtain ⟨n, known⟩ : ∃ n, (r.receive s.send request).cache.hitCount = some n :=
      Option.isSome_iff_exists.1 (Reading.counted_receive r request)
    have pages : (r.receive s.send request).cache.HasWholePages s.pageSize.val := by
      apply whole.fill tracks.sized
      obtain ⟨rfl, length⟩ := after.length known
      change request.IsAligned _ (r.receive s.send request).cache.slots.length
      rw [length]
      exact aligned
    have again := tracks.repeatsNothing whole aligned sent
    exact ⟨⟨after, pages, tracks.throughout_receive once again⟩, keeps.fill tracks.sized _ _ _⟩

/-- Whether each read keeps to pages where this is in the cache when it begins. -/
def KeepsToPages {σ : Type} [Engine σ] (hits : Nat) (s : ResultSet Obj) (c : Connection σ Obj) :
    List Read → Prop
  | [] => True
  | read :: rest =>
    read.KeepsToPages s.pageSize.val hits s.cache ∧
      KeepsToPages hits (s.perform c read).2.1 (s.perform c read).2.2 rest

theorem TracksPages.performAll (tracks : s.TracksPages c r) {reads : List Read}
    (cached : ∀ read ∈ reads, read.IsCached)
    (keeps : KeepsToPages (s.plan.found c).length (s.after r).1 (s.after r).2 reads) :
    ∃ last, s.TracksPages c last ∧ ((s.after r).1.performAll (s.after r).2 reads).2 = s.after last := by
  induction reads generalizing r with
  | nil => exact ⟨r, tracks, rfl⟩
  | cons read rest ih =>
      obtain ⟨here, later⟩ := keeps
      have one := s.maintains_pages c read
      rw [← s.send_withCache r.cache] at one
      obtain ⟨next, ⟨kept, -⟩, performed⟩ :=
        (s.after r).1.keeps_perform (s.after r).2 (cached read List.mem_cons_self) one ⟨tracks, here⟩
      rw [performed] at later
      obtain ⟨last, still, all⟩ :=
        ih kept (fun other listed => cached other (List.mem_cons_of_mem read listed)) later
      refine ⟨last, still, ?_⟩
      rw [performAll_cons, performed]
      exact all

/-- Every request of reads through the cache is thrifty. Reads that keep to pages ask for no position that was
returned before. -/
theorem served_performAll (s : ResultSet Obj) (fresh : s.cache = .fresh) (c : Connection Table Obj)
    (reads : List Read) (cached : ∀ read ∈ reads, read.IsCached) :
    Served.Throughout (Served.IsThrifty s.pageSize.val) (s.performAll c.watched reads).2.2.engine.served ∧
      (KeepsToPages (s.plan.found c).length s c.watched reads →
        Served.Throughout Served.RepeatsNothing (s.performAll c.watched reads).2.2.engine.served) := by
  have start := Tracks.start (c := c) fresh
  constructor
  · obtain ⟨last, ⟨-, thrifty⟩, performed⟩ :=
      s.keeps_performAll (s.maintains_thrifty c) ⟨start, Served.throughout_nil⟩ cached
    change (s.performAll c.watched reads).2 = s.after last at performed
    rw [performed]
    exact thrifty
  · intro keeps
    have whole : s.cache.HasWholePages s.pageSize.val := by
      intro i j _ fetched
      rw [fresh] at fetched
      exact absurd fetched (Cache.sized_fresh.not_isFetchedAt_of_unknown rfl)
    obtain ⟨last, ⟨-, -, once⟩, performed⟩ :=
      TracksPages.performAll ⟨start, whole, Served.throughout_nil⟩ cached keeps
    change (s.performAll c.watched reads).2 = s.after last at performed
    rw [performed]
    exact once

theorem served_performAll_notes :
    let s : ResultSet Nat := ⟨.addOrder .empty ["title"], .of 2, .fresh, true, true, .empty⟩
    let reads : List Read := [.get 2, .slice 0 (some 2), .sliceStep 0 none 2, .count]
    s.cache = .fresh ∧ (∀ read ∈ reads, read.IsCached) ∧
      (s.performAll notes.watched reads).2.2.engine.served = [⟨2, some 4, 1⟩, ⟨0, some 2, 2⟩] ∧
      Served.Throughout (Served.IsThrifty 2) (s.performAll notes.watched reads).2.2.engine.served ∧
      Served.Throughout Served.RepeatsNothing (s.performAll notes.watched reads).2.2.engine.served := by
  intro s reads
  have cached : ∀ read ∈ reads, read.IsCached := by
    simp only [reads, List.forall_mem_cons, Read.IsCached, List.not_mem_nil, false_implies,
      implies_true, and_self]
  obtain ⟨thrifty, once⟩ := served_performAll s rfl notes reads cached
  refine ⟨rfl, cached, by decide +kernel, thrifty, once ?_⟩
  have begins : (2 : Nat) ∣ 0 := Nat.dvd_zero 2
  refine ⟨trivial, ⟨Or.inl begins, ?_⟩, ⟨begins, Or.inl (Nat.dvd_refl 2)⟩, trivial, trivial⟩
  intro last same
  cases same
  exact Or.inr (Nat.le_refl 2)

/-- A window that is widened to a page from an unaligned start, and the page of a position before it. -/
theorem not_repeatsNothing_performAll :
    ¬ ∀ (s : ResultSet Nat) (c : Connection Table Nat) (reads : List Read), s.cache = .fresh →
      (∀ read ∈ reads, read.IsCached) →
        Served.Throughout Served.RepeatsNothing (s.performAll c.watched reads).2.2.engine.served := by
  intro once
  have served :
      (((ResultSet.ofPlan .default .empty : ResultSet Nat).withPageSize 2).performAll notes.watched
        [.slice 1 (some 3), .get 0]).2.2.engine.served = [⟨1, some 3, 2⟩, ⟨0, some 2, 2⟩] := by
    decide +kernel
  have cached : ∀ read ∈ [Read.slice 1 (some 3), .get 0], read.IsCached := by
    simp only [List.forall_mem_cons, Read.IsCached, List.not_mem_nil, false_implies, implies_true, and_self]
  have again := once ((ResultSet.ofPlan .default .empty).withPageSize 2) notes _ rfl cached
  rw [served] at again
  refine again [⟨1, some 3, 2⟩] ⟨0, some 2, 2⟩ (List.prefix_refl _) 1 ?_ _ List.mem_cons_self ?_
  · have covered : ((Request.window 0 2).served 3).Covers 1 :=
      Served.covers_served_iff.2 ⟨Nat.zero_le 1, Nat.one_lt_two⟩
    exact covered
  · exact ⟨Nat.le_refl 1, by decide⟩

end ResultSet

end RecordSearch
