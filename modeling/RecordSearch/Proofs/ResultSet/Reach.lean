import RecordSearch.Proofs.ResultSet.Best
import RecordSearch.Proofs.ResultSet.Logged

/-!
How far the windows reach that reads of a result set ask for. A read within the hits asks for no more than a
page behind the last of them. With pages longer than all hits, reads of single positions and iterators ask for
the first page only: what lies behind a fetched position is then fetched too.
-/

namespace RecordSearch

namespace Cache

variable {α : Type} {c : Cache α} {start stop : Nat} {page : Page α}

/-- Whatever lies behind a fetched position is fetched. -/
def HasWholeTail (c : Cache α) : Prop :=
  ∀ i j, i ≤ j → c.IsFetchedAt i → j < c.slots.length → c.IsFetchedAt j

theorem Sized.length_le (sized : c.Sized) {hits : Nat} (counted : ∀ n ∈ c.hitCount, n = hits) :
    c.slots.length ≤ hits := by
  rw [sized]
  cases known : c.hitCount with
  | none => exact Nat.zero_le hits
  | some n => exact Nat.le_of_eq (counted n known)

theorem Sized.hasWholeTail_fill (sized : c.Sized) (whole : c.HasWholeTail)
    (covers : stop ≤ start ∨ (c.fill start stop page).slots.length ≤ stop) :
    (c.fill start stop page).HasWholeTail := by
  intro i j le fetched inside
  rw [sized.isFetchedAt_fill_iff] at fetched ⊢
  refine ⟨inside, ?_⟩
  rcases fetched.2 with before | within
  · cases known : c.hitCount with
    | none => exact absurd before (sized.not_isFetchedAt_of_unknown known)
    | some n =>
        rw [length_slots_fill, setCount_of_counted (by rw [known]; rfl)] at inside
        exact .inl (whole i j le before inside)
  · exact .inr (by omega)

end Cache

namespace Read

variable {α : Type}

/-- The positions that a read is given go no further than the hits. -/
def IsWithin (hits : Nat) : Read → Prop
  | .get position => position ≤ hits
  | .slice start stop | .sliceStep start stop _ => start ≤ hits ∧ ∀ n ∈ stop, n ≤ hits
  | .count | .iterAt _ _ | .stream _ => True
  | .fillCache _ _ => False

/-- A read that asks for one position within the hits, or goes through them one by one: an iterator stands
at the front, or has come past a position that it read. -/
def GoesAlong (hits : Nat) (c : Cache α) : Read → Prop
  | .get position => position ≤ hits
  | .iterAt position _ => position = 0 ∨ c.IsFetchedAt (position - 1)
  | .count | .stream _ => True
  | .slice _ _ | .sliceStep _ _ _ | .fillCache _ _ => False

/-- Only windows that a caller chooses on its own may be short. -/
def KeepsTail : Read → Prop
  | .fillCache _ _ => False
  | _ => True

variable {hits : Nat} {size : PageSize} {read : Read} {c : Cache α} {request : Request}

theorem IsWithin.keepsTail (within : read.IsWithin hits) : read.KeepsTail := by
  cases read with
  | fillCache start stop => exact within
  | _ => trivial

theorem GoesAlong.isWithin (along : read.GoesAlong hits c) : read.IsWithin hits := by
  cases read with
  | get position => exact along
  | slice start stop => exact along.elim
  | sliceStep start stop step => exact along.elim
  | fillCache start stop => exact along.elim
  | _ => trivial

theorem GoesAlong.fill (along : read.GoesAlong hits c) (sized : c.Sized) (start stop : Nat) (page : Page α) :
    read.GoesAlong hits (c.fill start stop page) := by
  cases read with
  | iterAt position limit =>
      refine along.imp_right ?_
      rintro ⟨slot, found, resolved⟩
      exact ⟨slot, sized.keeps_fill start stop page _ slot found resolved, resolved⟩
  | _ => exact along

theorem width_of_maySend (sent : read.MaySend size.val c request) :
    request.stop ≤ request.start ∨ request.start + size.val ≤ request.stop := by
  unfold MaySend at sent
  split at sent
  · cases read with
    | count =>
        cases sent
        exact .inl (Nat.le_refl 0)
    | get position =>
        cases sent
        exact .inr (Nat.le_refl _)
    | slice start stop =>
        cases sent
        cases stop with
        | none => exact .inr (Nat.le_refl _)
        | some stop => exact .inr (Nat.add_le_add_left (Nat.le_max_right _ _) start)
    | sliceStep start stop step =>
        cases sent
        exact .inr (Nat.le_refl _)
    | iterAt position limit =>
        cases sent
        exact .inr (Nat.le_of_eq (Nat.zero_add _))
    | fillCache start stop => cases sent
    | stream limit => cases sent
  · obtain ⟨start, stop, rfl, wide, -⟩ := window_of_next sent
    exact .inr wide

theorem stop_le_of_maySend (within : read.IsWithin hits) (length : c.slots.length ≤ hits)
    (sent : read.MaySend size.val c request) : request.stop ≤ hits + size.val := by
  have before : ∀ {i}, c.isPendingAt i = true → i < hits := fun pending =>
    Nat.lt_of_lt_of_le (Cache.lt_length_of_isPendingAt pending) length
  unfold MaySend at sent
  split at sent
  · -- before the number of hits is known
    cases read with
    | count =>
        cases sent
        exact Nat.zero_le _
    | get position =>
        cases sent
        exact Nat.add_le_add_right (Nat.le_trans (Nat.sub_le _ _) within) size.val
    | slice start stop =>
        cases sent
        obtain ⟨first, last⟩ := within
        simp only [Request.stop]
        cases stop with
        | none => exact Nat.add_le_add_right first size.val
        | some stop =>
            have short := last stop rfl
            simp only [Option.elim]
            omega
    | sliceStep start stop step =>
        cases sent
        exact Nat.add_le_add_right within.1 size.val
    | iterAt position limit =>
        cases sent
        exact Nat.le_add_left _ _
    | fillCache start stop => cases sent
    | stream limit => cases sent
  · cases read with
    | get position =>
        obtain ⟨-, rfl⟩ := sent
        exact Nat.add_le_add_right (Nat.le_trans (Nat.sub_le _ _) within) size.val
    | slice start stop =>
        obtain ⟨first, last, run, rfl⟩ := sent
        have wide := run.wide
        have ends := before (run.pending (last - 1) (by omega) (by omega))
        simp only [Request.stop]
        omega
    | sliceStep start stop step =>
        obtain ⟨k, pending, -, rfl⟩ := sent
        exact Nat.add_le_add_right (Nat.le_of_lt (before pending)) size.val
    | iterAt position limit =>
        obtain ⟨i, -, -, pending, rfl⟩ := sent
        exact Nat.add_le_add_right (Nat.le_of_lt (before pending)) size.val
    | count => exact sent.elim
    | fillCache start stop => exact sent.elim
    | stream limit => exact sent.elim

theorem stop_le_of_goesAlong (along : read.GoesAlong hits c) (short : hits < size.val)
    (whole : c.HasWholeTail) (sent : read.MaySend size.val c request) : request.stop ≤ size.val := by
  have page : ∀ {position}, position ≤ hits → position - position % size.val + size.val ≤ size.val := by
    intro position le
    rw [Nat.mod_eq_of_lt (by omega), Nat.sub_self, Nat.zero_add]
  unfold MaySend at sent
  split at sent
  · cases read with
    | count =>
        cases sent
        exact Nat.zero_le _
    | get position =>
        cases sent
        exact page along
    | iterAt position limit =>
        cases sent
        exact Nat.le_refl _
    | stream limit => cases sent
    | slice start stop => exact along.elim
    | sliceStep start stop step => exact along.elim
    | fillCache start stop => exact along.elim
  · cases read with
    | get position =>
        obtain ⟨-, rfl⟩ := sent
        exact page along
    | iterAt position limit =>
        obtain ⟨i, later, passed, pending, rfl⟩ := sent
        -- the position before a pending one is pending too, and the iterator has not passed it
        have first : i = 0 := by
          apply Nat.eq_zero_of_not_pos
          intro positive
          have inside := Cache.lt_length_of_isPendingAt pending
          have fetched : c.IsFetchedAt (i - 1) := by
            by_cases here : i = position
            · rw [here]
              exact along.resolve_left (by omega)
            · apply Cache.isFetchedAt_of_not_isPendingAt (by omega)
              exact passed (i - 1) (by omega) (by omega)
          exact Cache.not_isFetchedAt pending (whole (i - 1) i (Nat.sub_le i 1) fetched inside)
        rw [first]
        exact Nat.le_of_eq (Nat.zero_add _)
    | count => exact sent.elim
    | stream limit => exact sent.elim
    | slice start stop => exact along.elim
    | sliceStep start stop step => exact along.elim
    | fillCache start stop => exact along.elim

end Read

namespace Reading

variable {σ α : Type} {fetch : Fetch σ α} {size : PageSize}

theorem slice_page (fetch : Fetch σ α) (size : PageSize) (source : σ) {start stop : Nat}
    (short : stop ≤ start + size.val) :
    ((⟨.fresh, source⟩ : Reading σ α).slice fetch size start (some stop)).2.source =
      afterWindows fetch source [(start, start + size.val)] := by
  have width : max (stop - start) size.val = size.val := by omega
  rw [slice]
  simp only [width, ensureCount_fresh]
  rw [fillPending_of_fetched]
  · rfl
  · rfl
  · intro i later earlier
    apply Cache.isPendingAt_fill
    rw [clip, Option.getD_some] at earlier
    omega

end Reading

namespace ResultSet

variable {Obj : Type} {s : ResultSet Obj} {c d : Connection Table Obj} {tail : Prop}
  {r : Reading (Connection Table Obj) (Hit Obj)} {request : Request} {read : Read} {bound : Nat}

/-- What reads of a table that does not change leave: a slot for each hit once their number is known, and a
connection alike. With `tail`, whatever lies behind a fetched position is fetched. -/
structure Stands (s : ResultSet Obj) (c : Connection Table Obj) (tail : Prop)
    (r : Reading (Connection Table Obj) (Hit Obj)) : Prop where
  sized : r.cache.Sized
  hits : ∀ n ∈ r.cache.hitCount, n = (s.plan.found c).length
  alike : c.Alike r.source
  whole : tail → r.cache.HasWholeTail

namespace Stands

theorem of_fresh (fresh : s.cache = .fresh) (c : Connection Table Obj) (tail : Prop) :
    s.Stands c tail ⟨s.cache, c⟩ := by
  rw [fresh]
  refine ⟨Cache.sized_fresh, nofun, Connection.Alike.refl c, ?_⟩
  intro _ i j _ _ inside
  exact absurd inside (Nat.not_lt_zero j)

theorem receive (stands : s.Stands c tail r) (request : Request)
    (covers : tail → request.stop ≤ request.start ∨ (s.plan.found c).length ≤ request.stop) :
    s.Stands c tail (r.receive s.send request) := by
  have sized : (r.receive s.send request).cache.Sized := Reading.sized_receive stands.sized request
  have hits := hits_receive stands.alike stands.hits request
  have whole : tail → (r.receive s.send request).cache.HasWholeTail := by
    intro ends
    apply stands.sized.hasWholeTail_fill (stands.whole ends)
    exact (covers ends).imp_right fun far => Nat.le_trans (sized.length_le hits) far
  exact ⟨sized, hits, s.alike_send stands.alike request, whole⟩

theorem maintains (c : Connection Table Obj) (read : Read)
    (long : tail → (s.plan.found c).length ≤ s.pageSize.val) :
    Reading.Maintains s.send (read.MaySend s.pageSize.val) (s.Stands c tail) := by
  refine ⟨fun r stands => stands.sized, ?_⟩
  intro r request stands sent
  apply stands.receive request
  intro ends
  have whole := long ends
  exact (Read.width_of_maySend sent).imp_right fun wide => by omega

/-- Every read leaves a set as it should stand; windows that a caller chooses may break the tail. -/
theorem perform (stands : s.Stands c tail r) (read : Read)
    (long : tail → (s.plan.found c).length ≤ s.pageSize.val ∧ read.KeepsTail) :
    ∃ last, s.Stands c tail last ∧ ((s.after r).1.perform (s.after r).2 read).2 = s.after last := by
  apply keeps_read read (maintains c read fun ends => (long ends).1) _ (fun _ stood => stood.alike) _ stands
  · rintro start stop rfl r stood
    exact stood.receive _ fun ends => (long ends).2.elim
  · exact fun _ _ stood alike => ⟨stood.sized, stood.hits, alike, stood.whole⟩

theorem performAll (stands : s.Stands c tail r) (reads : List Read)
    (long : tail → (s.plan.found c).length ≤ s.pageSize.val ∧ ∀ read ∈ reads, read.KeepsTail) :
    ∃ last, s.Stands c tail last ∧ ((s.after r).1.performAll (s.after r).2 reads).2 = s.after last := by
  apply keeps_reads _ stands
  intro read listed r stood
  exact stood.perform read fun ends => ⟨(long ends).1, (long ends).2 read listed⟩

end Stands

structure LogsUpTo (bound : Nat) (d : Connection Table Obj) : Prop where
  records : d.Records
  short : ∀ q ∈ d.log.records, ∀ stop ∈ q.stop, stop ≤ bound

theorem records_send (alike : c.Alike d) (records : d.Records) (request : Request) :
    (s.send d request).2.Records ∧
      (s.send d request).2.log.records = d.log.records ++ [s.plan.recordOf c (request.start, request.stop)] := by
  cases request with
  | count => exact s.plan.records_run alike records 0 0
  | window start stop => exact s.records_fetch alike records (start, stop)

theorem LogsUpTo.send (logs : LogsUpTo bound d) (s : ResultSet Obj) (alike : c.Alike d) (request : Request)
    (short : request.stop ≤ bound) : LogsUpTo bound (s.send d request).2 := by
  obtain ⟨records, logged⟩ := s.records_send alike logs.records request
  refine ⟨records, ?_⟩
  rw [logged]
  intro q listed stop ends
  rcases List.mem_append.1 listed with earlier | last
  · exact logs.short q earlier stop ends
  · rw [List.mem_singleton.1 last] at ends
    cases ends
    exact short

theorem LogsUpTo.stream (logs : LogsUpTo bound d) (s : ResultSet Obj) (alike : c.Alike d) (limit : Option Nat)
    (first : s.pageSize.val ≤ bound)
    (later : ∀ next, s.pageSize.val ≤ next → next < (s.plan.found c).length → next + s.pageSize.val ≤ bound) :
    LogsUpTo bound (s.stream d limit).2 := by
  let good := fun d : Connection Table Obj => c.Alike d ∧ LogsUpTo bound d
  have streamed : good (s.stream d limit).2 := by
    apply Reading.keeps_stream good (· = (s.plan.found c).length) _ _ _ limit ⟨alike, logs⟩
    · rintro source start stop ⟨alike, -⟩
      exact s.hits_send alike (.window start stop)
    · rintro source ⟨alike, logs⟩
      exact ⟨s.alike_fetch alike 0 _, logs.send s alike (.window 0 s.pageSize.val) first⟩
    · rintro source hits next ⟨alike, logs⟩ rfl behind inside
      exact ⟨s.alike_fetch alike next _,
        logs.send s alike (.window next (next + s.pageSize.val)) (later next behind inside)⟩
  exact streamed.2

/-- No query of a read reaches beyond a position, if none of the requests does that the read may send then, and
no page behind the first. What is known of the cache may be used if every fetch keeps it. -/
theorem queries_le (stands : s.Stands c tail r)
    (long : tail → (s.plan.found c).length ≤ s.pageSize.val) (kept : read.KeepsTail)
    (known : Cache (Hit Obj) → Prop) (start : known r.cache)
    (stays : ∀ cache first stop page, cache.Sized → known cache → known (cache.fill first stop page))
    (short : ∀ cache request, cache.slots.length ≤ (s.plan.found c).length → (tail → cache.HasWholeTail) →
      known cache → read.MaySend s.pageSize.val cache request → request.stop ≤ bound)
    (first : s.pageSize.val ≤ bound)
    (later : ∀ next, s.pageSize.val ≤ next → next < (s.plan.found c).length → next + s.pageSize.val ≤ bound) :
    ∀ q ∈ (s.after r).1.queries r.source read, ∀ stop ∈ q.stop, stop ≤ bound := by
  have same : (s.after r).1.send (σ := Table) = s.send := s.send_withCache r.cache
  have alike : c.recording.Alike r.source.recording := by
    refine ⟨stands.alike.engine, ?_, stands.alike.registry⟩
    rw [Connection.recording, stands.alike.settings]
    rfl
  have recorded : s.Stands c.recording tail ⟨r.cache, r.source.recording⟩ :=
    ⟨stands.sized, stands.hits, alike, stands.whole⟩
  have empty : LogsUpTo bound r.source.recording := ⟨r.source.records_recording, nofun⟩
  suffices done : LogsUpTo bound ((s.after r).1.perform r.source.recording read).2.2 from done.short
  rcases read.isCached_or with cached | ⟨start, stop, rfl⟩ | ⟨limit, rfl⟩
  · have maintained := Stands.maintains c.recording read long
    have logs : Reading.Maintains s.send (read.MaySend s.pageSize.val) fun after =>
        s.Stands c.recording tail after ∧ known after.cache ∧ LogsUpTo bound after.source := by
      refine ⟨fun after holds => maintained.sized after holds.1, ?_⟩
      rintro after request ⟨stood, knows, logs⟩ sent
      refine ⟨maintained.receive after request stood sent, stays _ _ _ _ stood.sized knows, ?_⟩
      exact logs.send s stood.alike request
        (short after.cache request (stood.sized.length_le stood.hits) stood.whole knows sent)
    rw [← same] at logs
    obtain ⟨last, ⟨-, -, done⟩, performed⟩ :=
      (s.after r).1.keeps_perform r.source.recording cached logs ⟨recorded, start, empty⟩
    rw [performed]
    exact done
  · exact kept.elim
  · exact empty.stream (s.after r).1 alike limit first later

/-- The queries that a read runs after others, as they are recorded. -/
def queriesAfter (s : ResultSet Obj) (c : Connection Table Obj) (before : List Read) (read : Read) :
    List QueryRecord :=
  (s.performAll c before).2.1.queries (s.performAll c before).2.2 read

theorem queriesAfter_le (fresh : s.cache = .fresh) (before : List Read)
    (within : read.IsWithin (s.plan.found c).length) :
    ∀ q ∈ s.queriesAfter c before read, ∀ stop ∈ q.stop,
      stop ≤ (s.plan.found c).length + s.pageSize.val := by
  obtain ⟨last, stands, performed⟩ := (Stands.of_fresh fresh c False).performAll before nofun
  have done : (s.performAll c before).2 = s.after last := performed
  rw [queriesAfter, done]
  apply queries_le stands nofun within.keepsTail (fun _ => True) trivial
  · exact fun _ _ _ _ _ _ => trivial
  · exact fun cache request length _ _ => Read.stop_le_of_maySend within length
  · exact Nat.le_add_left _ _
  · exact fun next _ inside => Nat.add_le_add_right (Nat.le_of_lt inside) s.pageSize.val

/-- A read that goes along reaches no further than a page, or twice the hits. -/
theorem queriesAfter_le_along (fresh : s.cache = .fresh) {before : List Read}
    (kept : ∀ read ∈ before, read.KeepsTail)
    (along : read.GoesAlong (s.plan.found c).length (s.performAll c before).2.1.cache) :
    ∀ q ∈ s.queriesAfter c before read, ∀ stop ∈ q.stop,
      stop ≤ max s.pageSize.val (2 * (s.plan.found c).length) := by
  by_cases short : (s.plan.found c).length < s.pageSize.val
  · obtain ⟨last, stands, performed⟩ := (Stands.of_fresh fresh c True).performAll before
      fun _ => ⟨Nat.le_of_lt short, kept⟩
    have done : (s.performAll c before).2 = s.after last := performed
    rw [done] at along
    rw [queriesAfter, done]
    apply queries_le stands (fun _ => Nat.le_of_lt short) along.isWithin.keepsTail
      (fun cache => read.GoesAlong (s.plan.found c).length cache) along
    · exact fun cache start stop page sized along => along.fill sized start stop page
    · intro cache request _ whole along sent
      have page := Read.stop_le_of_goesAlong along short (whole trivial) sent
      exact Nat.le_trans page (Nat.le_max_left _ _)
    · exact Nat.le_max_left _ _
    · intro next behind inside
      omega
  · intro q listed stop ends
    have bound := s.queriesAfter_le fresh before along.isWithin q listed stop ends
    omega

theorem queries_slice_page (fresh : s.cache = .fresh) (c : Connection Table Obj) {start stop : Nat}
    (short : stop ≤ start + s.pageSize.val) :
    s.queries c (.slice start (some stop)) = [s.plan.recordOf c (start, start + s.pageSize.val)] := by
  have sliced := Reading.slice_page s.fetch s.pageSize c.recording short
  rw [← fresh] at sliced
  have run : s.queries c (.slice start (some stop)) =
      [(start, start + s.pageSize.val)].map (s.plan.recordOf c) := s.queries_eq c sliced
  exact run

/-- No query of a read within the hits reaches beyond the machine words, whatever was read before, for exactly
the page sizes that leave room for all hits. Single positions and iterators never reach further than a page or
twice the hits, unless windows of the caller's own choice were fetched. -/
theorem queriesAfter_fit_iff (fresh : s.cache = .fresh) (c : Connection Table Obj) :
    ((∀ before read, read.IsWithin (s.plan.found c).length →
        ∀ q ∈ s.queriesAfter c before read, ∀ stop ∈ q.stop, stop < UInt64.size) ↔
      (s.plan.found c).length + s.pageSize.val < UInt64.size) ∧
    ∀ before read, (∀ other ∈ before, other.KeepsTail) →
      read.GoesAlong (s.plan.found c).length (s.performAll c before).2.1.cache →
        ∀ q ∈ s.queriesAfter c before read, ∀ stop ∈ q.stop,
          stop ≤ max s.pageSize.val (2 * (s.plan.found c).length) := by
  refine ⟨⟨?_, ?_⟩, fun before read kept => queriesAfter_le_along fresh kept⟩
  · intro fits
    -- an empty range behind the last hit takes a page from there on
    have within : (Read.slice (s.plan.found c).length (some (s.plan.found c).length)).IsWithin
        (s.plan.found c).length :=
      ⟨Nat.le_refl _, fun n same => Nat.le_of_eq (Option.some.inj same).symm⟩
    apply fits [] _ within
    · have page := s.queries_slice_page fresh c (Nat.le_add_right (s.plan.found c).length s.pageSize.val)
      exact page ▸ List.mem_singleton_self _
    · rfl
  · intro room before read within q listed stop ends
    exact Nat.lt_of_le_of_lt (s.queriesAfter_le fresh before within q listed stop ends) room

theorem queriesAfter_fit_notes :
    let s : ResultSet Nat := (ResultSet.ofPlan .default .empty).withPageSize 2
    s.cache = .fresh ∧ (Read.slice 1 (some 3)).IsWithin (s.plan.found notes).length ∧
      ∀ q ∈ s.queriesAfter notes [.get 0, .count] (.slice 1 (some 3)), ∀ stop ∈ q.stop, stop < UInt64.size := by
  intro s
  have three : (s.plan.found notes).length = 3 := by decide
  have within : (Read.slice 1 (some 3)).IsWithin (s.plan.found notes).length := by
    rw [three]
    exact ⟨by decide, fun n same => Nat.le_of_eq (Option.some.inj same).symm⟩
  obtain ⟨fits, -⟩ := queriesAfter_fit_iff (s := s) rfl notes
  rw [three] at fits
  refine ⟨rfl, within, ?_⟩
  rw [three] at within
  exact fits.2 (by decide) [.get 0, .count] (.slice 1 (some 3)) within

/-- With the largest page size, a range behind the first hit reaches beyond the machine words. -/
theorem not_queries_fit :
    ¬ ∀ (s : ResultSet Nat) (c : Connection Table Nat) (read : Read), s.cache = .fresh →
      s.pageSize.val < UInt64.size → read.IsWithin (s.plan.found c).length →
        ∀ q ∈ s.queries c read, ∀ stop ∈ q.stop, stop < UInt64.size := by
  intro fits
  let s : ResultSet Nat := (ResultSet.ofPlan .default .empty).withPageSize (UInt64.size - 1)
  have three : (s.plan.found notes).length = 3 := by decide
  have within : (Read.slice 1 (some 2)).IsWithin (s.plan.found notes).length := by
    rw [three]
    refine ⟨by decide, ?_⟩
    intro n same
    cases same
    decide
  have page : s.queries notes (.slice 1 (some 2)) = [s.plan.recordOf notes (1, 1 + s.pageSize.val)] :=
    s.queries_slice_page rfl notes (by decide)
  have beyond := fits s notes (.slice 1 (some 2)) rfl (by decide) within _ (page ▸ List.mem_singleton_self _) _ rfl
  exact absurd beyond (by decide)

end ResultSet

end RecordSearch
