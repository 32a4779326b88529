import RecordSearch.Proofs.ResultSet.Dropped
import RecordSearch.Proofs.ResultSet.Spared

/-!
The best match of a set and the first hit that an iterator over it gives. The best match stands at the first
position, whereas an iterator passes over positions without a hit.
-/

namespace RecordSearch

variable {σ α : Type}

theorem head?_existing {items : List (Option α)} {a : α} (here : itemAt items 0 = some a) :
    (existing items).head? = some a := by
  cases items with
  | nil => cases here
  | cons item rest =>
      obtain rfl : item = some a := here
      rfl

/-- A value that is missing or another one agrees with that one just if it is there, or the other is missing. -/
theorem map_eq_map_iff_of_either {β : Type} {f : α → β} {a b : Option α} (either : a = none ∨ a = b) :
    a.map f = b.map f ↔ b = none ∨ a.isSome = true := by
  rcases either with rfl | rfl
  · constructor
    · intro same
      exact Or.inl (Option.map_eq_none_iff.1 same.symm)
    · rintro (rfl | present)
      · rfl
      · cases present
  · constructor
    · intro _
      cases a with
      | none => exact Or.inl rfl
      | some x => exact Or.inr rfl
    · intro _
      rfl

theorem Slot.value?_ofItem_join (item : Option (Option α)) : (Slot.ofItem item).value? = item.join := by
  rcases item with _ | (_ | a) <;> rfl

namespace Cache

variable {c : Cache α}

theorem fetched_of_setCount {count i : Nat} {slot : Slot α} (found : (c.setCount count).slots[i]? = some slot)
    (resolved : slot.isPending = false) : c.slots[i]? = some slot := by
  cases known : c.hitCount with
  | some n =>
      rw [setCount_of_counted (by rw [known]; rfl)] at found
      exact found
  | none =>
      rw [setCount, known] at found
      rw [List.eq_of_mem_replicate (List.mem_of_getElem? found)] at resolved
      cases resolved

theorem fetched_of_fill {start stop i : Nat} {page : Page α} {slot : Slot α}
    (found : (c.fill start stop page).slots[i]? = some slot) (resolved : slot.isPending = false) :
    c.slots[i]? = some slot ∨ (start ≤ i ∧ i < stop) ∧ slot = .ofItem page.items[i - start]? := by
  rw [slots_fill, getElem?_fillFrom] at found
  by_cases inside : start ≤ i ∧ i < stop
  · rw [if_pos inside, Option.map_eq_some_iff] at found
    obtain ⟨before, there, filled⟩ := found
    cases waiting : before.isPending with
    | true =>
        cases before with
        | pending => exact Or.inr ⟨inside, filled.symm⟩
        | empty => cases waiting
        | filled a => cases waiting
    | false =>
        rw [Slot.fill_of_resolved waiting] at filled
        rw [filled] at there
        exact Or.inl (fetched_of_setCount there resolved)
  · rw [if_neg inside] at found
    exact Or.inl (fetched_of_setCount found resolved)

end Cache

namespace Reading

theorem flatMap_windowsFrom (size : PageSize) (all : List α) (start : Nat) :
    ((windowsFrom size all.length start).flatMap fun w => (all.take w.2).drop w.1) = all.drop start := by
  have positive := size.pos
  generalize left : all.length - start = n
  induction n using Nat.strongRecOn generalizing start with
  | ind n ih =>
      by_cases inside : start < all.length
      · rw [windowsFrom_of_lt size inside, List.flatMap_cons, ih _ (by omega) (start + size.val) rfl,
          List.drop_take, Nat.add_sub_cancel_left, ← List.drop_drop, List.take_append_drop]
      · rw [windowsFrom_of_le size (by omega), List.drop_eq_nil_of_le (by omega)]
        rfl

theorem flatMap_pageWindows (size : PageSize) (all : List α) :
    ((pageWindows size all.length).flatMap fun w => (all.take w.2).drop w.1) = all := by
  rw [pageWindows_eq, List.flatMap_cons, flatMap_windowsFrom, List.drop_zero, List.take_append_drop]

theorem keeps_streamPage {fetch : Fetch σ α} {size : PageSize} (good : σ → Prop) (total : Nat → Prop)
    (counts : ∀ source start stop, good source → total (fetch source start stop).1.hits)
    (keeps : ∀ source hits start, good source → total hits → size.val ≤ start → start < hits →
      good (fetch source start (start + size.val)).2)
    (limit : Option Nat) {page : Page α} {source : σ} (count : total page.hits) (state : good source)
    {next : Nat} (later : size.val ≤ next) (fuel : Nat) :
    good (streamPage fetch size limit page source next fuel).2 := by
  induction fuel generalizing limit page source next with
  | zero => exact state
  | succ fuel ih =>
      rw [streamPage]
      simp only
      split
      · exact state
      · split
        · exact state
        · rename_i more
          have inside : next < page.hits := by
            rw [Bool.or_eq_true, not_or, decide_eq_true_eq, decide_eq_true_eq] at more
            exact Nat.not_le.1 more.2
          exact ih _ (counts source next _ state) (keeps source page.hits next state count later inside)
            (Nat.le_add_left size.val next)

theorem keeps_stream {fetch : Fetch σ α} {size : PageSize} (good : σ → Prop) (total : Nat → Prop)
    (counts : ∀ source start stop, good source → total (fetch source start stop).1.hits)
    (first : ∀ source, good source → good (fetch source 0 size.val).2)
    (keeps : ∀ source hits start, good source → total hits → size.val ≤ start → start < hits →
      good (fetch source start (start + size.val)).2)
    (limit : Option Nat) {source : σ} (state : good source) : good (stream fetch size limit source).2 := by
  rw [stream]
  split
  · exact state
  · exact keeps_streamPage good total counts keeps limit (counts source 0 size.val state) (first source state)
      (Nat.le_refl _) _

end Reading

namespace Plan

variable {Obj : Type}

/-- The hits of a plan as the table answers them, readable or not. -/
def rawHits (p : Plan) (c : Connection Table Obj) : List RawHit := (p.answers c 0 none).results

theorem rawHits_spec (p : Plan) (c : Connection Table Obj) :
    (p.found c).length = (p.rawHits c).length ∧
      ∀ start stop, (p.answers c start (some stop)).results = ((p.rawHits c).take stop).drop start := by
  obtain ⟨all, windows⟩ := p.ask_window c
  obtain ⟨-, whole, -⟩ := windows 0 none
  have every : p.rawHits c = all := whole.trans (Table.window_none all)
  obtain ⟨total, -⟩ := p.ask_results c 0 0
  obtain ⟨hits, -⟩ := windows 0 (some 0)
  rw [every]
  refine ⟨total.symm.trans hits, ?_⟩
  intro start stop
  obtain ⟨-, results, -⟩ := windows start (some stop)
  exact results.trans (Table.window_some start stop all)

end Plan

namespace ResultSet

variable {Obj : Type} {s : ResultSet Obj} {c d : Connection Table Obj}

def itemsOf (s : ResultSet Obj) (c : Connection Table Obj) (raws : List RawHit) : List (Option (Hit Obj)) :=
  (raws.filterMap (Hit.ofRaw? c.registry c.settings)).map (s.itemFor c.registry)

theorem itemsOf_append (s : ResultSet Obj) (c : Connection Table Obj) (front rest : List RawHit) :
    s.itemsOf c (front ++ rest) = s.itemsOf c front ++ s.itemsOf c rest := by
  rw [itemsOf, List.filterMap_append, List.map_append]
  rfl

theorem page_eq (byKey : s.LoadsByKey c.registry) (start stop : Nat) :
    s.page c start stop = s.itemsOf c (((s.plan.rawHits c).take stop).drop start) := by
  obtain ⟨-, windows⟩ := s.plan.rawHits_spec c
  rw [page, s.fetch_eq (Connection.Alike.refl c), windows, itemsOf]
  exact (loadItems_eq byKey _).1

theorem shown_pages (byKey : s.LoadsByKey c.registry) :
    Reading.shown (s.page c) (Reading.pageWindows s.pageSize (s.plan.found c).length) =
      existing (s.itemsOf c (s.plan.rawHits c)) := by
  have append : ∀ windows : List (Nat × Nat), Reading.shown (s.page c) windows =
      existing (s.itemsOf c (windows.flatMap fun w => ((s.plan.rawHits c).take w.2).drop w.1)) := by
    intro windows
    induction windows with
    | nil => rfl
    | cons w rest ih =>
        rw [Reading.shown_cons, List.flatMap_cons, itemsOf_append, existing_append, ih, page_eq byKey]
  rw [append, (s.plan.rawHits_spec c).1, Reading.flatMap_pageWindows]

theorem head?_iter (fresh : s.cache = .fresh) (alike : c.Alike d) :
    (s.iter d (some 1)).1.head? =
      (Reading.shown (s.page c) (Reading.pageWindows s.pageSize (s.plan.found c).length)).head? := by
  have all := s.iter_eq_shown fresh alike
  have one : (s.iter d (some 1)).1 = (s.iter d none).1.take 1 :=
    Reading.iter_upTo s.fetch s.pageSize (some 1) ⟨s.cache, d⟩
  rw [one, all, List.head?_take, if_neg Nat.one_ne_zero]

theorem alike_send (alike : c.Alike d) (request : Request) : c.Alike (s.send d request).2 := by
  cases request with
  | count => exact s.plan.alike_after alike 0 (some 0)
  | window start stop => exact s.alike_fetch alike start stop

theorem hits_send (alike : c.Alike d) (request : Request) :
    (s.send d request).1.hits = (s.plan.found c).length := by
  cases request with
  | count =>
      obtain ⟨hits, -⟩ := s.plan.ask_results c 0 0
      rw [← hits, ← Plan.ask_alike alike]
      rfl
  | window start stop => exact congrArg Page.hits (s.fetch_eq alike start stop)

/-- How far reads of a set have come: what is known at the first position is the first item of some page. -/
structure Begins (s : ResultSet Obj) (c : Connection Table Obj)
    (r : Reading (Connection Table Obj) (Hit Obj)) : Prop where
  alike : c.Alike r.source
  sized : r.cache.Sized
  counted : ∀ n, r.cache.hitCount = some n → n = (s.plan.found c).length
  first : ∀ slot, r.cache.slots[0]? = some slot → slot.isPending = false →
    ∃ stop, 0 < stop ∧ slot = .ofItem (s.page c 0 stop)[0]?

variable {r : Reading (Connection Table Obj) (Hit Obj)}

theorem hits_receive (alike : c.Alike r.source) (counted : ∀ n ∈ r.cache.hitCount, n = (s.plan.found c).length)
    (request : Request) : ∀ n ∈ (r.receive s.send request).cache.hitCount, n = (s.plan.found c).length := by
  intro n known
  rw [Reading.receive, Cache.hitCount_fill, s.hits_send alike] at known
  cases known
  cases before : r.cache.hitCount with
  | none => rfl
  | some n => exact counted n before

theorem begins_start (fresh : s.cache = .fresh) : s.Begins c ⟨s.cache, c⟩ := by
  rw [fresh]
  refine ⟨Connection.Alike.refl c, Cache.sized_fresh, ?_, ?_⟩
  · intro n known
    cases known
  · intro slot found
    cases found

theorem Begins.receive (begins : s.Begins c r) (request : Request) : s.Begins c (r.receive s.send request) := by
  refine ⟨s.alike_send begins.alike request, Reading.sized_receive begins.sized request,
    hits_receive begins.alike begins.counted request, ?_⟩
  intro slot found resolved
  rcases Cache.fetched_of_fill found resolved with before | ⟨⟨front, inside⟩, item⟩
  · exact begins.first slot before resolved
  · cases request with
    | count => exact absurd inside (Nat.lt_irrefl 0)
    | window start stop =>
        obtain rfl := Nat.le_zero.1 front
        have answer := (s.steady_fetch c).answers r.source 0 stop begins.alike
        change slot = .ofItem (s.fetch r.source 0 stop).1.items[0]? at item
        rw [answer] at item
        exact ⟨stop, inside, item⟩

theorem itemAt_page_of_nothing (nothing : (s.plan.found c).length = 0) (stop : Nat) :
    itemAt (s.page c 0 stop) 0 = none := by
  have bound := (s.steady_fetch c).length 0 stop
  have empty : s.page c 0 stop = [] := List.length_eq_zero_iff.1 (by omega)
  rw [empty]
  rfl

theorem Begins.value?_receive (begins : s.Begins c r) (unfetched : ¬ r.cache.IsFetchedAt 0) {stop : Nat}
    (wide : 0 < stop) :
    (r.receive s.send (.window 0 stop)).cache.value? 0 = itemAt (s.page c 0 stop) 0 := by
  have answer := (s.steady_fetch c).answers r.source 0 stop begins.alike
  have after := begins.receive (.window 0 stop)
  rw [Cache.value?, Cache.slot?]
  cases found : (r.receive s.send (.window 0 stop)).cache.slots[0]? with
  | none =>
      obtain ⟨n, known⟩ : ∃ n, (r.receive s.send (.window 0 stop)).cache.hitCount = some n :=
        Option.isSome_iff_exists.1 (Reading.counted_receive r (.window 0 stop))
      have length := after.sized
      rw [Cache.Sized, known, Option.getD_some, after.counted n known] at length
      have behind := List.getElem?_eq_none_iff.1 found
      rw [itemAt_page_of_nothing (by omega)]
      rfl
  | some slot =>
      have resolved : slot.isPending = false := by
        have filled : (r.cache.fill 0 stop (s.send r.source (.window 0 stop)).1).isPendingAt 0 = false :=
          Cache.isPendingAt_fill ⟨Nat.le_refl 0, wide⟩
        have there : (r.cache.fill 0 stop (s.send r.source (.window 0 stop)).1).slot? 0 = some slot := found
        rw [Cache.isPendingAt, there] at filled
        exact filled
      rcases Cache.fetched_of_fill found resolved with before | ⟨_, item⟩
      · exact absurd ⟨slot, before, resolved⟩ unfetched
      · change slot = .ofItem (s.fetch r.source 0 stop).1.items[0]? at item
        rw [Option.bind_some, item, answer, Slot.value?_ofItem_join, itemAt]

theorem Begins.get (begins : s.Begins c r) :
    ∃ stop, 0 < stop ∧ (r.get s.fetch s.pageSize 0).1 = itemAt (s.page c 0 stop) 0 ∧
      (¬ r.cache.IsFetchedAt 0 → stop = s.pageSize.val) := by
  have positive := s.pageSize.pos
  cases behind : r.isBehind 0 with
  | true =>
      obtain ⟨n, known, none_left⟩ := Reading.isBehind_iff.1 behind
      have nothing : (s.plan.found c).length = 0 := by
        rw [← begins.counted n known]
        exact Nat.le_zero.1 none_left
      refine ⟨s.pageSize.val, positive, ?_, fun _ => rfl⟩
      rw [Reading.get, behind, if_pos rfl, itemAt_page_of_nothing nothing]
  | false =>
      by_cases fetched : r.cache.IsFetchedAt 0
      · obtain ⟨slot, found, resolved⟩ := fetched
        obtain ⟨stop, wide, item⟩ := begins.first slot found resolved
        refine ⟨stop, wide, ?_, fun unfetched => absurd ⟨slot, found, resolved⟩ unfetched⟩
        rw [Reading.get_of_slot s.fetch s.pageSize behind found resolved, item, Slot.value?_ofItem_join, itemAt]
      · have whole : max s.pageSize.val 1 = s.pageSize.val := Nat.max_eq_left positive
        refine ⟨s.pageSize.val, positive, ?_, fun _ => rfl⟩
        rw [Reading.get_of_unfetched s.fetch s.pageSize behind fetched]
        simp only [Nat.zero_mod, Nat.sub_zero, Nat.zero_add, whole]
        exact begins.value?_receive fetched positive

/-- What the requests of a read keep is kept by the read. An iterator past the cache changes the connection
only, which stays alike. -/
theorem keeps_read {inv : Reading (Connection Table Obj) (Hit Obj) → Prop} (read : Read)
    (maintains : Reading.Maintains s.send (read.MaySend s.pageSize.val) inv)
    (fills : ∀ start stop, read = .fillCache start stop →
      ∀ r, inv r → inv (r.receive s.send (.window start stop)))
    (alike : ∀ r, inv r → c.Alike r.source) (streams : ∀ r d, inv r → c.Alike d → inv ⟨r.cache, d⟩)
    (holds : inv r) :
    ∃ last, inv last ∧ ((s.after r).1.perform (s.after r).2 read).2 = s.after last := by
  have same : (s.after r).1.send (σ := Table) = s.send := s.send_withCache r.cache
  rcases read.isCached_or with cached | ⟨start, stop, rfl⟩ | ⟨limit, rfl⟩
  · rw [← same] at maintains
    exact (s.after r).1.keeps_perform (s.after r).2 cached maintains holds
  · have next := fills start stop rfl r holds
    rw [← same] at next
    exact ⟨_, next, rfl⟩
  · have keeps := ((s.after r).1.steady_fetch c).keeps
    have streamed : c.Alike ((s.after r).1.stream r.source limit).2 :=
      Reading.keeps_stream c.Alike (fun _ => True) (fun _ _ _ _ => trivial)
        (fun source like => keeps source 0 _ like) (fun source _ start like _ _ _ => keeps source start _ like)
        limit (alike r holds)
    exact ⟨⟨r.cache, _⟩, streams r _ holds streamed, rfl⟩

theorem keeps_reads {inv : Reading (Connection Table Obj) (Hit Obj) → Prop} {reads : List Read}
    (keeps : ∀ read ∈ reads, ∀ r, inv r →
      ∃ last, inv last ∧ ((s.after r).1.perform (s.after r).2 read).2 = s.after last)
    (holds : inv r) :
    ∃ last, inv last ∧ ((s.after r).1.performAll (s.after r).2 reads).2 = s.after last := by
  induction reads generalizing r with
  | nil => exact ⟨r, holds, rfl⟩
  | cons read rest ih =>
      obtain ⟨next, kept, performed⟩ := keeps read List.mem_cons_self r holds
      obtain ⟨last, still, all⟩ := ih (fun other listed => keeps other (List.mem_cons_of_mem read listed)) kept
      refine ⟨last, still, ?_⟩
      rw [performAll_cons, performed]
      exact all

theorem Begins.perform (begins : s.Begins c r) (read : Read) :
    ∃ after, s.Begins c after ∧ ((s.after r).1.perform (s.after r).2 read).2 = s.after after := by
  apply keeps_read read ⟨fun _ before => before.sized, fun _ request before _ => before.receive request⟩
    (fun start stop _ _ before => before.receive (.window start stop)) (fun _ before => before.alike) _ begins
  exact fun _ _ before alike => ⟨alike, before.sized, before.counted, before.first⟩

theorem Begins.performAll (begins : s.Begins c r) (reads : List Read) :
    ∃ after, s.Begins c after ∧ ((s.after r).1.performAll (s.after r).2 reads).2 = s.after after :=
  keeps_reads (fun read _ _ before => before.perform read) begins

theorem fetch_withCache {σ : Type} [Engine σ] (s : ResultSet Obj) (cache : Cache (Hit Obj)) :
    fetch (σ := σ) { s with cache := cache } = s.fetch := congrArg Ask.fetch (s.send_withCache cache)

theorem Begins.bestMatch (begins : s.Begins c r) :
    ∃ stop, 0 < stop ∧ ((s.after r).1.bestMatch (s.after r).2).1 = itemAt (s.page c 0 stop) 0 ∧
      (¬ r.cache.IsFetchedAt 0 → stop = s.pageSize.val) := by
  obtain ⟨stop, wide, item, now⟩ := begins.get
  rw [← s.fetch_withCache r.cache] at item
  exact ⟨stop, wide, item, now⟩

theorem head?_shown_of_itemAt {a : Hit Obj} (here : itemAt (s.page c 0 s.pageSize.val) 0 = some a) (hits : Nat) :
    (Reading.shown (s.page c) (Reading.pageWindows s.pageSize hits)).head? = some a := by
  rw [Reading.pageWindows_eq, Reading.shown_cons, List.head?_append, head?_existing here, Option.some_or]

theorem head?_shown_of_page (byKey : s.LoadsByKey c.registry) {stop : Nat} {a : Hit Obj}
    (here : itemAt (s.page c 0 stop) 0 = some a) :
    (Reading.shown (s.page c) (Reading.pageWindows s.pageSize (s.plan.found c).length)).head? = some a := by
  rw [page_eq byKey, List.drop_zero] at here
  have whole : s.itemsOf c (s.plan.rawHits c) =
      s.itemsOf c ((s.plan.rawHits c).take stop) ++ s.itemsOf c ((s.plan.rawHits c).drop stop) := by
    rw [← itemsOf_append, List.take_append_drop]
  rw [shown_pages byKey, whole, existing_append, List.head?_append, head?_existing here, Option.some_or]

/-- What the first hit of a set is shown as, if it can be read and is shown. -/
def firstItem? (s : ResultSet Obj) (c : Connection Table Obj) : Option (Hit Obj) :=
  ((s.plan.rawHits c).head?.bind (Hit.ofRaw? c.registry c.settings)).bind (s.itemFor c.registry)

theorem itemAt_page_of_firstItem? (byKey : s.LoadsByKey c.registry) {a : Hit Obj}
    (here : s.firstItem? c = some a) {stop : Nat} (wide : 0 < stop) : itemAt (s.page c 0 stop) 0 = some a := by
  obtain ⟨h, readable, shown⟩ := Option.bind_eq_some_iff.1 here
  obtain ⟨raw, first, read⟩ := Option.bind_eq_some_iff.1 readable
  obtain ⟨rest, raws⟩ := List.head?_eq_some_iff.1 first
  have front : (s.plan.rawHits c).take stop = raw :: rest.take (stop - 1) := by
    rw [raws, List.take_cons wide]
  rw [page_eq byKey, List.drop_zero, front, itemsOf, List.filterMap_cons_some read, List.map_cons]
  exact shown

/-- The best match of a fresh set is the first item of its first page. -/
theorem bestMatch_of_fresh (fresh : s.cache = .fresh) :
    (s.bestMatch c).1 = itemAt (s.page c 0 s.pageSize.val) 0 := by
  obtain ⟨stop, -, item, now⟩ := (begins_start (c := c) fresh).bestMatch
  have unfetched : ¬ s.cache.IsFetchedAt 0 := by
    rw [fresh]
    exact Cache.sized_fresh.not_isFetchedAt_of_unknown rfl
  rw [now unfetched] at item
  exact item

/-- After any reads, the best match is none or what comes first, and it is what comes first if the first hit is
shown. -/
theorem Begins.bestMatch_of_byKey (begins : s.Begins c r) (byKey : s.LoadsByKey c.registry)
    {first : Option (Hit Obj)}
    (shown : first =
      (Reading.shown (s.page c) (Reading.pageWindows s.pageSize (s.plan.found c).length)).head?) :
    (((s.after r).1.bestMatch (s.after r).2).1 = none ∨ ((s.after r).1.bestMatch (s.after r).2).1 = first) ∧
      ((s.firstItem? c).isSome = true → ((s.after r).1.bestMatch (s.after r).2).1 = first) := by
  obtain ⟨stop, wide, item, -⟩ := begins.bestMatch
  have same : ∀ a, itemAt (s.page c 0 stop) 0 = some a → itemAt (s.page c 0 stop) 0 = first := by
    intro a here
    rw [shown, head?_shown_of_page byKey here, here]
  rw [item]
  constructor
  · cases here : itemAt (s.page c 0 stop) 0 with
    | none => exact Or.inl rfl
    | some a => exact Or.inr (here.symm.trans (same a here))
  · intro shows
    obtain ⟨a, here⟩ := Option.isSome_iff_exists.1 shows
    exact same a (itemAt_page_of_firstItem? byKey here wide)

theorem all_after (fresh : s.cache = .fresh) (r : Reading (Connection Table Obj) (Hit Obj)) :
    (s.after r).1.all = s := by
  cases s
  cases fresh
  rfl

/-- The best match of a fresh set is none, or what an iterator over it gives first. It is none in spite of such a
hit just if the first page begins without one. After any reads it still is none or that hit, as long as stores
answer key by key, and it is that hit if the first hit of the set is shown. -/
theorem bestMatch_eq_first_iff (s : ResultSet Obj) (c : Connection Table Obj) (fresh : s.cache = .fresh) :
    let first := (s.iter c (some 1)).1.head?
    ((s.bestMatch c).1 = none ∨ (s.bestMatch c).1 = first) ∧
      ((s.bestMatch c).1.map Hit.key = first.map Hit.key ↔
        first = none ∨ (itemAt (s.page c 0 s.pageSize.val) 0).isSome = true) ∧
      (s.LoadsByKey c.registry → ∀ reads : List Read,
        let t := (s.performAll c reads).2.1
        let d := (s.performAll c reads).2.2
        (t.all.iter d (some 1)).1.head? = first ∧
          ((t.bestMatch d).1 = none ∨ (t.bestMatch d).1 = first) ∧
          ((s.firstItem? c).isSome = true → (t.bestMatch d).1 = first)) := by
  intro first
  have shown := head?_iter fresh (Connection.Alike.refl c)
  have either : (s.bestMatch c).1 = none ∨ (s.bestMatch c).1 = first := by
    rw [bestMatch_of_fresh fresh]
    cases here : itemAt (s.page c 0 s.pageSize.val) 0 with
    | none => exact Or.inl rfl
    | some a => exact Or.inr (shown.trans (head?_shown_of_itemAt here _)).symm
  refine ⟨either, ?_, ?_⟩
  · rw [← bestMatch_of_fresh fresh]
    exact map_eq_map_iff_of_either either
  · intro byKey reads t d
    obtain ⟨r, begins, performed⟩ := (begins_start fresh).performAll reads
    have set : t = (s.after r).1 := congrArg Prod.fst performed
    have connection : d = (s.after r).2 := congrArg Prod.snd performed
    have again : (s.iter (s.after r).2 (some 1)).1.head? = first :=
      (head?_iter fresh begins.alike).trans shown.symm
    rw [set, connection, all_after fresh]
    exact ⟨again, begins.bestMatch_of_byKey byKey shown⟩

theorem bestMatch_eq_first_notes :
    let s : ResultSet Nat := ⟨.addOrder .empty ["-title"], .of 2, .fresh, true, true, .empty⟩
    let reads : List Read := [.slice 1 none, .count, .stream (some 2)]
    let t := (s.performAll notes reads).2.1
    let d := (s.performAll notes reads).2.2
    s.cache = .fresh ∧ s.LoadsByKey notes.registry ∧ (s.firstItem? notes).isSome = true ∧
      (t.bestMatch d).1 = (t.all.iter d (some 1)).1.head? := by
  intro s reads t d
  have byKey : s.LoadsByKey notes.registry := by
    intro model replacement store used
    obtain ⟨entry, found, same⟩ := Option.map_eq_some_iff.1 used
    obtain rfl := List.mem_singleton.1 (List.mem_of_find?_eq_some found)
    cases same
    exact ObjectList.keyByKey_toStore _
  have shows : (s.firstItem? notes).isSome = true := by decide
  obtain ⟨-, -, after⟩ := bestMatch_eq_first_iff s notes rfl
  obtain ⟨first, -, best⟩ := after byKey reads
  exact ⟨rfl, byKey, shows, (best shows).trans first.symm⟩

/-- There may be no best match although an iterator gives a hit. -/
theorem not_bestMatch_eq_first :
    ¬ ∀ (s : ResultSet Nat) (c : Connection Table Nat), s.cache = .fresh →
      (s.bestMatch c).1.map Hit.key = (s.iter c (some 1)).1.head?.map Hit.key := by
  intro agree
  have same := agree ⟨.addOrder .empty ["title"], .of 2, .fresh, true, true, .empty⟩ notes rfl
  rw [head?_iter rfl (Connection.Alike.refl notes)] at same
  revert same
  decide

end ResultSet

end RecordSearch
