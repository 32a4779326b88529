import RecordSearch.Proofs.ResultSet.Repeats

/-!
Iterators over a source that gives the same page for the same window each time. The caching iterator and
the one past the cache fetch the same windows, page by page; only the latter stops at a page without items.
-/

namespace RecordSearch

variable {σ α : Type}

/-- A source whose answers depend on the window only: it names one number of hits, and gives no more items
than the window has hits. -/
structure Steady (fetch : Fetch σ α) (good : σ → Prop) (hits : Nat)
    (page : Nat → Nat → List (Option α)) : Prop where
  answers : ∀ source start stop, good source → (fetch source start stop).1 = ⟨hits, page start stop⟩
  keeps : ∀ source start stop, good source → good (fetch source start stop).2
  length : ∀ start stop, (page start stop).length ≤ min stop hits - start

namespace Reading

def windowsFrom (size : PageSize) (hits start : Nat) : List (Nat × Nat) :=
  (List.range' start ((hits - start + size.val - 1) / size.val) size.val).map fun first =>
    (first, first + size.val)

/-- The windows of all pages. The first is fetched in any case, to know the number of hits. -/
def pageWindows (size : PageSize) (hits : Nat) : List (Nat × Nat) :=
  (List.range' 0 (max 1 ((hits + size.val - 1) / size.val)) size.val).map fun first =>
    (first, first + size.val)

section

variable (size : PageSize) {hits start : Nat}

theorem windowsFrom_of_le (behind : hits ≤ start) : windowsFrom size hits start = [] := by
  have positive := size.pos
  have none : (hits - start + size.val - 1) / size.val = 0 := Nat.div_eq_of_lt (by omega)
  rw [windowsFrom, none]
  rfl

theorem windowsFrom_of_lt (inside : start < hits) :
    windowsFrom size hits start =
      (start, start + size.val) :: windowsFrom size hits (start + size.val) := by
  have positive := size.pos
  have count : (hits - start + size.val - 1) / size.val =
      (hits - (start + size.val) + size.val - 1) / size.val + 1 := by
    by_cases more : start + size.val ≤ hits
    · have whole : hits - start + size.val - 1 =
          hits - (start + size.val) + size.val - 1 + size.val := by omega
      rw [whole, Nat.add_div_right _ positive]
    · have short : (hits - (start + size.val) + size.val - 1) / size.val = 0 :=
        Nat.div_eq_of_lt (by omega)
      have last : hits - start + size.val - 1 = hits - start - 1 + size.val := by omega
      rw [short, last, Nat.add_div_right _ positive, Nat.div_eq_of_lt (by omega)]
  rw [windowsFrom, count, List.range'_succ, List.map_cons, windowsFrom]

theorem pageWindows_eq (hits : Nat) :
    pageWindows size hits = (0, size.val) :: windowsFrom size hits size.val := by
  have positive := size.pos
  by_cases inside : 0 < hits
  · have some_page : max 1 ((hits + size.val - 1) / size.val) = (hits - 0 + size.val - 1) / size.val := by
      have one : 1 ≤ (hits + size.val - 1) / size.val := (Nat.le_div_iff_mul_le positive).2 (by omega)
      rw [Nat.sub_zero]
      omega
    have whole := windowsFrom_of_lt size inside
    rw [Nat.zero_add] at whole
    rw [← whole, pageWindows, some_page, windowsFrom]
  · have nothing : (hits + size.val - 1) / size.val = 0 := Nat.div_eq_of_lt (by omega)
    rw [windowsFrom_of_le size (by omega), pageWindows, nothing]
    simp only [Nat.zero_le, max_eq_left, List.range'_one, List.map_cons, Nat.zero_add, List.map_nil]

end

def afterWindows (fetch : Fetch σ α) (source : σ) (windows : List (Nat × Nat)) : σ :=
  windows.foldl (fun source w => (fetch source w.1 w.2).2) source

theorem afterWindows_cons (fetch : Fetch σ α) (source : σ) (w : Nat × Nat) (rest : List (Nat × Nat)) :
    afterWindows fetch source (w :: rest) = afterWindows fetch (fetch source w.1 w.2).2 rest := rfl

/-- What the items of some windows show. -/
def shown (page : Nat → Nat → List (Option α)) (windows : List (Nat × Nat)) : List α :=
  windows.flatMap fun w => existing (page w.1 w.2)

theorem shown_cons (page : Nat → Nat → List (Option α)) (w : Nat × Nat) (rest : List (Nat × Nat)) :
    shown page (w :: rest) = existing (page w.1 w.2) ++ shown page rest := List.flatMap_cons

/-- A reading that has come to a page: its cache holds the items of the page, and what is behind it is pending. -/
structure OnPage (good : σ → Prop) (hits : Nat) (size : PageSize) (start : Nat) (items : List (Option α))
    (r : Reading σ α) : Prop where
  source : good r.source
  hitCount : r.cache.hitCount = some hits
  length : r.cache.slots.length = hits
  here : ∀ i, start ≤ i → i < start + size.val → i < hits →
    r.cache.slot? i = some (.ofItem items[i - start]?)
  behind : ∀ i, start + size.val ≤ i → i < hits → r.cache.slot? i = some .pending

variable {fetch : Fetch σ α} {good : σ → Prop} {hits : Nat} {page : Nat → Nat → List (Option α)}
  {r : Reading σ α} {size : PageSize} {start position : Nat} {items : List (Option α)}

theorem ensureCount_fresh (fetch : Fetch σ α) (source : σ) (start width : Nat) :
    (⟨.fresh, source⟩ : Reading σ α).ensureCount fetch start width =
      ((⟨.fresh, source⟩ : Reading σ α).fill fetch start (start + width)).2 := rfl

theorem onPage_fill (steady : Steady fetch good hits page) (source : good r.source)
    (hitCount : (r.cache.setCount hits).hitCount = some hits)
    (length : (r.cache.setCount hits).slots.length = hits)
    (pending : ∀ i, start ≤ i → i < hits → (r.cache.setCount hits).slots[i]? = some .pending) :
    (r.fill fetch start (start + size.val)).2.OnPage good hits size start
      (page start (start + size.val)) := by
  have answer := steady.answers r.source start (start + size.val) source
  have cache : (r.fill fetch start (start + size.val)).2.cache =
      r.cache.fill start (start + size.val) ⟨hits, page start (start + size.val)⟩ := by
    rw [cache_fill, answer]
  refine ⟨steady.keeps r.source start (start + size.val) source, ?_, ?_, ?_, ?_⟩
  · rw [cache]
    exact hitCount
  · rw [cache, Cache.length_slots_fill]
    exact length
  · intro i later earlier inside
    rw [cache, Cache.slot?, Cache.slots_fill, Cache.getElem?_fillFrom, if_pos ⟨later, earlier⟩,
      pending i later inside]
    rfl
  · intro i later inside
    rw [cache, Cache.slot?, Cache.slots_fill, Cache.getElem?_fillFrom, if_neg (by omega),
      pending i (by omega) inside]

theorem onPage_first (size : PageSize) (steady : Steady fetch good hits page) {source : σ}
    (state : good source) :
    ((⟨.fresh, source⟩ : Reading σ α).fill fetch 0 size.val).2.OnPage good hits size 0
      (page 0 size.val) := by
  have first : ((⟨.fresh, source⟩ : Reading σ α).fill fetch 0 (0 + size.val)).2.OnPage good hits size 0
      (page 0 (0 + size.val)) :=
    onPage_fill steady state rfl List.length_replicate fun i _ inside => List.getElem?_replicate_of_lt inside
  rw [Nat.zero_add] at first
  exact first

theorem OnPage.next (steady : Steady fetch good hits page) (on : r.OnPage good hits size start items) :
    (r.fill fetch (start + size.val) (start + size.val + size.val)).2.OnPage good hits size
      (start + size.val) (page (start + size.val) (start + size.val + size.val)) := by
  have same : r.cache.setCount hits = r.cache := by
    apply Cache.setCount_of_counted
    rw [on.hitCount]
    rfl
  apply onPage_fill steady on.source
  · rw [same]
    exact on.hitCount
  · rw [same]
    exact on.length
  · rw [same]
    exact on.behind

theorem OnPage.counted (on : r.OnPage good hits size start items) : r.cache.hitCount.isSome = true := by
  rw [on.hitCount]
  rfl

theorem existing_drop_eq (items : List (Option α)) (i : Nat) :
    existing (items.drop i) = items[i]?.join.toList ++ existing (items.drop (i + 1)) := by
  by_cases inside : i < items.length
  · rw [existing_drop inside, List.getElem?_eq_getElem inside]
    rfl
  · rw [List.drop_eq_nil_of_le (by omega), List.drop_eq_nil_of_le (by omega),
      List.getElem?_eq_none (by omega)]
    rfl

section

variable (fetch) (size) {limit : Option Nat} (more : limit ≠ some 0) (counted : r.cache.hitCount.isSome = true)

include more counted

theorem iterFrom_of_none (nothing : r.cache.slot? position = none) :
    r.iterFrom fetch size limit position = ([], r) := by
  rw [iterFrom, if_neg more, dif_pos counted]
  split <;> rename_i found <;> rw [nothing] at found <;> cases found

theorem iterFrom_of_pending (pending : r.cache.slot? position = some .pending) :
    r.iterFrom fetch size limit position =
      (r.fill fetch position (position + size.val)).2.iterFrom fetch size limit position := by
  rw [iterFrom, if_neg more, dif_pos counted]
  split <;> rename_i found <;> rw [pending] at found <;> cases found

theorem iterFrom_of_empty (empty : r.cache.slot? position = some .empty) :
    r.iterFrom fetch size limit position = r.iterFrom fetch size limit (position + 1) := by
  rw [iterFrom, if_neg more, dif_pos counted]
  split <;> rename_i found <;> rw [empty] at found <;> cases found

theorem iterFrom_of_filled {a : α} (filled : r.cache.slot? position = some (.filled a)) :
    r.iterFrom fetch size limit position =
      (a :: (r.iterFrom fetch size (limit.map (· - 1)) (position + 1)).1,
        (r.iterFrom fetch size (limit.map (· - 1)) (position + 1)).2) := by
  rw [iterFrom, if_neg more, dif_pos counted]
  split <;> rename_i found <;> rw [filled] at found <;> cases found
  rfl

end

theorem none_ne_zero : (none : Option Nat) ≠ some 0 := (Option.some_ne_none 0).symm

theorem iterFrom_of_fetched (fetch : Fetch σ α) (size : PageSize) (counted : r.cache.hitCount.isSome = true)
    {item : Option (Option α)} (fetched : r.cache.slot? position = some (.ofItem item)) :
    r.iterFrom fetch size none position =
      (item.join.toList ++ (r.iterFrom fetch size none (position + 1)).1,
        (r.iterFrom fetch size none (position + 1)).2) := by
  rcases item with _ | (_ | a)
  · exact iterFrom_of_empty fetch size none_ne_zero counted fetched
  · exact iterFrom_of_empty fetch size none_ne_zero counted fetched
  · exact iterFrom_of_filled fetch size none_ne_zero counted fetched

theorem OnPage.iterFrom_eq (fetch : Fetch σ α) (on : r.OnPage good hits size start items)
    (within : items.length ≤ min (start + size.val) hits - start) (later : start ≤ position)
    (earlier : position ≤ start + size.val) :
    r.iterFrom fetch size none position =
      (existing (items.drop (position - start)) ++ (r.iterFrom fetch size none (start + size.val)).1,
        (r.iterFrom fetch size none (start + size.val)).2) := by
  generalize left : start + size.val - position = n
  induction n generalizing position with
  | zero =>
      have here : position = start + size.val := by omega
      rw [here, List.drop_eq_nil_of_le (by omega)]
      rfl
  | succ n ih =>
      by_cases inside : position < hits
      · have step := iterFrom_of_fetched fetch size on.counted (on.here position later (by omega) inside)
        have whole := existing_drop_eq items (position - start)
        rw [step, ih (by omega) (by omega) (by omega), whole, List.append_assoc, Nat.sub_add_comm later]
      · -- behind the last hit the iterator ends, here as at the end of the page
        have ended : ∀ i, position ≤ i → r.iterFrom fetch size none i = ([], r) := by
          intro i behind
          apply iterFrom_of_none fetch size none_ne_zero on.counted
          apply List.getElem?_eq_none
          rw [on.length]
          omega
        rw [ended position (Nat.le_refl _), ended (start + size.val) earlier,
          List.drop_eq_nil_of_le (by omega)]
        rfl

/-- From a page on, an iterator fetches the pages behind it one after the other, and gives what they show. -/
theorem OnPage.iterFrom_next (steady : Steady fetch good hits page)
    (on : r.OnPage good hits size start items) :
    (r.iterFrom fetch size none (start + size.val)).1 =
        shown page (windowsFrom size hits (start + size.val)) ∧
      (r.iterFrom fetch size none (start + size.val)).2.source =
        afterWindows fetch r.source (windowsFrom size hits (start + size.val)) := by
  have positive := size.pos
  generalize left : hits - (start + size.val) = n
  induction n using Nat.strongRecOn generalizing r start items with
  | ind n ih =>
      by_cases inside : start + size.val < hits
      · have next := on.next steady
        have step := iterFrom_of_pending fetch size none_ne_zero on.counted (on.behind _ (Nat.le_refl _) inside)
        have along := next.iterFrom_eq fetch (steady.length _ _) (Nat.le_refl _)
          (Nat.le_add_right _ _)
        obtain ⟨values, source⟩ := ih _ (by omega) next rfl
        rw [step, along, windowsFrom_of_lt size inside, shown_cons, afterWindows_cons, values, source,
          Nat.sub_self, List.drop_zero]
        exact ⟨rfl, rfl⟩
      · have ended : r.iterFrom fetch size none (start + size.val) = ([], r) := by
          apply iterFrom_of_none fetch size none_ne_zero on.counted
          apply List.getElem?_eq_none
          rw [on.length]
          omega
        rw [ended, windowsFrom_of_le size (by omega)]
        exact ⟨rfl, rfl⟩

/-- A caching iterator over a fresh set fetches the pages one after the other, and gives what they show. -/
theorem iter_pages (size : PageSize) (steady : Steady fetch good hits page) {source : σ}
    (state : good source) :
    ((⟨.fresh, source⟩ : Reading σ α).iter fetch size none).1 = shown page (pageWindows size hits) ∧
      ((⟨.fresh, source⟩ : Reading σ α).iter fetch size none).2.source =
        afterWindows fetch source (pageWindows size hits) := by
  have first := onPage_first size steady state
  have begun : (⟨.fresh, source⟩ : Reading σ α).iter fetch size none =
      ((⟨.fresh, source⟩ : Reading σ α).fill fetch 0 size.val).2.iterFrom fetch size none 0 := by
    rw [iter, iterAt, if_neg none_ne_zero, ensureCount_fresh, Nat.zero_add]
  have within : (page 0 size.val).length ≤ min (0 + size.val) hits - 0 := by
    rw [Nat.zero_add]
    exact steady.length 0 size.val
  have along := first.iterFrom_eq fetch within (Nat.le_refl 0) (Nat.zero_le _)
  obtain ⟨values, last⟩ := first.iterFrom_next steady
  rw [begun, along, values, last, pageWindows_eq, shown_cons, afterWindows_cons, Nat.zero_add, Nat.sub_self,
    List.drop_zero]
  exact ⟨rfl, rfl⟩

def hasItems (page : Nat → Nat → List (Option α)) (w : Nat × Nat) : Bool := !(page w.1 w.2).isEmpty

theorem streamPage_pages (size : PageSize) (steady : Steady fetch good hits page) {source : σ}
    (state : good source) {fuel : Nat} (enough : hits < start + fuel) :
    (streamPage fetch size none ⟨hits, page start (start + size.val)⟩ source (start + size.val) fuel).1 =
        shown page (((start, start + size.val) :: windowsFrom size hits (start + size.val)).takeWhile
          (hasItems page)) ∧
      ((∀ first, first < hits → page first (first + size.val) ≠ []) →
        (streamPage fetch size none ⟨hits, page start (start + size.val)⟩ source (start + size.val) fuel).2 =
          afterWindows fetch source (windowsFrom size hits (start + size.val))) := by
  have positive := size.pos
  have bound := steady.length start (start + size.val)
  induction fuel generalizing source start with
  | zero =>
      -- the fuel ends behind the last hit only
      have nothing : page start (start + size.val) = [] := List.length_eq_zero_iff.1 (by omega)
      rw [streamPage, List.takeWhile_cons, hasItems, nothing, windowsFrom_of_le size (by omega)]
      exact ⟨rfl, fun _ => rfl⟩
  | succ fuel ih =>
      rw [streamPage, List.takeWhile_cons, hasItems]
      simp only [Option.getD_none, List.take_length, Option.map_none]
      cases empty : (page start (start + size.val)).isEmpty with
      | true =>
          refine ⟨rfl, ?_⟩
          intro full
          have behind : hits ≤ start := by
            apply Nat.le_of_not_lt
            intro inside
            exact full start inside (List.isEmpty_iff.1 empty)
          rw [windowsFrom_of_le size (by omega)]
          rfl
      | false =>
          by_cases last : hits ≤ start + size.val
          · rw [windowsFrom_of_le size last]
            simp only [Bool.false_eq_true, if_false, last, decide_true, Bool.or_true, if_true, Bool.not_false,
              List.takeWhile_nil, shown_cons]
            exact ⟨(List.append_nil _).symm, fun _ => rfl⟩
          · have answer := steady.answers source (start + size.val) (start + size.val + size.val) state
            have left : hits < start + size.val + fuel := by omega
            obtain ⟨values, windows⟩ := ih
              (steady.keeps source (start + size.val) (start + size.val + size.val) state) left
              (steady.length _ _)
            simp only [Bool.false_eq_true, if_false, last, decide_false, Bool.or_false, reduceCtorEq,
              Bool.not_false, if_true, shown_cons, answer]
            rw [windowsFrom_of_lt size (by omega), values]
            refine ⟨rfl, ?_⟩
            intro full
            rw [windows full]
            rfl

/-- An iterator past the cache shows the pages up to the first without items; where each page of hits has
some, it fetches them all. -/
theorem stream_pages (size : PageSize) (steady : Steady fetch good hits page) {source : σ}
    (state : good source) :
    (stream fetch size none source).1 = shown page ((pageWindows size hits).takeWhile (hasItems page)) ∧
      ((∀ first, first < hits → page first (first + size.val) ≠ []) →
        (stream fetch size none source).2 = afterWindows fetch source (pageWindows size hits)) := by
  have answer := steady.answers source 0 size.val state
  have enough : hits < 0 + (hits + 1) := by omega
  obtain ⟨values, windows⟩ := streamPage_pages size steady (steady.keeps source 0 size.val state) enough
  rw [Nat.zero_add] at values windows
  rw [stream, if_neg none_ne_zero, pageWindows_eq, afterWindows_cons]
  simp only [answer]
  exact ⟨values, windows⟩

theorem iterFrom_upTo (fetch : Fetch σ α) (size : PageSize) (limit : Option Nat) (r : Reading σ α)
    (position : Nat) :
    (r.iterFrom fetch size limit position).1 = upTo limit (r.iterFrom fetch size none position).1 := by
  induction limit, r, position using iterFrom.induct fetch size with
  | case1 r position =>
      rw [iterFrom, if_pos rfl]
      exact (upTo_zero rfl _).symm
  | case2 limit r position more counted nothing =>
      rw [iterFrom_of_none fetch size more counted nothing,
        iterFrom_of_none fetch size none_ne_zero counted nothing]
      exact (upTo_nil limit).symm
  | case3 limit r position more counted pending ih =>
      rw [iterFrom_of_pending fetch size more counted pending,
        iterFrom_of_pending fetch size none_ne_zero counted pending]
      exact ih
  | case4 limit r position more counted empty ih =>
      rw [iterFrom_of_empty fetch size more counted empty,
        iterFrom_of_empty fetch size none_ne_zero counted empty]
      exact ih
  | case5 limit r position more counted a filled rest left found ih =>
      rw [iterFrom_of_filled fetch size more counted filled,
        iterFrom_of_filled fetch size none_ne_zero counted filled, upTo_cons more, ih]
      rfl
  | case6 limit r position more unknown =>
      rw [iterFrom, if_neg more, dif_neg unknown, iterFrom, if_neg none_ne_zero, dif_neg unknown]
      exact (upTo_nil limit).symm

theorem iter_upTo (fetch : Fetch σ α) (size : PageSize) (limit : Option Nat) (r : Reading σ α) :
    (r.iter fetch size limit).1 = upTo limit (r.iter fetch size none).1 := by
  by_cases nothing : limit = some 0
  · rw [upTo_zero nothing, iter, iterAt, if_pos nothing]
  · rw [iter, iter, iterAt, iterAt, if_neg nothing, if_neg none_ne_zero]
    exact iterFrom_upTo fetch size limit _ 0

end Reading

theorem Plan.alike_after {Obj : Type} (p : Plan) {c d : Connection Table Obj} (alike : c.Alike d)
    (start : Nat) (stop : Option Nat) : c.Alike (p.run d start stop).2 := by
  obtain ⟨_, windows⟩ := p.ask_window c
  have engine : (p.ask d start stop).2.2 = c.engine := by
    rw [Plan.ask_alike alike]
    exact (windows start stop).2.2
  have asked : c.Alike { d with engine := (p.ask d start stop).2.2 } :=
    ⟨engine, alike.settings, alike.registry⟩
  exact asked.trans (p.alike_run d start stop)

namespace ResultSet

variable {Obj : Type}

/-- The items that a set fetches for a window: its hits, without those that cannot be read. -/
def page (s : ResultSet Obj) (c : Connection Table Obj) (start stop : Nat) : List (Option (Hit Obj)) :=
  (s.fetch c start stop).1.items

theorem loadItems_alike (s : ResultSet Obj) {c d : Connection Table Obj} (alike : c.Alike d)
    (hits : List (Hit Obj)) : (s.loadItems d hits).1 = (s.loadItems c hits).1 := by
  unfold loadItems
  cases s.loadAll with
  | false => rfl
  | true =>
      have loaded := (s.loadModels_eq d (keysByModel hits).entries).1
      rw [alike.registry, ← (s.loadModels_eq c (keysByModel hits).entries).1] at loaded
      simp only [loaded, if_true]

theorem length_loadItems {σ : Type} (s : ResultSet Obj) (c : Connection σ Obj) (hits : List (Hit Obj)) :
    (s.loadItems c hits).1.length = hits.length := by
  unfold loadItems
  cases s.loadAll with
  | false => exact List.length_map _
  | true => exact List.length_map _

theorem fetch_eq (s : ResultSet Obj) {c d : Connection Table Obj} (alike : c.Alike d) (start stop : Nat) :
    (s.fetch d start stop).1 = ⟨(s.plan.found c).length, (s.loadItems c
      ((s.plan.answers c start (some stop)).results.filterMap (Hit.ofRaw? c.registry c.settings))).1⟩ := by
  obtain ⟨hits, -⟩ := s.plan.ask_results c start stop
  have asked := Plan.ask_alike alike s.plan start (some stop)
  have results := s.plan.results_run d start (some stop)
  have count : (s.fetch d start stop).1.hits = (s.plan.ask d start (some stop)).2.1.hits := rfl
  have items : (s.fetch d start stop).1.items =
      (s.loadItems (s.plan.run d start (some stop)).2 (s.plan.run d start (some stop)).1.results).1 := rfl
  rw [s.loadItems_alike (s.plan.alike_after alike start (some stop)), results, asked, alike.registry,
    alike.settings] at items
  rw [asked, hits] at count
  rw [← count, Plan.answers, ← items]

theorem alike_fetch (s : ResultSet Obj) {c d : Connection Table Obj} (alike : c.Alike d) (start stop : Nat) :
    c.Alike (s.fetch d start stop).2 :=
  (s.plan.alike_after alike start (some stop)).trans (s.alike_loadItems _ _)

/-- A table that does not change gives the same page for the same window, whatever its stores answer. -/
theorem steady_fetch (s : ResultSet Obj) (c : Connection Table Obj) :
    Steady s.fetch c.Alike (s.plan.found c).length (s.page c) := by
  refine ⟨?_, ?_, ?_⟩
  · intro d start stop alike
    rw [s.fetch_eq alike, page, s.fetch_eq (Connection.Alike.refl c)]
  · intro d start stop alike
    exact s.alike_fetch alike start stop
  · intro start stop
    rw [page, s.fetch_eq (Connection.Alike.refl c), length_loadItems]
    obtain ⟨-, results⟩ := s.plan.ask_results c start stop
    calc
      _ ≤ (s.plan.answers c start (some stop)).results.length := List.length_filterMap_le _ _
      _ ≤ min stop (s.plan.found c).length - start := Nat.le_of_eq results

end ResultSet

end RecordSearch
