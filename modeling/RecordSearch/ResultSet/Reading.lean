import RecordSearch.ResultSet.Cache

/-!
Reading a result set position by position. Whatever is fetched comes from a source of pages with a state
of its own, and nothing is assumed of what the source answers.
-/

namespace RecordSearch

abbrev Fetch (σ α : Type) := σ → Nat → Nat → Page α × σ

structure PageSize where
  val : Nat
  pos : 0 < val

namespace PageSize

def of (n : Nat) : PageSize := ⟨max n 1, by omega⟩

end PageSize

structure Reading (σ α : Type) where
  cache : Cache α
  source : σ

namespace Reading

variable {σ α : Type}

/-- Fetches a window into the cache; tells whether the page held any item. -/
def fill (fetch : Fetch σ α) (r : Reading σ α) (start stop : Nat) : Bool × Reading σ α :=
  let (page, source) := fetch r.source start stop
  (!page.items.isEmpty, ⟨r.cache.fill start stop page, source⟩)

theorem cache_fill (fetch : Fetch σ α) (r : Reading σ α) (start stop : Nat) :
    (r.fill fetch start stop).2.cache = r.cache.fill start stop (fetch r.source start stop).1 :=
  rfl

def isBehind (r : Reading σ α) (position : Nat) : Bool :=
  match r.cache.hitCount with
  | some count => count ≤ position
  | none => false

/-- The value at a position; the page that holds it is fetched if it was not. -/
def get (fetch : Fetch σ α) (size : PageSize) (r : Reading σ α) (position : Nat) :
    Option α × Reading σ α :=
  if r.isBehind position then (none, r)
  else
    let known := match r.cache.slot? position with
      | some slot => !slot.isPending
      | none => false
    let r :=
      if known then r
      else
        let start := position - position % size.val
        (r.fill fetch start (max (start + size.val) (position + 1))).2
    (r.cache.value? position, r)

def pendingRun (r : Reading σ α) (start stop : Nat) : Nat :=
  (((r.cache.slots.take stop).drop start).takeWhile Slot.isPending).length

def firstPending? (r : Reading σ α) (start stop : Nat) : Option Nat :=
  (((r.cache.slots.take stop).drop start).findIdx? Slot.isPending).map (start + ·)

theorem isPendingAt_of_firstPending? {r : Reading σ α} {start stop first : Nat}
    (found : r.firstPending? start stop = some first) : r.cache.isPendingAt first = true := by
  simp only [firstPending?, Option.map_eq_some_iff] at found
  obtain ⟨offset, found, rfl⟩ := found
  obtain ⟨inside, pending, -⟩ := List.findIdx?_eq_some_iff_getElem.1 found
  have bound := inside
  simp only [List.length_drop, List.length_take] at bound
  have there : r.cache.slots[start + offset]? =
      some (((r.cache.slots.take stop).drop start)[offset]) := by
    rw [List.getElem_drop, List.getElem_take]
    exact List.getElem?_eq_getElem (by omega)
  simpa [Cache.isPendingAt, Cache.slot?, there] using pending

/-- Fetches until nothing is pending before `stop`; each run of pending positions is fetched at once. -/
def fillPending (fetch : Fetch σ α) (size : PageSize) (r : Reading σ α) (start stop : Nat) :
    Reading σ α :=
  if _counted : r.cache.hitCount.isSome then
    match _found : r.firstPending? start stop with
    | none => r
    | some first =>
      let last := first + max (r.pendingRun first stop) size.val
      fillPending fetch size (r.fill fetch first last).2 start stop
  else r
termination_by r.cache.pendingCount
decreasing_by
  rw [cache_fill]
  have := size.pos
  exact Cache.pendingCount_fill_lt r.cache first last _ _counted (by omega)
    (isPendingAt_of_firstPending? _found)

def ensureCount (fetch : Fetch σ α) (r : Reading σ α) (start width : Nat) : Reading σ α :=
  if r.cache.hitCount.isSome then r else (r.fill fetch start (start + width)).2

def count (r : Reading σ α) : Nat := r.cache.hitCount.getD 0

def clip (r : Reading σ α) (stop : Option Nat) : Nat := min (stop.getD r.count) r.count

def positions (start stop : Nat) : List Nat := List.range' start (stop - start)

def slice (fetch : Fetch σ α) (size : PageSize) (r : Reading σ α) (start : Nat)
    (stop : Option Nat) : List α × Reading σ α :=
  let width := match stop with
    | some stop => max (stop - start) size.val
    | none => size.val
  let r := r.ensureCount fetch start width
  let last := r.clip stop
  let r := r.fillPending fetch size start last
  (r.cache.collect (positions start last), r)

def fillAt (fetch : Fetch σ α) (size : PageSize) (r : Reading σ α) : List Nat → Reading σ α
  | [] => r
  | position :: rest =>
    let r :=
      if r.cache.isPendingAt position then (r.fill fetch position (position + size.val)).2 else r
    fillAt fetch size r rest

def sliceStep (fetch : Fetch σ α) (size : PageSize) (r : Reading σ α) (start : Nat)
    (stop : Option Nat) (step : Nat) : List α × Reading σ α :=
  let step := max step 1
  let r := r.ensureCount fetch start size.val
  let last := r.clip stop
  let chosen := List.range' start ((last - start + step - 1) / step) step
  let r := r.fillAt fetch size chosen
  (r.cache.collect chosen, r)

/-- The values from a position on, as many as the limit allows, fetched page by page. -/
def iterFrom (fetch : Fetch σ α) (size : PageSize) (limit : Option Nat) (r : Reading σ α)
    (position : Nat) : List α × Reading σ α :=
  if limit = some 0 then ([], r)
  else if _counted : r.cache.hitCount.isSome then
    match _found : r.cache.slot? position with
    | none => ([], r)
    | some .pending =>
      iterFrom fetch size limit (r.fill fetch position (position + size.val)).2 position
    | some .empty => iterFrom fetch size limit r (position + 1)
    | some (.filled a) =>
      let (rest, r) := iterFrom fetch size (limit.map (· - 1)) r (position + 1)
      (a :: rest, r)
  else ([], r)
termination_by (r.cache.pendingCount, r.cache.slots.length - position)
decreasing_by
  · apply Prod.Lex.left
    rw [cache_fill]
    have := size.pos
    exact Cache.pendingCount_fill_lt r.cache position _ _ _counted (by omega)
      (by simp [Cache.isPendingAt, _found, Slot.isPending])
  · apply Prod.Lex.right
    obtain ⟨inside, -⟩ := List.getElem?_eq_some_iff.1 _found
    omega
  · apply Prod.Lex.right
    obtain ⟨inside, -⟩ := List.getElem?_eq_some_iff.1 _found
    omega

def iterAt (fetch : Fetch σ α) (size : PageSize) (r : Reading σ α) (position : Nat)
    (limit : Option Nat) : List α × Reading σ α :=
  if limit = some 0 then ([], r)
  else (r.ensureCount fetch 0 size.val).iterFrom fetch size limit position

def iter (fetch : Fetch σ α) (size : PageSize) (r : Reading σ α) (limit : Option Nat) :
    List α × Reading σ α := r.iterAt fetch size 0 limit

def streamPage (fetch : Fetch σ α) (size : PageSize) (limit : Option Nat) (page : Page α)
    (source : σ) (next : Nat) : Nat → List α × σ
  | 0 => ([], source)
  | fuel + 1 =>
    let values := page.items.filterMap id
    let taken := values.take (limit.getD values.length)
    let left := limit.map (· - values.length)
    if page.items.isEmpty then ([], source)
    else if left = some 0 || page.hits ≤ next then (taken, source)
    else
      let (page, source) := fetch source next (next + size.val)
      let (rest, source) := streamPage fetch size left page source (next + size.val) fuel
      (taken ++ rest, source)

/-- The first values of a set, fetched past the cache, until the hits end or a page is empty. There are
no more pages than hits, as long as their number stays the same. -/
def stream (fetch : Fetch σ α) (size : PageSize) (limit : Option Nat) (source : σ) :
    List α × σ :=
  if limit = some 0 then ([], source)
  else
    let (page, source) := fetch source 0 size.val
    streamPage fetch size limit page source size.val (page.hits + 1)

end Reading

end RecordSearch
