import RecordSearch.Proofs.ResultSet.Agreement
import RecordSearch.ResultSet.Reading

/-!
Requests for pages, whatever they are answered with. A request that is due resolves a pending position, so
that there are no more of them than hits and one.
-/

namespace RecordSearch

variable {σ α : Type}

inductive Request where
  | count
  | window (start stop : Nat)

namespace Request

def start : Request → Nat
  | count => 0
  | window start _ => start

def stop : Request → Nat
  | count => 0
  | window _ stop => stop

/-- A request for what is not known yet: the number of hits, or a pending position of its window. -/
def IsDue (request : Request) (c : Cache α) : Prop :=
  c.hitCount = none ∨ ∃ i, request.start ≤ i ∧ i < request.stop ∧ c.isPendingAt i = true

end Request

abbrev Ask (σ α : Type) := σ → Request → Page α × σ

def Ask.fetch (ask : Ask σ α) : Fetch σ α := fun source start stop => ask source (.window start stop)

theorem Slot.fill_of_resolved {slot : Slot α} (resolved : slot.isPending = false)
    (item : Option (Option α)) : slot.fill item = slot := by
  cases slot with
  | pending => cases resolved
  | empty => rfl
  | filled a => rfl

namespace Cache

variable {c before after : Cache α} {page : Page α} {start stop : Nat}

/-- There is a slot for each hit, and none before their number is known. -/
def Sized (c : Cache α) : Prop := c.slots.length = c.hitCount.getD 0

theorem sized_fresh : (fresh : Cache α).Sized := rfl

theorem Sized.setCount (sized : c.Sized) (count : Nat) : (c.setCount count).Sized := by
  unfold Cache.setCount
  split
  · exact sized
  · exact List.length_replicate

theorem hitCount_setCount (c : Cache α) (count : Nat) :
    (c.setCount count).hitCount = some (c.hitCount.getD count) := by
  unfold setCount
  split
  · rename_i known
    simp [known]
  · rename_i unknown
    simp [unknown]

theorem setCount_of_counted (counted : c.hitCount.isSome = true) (count : Nat) :
    c.setCount count = c := by
  unfold setCount
  split
  · rfl
  · rename_i unknown
    rw [unknown] at counted
    cases counted

theorem hitCount_fill (c : Cache α) (start stop : Nat) (page : Page α) :
    (c.fill start stop page).hitCount = some (c.hitCount.getD page.hits) :=
  c.hitCount_setCount page.hits

theorem length_slots_fill (c : Cache α) (start stop : Nat) (page : Page α) :
    (c.fill start stop page).slots.length = (c.setCount page.hits).slots.length := by
  rw [slots_fill, length_fillFrom]

theorem Sized.fill (sized : c.Sized) (start stop : Nat) (page : Page α) :
    (c.fill start stop page).Sized := by
  have counted := sized.setCount page.hits
  rw [Sized, hitCount_setCount] at counted
  rw [Sized, length_slots_fill, hitCount_fill, counted]

theorem fill_nothing (c : Cache α) (page : Page α) : c.fill 0 0 page = c.setCount page.hits := by
  rw [fill, fillFrom, List.take_zero, List.drop_zero, fillFront, List.nil_append]

/-- What was fetched stays as it is. -/
def Keeps (before after : Cache α) : Prop :=
  ∀ (i : Nat) (slot : Slot α), before.slots[i]? = some slot → slot.isPending = false →
    after.slots[i]? = some slot

theorem Keeps.refl (c : Cache α) : c.Keeps c := fun _ _ found _ => found

theorem Keeps.trans {last : Cache α} (first : before.Keeps after) (second : after.Keeps last) :
    before.Keeps last :=
  fun i slot found resolved => second i slot (first i slot found resolved) resolved

theorem keeps_fill_of_counted (counted : c.hitCount.isSome = true) (start stop : Nat) (page : Page α) :
    c.Keeps (c.fill start stop page) := by
  intro i slot found resolved
  rw [slots_fill, setCount_of_counted counted, getElem?_fillFrom, found]
  split
  · rw [Option.map_some, Slot.fill_of_resolved resolved]
  · rfl

theorem Sized.keeps_fill (sized : c.Sized) (start stop : Nat) (page : Page α) :
    c.Keeps (c.fill start stop page) := by
  cases known : c.hitCount with
  | some n =>
      apply keeps_fill_of_counted
      rw [known]
      rfl
  | none =>
      rw [Sized, known, Option.getD_none, List.length_eq_zero_iff] at sized
      intro i slot found
      rw [sized] at found
      cases found

/-- Some position that was pending has been fetched. -/
def Resolves (before after : Cache α) : Prop :=
  ∃ i, before.isPendingAt i = true ∧ ∃ slot, after.slots[i]? = some slot ∧ slot.isPending = false

/-- What a later answer does: some pending position is resolved, and what was resolved stays. -/
structure Advances (before after : Cache α) : Prop where
  length : after.slots.length = before.slots.length
  kept : before.Keeps after
  resolved : before.Resolves after

theorem advances_fill (counted : c.hitCount.isSome = true)
    (due : ∃ i, start ≤ i ∧ i < stop ∧ c.isPendingAt i = true) (page : Page α) :
    c.Advances (c.fill start stop page) := by
  have same := setCount_of_counted counted page.hits
  refine ⟨?_, keeps_fill_of_counted counted start stop page, ?_⟩
  · rw [length_slots_fill, same]
  · obtain ⟨i, first, last, pending⟩ := due
    refine ⟨i, pending, ?_⟩
    rw [slots_fill, same, getElem?_fillFrom, if_pos ⟨first, last⟩]
    rw [isPendingAt, slot?] at pending
    cases found : c.slots[i]? with
    | none =>
        rw [found] at pending
        cases pending
    | some slot => exact ⟨_, rfl, Slot.isPending_fill _ slot⟩

theorem countP_cons_add_le {slot other : Slot α} {slots others : List (Slot α)} (fewer : Nat)
    (kept : slot.isPending = false → other = slot)
    (rest : others.countP Slot.isPending + fewer ≤ slots.countP Slot.isPending) :
    (other :: others).countP Slot.isPending + fewer ≤ (slot :: slots).countP Slot.isPending := by
  rw [List.countP_cons, List.countP_cons]
  cases resolved : slot.isPending with
  | true =>
      rw [if_pos rfl]
      split
      · omega
      · omega
  | false =>
      rw [kept resolved, resolved]
      exact rest

theorem countP_le_of_kept {slots others : List (Slot α)} (length : others.length = slots.length)
    (kept : ∀ (i : Nat) (slot : Slot α), slots[i]? = some slot → slot.isPending = false →
      others[i]? = some slot) :
    others.countP Slot.isPending ≤ slots.countP Slot.isPending := by
  induction slots generalizing others with
  | nil => simp [List.length_eq_zero_iff.1 length]
  | cons slot slots ih =>
      cases others with
      | nil => cases length
      | cons other others =>
          have first : slot.isPending = false → other = slot := fun resolved =>
            Option.some.inj (kept 0 slot rfl resolved)
          have rest := ih (Nat.succ.inj length) fun i => kept (i + 1)
          exact countP_cons_add_le 0 first rest

theorem countP_lt_of_resolved {slots others : List (Slot α)} (length : others.length = slots.length)
    (kept : ∀ (i : Nat) (slot : Slot α), slots[i]? = some slot → slot.isPending = false →
      others[i]? = some slot)
    {i : Nat} {slot other : Slot α} (was : slots[i]? = some slot) (pending : slot.isPending = true)
    (found : others[i]? = some other) (resolved : other.isPending = false) :
    others.countP Slot.isPending < slots.countP Slot.isPending := by
  induction slots generalizing others i with
  | nil => cases was
  | cons first slots ih =>
      cases others with
      | nil => cases found
      | cons last others =>
          have lengthRest := Nat.succ.inj length
          have keptRest := fun j => kept (j + 1)
          cases i with
          | zero =>
              cases was
              cases found
              have rest := countP_le_of_kept lengthRest keptRest
              rw [List.countP_cons_of_pos pending, List.countP_cons_of_neg (by simp [resolved])]
              omega
          | succ i =>
              have same : first.isPending = false → last = first := fun resolved =>
                Option.some.inj (kept 0 first rfl resolved)
              exact countP_cons_add_le 1 same (ih lengthRest keptRest was found)

theorem Advances.pendingCount_lt (advances : before.Advances after) :
    after.pendingCount < before.pendingCount := by
  obtain ⟨i, pending, other, found, resolved⟩ := advances.resolved
  rw [isPendingAt, slot?] at pending
  cases was : before.slots[i]? with
  | none =>
      rw [was] at pending
      cases pending
  | some slot =>
      rw [was] at pending
      exact countP_lt_of_resolved advances.length advances.kept was pending found resolved

def fillEach? (slots : List (Slot α)) : List Nat → List (Option α) → Option (List (Slot α))
  | [], _ => some slots
  | i :: rest, items =>
    match slots[i]? with
    | some slot => fillEach? (slots.set i (slot.fill items.head?)) rest items.tail
    | none => none

theorem fillFrom_of_le {slots : List (Slot α)} {items : List (Option α)}
    (nothing : min stop slots.length ≤ start) : fillFrom start stop items slots = slots := by
  apply List.ext_getElem?
  intro i
  rw [getElem?_fillFrom]
  split
  · rename_i inside
    have behind : slots.length ≤ i := by omega
    rw [List.getElem?_eq_none behind]
    rfl
  · rfl

theorem fillFrom_succ {slots : List (Slot α)} {items : List (Option α)} {slot : Slot α}
    (found : slots[start]? = some slot) (inside : start < stop) :
    fillFrom (start + 1) stop items.tail (slots.set start (slot.fill items.head?)) =
      fillFrom start stop items slots := by
  obtain ⟨bound, -⟩ := List.getElem?_eq_some_iff.1 found
  apply List.ext_getElem?
  intro i
  rw [getElem?_fillFrom, getElem?_fillFrom, List.getElem?_set]
  by_cases here : start = i
  · subst here
    rw [if_neg (by omega), if_pos rfl, if_pos bound, if_pos ⟨Nat.le_refl start, inside⟩, found,
      Nat.sub_self, Option.map_some, List.head?_eq_getElem?]
  · rw [if_neg here]
    by_cases later : start + 1 ≤ i ∧ i < stop
    · rw [if_pos later, if_pos (by omega), List.getElem?_tail,
        show i - (start + 1) + 1 = i - start by omega]
    · rw [if_neg later, if_neg (by omega)]

/-- Filling a window by index stays inside the slots, as far as it goes no further than they do. -/
theorem fillEach?_range (slots : List (Slot α)) (start stop : Nat) (items : List (Option α)) :
    fillEach? slots (List.range' start (min stop slots.length - start)) items =
      some (fillFrom start stop items slots) := by
  generalize width : min stop slots.length - start = n
  induction n generalizing slots start items with
  | zero =>
      rw [List.range'_zero, fillEach?, fillFrom_of_le (by omega)]
  | succ n ih =>
      have inside : start < slots.length := by omega
      have found : slots[start]? = some slots[start] := List.getElem?_eq_getElem inside
      rw [List.range'_succ, fillEach?, found]
      simp only
      rw [ih _ _ _ (by rw [List.length_set]; omega), fillFrom_succ found (by omega)]

end Cache

namespace Reading

variable {ask : Ask σ α} {r after : Reading σ α}

def receive (ask : Ask σ α) (r : Reading σ α) (request : Request) : Reading σ α :=
  ⟨r.cache.fill request.start request.stop (ask r.source request).1, (ask r.source request).2⟩

def receiveAll (ask : Ask σ α) (r : Reading σ α) (requests : List Request) : Reading σ α :=
  requests.foldl (receive ask) r

/-- Each request is due when it is sent. -/
def AllDue (ask : Ask σ α) (r : Reading σ α) : List Request → Prop
  | [] => True
  | request :: rest => request.IsDue r.cache ∧ AllDue ask (r.receive ask request) rest

theorem receiveAll_append (front rest : List Request) :
    r.receiveAll ask (front ++ rest) = (r.receiveAll ask front).receiveAll ask rest :=
  List.foldl_append

theorem allDue_append {front rest : List Request} :
    r.AllDue ask (front ++ rest) ↔
      r.AllDue ask front ∧ (r.receiveAll ask front).AllDue ask rest := by
  induction front generalizing r with
  | nil => simp [AllDue, receiveAll]
  | cons request front ih =>
      simp only [List.cons_append, AllDue, ih, and_assoc]
      rfl

theorem sized_receive (sized : r.cache.Sized) (request : Request) :
    (r.receive ask request).cache.Sized := sized.fill _ _ _

theorem sized_receiveAll (sized : r.cache.Sized) (requests : List Request) :
    (r.receiveAll ask requests).cache.Sized := by
  induction requests generalizing r with
  | nil => exact sized
  | cons request rest ih => exact ih (sized_receive sized request)

theorem keeps_receiveAll (sized : r.cache.Sized) (requests : List Request) :
    r.cache.Keeps (r.receiveAll ask requests).cache := by
  induction requests generalizing r with
  | nil => exact Cache.Keeps.refl r.cache
  | cons request rest ih =>
      exact (sized.keeps_fill _ _ _).trans (ih (sized_receive sized request))

theorem counted_receive (r : Reading σ α) (request : Request) :
    (r.receive ask request).cache.hitCount.isSome = true := by
  rw [receive, Cache.hitCount_fill]
  rfl

theorem hitCount_receiveAll {n : Nat} (known : r.cache.hitCount = some n) (requests : List Request) :
    (r.receiveAll ask requests).cache.hitCount = some n := by
  induction requests generalizing r with
  | nil => exact known
  | cons request rest ih =>
      apply ih
      rw [receive, Cache.hitCount_fill, known, Option.getD_some]

/-- Once the number of hits is known, a request that is due resolves a position. -/
theorem advances_receive (counted : r.cache.hitCount.isSome = true) {request : Request}
    (due : request.IsDue r.cache) : r.cache.Advances (r.receive ask request).cache := by
  rcases due with unknown | pending
  · rw [unknown] at counted
    cases counted
  · exact Cache.advances_fill counted pending _

theorem length_le_pendingCount (counted : r.cache.hitCount.isSome = true) {requests : List Request}
    (due : r.AllDue ask requests) : requests.length ≤ r.cache.pendingCount := by
  induction requests generalizing r with
  | nil => exact Nat.zero_le _
  | cons request rest ih =>
      obtain ⟨first, others⟩ := due
      have advances : r.cache.Advances (r.receive ask request).cache := advances_receive counted first
      have fewer := advances.pendingCount_lt
      have bound := ih (counted_receive r request) others
      rw [List.length_cons]
      omega

theorem hitCount_receive (unknown : r.cache.hitCount = none) (first : Request) :
    (r.receive ask first).cache.hitCount = some (ask r.source first).1.hits := by
  rw [receive, Cache.hitCount_fill, unknown, Option.getD_none]

/-- No more requests than the hits first reported and one. -/
theorem length_le_hits (sized : r.cache.Sized) (unknown : r.cache.hitCount = none)
    {first : Request} {rest : List Request} (due : r.AllDue ask (first :: rest)) :
    (first :: rest).length ≤ 1 + (ask r.source first).1.hits := by
  have length : (r.receive ask first).cache.Sized := sized_receive sized first
  rw [Cache.Sized, hitCount_receive unknown, Option.getD_some] at length
  calc
    (first :: rest).length = rest.length + 1 := List.length_cons
    _ ≤ (r.receive ask first).cache.pendingCount + 1 :=
      Nat.succ_le_succ (length_le_pendingCount (counted_receive r first) due.2)
    _ ≤ (r.receive ask first).cache.slots.length + 1 := Nat.succ_le_succ List.countP_le_length
    _ = 1 + (ask r.source first).1.hits := by
      rw [length, Nat.add_comm]

theorem exists_slot_of_mem_positions (sized : r.cache.Sized) {start i : Nat} {stop : Option Nat}
    (listed : i ∈ positions start (r.clip stop)) : ∃ slot, r.cache.slot? i = some slot := by
  obtain ⟨j, inside, rfl⟩ := List.mem_range'.1 listed
  have bound : start + 1 * j < r.cache.slots.length := by
    rw [sized, ← count]
    have clipped : r.clip stop ≤ r.count := Nat.min_le_right _ _
    omega
  exact ⟨_, List.getElem?_eq_getElem bound⟩

def afterRequests (ask : Ask σ α) (source : σ) (requests : List Request) : Reading σ α :=
  receiveAll ask ⟨.fresh, source⟩ requests

theorem sized_afterRequests (source : σ) (requests : List Request) :
    (afterRequests ask source requests).cache.Sized :=
  sized_receiveAll Cache.sized_fresh requests

theorem afterRequests_append (source : σ) (front rest : List Request) :
    afterRequests ask source (front ++ rest) = (afterRequests ask source front).receiveAll ask rest :=
  receiveAll_append front rest

/-- The first answer tells for good how many slots there are. -/
theorem counted_afterRequests (source : σ) (first : Request) (rest : List Request) :
    (afterRequests ask source (first :: rest)).cache.hitCount = some (ask source first).1.hits ∧
      (afterRequests ask source (first :: rest)).cache.slots.length = (ask source first).1.hits := by
  have known : (afterRequests ask source (first :: rest)).cache.hitCount =
      some (ask source first).1.hits :=
    hitCount_receiveAll (hitCount_receive rfl first) rest
  have sized : (afterRequests ask source (first :: rest)).cache.Sized :=
    sized_afterRequests source (first :: rest)
  rw [Cache.Sized, known, Option.getD_some] at sized
  exact ⟨known, sized⟩

/-- Requests to a fresh cache that keep to its slots and come to an end, however they are answered. -/
structure Orderly (ask : Ask σ α) (source : σ) (requests : List Request) : Prop where
  /-- One request, and one more for each hit that the first answer reports. -/
  bounded : ∀ first, requests.head? = some first → requests.length ≤ 1 + (ask source first).1.hits
  /-- The first answer tells how many slots there are, and later ones do not change it. -/
  counted : ∀ first front, first :: front <+: requests →
    (afterRequests ask source (first :: front)).cache.hitCount = some (ask source first).1.hits ∧
      (afterRequests ask source (first :: front)).cache.slots.length = (ask source first).1.hits
  kept : ∀ front more, front ++ more <+: requests →
    (afterRequests ask source front).cache.Keeps (afterRequests ask source (front ++ more)).cache
  /-- Every answer but the first resolves a position. -/
  resolved : ∀ front request, front ++ [request] <+: requests → front ≠ [] →
    (afterRequests ask source front).cache.Resolves (afterRequests ask source (front ++ [request])).cache
  /-- A page is put into slots that are there. -/
  written : ∀ front request, front ++ [request] <+: requests →
    let before := afterRequests ask source front
    let page := (ask before.source request).1
    let counted := before.cache.setCount page.hits
    Cache.fillEach? counted.slots (positions request.start (min request.stop (counted.hitCount.getD 0)))
      page.items = some (afterRequests ask source (front ++ [request])).cache.slots
  /-- Reads look for pending positions among slots that are there. -/
  scanned : ∀ front, front <+: requests → ∀ start stop,
    ∀ i ∈ positions start ((afterRequests ask source front).clip stop),
      ∃ slot, (afterRequests ask source front).cache.slot? i = some slot

theorem orderly_of_allDue {source : σ} {requests : List Request}
    (due : AllDue ask ⟨.fresh, source⟩ requests) : Orderly ask source requests := by
  refine ⟨?_, ?_, ?_, ?_, ?_, ?_⟩
  · intro first head
    obtain ⟨rest, rfl⟩ := List.head?_eq_some_iff.1 head
    exact length_le_hits Cache.sized_fresh rfl due
  · intro first front _
    exact counted_afterRequests source first front
  · intro front more _
    rw [afterRequests_append]
    exact keeps_receiveAll (sized_afterRequests source front) more
  · intro front request sent later
    obtain ⟨rest, rfl⟩ := sent
    obtain ⟨first, front, rfl⟩ := List.exists_cons_of_ne_nil later
    have now := (allDue_append.1 (allDue_append.1 due).1).2.1
    rw [afterRequests_append]
    apply Cache.Advances.resolved
    apply advances_receive _ now
    have known : (receiveAll ask ⟨.fresh, source⟩ (first :: front)).cache.hitCount =
        some (ask source first).1.hits :=
      (counted_afterRequests source first front).1
    rw [known]
    rfl
  · intro front request _
    simp only
    rw [afterRequests_append, positions]
    have before : (afterRequests ask source front).cache.Sized := sized_afterRequests source front
    have sized := before.setCount (ask (afterRequests ask source front).source request).1.hits
    rw [Cache.Sized] at sized
    rw [← sized]
    exact Cache.fillEach?_range _ request.start request.stop _
  · intro front _ start stop i listed
    exact exists_slot_of_mem_positions (sized_afterRequests source front) listed

/-- What requests that are due when they are sent lead to. -/
def Reaches (ask : Ask σ α) (r after : Reading σ α) : Prop :=
  ∃ requests, r.AllDue ask requests ∧ r.receiveAll ask requests = after

theorem Reaches.refl (r : Reading σ α) : r.Reaches ask r := ⟨[], trivial, rfl⟩

theorem Reaches.trans {last : Reading σ α} (first : r.Reaches ask after)
    (second : after.Reaches ask last) : r.Reaches ask last := by
  obtain ⟨front, dueFront, rfl⟩ := first
  obtain ⟨rest, dueRest, rfl⟩ := second
  exact ⟨front ++ rest, allDue_append.2 ⟨dueFront, dueRest⟩, receiveAll_append front rest⟩

theorem Reaches.sized (reaches : r.Reaches ask after) (sized : r.cache.Sized) :
    after.cache.Sized := by
  obtain ⟨requests, -, rfl⟩ := reaches
  exact sized_receiveAll sized requests

end Reading

end RecordSearch
