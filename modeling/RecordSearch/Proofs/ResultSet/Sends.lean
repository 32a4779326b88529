import RecordSearch.Proofs.ResultSet.Requests
import RecordSearch.Proofs.ResultSet.Run

/-!
The requests that each read may send, told by what is in the cache at that moment. What holds before a read
and is kept by each of its requests holds after it.
-/

namespace RecordSearch

variable {σ α : Type}

namespace Cache

variable {c : Cache α}

theorem isPendingAt_iff {i : Nat} :
    c.isPendingAt i = true ↔ ∃ slot, c.slots[i]? = some slot ∧ slot.isPending = true := by
  rw [isPendingAt, slot?]
  cases c.slots[i]? with
  | none => simp
  | some slot => simp

structure IsRun (c : Cache α) (start stop first last : Nat) : Prop where
  start_le : start ≤ first
  wide : first < last
  passed : ∀ i, start ≤ i → i < first → c.isPendingAt i = false
  pending : ∀ i, first ≤ i → i < last → c.isPendingAt i = true
  ended : last = stop ∨ c.isPendingAt last = false

theorem Sized.isSome_of_isPendingAt (sized : c.Sized) {i : Nat} (pending : c.isPendingAt i = true) :
    c.hitCount.isSome = true := by
  obtain ⟨slot, found, -⟩ := isPendingAt_iff.1 pending
  obtain ⟨bound, -⟩ := List.getElem?_eq_some_iff.1 found
  rw [sized] at bound
  cases known : c.hitCount with
  | some n => rfl
  | none =>
      rw [known] at bound
      exact absurd bound (Nat.not_lt_zero i)

theorem isPendingAt_fill_eq_false (counted : c.hitCount.isSome = true) {i : Nat}
    (resolved : c.isPendingAt i = false) (start stop : Nat) (page : Page α) :
    (c.fill start stop page).isPendingAt i = false := by
  by_cases inside : start ≤ i ∧ i < stop
  · exact isPendingAt_fill inside
  · rw [isPendingAt, slot?, slots_fill, getElem?_fillFrom, if_neg inside, setCount_of_counted counted]
    exact resolved

end Cache

namespace Read

def first? (size : Nat) : Read → Option Request
  | .count => some .count
  | .get position => some (.window (position - position % size) (position - position % size + size))
  | .slice start stop => some (.window start (start + stop.elim size fun stop => max (stop - start) size))
  | .sliceStep start _ _ => some (.window start (start + size))
  | .iterAt _ _ => some (.window 0 size)
  | .fillCache _ _ | .stream _ => none

/-- What a read may ask for once the number of hits is known: windows that begin with a pending position,
or the page of one. -/
def Next (size hits : Nat) (c : Cache α) (request : Request) : Read → Prop
  | .get position =>
    c.isPendingAt position = true ∧
      request = .window (position - position % size) (position - position % size + size)
  | .slice start stop =>
    ∃ first last, c.IsRun start (min (stop.getD hits) hits) first last ∧
      request = .window first (first + max (last - first) size)
  | .sliceStep start _ step =>
    ∃ k, c.isPendingAt (start + max step 1 * k) = true ∧
      (∀ j < k, c.isPendingAt (start + max step 1 * j) = false) ∧
      request = .window (start + max step 1 * k) (start + max step 1 * k + size)
  | .iterAt position _ =>
    ∃ i, position ≤ i ∧ (∀ j, position ≤ j → j < i → c.isPendingAt j = false) ∧ c.isPendingAt i = true ∧
      request = .window i (i + size)
  | .count | .fillCache _ _ | .stream _ => False

/-- Whether a read may send a request when this is in the cache. -/
def MaySend (size : Nat) (read : Read) (c : Cache α) (request : Request) : Prop :=
  match c.hitCount with
  | none => read.first? size = some request
  | some hits => read.Next size hits c request

end Read

namespace Reading

/-- What holds of readings with a slot for each hit, and stays when a request is sent that is good then. -/
structure Maintains (ask : Ask σ α) (good : Cache α → Request → Prop) (inv : Reading σ α → Prop) :
    Prop where
  sized : ∀ r, inv r → r.cache.Sized
  receive : ∀ r request, inv r → good r.cache request → inv (r.receive ask request)

section

variable {β : Type} {p : β → Bool} {values : List β} {i : Nat}

theorem exists_of_lt_takeWhile (inside : i < (values.takeWhile p).length) :
    ∃ b, values[i]? = some b ∧ p b = true := by
  have front := List.takeWhile_prefix (l := values) p
  refine ⟨(values.takeWhile p)[i], ?_, List.all_eq_true.1 List.all_takeWhile _ (List.getElem_mem inside)⟩
  rw [front.getElem inside]
  exact List.getElem?_eq_getElem _

theorem not_of_length_takeWhile {b : β} (found : values[(values.takeWhile p).length]? = some b) :
    p b = false := by
  induction values with
  | nil => cases found
  | cons first rest ih =>
      rw [List.takeWhile_cons] at found
      split at found
      · exact ih found
      · rename_i other
        cases found
        rw [Bool.not_eq_true] at other
        exact other

end

theorem getElem?_range {β : Type} {values : List β} {start stop i : Nat} (inside : start + i < stop) :
    ((values.take stop).drop start)[i]? = values[start + i]? := by
  rw [List.getElem?_drop, List.getElem?_take, if_pos inside]

variable {ask : Ask σ α} {good : Cache α → Request → Prop} {inv : Reading σ α → Prop}
  {r : Reading σ α} {size : PageSize} {start stop : Nat}

theorem isRun_of_firstPending? {first : Nat} (found : r.firstPending? start stop = some first) :
    r.cache.IsRun start stop first (first + r.pendingRun first stop) := by
  have waiting := isPendingAt_of_firstPending? found
  rw [firstPending?, Option.map_eq_some_iff] at found
  obtain ⟨offset, index, rfl⟩ := found
  obtain ⟨bound, -, before⟩ := List.findIdx?_eq_some_iff_getElem.1 index
  rw [List.length_drop, List.length_take] at bound
  have run : ∀ i, i < r.pendingRun (start + offset) stop → start + offset + i < stop ∧
      r.cache.isPendingAt (start + offset + i) = true := by
    intro i within
    obtain ⟨slot, there, pending⟩ := exists_of_lt_takeWhile within
    rw [List.getElem?_drop, List.getElem?_take] at there
    split at there
    · rename_i inside
      exact ⟨inside, Cache.isPendingAt_iff.2 ⟨slot, there, pending⟩⟩
    · cases there
  have ends : start + offset + r.pendingRun (start + offset) stop < stop →
      r.cache.isPendingAt (start + offset + r.pendingRun (start + offset) stop) = false := by
    intro inside
    rw [Cache.isPendingAt, Cache.slot?, ← getElem?_range inside]
    cases found : ((r.cache.slots.take stop).drop (start + offset))[r.pendingRun (start + offset) stop]? with
    | none => rfl
    | some slot => exact not_of_length_takeWhile (p := Slot.isPending) found
  have wide : 0 < r.pendingRun (start + offset) stop := by
    apply Nat.pos_of_ne_zero
    intro none
    rw [none, Nat.add_zero, waiting] at ends
    exact absurd (ends (by omega)) (by decide)
  -- nothing before the run is pending, all of the run is, and it ends at a fetched position or at `stop`
  refine ⟨Nat.le_add_right start offset, Nat.lt_add_of_pos_right wide, ?_, ?_, ?_⟩
  · intro i later earlier
    have sooner := before (i - start) (by omega)
    rw [List.getElem_drop, List.getElem_take] at sooner
    have same : start + (i - start) = i := Nat.add_sub_cancel' later
    cases pending : r.cache.isPendingAt i with
    | false => rfl
    | true =>
        obtain ⟨slot, found, waits⟩ := Cache.isPendingAt_iff.1 pending
        obtain ⟨_, rfl⟩ := List.getElem?_eq_some_iff.1 found
        simp only [same] at sooner
        exact absurd waits sooner
  · intro i later earlier
    have inside := (run (i - (start + offset)) (by omega)).2
    rw [Nat.add_sub_cancel' later] at inside
    exact inside
  · have last := (run (r.pendingRun (start + offset) stop - 1) (by omega)).1
    by_cases inside : start + offset + r.pendingRun (start + offset) stop < stop
    · exact Or.inr (ends inside)
    · exact Or.inl (by omega)

namespace Maintains

variable (maintains : Maintains ask good inv)

include maintains

theorem fill (holds : inv r) (asks : good r.cache (.window start stop)) :
    inv (r.fill ask.fetch start stop).2 := maintains.receive r (.window start stop) holds asks

theorem ensureCount {width : Nat} (holds : inv r)
    (asks : r.cache.hitCount = none → good r.cache (.window start (start + width))) :
    inv (r.ensureCount ask.fetch start width) := by
  unfold Reading.ensureCount
  split
  · exact holds
  · rename_i unknown
    exact maintains.fill holds (asks (Option.not_isSome_iff_eq_none.1 unknown))

theorem get {position : Nat} (holds : inv r)
    (asks : r.cache.hitCount = none ∨ r.cache.isPendingAt position = true →
      good r.cache (.window (position - position % size.val) (position - position % size.val + size.val))) :
    inv (r.get ask.fetch size position).2 := by
  have page : max (position - position % size.val + size.val) (position + 1) =
      position - position % size.val + size.val := by
    have rest := Nat.mod_lt position size.pos
    omega
  unfold Reading.get
  simp only [page]
  split
  · exact holds
  · rename_i before
    cases found : r.cache.slot? position with
    | some slot =>
        cases pending : slot.isPending with
        | false =>
            simp only [pending]
            exact holds
        | true =>
            simp only [pending]
            apply maintains.fill holds
            apply asks (Or.inr _)
            rw [Cache.isPendingAt, found]
            exact pending
    | none =>
        simp only
        apply maintains.fill holds
        apply asks (Or.inl _)
        -- a position without a slot lies behind the last hit, unless no number of hits is known
        cases counted : r.cache.hitCount with
        | none => rfl
        | some n =>
            have short : r.cache.slots.length ≤ position := List.getElem?_eq_none_iff.1 found
            rw [maintains.sized r holds, counted, Option.getD_some] at short
            rw [isBehind, counted] at before
            simp only [decide_eq_true_eq] at before
            exact absurd short before

theorem fillPending (holds : inv r)
    (asks : ∀ r first last, inv r → r.cache.IsRun start stop first last →
      good r.cache (.window first (first + max (last - first) size.val))) :
    inv (r.fillPending ask.fetch size start stop) := by
  induction r using fillPending.induct ask.fetch size start stop with
  | case1 r counted nothing =>
      rw [Reading.fillPending, dif_pos counted]
      split
      · exact holds
      · rename_i found
        rw [nothing] at found
        cases found
  | case2 r counted first found last ih =>
      rw [Reading.fillPending, dif_pos counted]
      split
      · rename_i nothing
        rw [nothing] at found
        cases found
      · rename_i other again
        rw [found] at again
        cases again
        have asked := asks r first (first + r.pendingRun first stop) holds (isRun_of_firstPending? found)
        rw [Nat.add_sub_cancel_left] at asked
        exact ih (maintains.fill holds asked)
  | case3 r unknown =>
      rw [Reading.fillPending, dif_neg unknown]
      exact holds

theorem fillAt {chosen : List Nat} (holds : inv r)
    (asks : ∀ r front position back, chosen = front ++ position :: back → inv r →
      (∀ i ∈ front, r.cache.isPendingAt i = false) → r.cache.isPendingAt position = true →
        good r.cache (.window position (position + size.val))) :
    inv (r.fillAt ask.fetch size chosen) := by
  -- the positions that were passed are not pending any more
  suffices go : ∀ back front, chosen = front ++ back → ∀ r, inv r →
      (∀ i ∈ front, r.cache.isPendingAt i = false) → inv (r.fillAt ask.fetch size back) by
    exact go chosen [] rfl r holds fun i listed => nomatch listed
  intro back
  induction back with
  | nil => exact fun _ _ _ holds _ => holds
  | cons position back ih =>
      intro front whole r holds passed
      have next : chosen = (front ++ [position]) ++ back := by
        rw [whole, List.append_assoc, List.singleton_append]
      rw [Reading.fillAt]
      split
      · rename_i pending
        have counted := (maintains.sized r holds).isSome_of_isPendingAt pending
        apply ih _ next _ (maintains.fill holds (asks r front position back whole holds passed pending))
        intro i listed
        rcases List.mem_append.1 listed with earlier | last
        · exact Cache.isPendingAt_fill_eq_false counted (passed i earlier) _ _ _
        · rw [List.mem_singleton.1 last]
          exact Cache.isPendingAt_fill ⟨Nat.le_refl _, Nat.lt_add_of_pos_right size.pos⟩
      · rename_i resolved
        apply ih _ next _ holds
        intro i listed
        rcases List.mem_append.1 listed with earlier | last
        · exact passed i earlier
        · rw [List.mem_singleton.1 last]
          exact Bool.not_eq_true _ ▸ resolved

theorem iterFrom {limit : Option Nat} {position : Nat} (holds : inv r) (start_le : start ≤ position)
    (passed : ∀ i, start ≤ i → i < position → r.cache.isPendingAt i = false)
    (asks : ∀ r position, inv r → start ≤ position →
      (∀ i, start ≤ i → i < position → r.cache.isPendingAt i = false) →
        r.cache.isPendingAt position = true → good r.cache (.window position (position + size.val))) :
    inv (r.iterFrom ask.fetch size limit position).2 := by
  have stepped : ∀ {r : Reading σ α} {position slot}, r.cache.slot? position = some slot →
      slot.isPending = false → (∀ i, start ≤ i → i < position → r.cache.isPendingAt i = false) →
        ∀ i, start ≤ i → i < position + 1 → r.cache.isPendingAt i = false := by
    intro r position slot found resolved passed i later earlier
    by_cases here : i = position
    · rw [here, Cache.isPendingAt, found]
      exact resolved
    · exact passed i later (by omega)
  -- `passed` goes along: nothing from `start` on is pending before the position
  induction limit, r, position using iterFrom.induct ask.fetch size with
  | case1 r position =>
      rw [Reading.iterFrom, if_pos rfl]
      exact holds
  | case2 limit r position more counted nothing =>
      rw [Reading.iterFrom, if_neg more, dif_pos counted]
      split <;> rename_i found <;> rw [nothing] at found <;> cases found
      exact holds
  | case3 limit r position more counted pending ih =>
      rw [Reading.iterFrom, if_neg more, dif_pos counted]
      split <;> rename_i found <;> rw [pending] at found <;> cases found
      have waiting : r.cache.isPendingAt position = true := by
        rw [Cache.isPendingAt, pending]
        rfl
      apply ih (maintains.fill holds (asks r position holds start_le passed waiting)) start_le
      intro i later earlier
      exact Cache.isPendingAt_fill_eq_false counted (passed i later earlier) _ _ _
  | case4 limit r position more counted empty ih =>
      rw [Reading.iterFrom, if_neg more, dif_pos counted]
      split <;> rename_i found <;> rw [empty] at found <;> cases found
      exact ih holds (Nat.le_succ_of_le start_le) (stepped empty rfl passed)
  | case5 limit r position more counted a filled rest left found ih =>
      rw [Reading.iterFrom, if_neg more, dif_pos counted]
      split <;> rename_i other <;> rw [filled] at other <;> cases other
      exact ih holds (Nat.le_succ_of_le start_le) (stepped filled rfl passed)
  | case6 limit r position more unknown =>
      rw [Reading.iterFrom, if_neg more, dif_neg unknown]
      exact holds

omit maintains in
theorem counted (maintains : Maintains ask good inv) (n : Nat) :
    Maintains ask good fun r => inv r ∧ r.cache.hitCount = some n := by
  constructor
  · rintro r ⟨holds, -⟩
    exact maintains.sized r holds
  · rintro r request ⟨holds, known⟩ asks
    refine ⟨maintains.receive r request holds asks, ?_⟩
    rw [Reading.receive, Cache.hitCount_fill, known, Option.getD_some]

end Maintains

theorem exists_hitCount_ensureCount (r : Reading σ α) (start width : Nat) :
    ∃ n, (r.ensureCount ask.fetch start width).cache.hitCount = some n := by
  unfold ensureCount
  split
  · rename_i counted
    exact Option.isSome_iff_exists.1 counted
  · exact ⟨_, Cache.hitCount_fill r.cache _ _ _⟩

theorem mem_of_range'_eq {step n position : Nat} {front back : List Nat}
    (whole : List.range' start n step = front ++ position :: back) :
    position = start + step * front.length ∧ ∀ j < front.length, start + step * j ∈ front := by
  have length : front.length < n := by
    have same := congrArg List.length whole
    rw [List.length_range', List.length_append, List.length_cons] at same
    omega
  have place : ∀ j < n, (front ++ position :: back)[j]? = some (start + step * j) := by
    intro j inside
    rw [← whole, List.getElem?_range' inside]
  constructor
  · have here := place front.length length
    rw [List.getElem?_append_right (Nat.le_refl _), Nat.sub_self] at here
    exact Option.some.inj here
  · intro j earlier
    have there := place j (Nat.lt_trans earlier length)
    rw [List.getElem?_append_left earlier] at there
    exact List.mem_of_getElem? there

section

variable {position step : Nat} {limit stop : Option Nat}

theorem keeps_get (maintains : Maintains ask ((Read.get position).MaySend size.val) inv) (holds : inv r) :
    inv (r.get ask.fetch size position).2 := by
  apply maintains.get holds
  intro wanted
  unfold Read.MaySend
  cases known : r.cache.hitCount with
  | none => rfl
  | some n =>
      rcases wanted with unknown | pending
      · rw [known] at unknown
        cases unknown
      · exact ⟨pending, rfl⟩

theorem keeps_slice (maintains : Maintains ask ((Read.slice start stop).MaySend size.val) inv)
    (holds : inv r) : inv (r.slice ask.fetch size start stop).2 := by
  unfold slice
  simp only
  generalize first : r.ensureCount ask.fetch start _ = counted
  have begun : inv counted := by
    rw [← first]
    apply maintains.ensureCount holds
    intro unknown
    rw [Read.MaySend, unknown]
    cases stop <;> rfl
  obtain ⟨n, known⟩ : ∃ n, counted.cache.hitCount = some n := by
    rw [← first]
    exact exists_hitCount_ensureCount r start _
  have clipped : counted.clip stop = min (stop.getD n) n := by
    rw [clip, count, known]
    rfl
  rw [clipped]
  apply And.left
  apply (maintains.counted n).fillPending ⟨begun, known⟩
  rintro r first last ⟨-, known⟩ run
  rw [Read.MaySend, known]
  exact ⟨first, last, run, rfl⟩

theorem keeps_sliceStep (maintains : Maintains ask ((Read.sliceStep start stop step).MaySend size.val) inv)
    (holds : inv r) : inv (r.sliceStep ask.fetch size start stop step).2 := by
  unfold sliceStep
  simp only
  generalize first : r.ensureCount ask.fetch start _ = counted
  have begun : inv counted := by
    rw [← first]
    apply maintains.ensureCount holds
    intro unknown
    rw [Read.MaySend, unknown]
    rfl
  obtain ⟨n, known⟩ : ∃ n, counted.cache.hitCount = some n := by
    rw [← first]
    exact exists_hitCount_ensureCount r start _
  apply And.left
  apply (maintains.counted n).fillAt ⟨begun, known⟩
  rintro r front position back whole ⟨-, known⟩ passed pending
  obtain ⟨rfl, earlier⟩ := mem_of_range'_eq whole
  rw [Read.MaySend, known]
  exact ⟨front.length, pending, fun j before => passed _ (earlier j before), rfl⟩

theorem keeps_iterAt (maintains : Maintains ask ((Read.iterAt position limit).MaySend size.val) inv)
    (holds : inv r) : inv (r.iterAt ask.fetch size position limit).2 := by
  unfold iterAt
  split
  · exact holds
  · generalize first : r.ensureCount ask.fetch 0 _ = counted
    have begun : inv counted := by
      rw [← first]
      apply maintains.ensureCount holds
      intro unknown
      rw [Read.MaySend, unknown, Nat.zero_add]
      rfl
    obtain ⟨n, known⟩ : ∃ n, counted.cache.hitCount = some n := by
      rw [← first]
      exact exists_hitCount_ensureCount r 0 _
    apply And.left
    apply (maintains.counted n).iterFrom ⟨begun, known⟩ (Nat.le_refl position)
    · intro i later earlier
      exact absurd earlier (Nat.not_lt.2 later)
    · rintro r i ⟨-, known⟩ later passed pending
      rw [Read.MaySend, known]
      exact ⟨i, later, passed, pending, rfl⟩

end

end Reading

end RecordSearch
