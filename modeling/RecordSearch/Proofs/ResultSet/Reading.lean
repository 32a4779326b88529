import Mathlib.Data.List.Sort
import RecordSearch.Proofs.ResultSet.Agreement
import RecordSearch.ResultSet.Reading

namespace RecordSearch

variable {σ α : Type}

/-- A source that answers every window from one list of items, in each state that it comes to. -/
structure Faithful (fetch : Fetch σ α) (good : σ → Prop) (items : List (Option α)) : Prop where
  window : ∀ source start stop, good source →
    Cache.IsWindow (fetch source start stop).1 items start stop
  keeps : ∀ source start stop, good source → good (fetch source start stop).2

def upTo (limit : Option Nat) (values : List α) : List α :=
  match limit with
  | some n => values.take n
  | none => values

theorem upTo_nil (limit : Option Nat) : upTo limit ([] : List α) = [] := by
  cases limit with
  | none => rfl
  | some n => exact List.take_nil

theorem upTo_cons {limit : Option Nat} (more : limit ≠ some 0) (a : α) (values : List α) :
    upTo limit (a :: values) = a :: upTo (limit.map (· - 1)) values := by
  match limit, more with
  | none, _ => rfl
  | some (n + 1), _ => rfl

theorem upTo_append (limit : Option Nat) (front rest : List α) :
    upTo limit (front ++ rest) = upTo limit front ++ upTo (limit.map (· - front.length)) rest := by
  cases limit with
  | none => rfl
  | some n => exact List.take_append

theorem upTo_zero {limit : Option Nat} (nothing : limit = some 0) (values : List α) :
    upTo limit values = [] := by
  rw [nothing, upTo, List.take_zero]

namespace Reading

/-- A reading that may go on: the cache agrees, and the source is in one of its states. -/
structure Sound (good : σ → Prop) (items : List (Option α)) (r : Reading σ α) : Prop where
  cache : r.cache.Agrees items
  source : good r.source

structure Known (good : σ → Prop) (items : List (Option α)) (r : Reading σ α) : Prop where
  cache : r.cache.Counted items
  source : good r.source

variable {fetch : Fetch σ α} {good : σ → Prop} {items : List (Option α)} {r : Reading σ α}
  (size : PageSize)

theorem Known.sound (known : r.Known good items) : r.Sound good items :=
  ⟨Or.inl known.cache, known.source⟩

theorem Sound.fill (faithful : Faithful fetch good items) (sound : r.Sound good items)
    (start stop : Nat) : (r.fill fetch start stop).2.Known good items :=
  ⟨sound.cache.fill (faithful.window r.source start stop sound.source),
    faithful.keeps r.source start stop sound.source⟩

theorem Sound.fill_found (faithful : Faithful fetch good items) (sound : r.Sound good items)
    (start stop : Nat) :
    (r.fill fetch start stop).1 = decide (start < stop ∧ start < items.length) := by
  have window := faithful.window r.source start stop sound.source
  change (!(fetch r.source start stop).1.items.isEmpty) = _
  rw [window.items, Bool.eq_iff_iff, Bool.not_eq_true', List.isEmpty_eq_false_iff, decide_eq_true_iff,
    ne_eq, List.drop_eq_nil_iff, List.length_take]
  omega

theorem Sound.ensureCount (faithful : Faithful fetch good items) (sound : r.Sound good items)
    (start width : Nat) : (r.ensureCount fetch start width).Known good items := by
  unfold Reading.ensureCount
  split
  · rename_i counted
    rcases sound.cache with agrees | ⟨unknown, -⟩
    · exact ⟨agrees, sound.source⟩
    · rw [unknown] at counted
      cases counted
  · exact sound.fill faithful start (start + width)

theorem Known.clip (known : r.Known good items) (stop : Option Nat) :
    r.clip stop = min (stop.getD items.length) items.length := by
  rw [Reading.clip, count, known.cache.hitCount]
  rfl

theorem get_eq (faithful : Faithful fetch good items) (sound : r.Sound good items) (position : Nat) :
    (r.get fetch size position).1 = itemAt items position ∧
      (r.get fetch size position).2.Sound good items := by
  have inside : position - position % size.val ≤ position ∧
      position < max (position - position % size.val + size.val) (position + 1) := by
    omega
  have known := sound.fill faithful (position - position % size.val)
    (max (position - position % size.val + size.val) (position + 1))
  have filled := known.cache.value? (Cache.isPendingAt_fill inside)
  unfold Reading.get
  split
  · rename_i behind
    rcases sound.cache with counted | ⟨unknown, -⟩
    · rw [isBehind, counted.hitCount] at behind
      exact ⟨(itemAt_of_le (of_decide_eq_true behind)).symm, sound⟩
    · rw [isBehind, unknown] at behind
      cases behind
  · cases found : r.cache.slot? position with
    | none => exact ⟨filled, known.sound⟩
    | some slot =>
        cases pending : slot.isPending with
        | true =>
            simp only [pending]
            exact ⟨filled, known.sound⟩
        | false =>
            simp only [pending]
            rcases sound.cache with counted | ⟨-, nothing⟩
            · refine ⟨counted.value? ?_, sound⟩
              rw [Cache.isPendingAt, found]
              exact pending
            · rw [Cache.slot?, nothing] at found
              cases found

theorem fetched_of_firstPending? {start stop : Nat} (nothing : r.firstPending? start stop = none) {i : Nat}
    (inside : start ≤ i ∧ i < stop) : r.cache.isPendingAt i = false := by
  rw [Cache.isPendingAt]
  cases found : r.cache.slot? i with
  | none => rfl
  | some slot =>
      rw [firstPending?, Option.map_eq_none_iff, List.findIdx?_eq_none_iff] at nothing
      apply nothing
      apply List.mem_iff_getElem?.2
      refine ⟨i - start, ?_⟩
      rw [List.getElem?_drop, Nat.add_sub_cancel' inside.1, List.getElem?_take, if_pos inside.2]
      exact found

theorem fillPending_known (faithful : Faithful fetch good items) (start stop : Nat)
    (known : r.Known good items) :
    (r.fillPending fetch size start stop).Known good items ∧
      ∀ i, start ≤ i ∧ i < stop → (r.fillPending fetch size start stop).cache.isPendingAt i = false := by
  induction r using fillPending.induct fetch size start stop with
  | case1 r counted nothing =>
      rw [fillPending, dif_pos counted]
      split
      · exact ⟨known, fun i inside => fetched_of_firstPending? nothing inside⟩
      · rename_i found
        rw [nothing] at found
        cases found
  | case2 r counted first found last ih =>
      rw [fillPending, dif_pos counted]
      split
      · rename_i nothing
        rw [nothing] at found
        cases found
      · rename_i other again
        rw [found] at again
        cases again
        exact ih (known.sound.fill faithful first last)
  | case3 r unknown => exact absurd known.cache.isSome unknown

theorem collect_fillPending (faithful : Faithful fetch good items) (known : r.Known good items)
    (start : Nat) (stop : Option Nat) :
    (r.fillPending fetch size start (r.clip stop)).cache.collect (positions start (r.clip stop)) =
        existing ((items.take (stop.getD items.length)).drop start) ∧
      (r.fillPending fetch size start (r.clip stop)).Sound good items := by
  obtain ⟨filled, fetched⟩ := fillPending_known size faithful start (r.clip stop) known
  refine ⟨?_, filled.sound⟩
  rw [existing_range, positions, ← known.clip]
  apply filled.cache.collect
  intro i listed
  obtain ⟨offset, inside, rfl⟩ := List.mem_range'.1 listed
  exact fetched _ (by omega)

theorem slice_eq (faithful : Faithful fetch good items) (sound : r.Sound good items) (start : Nat)
    (stop : Option Nat) :
    (r.slice fetch size start stop).1 =
        existing ((items.take (stop.getD items.length)).drop start) ∧
      (r.slice fetch size start stop).2.Sound good items :=
  collect_fillPending size faithful (sound.ensureCount faithful start _) start stop

/-- The positions before `stop` that lie some steps behind `start`. -/
def stepped (start stop step : Nat) : List Nat :=
  (List.range stop).filter fun i => start ≤ i && (i - start) % step == 0

theorem range'_eq_stepped (start stop : Nat) {step : Nat} (positive : 0 < step) :
    List.range' start ((stop - start + step - 1) / step) step = stepped start stop step := by
  apply List.Pairwise.eq_of_mem_iff (r := (· < ·))
  · exact List.pairwise_lt_range' step positive
  · exact List.pairwise_lt_range.filter _
  · intro i
    simp only [stepped, List.mem_range', List.mem_filter, List.mem_range, Bool.and_eq_true,
      decide_eq_true_eq, beq_iff_eq]
    constructor
    · rintro ⟨k, below, rfl⟩
      have bound := (Nat.le_div_iff_mul_le positive).1 below
      rw [Nat.succ_mul, Nat.mul_comm] at bound
      refine ⟨by omega, by omega, ?_⟩
      rw [Nat.add_sub_cancel_left, Nat.mul_mod_right]
    · rintro ⟨below, above, whole⟩
      obtain ⟨k, same⟩ := Nat.dvd_of_mod_eq_zero whole
      refine ⟨k, ?_, by omega⟩
      apply (Nat.le_div_iff_mul_le positive).2
      rw [Nat.succ_mul, Nat.mul_comm, ← same]
      omega

theorem isPendingAt_fillAt (faithful : Faithful fetch good items) {positions : List Nat} {i : Nat}
    (known : r.Known good items) (fetched : r.cache.isPendingAt i = false) :
    (r.fillAt fetch size positions).cache.isPendingAt i = false := by
  induction positions generalizing r with
  | nil => exact fetched
  | cons position rest ih =>
      rw [fillAt]
      split
      · exact ih (known.sound.fill faithful position (position + size.val))
          (known.cache.isPendingAt_fill_of_fetched fetched)
      · exact ih known fetched

theorem fillAt_known (faithful : Faithful fetch good items) {positions : List Nat}
    (known : r.Known good items) :
    (r.fillAt fetch size positions).Known good items ∧
      ∀ i ∈ positions, (r.fillAt fetch size positions).cache.isPendingAt i = false := by
  induction positions generalizing r with
  | nil => exact ⟨known, fun _ listed => (List.not_mem_nil listed).elim⟩
  | cons position rest ih =>
      have positive := size.pos
      rw [fillAt]
      split
      · have filled := known.sound.fill faithful position (position + size.val)
        refine ⟨(ih filled).1, ?_⟩
        intro i listed
        rcases List.mem_cons.1 listed with rfl | later
        · exact isPendingAt_fillAt size faithful filled (Cache.isPendingAt_fill (by omega))
        · exact (ih filled).2 i later
      · rename_i fetched
        refine ⟨(ih known).1, ?_⟩
        intro i listed
        rcases List.mem_cons.1 listed with rfl | later
        · exact isPendingAt_fillAt size faithful known (Bool.not_eq_true _ ▸ fetched)
        · exact (ih known).2 i later

theorem sliceStep_eq (faithful : Faithful fetch good items) (sound : r.Sound good items) (start : Nat)
    (stop : Option Nat) (step : Nat) :
    (r.sliceStep fetch size start stop step).1 =
        (stepped start (min (stop.getD items.length) items.length) (max step 1)).filterMap
          (itemAt items) ∧
      (r.sliceStep fetch size start stop step).2.Sound good items := by
  have counted := sound.ensureCount faithful start size.val
  have chosen := range'_eq_stepped start (min (stop.getD items.length) items.length)
    (show 0 < max step 1 by omega)
  unfold Reading.sliceStep
  simp only
  rw [counted.clip, chosen]
  obtain ⟨known, fetched⟩ := fillAt_known size faithful counted
  exact ⟨known.cache.collect fetched, known.sound⟩

theorem existing_drop {items : List (Option α)} {position : Nat} (inside : position < items.length) :
    existing (items.drop position) =
      items[position].toList ++ existing (items.drop (position + 1)) := by
  rw [List.drop_eq_getElem_cons inside, existing, List.filterMap_cons, ← existing]
  cases items[position] <;> rfl

theorem Known.slot_of_getElem? (known : r.Known good items) {position : Nat} {slot : Slot α}
    (found : r.cache.slot? position = some slot) :
    ∃ inside : position < items.length, slot.Agrees items[position] := by
  obtain ⟨there, -⟩ := List.getElem?_eq_some_iff.1 found
  rw [known.cache.length] at there
  exact ⟨there, known.cache.slot position slot _ found (List.getElem?_eq_getElem there)⟩

/-- Going on from a position, an iterator meets the items that there are from it on. -/
theorem iterFrom_eq (faithful : Faithful fetch good items) (limit : Option Nat) (position : Nat)
    (known : r.Known good items) :
    (r.iterFrom fetch size limit position).1 = upTo limit (existing (items.drop position)) ∧
      (r.iterFrom fetch size limit position).2.Known good items := by
  induction limit, r, position using iterFrom.induct fetch size with
  | case1 r position =>
      rw [iterFrom, if_pos rfl]
      exact ⟨(upTo_zero rfl _).symm, known⟩
  | case2 limit r position more counted nothing =>
      have behind : items.length ≤ position := by
        rw [← known.cache.length]
        exact List.getElem?_eq_none_iff.1 nothing
      rw [iterFrom, if_neg more, dif_pos counted, List.drop_eq_nil_of_le behind]
      split <;> rename_i found <;> rw [nothing] at found <;> cases found
      exact ⟨(upTo_nil limit).symm, known⟩
  | case3 limit r position more counted pending ih =>
      rw [iterFrom, if_neg more, dif_pos counted]
      split <;> rename_i found <;> rw [pending] at found <;> cases found
      exact ih (known.sound.fill faithful position (position + size.val))
  | case4 limit r position more counted empty ih =>
      obtain ⟨inside, agrees⟩ := known.slot_of_getElem? empty
      have nothing : items[position] = none := by
        have same := congrArg Slot.value? (agrees.of_fetched rfl)
        rw [Slot.value?_ofItem] at same
        exact same.symm
      rw [iterFrom, if_neg more, dif_pos counted, existing_drop inside, nothing]
      split <;> rename_i found <;> rw [empty] at found <;> cases found
      exact ih known
  | case5 limit r position more counted a filled rest left found ih =>
      obtain ⟨inside, agrees⟩ := known.slot_of_getElem? filled
      have there : items[position] = some a := by
        have same := congrArg Slot.value? (agrees.of_fetched rfl)
        rw [Slot.value?_ofItem] at same
        exact same.symm
      obtain ⟨later, going⟩ := ih known
      rw [iterFrom, if_neg more, dif_pos counted, existing_drop inside, there]
      split <;> rename_i other <;> rw [filled] at other <;> cases other
      refine ⟨?_, going⟩
      rw [Option.toList_some, List.singleton_append, upTo_cons more, ← later]
  | case6 limit r position more unknown => exact absurd known.cache.isSome unknown

theorem iterAt_eq (faithful : Faithful fetch good items) (sound : r.Sound good items) (position : Nat)
    (limit : Option Nat) :
    (r.iterAt fetch size position limit).1 = upTo limit (existing (items.drop position)) ∧
      (r.iterAt fetch size position limit).2.Sound good items := by
  unfold Reading.iterAt
  split
  · rename_i nothing
    exact ⟨(upTo_zero nothing _).symm, sound⟩
  · obtain ⟨values, known⟩ := iterFrom_eq size faithful limit position
      (sound.ensureCount faithful 0 size.val)
    exact ⟨values, known.sound⟩

theorem take_getD (limit : Option Nat) (values : List α) :
    values.take (limit.getD values.length) = upTo limit values := by
  cases limit with
  | none => exact List.take_length
  | some n => rfl

theorem existing_page {page : Page α} {start width : Nat}
    (window : Cache.IsWindow page items start (start + width)) :
    existing (items.drop start) = existing page.items ++ existing (items.drop (start + width)) := by
  rw [window.items, List.drop_take, Nat.add_sub_cancel_left, ← existing_append, ← List.drop_drop,
    List.take_append_drop]

/-- Past the cache, a page and those after it hold the items from the first of the page on. -/
theorem streamPage_eq (faithful : Faithful fetch good items) (fuel : Nat) (limit : Option Nat)
    {page : Page α} {source : σ} {start : Nat} (state : good source)
    (window : Cache.IsWindow page items start (start + size.val)) (enough : items.length < start + fuel) :
    (streamPage fetch size limit page source (start + size.val) fuel).1 =
        upTo limit (existing (items.drop start)) ∧
      good (streamPage fetch size limit page source (start + size.val) fuel).2 := by
  -- each page begins where the one before ends, so the fuel outlasts the items
  have positive := size.pos
  induction fuel generalizing limit page source start with
  | zero =>
      rw [streamPage, List.drop_eq_nil_of_le (by omega)]
      exact ⟨(upTo_nil limit).symm, state⟩
  | succ fuel ih =>
      have whole := existing_page window
      rw [streamPage]
      simp only
      split
      · rename_i empty
        rw [List.isEmpty_iff, window.items, List.drop_eq_nil_iff, List.length_take] at empty
        rw [List.drop_eq_nil_of_le (by omega)]
        exact ⟨(upTo_nil limit).symm, state⟩
      · split
        · rename_i done
          refine ⟨?_, state⟩
          rw [take_getD, whole, upTo_append]
          rw [Bool.or_eq_true, decide_eq_true_eq, decide_eq_true_eq] at done
          rcases done with reached | behind
          · rw [existing, upTo_zero reached, List.append_nil]
          · rw [window.hits] at behind
            rw [List.drop_eq_nil_of_le behind]
            change _ = _ ++ upTo _ []
            rw [upTo_nil, List.append_nil, existing]
        · obtain ⟨rest, kept⟩ := ih (limit.map (· - (existing page.items).length))
            (faithful.keeps source (start + size.val) (start + size.val + size.val) state)
            (faithful.window source (start + size.val) (start + size.val + size.val) state) (by omega)
          refine ⟨?_, kept⟩
          rw [take_getD, whole, upTo_append, ← rest]
          rfl

theorem stream_eq (faithful : Faithful fetch good items) {source : σ} (state : good source)
    (limit : Option Nat) :
    (stream fetch size limit source).1 = upTo limit (existing items) ∧
      good (stream fetch size limit source).2 := by
  unfold Reading.stream
  split
  · rename_i nothing
    exact ⟨(upTo_zero nothing _).symm, state⟩
  · have window := faithful.window source 0 size.val state
    have first : Cache.IsWindow (fetch source 0 size.val).1 items 0 (0 + size.val) := by
      rw [Nat.zero_add]
      exact window
    have pages := streamPage_eq size faithful ((fetch source 0 size.val).1.hits + 1) limit
      (faithful.keeps source 0 size.val state) first (by
        rw [window.hits]
        omega)
    rw [Nat.zero_add, List.drop_zero] at pages
    exact pages

end Reading

end RecordSearch
