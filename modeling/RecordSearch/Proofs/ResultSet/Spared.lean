import RecordSearch.Proofs.ResultSet.Pages

namespace RecordSearch

variable {σ α : Type}

namespace Reading

variable {fetch : Fetch σ α} {size : PageSize} {r : Reading σ α} {start stop : Nat}

theorem lt_of_firstPending? {first : Nat} (found : r.firstPending? start stop = some first) : first < stop := by
  rw [firstPending?, Option.map_eq_some_iff] at found
  obtain ⟨offset, index, same⟩ := found
  obtain ⟨bound, -⟩ := List.findIdx?_eq_some_iff_getElem.1 index
  rw [List.length_drop, List.length_take] at bound
  omega

variable (fetch size)

theorem fillPending_of_fetched (counted : r.cache.hitCount.isSome = true)
    (fetched : ∀ i, start ≤ i → i < stop → r.cache.isPendingAt i = false) :
    r.fillPending fetch size start stop = r := by
  rw [fillPending, dif_pos counted]
  split
  · rfl
  · rename_i first found
    have pending := isPendingAt_of_firstPending? found
    rw [fetched first (isRun_of_firstPending? found).start_le (lt_of_firstPending? found)] at pending
    cases pending

variable {position : Nat}

theorem isBehind_iff : r.isBehind position = true ↔ ∃ n, r.cache.hitCount = some n ∧ n ≤ position := by
  rw [isBehind]
  cases r.cache.hitCount with
  | none => simp only [Bool.false_eq_true, reduceCtorEq, false_and, exists_const]
  | some n => simp only [decide_eq_true_eq, Option.some.injEq, exists_eq_left']

theorem get_of_slot (before : r.isBehind position = false) {slot : Slot α}
    (found : r.cache.slot? position = some slot) (resolved : slot.isPending = false) :
    r.get fetch size position = (slot.value?, r) := by
  rw [Reading.get, before, if_neg Bool.false_ne_true]
  simp only [found, resolved, Bool.not_false, if_true, Cache.value?, Option.bind_some]

theorem get_of_unfetched (before : r.isBehind position = false) (unfetched : ¬ r.cache.IsFetchedAt position) :
    r.get fetch size position =
      let after := (r.fill fetch (position - position % size.val)
        (max (position - position % size.val + size.val) (position + 1))).2
      (after.cache.value? position, after) := by
  rw [Reading.get, before, if_neg Bool.false_ne_true]
  cases found : r.cache.slot? position with
  | none => rfl
  | some slot =>
      cases waiting : slot.isPending with
      | true => simp only [waiting, Bool.not_true, Bool.false_eq_true, if_false]
      | false => exact absurd ⟨slot, found, waiting⟩ unfetched

section

variable {n : Nat} (known : r.cache.hitCount = some n)

include known

end

end Reading

end RecordSearch
