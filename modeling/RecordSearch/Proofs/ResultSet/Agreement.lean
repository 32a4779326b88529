import Mathlib.Data.List.Basic
import RecordSearch.ResultSet.Cache

namespace RecordSearch

variable {α : Type}

namespace Slot

/-- A position that was not fetched, or holds what there is. -/
def Agrees (slot : Slot α) (item : Option α) : Prop := slot = pending ∨ slot = ofItem (some item)

theorem value?_ofItem (item : Option α) : (ofItem (some item)).value? = item := by
  cases item <;> rfl

theorem Agrees.of_fetched {slot : Slot α} {item : Option α} (agrees : slot.Agrees item)
    (fetched : slot.isPending = false) : slot = ofItem (some item) := by
  rcases agrees with rfl | same
  · cases fetched
  · exact same

theorem Agrees.fill {slot : Slot α} {item : Option α} (agrees : slot.Agrees item) :
    slot.fill (some item) = ofItem (some item) := by
  rcases agrees with rfl | rfl
  · rfl
  · cases item <;> rfl

end Slot

/-- The item at a position, none behind the last hit. -/
def itemAt (items : List (Option α)) (position : Nat) : Option α := items[position]?.join

theorem itemAt_of_le {items : List (Option α)} {position : Nat} (behind : items.length ≤ position) :
    itemAt items position = none := by
  rw [itemAt, List.getElem?_eq_none behind]
  rfl

def existing (items : List (Option α)) : List α := items.filterMap id

theorem existing_append (front rest : List (Option α)) :
    existing (front ++ rest) = existing front ++ existing rest := List.filterMap_append

theorem existing_range (items : List (Option α)) (start stop : Nat) :
    existing ((items.take stop).drop start) =
      (List.range' start (min stop items.length - start)).filterMap (itemAt items) := by
  have same : (items.take stop).drop start =
      (List.range' start (min stop items.length - start)).map (itemAt items) := by
    apply List.ext_getElem?
    intro i
    rw [List.getElem?_drop, List.getElem?_take, List.getElem?_map]
    by_cases inside : start + i < min stop items.length
    · rw [if_pos (by omega), List.getElem?_range' (by omega), Option.map_some, Nat.one_mul, itemAt,
        List.getElem?_eq_getElem (by omega)]
      rfl
    · have behind : (List.range' start (min stop items.length - start))[i]? = none := by
        apply List.getElem?_eq_none
        rw [List.length_range']
        omega
      rw [behind]
      split
      · exact List.getElem?_eq_none (by omega)
      · rfl
  rw [existing, same, List.filterMap_map]
  rfl

namespace Cache

theorem getElem?_fillFront (width : Nat) (items : List (Option α)) (slots : List (Slot α)) (i : Nat) :
    (fillFront width items slots)[i]? =
      if i < width then slots[i]?.map (Slot.fill items[i]?) else slots[i]? := by
  induction width generalizing items slots i with
  | zero => rw [fillFront, if_neg (Nat.not_lt_zero i)]
  | succ width ih =>
      cases slots with
      | nil => simp [fillFront]
      | cons slot slots =>
          cases i with
          | zero => simp [fillFront, List.head?_eq_getElem?]
          | succ i => simp [fillFront, ih]

theorem fillFront_nil (width : Nat) (items : List (Option α)) : fillFront width items [] = [] := by
  cases width <;> rfl

theorem getElem?_fillFrom (start stop : Nat) (items : List (Option α)) (slots : List (Slot α)) (i : Nat) :
    (fillFrom start stop items slots)[i]? =
      if start ≤ i ∧ i < stop then slots[i]?.map (Slot.fill items[i - start]?) else slots[i]? := by
  unfold fillFrom
  by_cases short : slots.length ≤ start
  · rw [List.take_of_length_le short, List.drop_eq_nil_of_le short, fillFront_nil, List.append_nil]
    split
    · rename_i inside
      rw [List.getElem?_eq_none (Nat.le_trans short inside.1)]
      rfl
    · rfl
  · have front : (slots.take start).length = start := by
      rw [List.length_take]
      omega
    rw [List.getElem?_append, front]
    by_cases before : i < start
    · rw [if_pos before, List.getElem?_take, if_pos before, if_neg (by omega)]
    · rw [if_neg before, getElem?_fillFront, List.getElem?_drop, Nat.add_sub_cancel' (by omega)]
      by_cases inside : i < stop
      · rw [if_pos (by omega), if_pos (by omega)]
      · rw [if_neg (by omega), if_neg (by omega)]

theorem length_fillFront (width : Nat) (items : List (Option α)) (slots : List (Slot α)) :
    (fillFront width items slots).length = slots.length := by
  induction width generalizing items slots with
  | zero => rfl
  | succ width ih =>
      cases slots with
      | nil => rfl
      | cons slot slots => rw [fillFront, List.length_cons, List.length_cons, ih]

theorem length_fillFrom (start stop : Nat) (items : List (Option α)) (slots : List (Slot α)) :
    (fillFrom start stop items slots).length = slots.length := by
  rw [fillFrom, List.length_append, length_fillFront, ← List.length_append, List.take_append_drop]

/-- A cache that knows the number of hits, and agrees with their items position by position. -/
structure Counted (c : Cache α) (items : List (Option α)) : Prop where
  hitCount : c.hitCount = some items.length
  length : c.slots.length = items.length
  slot : ∀ (i : Nat) (slot : Slot α) (item : Option α),
    c.slots[i]? = some slot → items[i]? = some item → slot.Agrees item

/-- Before the number of hits is known, no position is. -/
def Agrees (c : Cache α) (items : List (Option α)) : Prop :=
  c.Counted items ∨ c.hitCount = none ∧ c.slots = []

theorem agrees_fresh (items : List (Option α)) : (fresh : Cache α).Agrees items := Or.inr ⟨rfl, rfl⟩

variable {c : Cache α} {items : List (Option α)}

theorem Agrees.setCount (agrees : c.Agrees items) : (c.setCount items.length).Counted items := by
  rcases agrees with counted | ⟨unknown, -⟩
  · rw [Cache.setCount, counted.hitCount]
    exact counted
  · rw [Cache.setCount, unknown]
    refine ⟨rfl, List.length_replicate, ?_⟩
    intro i slot item found _
    exact Or.inl (List.eq_of_mem_replicate (List.mem_of_getElem? found))

theorem Counted.isSome (counted : c.Counted items) : c.hitCount.isSome = true := by
  rw [counted.hitCount]
  rfl

theorem Counted.exists_slot (counted : c.Counted items) {i : Nat} (inside : i < items.length) :
    ∃ slot, c.slots[i]? = some slot ∧ slot.Agrees items[i] := by
  have there : i < c.slots.length := by
    rw [counted.length]
    exact inside
  have found : c.slots[i]? = some c.slots[i] := List.getElem?_eq_getElem there
  exact ⟨c.slots[i], found, counted.slot i _ _ found (List.getElem?_eq_getElem inside)⟩

theorem Counted.value? (counted : c.Counted items) {i : Nat} (fetched : c.isPendingAt i = false) :
    c.value? i = itemAt items i := by
  by_cases inside : i < items.length
  · obtain ⟨slot, found, agrees⟩ := counted.exists_slot inside
    have there : c.slot? i = some slot := found
    rw [isPendingAt, there] at fetched
    rw [Cache.value?, there, Option.bind_some, agrees.of_fetched fetched, Slot.value?_ofItem, itemAt,
      List.getElem?_eq_getElem inside]
    rfl
  · have nothing : c.slot? i = none := by
      rw [slot?]
      apply List.getElem?_eq_none
      rw [counted.length]
      omega
    rw [Cache.value?, nothing, itemAt_of_le (by omega)]
    rfl

structure IsWindow (page : Page α) (items : List (Option α)) (start stop : Nat) : Prop where
  hits : page.hits = items.length
  items : page.items = (items.take stop).drop start

theorem IsWindow.getElem? {page : Page α} {start stop i : Nat} (window : IsWindow page items start stop)
    (inside : start ≤ i ∧ i < stop) : page.items[i - start]? = items[i]? := by
  rw [window.items, List.getElem?_drop, Nat.add_sub_cancel' inside.1, List.getElem?_take,
    if_pos inside.2]

section

variable {page : Page α} {start stop : Nat}

theorem slots_fill (c : Cache α) (start stop : Nat) (page : Page α) :
    (c.fill start stop page).slots = fillFrom start stop page.items (c.setCount page.hits).slots := rfl

/-- Filling a window leaves a cache that agrees. -/
theorem Agrees.fill (agrees : c.Agrees items) (window : IsWindow page items start stop) :
    (c.fill start stop page).Counted items := by
  have counted := agrees.setCount
  rw [← window.hits] at counted
  refine ⟨counted.hitCount, ?_, ?_⟩
  · rw [slots_fill, length_fillFrom, counted.length]
  · intro i slot item found there
    rw [slots_fill, getElem?_fillFrom] at found
    split at found
    · rename_i inside
      rw [window.getElem? inside, there] at found
      obtain ⟨before, was, rfl⟩ := Option.map_eq_some_iff.1 found
      exact Or.inr (counted.slot i before item was there).fill
    · exact counted.slot i slot item found there

theorem isPendingAt_fill {i : Nat} (inside : start ≤ i ∧ i < stop) :
    (c.fill start stop page).isPendingAt i = false := by
  rw [isPendingAt, slot?, slots_fill, getElem?_fillFrom, if_pos inside]
  cases (c.setCount page.hits).slots[i]? with
  | none => rfl
  | some slot => exact Slot.isPending_fill _ slot

theorem Counted.isPendingAt_fill_of_fetched (counted : c.Counted items) {i : Nat}
    (fetched : c.isPendingAt i = false) : (c.fill start stop page).isPendingAt i = false := by
  by_cases inside : start ≤ i ∧ i < stop
  · exact isPendingAt_fill inside
  · have same : (c.setCount page.hits).slots = c.slots := by
      rw [Cache.setCount, counted.hitCount]
    rw [isPendingAt, slot?, slots_fill, getElem?_fillFrom, if_neg inside, same]
    exact fetched

end

theorem Counted.collect (counted : c.Counted items) {positions : List Nat}
    (fetched : ∀ i ∈ positions, c.isPendingAt i = false) :
    c.collect positions = positions.filterMap (itemAt items) := by
  apply List.filterMap_congr
  intro i listed
  exact counted.value? (fetched i listed)

end Cache

end RecordSearch
