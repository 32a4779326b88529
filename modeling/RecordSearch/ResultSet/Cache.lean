namespace RecordSearch

inductive Slot (α : Type) where
  | pending
  | empty
  | filled (a : α)

namespace Slot

variable {α : Type}

def isPending : Slot α → Bool
  | pending => true
  | _ => false

def isFilled : Slot α → Bool
  | filled _ => true
  | _ => false

def value? : Slot α → Option α
  | filled a => some a
  | _ => none

/-- What a fetched item makes of a position; an item without value is dropped. -/
def ofItem : Option (Option α) → Slot α
  | some (some a) => filled a
  | _ => empty

/-- A position keeps what was fetched before. -/
def fill (item : Option (Option α)) : Slot α → Slot α
  | pending => ofItem item
  | slot => slot

theorem isPending_fill (item : Option (Option α)) (slot : Slot α) :
    (slot.fill item).isPending = false := by
  cases slot with
  | pending => rcases item with _ | (_ | _) <;> rfl
  | empty => rfl
  | filled _ => rfl

end Slot

structure Page (α : Type) where
  hits : Nat
  /-- Items without value hold a position and show nothing. -/
  items : List (Option α)

structure Cache (α : Type) where
  slots : List (Slot α)
  hitCount : Option Nat

namespace Cache

variable {α : Type}

def fresh : Cache α := ⟨[], none⟩

def pendingCount (c : Cache α) : Nat := c.slots.countP Slot.isPending

/-- Sets the number of hits once. -/
def setCount (c : Cache α) (count : Nat) : Cache α :=
  match c.hitCount with
  | some _ => c
  | none => ⟨List.replicate count .pending, some count⟩

def fillFront : Nat → List (Option α) → List (Slot α) → List (Slot α)
  | 0, _, slots => slots
  | _ + 1, _, [] => []
  | width + 1, items, slot :: slots => slot.fill items.head? :: fillFront width items.tail slots

def fillFrom (start stop : Nat) (items : List (Option α)) (slots : List (Slot α)) :
    List (Slot α) :=
  slots.take start ++ fillFront (stop - start) items (slots.drop start)

def fill (c : Cache α) (start stop : Nat) (page : Page α) : Cache α :=
  let counted := c.setCount page.hits
  { counted with slots := fillFrom start stop page.items counted.slots }

def slot? (c : Cache α) (position : Nat) : Option (Slot α) := c.slots[position]?

def value? (c : Cache α) (position : Nat) : Option α := (c.slot? position).bind Slot.value?

def isPendingAt (c : Cache α) (position : Nat) : Bool :=
  match c.slot? position with
  | some slot => slot.isPending
  | none => false

def isFull (c : Cache α) : Bool := c.hitCount.isSome && !c.slots.any Slot.isPending

def filledCount (c : Cache α) : Nat := c.slots.countP Slot.isFilled

def collect (c : Cache α) (positions : List Nat) : List α := positions.filterMap c.value?

def setValue (c : Cache α) (position : Nat) (a : α) : Cache α :=
  match c.slot? position with
  | some (.filled _) => { c with slots := c.slots.set position (.filled a) }
  | _ => c

theorem countP_fillFront_le (width : Nat) (items : List (Option α)) (slots : List (Slot α)) :
    (fillFront width items slots).countP Slot.isPending ≤ slots.countP Slot.isPending := by
  induction slots generalizing width items with
  | nil => cases width <;> simp [fillFront]
  | cons slot slots ih =>
    cases width with
    | zero => simp [fillFront]
    | succ width =>
      simp only [fillFront, List.countP_cons, Slot.isPending_fill, Bool.false_eq_true, if_false]
      have := ih width items.tail
      omega

theorem pendingCount_fill_lt (c : Cache α) (start stop : Nat) (page : Page α)
    (counted : c.hitCount.isSome) (wide : start < stop)
    (pending : c.isPendingAt start = true) :
    (c.fill start stop page).pendingCount < c.pendingCount := by
  obtain ⟨slots, hitCount⟩ := c
  cases hitCount with
  | none => simp at counted
  | some count =>
    simp only [isPendingAt, slot?] at pending
    simp only [fill, setCount, pendingCount, fillFrom]
    rcases found : slots[start]? with _ | slot
    · simp [found] at pending
    · simp only [found] at pending
      obtain ⟨inside, at_start⟩ := List.getElem?_eq_some_iff.1 found
      have cut : slots.drop start = slot :: slots.drop (start + 1) := by
        rw [← at_start]
        exact List.drop_eq_getElem_cons inside
      have whole : slots.countP Slot.isPending =
          (slots.take start).countP Slot.isPending + (slots.drop start).countP Slot.isPending := by
        rw [← List.countP_append, List.take_append_drop]
      obtain ⟨width, widthEq⟩ : ∃ width, stop - start = width + 1 :=
        ⟨stop - start - 1, by omega⟩
      rw [List.countP_append, whole, cut, widthEq]
      simp only [fillFront, List.countP_cons, Slot.isPending_fill, pending]
      have := countP_fillFront_le width page.items.tail (slots.drop (start + 1))
      simp only [Bool.false_eq_true, if_false, if_true]
      omega

end Cache

end RecordSearch
