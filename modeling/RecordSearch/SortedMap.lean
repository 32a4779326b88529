namespace RecordSearch

/-- Puts an element at its place in an ascending list; one that is there already is not repeated. -/
def insertSorted {κ : Type} [LT κ] [DecidableLT κ] [DecidableEq κ] (k : κ) : List κ → List κ
  | [] => [k]
  | a :: rest =>
    if k = a then a :: rest else if k < a then k :: a :: rest else a :: insertSorted k rest

theorem mem_insertSorted {κ : Type} [LT κ] [DecidableLT κ] [DecidableEq κ] {k a : κ} {s : List κ} :
    a ∈ insertSorted k s ↔ a = k ∨ a ∈ s := by
  induction s with
  | nil => simp [insertSorted]
  | cons b rest ih =>
    unfold insertSorted
    split
    · simp_all
    · split
      · simp
      · simp only [List.mem_cons, ih]
        constructor <;> rintro (h | h | h) <;> simp [h]

theorem mem_foldl_insertSorted {κ : Type} [LT κ] [DecidableLT κ] [DecidableEq κ] {a : κ} {s all : List κ} :
    a ∈ s.foldl (fun all k => insertSorted k all) all ↔ a ∈ s ∨ a ∈ all := by
  induction s generalizing all with
  | nil => simp
  | cons k s ih =>
    rw [List.foldl_cons, ih, mem_insertSorted, List.mem_cons]
    constructor
    · rintro (later | rfl | there)
      · exact Or.inl (Or.inr later)
      · exact Or.inl (Or.inl rfl)
      · exact Or.inr there
    · rintro ((rfl | later) | there)
      · exact Or.inr (Or.inl rfl)
      · exact Or.inl later
      · exact Or.inr (Or.inr there)

structure SortedMap (κ α : Type) where
  entries : List (κ × α)
  deriving DecidableEq, Repr

namespace SortedMap

variable {κ α β : Type}

def empty : SortedMap κ α := ⟨[]⟩

instance : EmptyCollection (SortedMap κ α) := ⟨empty⟩

instance : Inhabited (SortedMap κ α) := ⟨empty⟩

def size (m : SortedMap κ α) : Nat := m.entries.length

def isEmpty (m : SortedMap κ α) : Bool := m.entries.isEmpty

def keys (m : SortedMap κ α) : List κ := m.entries.map Prod.fst

def mapValues (f : κ → α → β) (m : SortedMap κ α) : SortedMap κ β :=
  ⟨m.entries.map fun entry => (entry.1, f entry.1 entry.2)⟩

def filterKeys (keep : κ → Bool) (m : SortedMap κ α) : SortedMap κ α :=
  ⟨m.entries.filter fun entry => keep entry.1⟩

variable [DecidableEq κ]

def find? (m : SortedMap κ α) (k : κ) : Option α :=
  (m.entries.find? fun entry => entry.1 = k).map Prod.snd

def contains (m : SortedMap κ α) (k : κ) : Bool := (m.find? k).isSome

def erase (m : SortedMap κ α) (k : κ) : SortedMap κ α :=
  ⟨m.entries.filter fun entry => entry.1 ≠ k⟩

theorem find?_mapValues (f : κ → α → β) (m : SortedMap κ α) (k : κ) :
    (m.mapValues f).find? k = (m.find? k).map (f k) := by
  obtain ⟨entries⟩ := m
  simp only [mapValues, find?]
  induction entries with
  | nil => rfl
  | cons entry rest ih =>
    by_cases here : entry.1 = k
    · simp [here]
    · simpa [here] using ih

theorem find?_filterKeys (keep : κ → Bool) (m : SortedMap κ α) (k : κ) :
    (m.filterKeys keep).find? k = if keep k then m.find? k else none := by
  obtain ⟨entries⟩ := m
  simp only [filterKeys, find?]
  induction entries with
  | nil => simp
  | cons entry rest ih =>
    by_cases here : entry.1 = k
    · by_cases kept : keep k = true
      · simp [here, kept]
      · simpa [here, kept] using ih
    · by_cases kept : keep entry.1 = true
      · simpa [here, kept] using ih
      · simpa [here, kept] using ih

theorem find?_erase (m : SortedMap κ α) (k j : κ) :
    (m.erase k).find? j = if j = k then none else m.find? j := by
  have same : m.erase k = m.filterKeys fun name => decide (name ≠ k) := rfl
  rw [same, find?_filterKeys]
  by_cases here : j = k
  · simp [here]
  · simp [here]

variable [LT κ] [DecidableLT κ]

def insertEntry (k : κ) (a : α) : List (κ × α) → List (κ × α)
  | [] => [(k, a)]
  | entry :: rest =>
    if k = entry.1 then (k, a) :: rest
    else if k < entry.1 then (k, a) :: entry :: rest
    else entry :: insertEntry k a rest

theorem mem_insertEntry {k : κ} {a : α} {entry : κ × α} {entries : List (κ × α)}
    (listed : entry ∈ insertEntry k a entries) : entry = (k, a) ∨ entry ∈ entries := by
  induction entries with
  | nil => exact Or.inl (List.mem_singleton.1 listed)
  | cons first rest ih =>
      rw [insertEntry] at listed
      split at listed
      · rcases List.mem_cons.1 listed with same | later
        · exact Or.inl same
        · exact Or.inr (List.mem_cons_of_mem first later)
      · split at listed
        · exact List.mem_cons.1 listed
        · rcases List.mem_cons.1 listed with rfl | later
          · exact Or.inr List.mem_cons_self
          · rcases ih later with same | there
            · exact Or.inl same
            · exact Or.inr (List.mem_cons_of_mem first there)

def insert (m : SortedMap κ α) (k : κ) (a : α) : SortedMap κ α := ⟨insertEntry k a m.entries⟩

def ofList (entries : List (κ × α)) : SortedMap κ α :=
  entries.foldl (fun m entry => m.insert entry.1 entry.2) empty

theorem find?_insert (m : SortedMap κ α) (k j : κ) (a : α) :
    (m.insert k a).find? j = if j = k then some a else m.find? j := by
  obtain ⟨entries⟩ := m
  simp only [insert, find?]
  induction entries with
  | nil => by_cases same : j = k <;> simp [insertEntry, same, eq_comm]
  | cons entry rest ih =>
    by_cases here : k = entry.1
    · by_cases same : j = k
      · simp [insertEntry, here, same]
      · simp [insertEntry, ← here, same, Ne.symm same]
    · by_cases lower : k < entry.1
      · by_cases same : j = k
        · simp [insertEntry, here, lower, same]
        · simp [insertEntry, here, lower, same, Ne.symm same]
      · simp only [insertEntry, if_neg here, if_neg lower]
        by_cases first : entry.1 = j
        · have other : ¬j = k := fun e => here (e ▸ first.symm)
          simp [first, other]
        · simpa [first] using ih

end SortedMap

end RecordSearch
