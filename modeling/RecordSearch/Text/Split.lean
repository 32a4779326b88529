namespace RecordSearch.Text

def dropLead? : List Char → List Char → Option (List Char)
  | [], s => some s
  | _ :: _, [] => none
  | a :: lead, c :: s => if a = c then dropLead? lead s else none

theorem dropLead?_eq_some_iff {lead s rest : List Char} :
    dropLead? lead s = some rest ↔ s = lead ++ rest := by
  induction lead generalizing s with
  | nil => simp [dropLead?, eq_comm]
  | cons a lead ih =>
    cases s with
    | nil => simp [dropLead?]
    | cons c s =>
      by_cases same : a = c
      · subst same
        simp [dropLead?, ih]
      · simp [dropLead?, same, eq_comm]

def splitFirst? (sep : List Char) : List Char → Option (List Char × List Char)
  | [] => none
  | c :: s =>
    match dropLead? sep (c :: s) with
    | some rest => some ([], rest)
    | none => (splitFirst? sep s).map fun parts => (c :: parts.1, parts.2)

theorem eq_of_splitFirst? {sep s before after : List Char}
    (found : splitFirst? sep s = some (before, after)) : s = before ++ sep ++ after := by
  induction s generalizing before with
  | nil => simp [splitFirst?] at found
  | cons c s ih =>
    unfold splitFirst? at found
    split at found
    · rename_i rest here
      simp only [Option.some.injEq, Prod.mk.injEq] at found
      obtain ⟨rfl, rfl⟩ := found
      simpa using dropLead?_eq_some_iff.1 here
    · cases inner : splitFirst? sep s with
      | none => simp [inner] at found
      | some parts =>
        simp only [inner, Option.map_some, Option.some.injEq, Prod.mk.injEq] at found
        obtain ⟨rfl, rfl⟩ := found
        simp [ih inner]

def splitLast? (sep : List Char) : List Char → Option (List Char × List Char)
  | [] => none
  | c :: s =>
    match splitLast? sep s with
    | some parts => some (c :: parts.1, parts.2)
    | none => (dropLead? sep (c :: s)).map fun rest => ([], rest)

theorem eq_of_splitLast? {sep s before after : List Char}
    (found : splitLast? sep s = some (before, after)) : s = before ++ sep ++ after := by
  induction s generalizing before with
  | nil => simp [splitLast?] at found
  | cons c s ih =>
    unfold splitLast? at found
    split at found
    · rename_i parts inner
      simp only [Option.some.injEq, Prod.mk.injEq] at found
      obtain ⟨rfl, rfl⟩ := found
      simp [ih inner]
    · cases here : dropLead? sep (c :: s) with
      | none => simp [here] at found
      | some rest =>
        simp only [here, Option.map_some, Option.some.injEq, Prod.mk.injEq] at found
        obtain ⟨rfl, rfl⟩ := found
        simpa using dropLead?_eq_some_iff.1 here

/-- The pieces between the occurrences of `sep`, found from the left without overlap. -/
def splitAll (sep s : List Char) : List (List Char) :=
  match splitFirst? sep s with
  | some (before, after) =>
    if after.length < s.length then before :: splitAll sep after else [s]
  | none => [s]
termination_by s.length

theorem splitAll_ne_nil (sep s : List Char) : splitAll sep s ≠ [] := by
  rw [splitAll]
  split
  · split
    · exact List.cons_ne_nil _ _
    · exact List.cons_ne_nil _ _
  · exact List.cons_ne_nil _ _

/-- The pieces with the separator between them are the whole text. -/
theorem intercalate_splitAll (sep s : List Char) : List.intercalate sep (splitAll sep s) = s := by
  induction s using splitAll.induct sep with
  | case1 s before after found shorter ih =>
      rw [splitAll, found]
      simp only [if_pos shorter]
      rw [List.intercalate_cons_of_ne_nil (splitAll_ne_nil sep after), ih, eq_of_splitFirst? found]
  | case2 s before after found longer =>
      rw [splitAll, found]
      simp only [if_neg longer]
      exact List.intercalate_singleton
  | case3 s found =>
      rw [splitAll, found]
      exact List.intercalate_singleton

/-- The pieces of a text cut at `sep`; an empty separator stands around every character. -/
def pieces (sep s : List Char) : List (List Char) :=
  if sep = [] then [] :: (s.map fun c => [c]) ++ [[]] else splitAll sep s

def replaceAll (sep new s : List Char) : List Char := List.intercalate new (splitAll sep s)

/-- The runs of characters between those that satisfy `isSep`, empty ones included. -/
def splitWhere (isSep : Char → Bool) : List Char → List (List Char)
  | [] => [[]]
  | c :: s =>
    if isSep c then [] :: splitWhere isSep s
    else match splitWhere isSep s with
      | [] => [[c]]
      | run :: runs => (c :: run) :: runs

end RecordSearch.Text
