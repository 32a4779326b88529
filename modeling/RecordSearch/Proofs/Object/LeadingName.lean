import RecordSearch.Object.Path

namespace RecordSearch.Path

def segments (sep path : String) : List String :=
  (Text.pieces sep.toList path.toList).map String.ofList

section

variable {sep : String}

theorem segments_eq (present : sep ≠ "") (path : String) :
    segments sep path = (Text.splitAll sep.toList path.toList).map String.ofList := by
  have some : sep.toList ≠ [] := mt String.toList_eq_nil_iff.1 present
  rw [segments, Text.pieces, if_neg some]

theorem map_toList_map_ofList (texts : List (List Char)) :
    (texts.map String.ofList).map String.toList = texts := by
  rw [List.map_map]
  exact (List.map_congr_left fun text _ => String.toList_ofList).trans (List.map_id texts)

theorem intercalate_segments (present : sep ≠ "") (path : String) :
    sep.intercalate (segments sep path) = path := by
  rw [← String.toList_inj, String.toList_intercalate, segments_eq present, map_toList_map_ofList]
  exact Text.intercalate_splitAll sep.toList path.toList

theorem segments_ne_nil (present : sep ≠ "") (path : String) : segments sep path ≠ [] := by
  rw [segments_eq present, ne_eq, List.map_eq_nil_iff]
  exact Text.splitAll_ne_nil _ _

end

variable {Obj : Type} [Source Obj] {o : Obj} {sep path name : String} {run rest : List String}

def hasRun (o : Obj) (sep : String) (run : List String) : Bool := Source.hasAttr o (sep.intercalate run)

/-- The segments that a name is grown to: each one is taken that makes the name of an attribute. -/
def grown (o : Obj) (sep : String) (run : List String) : List String → List String
  | [] => run
  | part :: rest => if hasRun o sep (run ++ [part]) then grown o sep (run ++ [part]) rest else grown o sep run rest

theorem extendName_eq (filled : run ≠ []) (part : String) :
    extendName o sep (sep.intercalate run) part =
      sep.intercalate (if hasRun o sep (run ++ [part]) then run ++ [part] else run) := by
  have longer : sep.intercalate (run ++ [part]) = sep.intercalate run ++ sep ++ part := by
    rw [String.intercalate_append_of_ne_nil filled (List.cons_ne_nil part []), String.intercalate_singleton]
  rw [extendName, hasRun, longer]
  split <;> simp [longer]

theorem foldl_extendName_eq (filled : run ≠ []) (rest : List String) :
    rest.foldl (extendName o sep) (sep.intercalate run) = sep.intercalate (grown o sep run rest) := by
  induction rest generalizing run with
  | nil => rfl
  | cons part rest ih =>
      rw [List.foldl_cons, extendName_eq filled, grown]
      split
      · exact ih (List.append_ne_nil_of_left_ne_nil filled [part])
      · exact ih filled

/-- Either no later segment makes the name of an attribute and the name stays, or some are taken, in their
order: the first of them names an attribute with what was there before, and all of them do. -/
theorem grown_cases (o : Obj) (sep : String) (run rest : List String) :
    (grown o sep run rest = run ∧ ∀ part ∈ rest, hasRun o sep (run ++ [part]) = false) ∨
    ∃ first kept, grown o sep run rest = run ++ first :: kept ∧ (first :: kept).Sublist rest ∧
      hasRun o sep (run ++ [first]) = true ∧ hasRun o sep (grown o sep run rest) = true := by
  induction rest generalizing run with
  | nil => exact .inl ⟨rfl, nofun⟩
  | cons part rest ih =>
      rw [grown]
      split
      · rename_i there
        rcases ih (run ++ [part]) with ⟨same, -⟩ | ⟨first, kept, same, sub, -, whole⟩
        · refine .inr ⟨part, [], same, (List.nil_sublist rest).cons_cons part, there, ?_⟩
          rwa [same]
        · refine .inr ⟨part, first :: kept, ?_, sub.cons_cons part, there, whole⟩
          rw [same, List.append_assoc, List.singleton_append]
      · rename_i lacked
        rcases ih run with ⟨same, none⟩ | ⟨first, kept, same, sub, there, whole⟩
        · exact .inl ⟨same, List.forall_mem_cons.2 ⟨Bool.eq_false_iff.2 lacked, none⟩⟩
        · exact .inr ⟨first, kept, same, sub.cons part, there, whole⟩

theorem grown_of_none (none : ∀ part ∈ rest, hasRun o sep (run ++ [part]) = false) :
    grown o sep run rest = run := by
  rcases grown_cases o sep run rest with ⟨same, -⟩ | ⟨first, kept, -, sub, there, -⟩
  · exact same
  · rw [none first (sub.subset List.mem_cons_self)] at there
    cases there

/-- A name is grown run by run up to the first one that the object lacks. -/
theorem exists_stem (o : Obj) (sep : String) (run rest : List String) :
    ∃ front back, rest = front ++ back ∧ grown o sep run rest = grown o sep (run ++ front) back ∧
      (∀ more, more ≠ [] → more <+: front → hasRun o sep (run ++ more) = true) ∧
      ∀ next ∈ back.head?, hasRun o sep (run ++ front ++ [next]) = false := by
  induction rest generalizing run with
  | nil =>
      refine ⟨[], [], rfl, by rw [List.append_nil], ?_, nofun⟩
      intro more some sub
      exact absurd (List.prefix_nil.1 sub) some
  | cons part rest ih =>
      cases there : hasRun o sep (run ++ [part]) with
      | false =>
          refine ⟨[], part :: rest, rfl, by rw [List.append_nil], ?_, ?_⟩
          · intro more some sub
            exact absurd (List.prefix_nil.1 sub) some
          · rintro next ⟨⟩
            rwa [List.append_nil]
      | true =>
          obtain ⟨front, back, rfl, same, runs, last⟩ := ih (run ++ [part])
          simp only [List.append_assoc, List.singleton_append] at same runs last
          refine ⟨part :: front, back, rfl, ?_, ?_, ?_⟩
          · rw [grown, if_pos there]
            exact same
          · intro more some sub
            obtain ⟨first, more, rfl⟩ := List.exists_cons_of_ne_nil some
            obtain ⟨rfl, later⟩ := List.cons_prefix_cons.1 sub
            cases more with
            | nil => exact there
            | cons second more => exact runs (second :: more) (List.cons_ne_nil second more) later
          · intro next listed
            rw [List.append_assoc, List.cons_append]
            exact last next listed

theorem leadingAttr?_eq (whole : Source.hasAttr o path = false) {first : String}
    (cut : segments sep path = first :: rest) :
    leadingAttr? o path sep =
      if hasRun o sep (grown o sep [first] rest) then some (sep.intercalate (grown o sep [first] rest))
      else none := by
  have name : rest.foldl (extendName o sep) first = sep.intercalate (grown o sep [first] rest) := by
    rw [← foldl_extendName_eq (List.cons_ne_nil first []), String.intercalate_singleton]
  rw [segments] at cut
  rw [leadingAttr?, if_neg (Bool.eq_false_iff.1 whole), cut]
  simp only [name]
  rfl

theorem exists_kept (present : sep ≠ "") (found : leadingAttr? o path sep = some name) :
    Source.hasAttr o name = true ∧ ∃ first rest kept, segments sep path = first :: rest ∧ kept.Sublist rest ∧
      name = sep.intercalate (first :: kept) := by
  obtain ⟨first, rest, cut⟩ := List.exists_cons_of_ne_nil (segments_ne_nil present path)
  cases whole : Source.hasAttr o path with
  | true =>
      rw [leadingAttr?, if_pos whole] at found
      cases found
      exact ⟨whole, first, rest, rest, cut, List.Sublist.refl rest, by rw [← cut, intercalate_segments present]⟩
  | false =>
      rw [leadingAttr?_eq whole cut] at found
      split at found
      · rename_i there
        cases found
        refine ⟨there, first, rest, ?_⟩
        rcases grown_cases o sep [first] rest with ⟨same, -⟩ | ⟨next, kept, same, sub, -, -⟩
        · exact ⟨[], cut, List.nil_sublist rest, by rw [same]⟩
        · exact ⟨next :: kept, cut, sub, by rw [same, List.singleton_append]⟩
      · cases found

theorem relation_ne_empty : relation ≠ "" := by decide

/-- An object leaves a part of a path out: it has an attribute named by the first parts and a later one, but
none named by these parts and the next one. -/
def LeavesOut (o : Obj) (path : String) : Prop :=
  ∃ run next between part after, run ≠ [] ∧
    segments relation path = run ++ next :: (between ++ part :: after) ∧
    hasRun o relation (run ++ [next]) = false ∧ hasRun o relation (run ++ [part]) = true

/-- The name that a path starts with is the path, or the front of it up to a separator, unless the object
leaves a part of it out. -/
theorem leavesOut_or_front (found : leadingAttr? o path relation = some name) :
    LeavesOut o path ∨ name = path ∨ ∃ rest, path = name ++ relation ++ rest := by
  cases whole : Source.hasAttr o path with
  | true =>
      rw [leadingAttr?, if_pos whole] at found
      cases found
      exact .inr (.inl rfl)
  | false =>
      obtain ⟨first, others, cut⟩ := List.exists_cons_of_ne_nil (segments_ne_nil relation_ne_empty path)
      obtain ⟨front, back, rfl, same, -, last⟩ := exists_stem o relation [first] others
      have text := intercalate_segments relation_ne_empty path
      rw [leadingAttr?_eq whole cut, same] at found
      split at found
      · cases found
        rcases grown_cases o relation ([first] ++ front) back with ⟨stays, -⟩ | ⟨part, kept, -, sub, there, -⟩
        · right
          rw [stays, ← text, cut]
          cases back with
          | nil => exact .inl (by rw [List.append_nil]; rfl)
          | cons next back =>
              refine .inr ⟨relation.intercalate (next :: back), ?_⟩
              exact String.intercalate_append_of_ne_nil (List.cons_ne_nil first front) (List.cons_ne_nil next back)
        · left
          cases back with
          | nil => cases sub
          | cons next back =>
              have lacked := last next rfl
              rcases List.mem_cons.1 (sub.subset List.mem_cons_self) with rfl | later
              · rw [lacked] at there
                cases there
              · obtain ⟨between, after, rfl⟩ := List.append_of_mem later
                exact ⟨first :: front, next, between, part, after, List.cons_ne_nil first front, cut, lacked, there⟩
      · cases found

theorem eq_of_leadingAttr?_empty (found : leadingAttr? o path relation = some "") :
    path = "" ∨ ∃ rest, path = relation ++ rest := by
  obtain ⟨-, first, rest, kept, cut, -, name⟩ := exists_kept relation_ne_empty found
  have none : first = "" := by
    cases kept with
    | nil => rw [name, String.intercalate_singleton]
    | cons next kept =>
        rw [String.intercalate_cons_of_ne_nil (List.cons_ne_nil next kept), String.append_assoc] at name
        exact (String.append_eq_empty_iff.1 name.symm).1
  have text := intercalate_segments relation_ne_empty path
  rw [cut, none] at text
  cases rest with
  | nil => exact .inl text.symm
  | cons next others =>
      rw [String.intercalate_cons_of_ne_nil (List.cons_ne_nil next others), String.empty_append] at text
      exact .inr ⟨_, text.symm⟩

end RecordSearch.Path
