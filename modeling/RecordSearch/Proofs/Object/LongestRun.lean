import Mathlib.Data.Nat.Find
import RecordSearch.Object.Record
import RecordSearch.Proofs.Object.LeadingName
import RecordSearch.Proofs.Text.Replace

/-!
The longest run of a path's first segments that names an attribute. The name that a path starts with is
grown segment by segment and never shrinks, so it is the longest run exactly if nothing that the object has
lies behind the first run that it lacks.
-/

namespace RecordSearch.Path

section

variable {sep path : String} {names others : List String}

theorem map_ofList_map_toList (names : List String) : (names.map String.toList).map String.ofList = names := by
  rw [List.map_map]
  exact (List.map_congr_left fun name _ => String.ofList_toList).trans (List.map_id names)

theorem splitAll_intercalate_sublist {sep s : List Char} (present : sep ≠ []) {kept : List (List Char)}
    (some : kept ≠ []) (sub : kept.Sublist (Text.splitAll sep s)) :
    Text.splitAll sep (List.intercalate sep kept) = kept := by
  induction s using Text.splitAll_induction present generalizing kept with
  | occurrence before after first ih =>
      rw [Text.splitAll_append_sep present first] at sub
      rcases List.sublist_cons_iff.1 sub with later | ⟨rest, rfl, later⟩
      · exact ih some later
      · cases rest with
        | nil =>
            rw [List.intercalate_singleton]
            exact Text.splitAll_of_not_infix fun there => first (there.trans (List.prefix_append _ _).isInfix)
        | cons next rest =>
            rw [List.intercalate_cons_cons, Text.splitAll_append_sep present first,
              ih (List.cons_ne_nil next rest) later]
  | rest s absent =>
      rw [Text.splitAll_of_not_infix absent] at sub
      obtain rfl := (List.sublist_singleton.1 sub).resolve_left some
      rw [List.intercalate_singleton, Text.splitAll_of_not_infix absent]

theorem segments_intercalate (present : sep ≠ "") (some : names ≠ [])
    (sub : names.Sublist (segments sep path)) : segments sep (sep.intercalate names) = names := by
  have filled : sep.toList ≠ [] := mt String.toList_eq_nil_iff.1 present
  have texts : (names.map String.toList).Sublist (Text.splitAll sep.toList path.toList) := by
    have mapped := sub.map String.toList
    rwa [segments_eq present, map_toList_map_ofList] at mapped
  rw [segments_eq present, String.toList_intercalate,
    splitAll_intercalate_sublist filled (mt List.map_eq_nil_iff.1 some) texts, map_ofList_map_toList]

/-- Different choices of segments make up different names. -/
theorem eq_of_intercalate_eq (present : sep ≠ "") (some : names ≠ []) (sub : names.Sublist (segments sep path))
    (someOther : others ≠ []) (subOther : others.Sublist (segments sep path))
    (same : sep.intercalate names = sep.intercalate others) : names = others := by
  rw [← segments_intercalate present some sub, same, segments_intercalate present someOther subOther]

end

variable {Obj : Type} [Source Obj] {o : Obj} {sep path name next : String}
  {run rest parts : List String}

/-- The longest run of first segments that names an attribute. -/
def IsLongestRun (o : Obj) (sep : String) (parts : List String) (name : String) : Prop :=
  ∃ run, run ≠ [] ∧ run <+: parts ∧ sep.intercalate run = name ∧ hasRun o sep run = true ∧
    ∀ longer, longer <+: parts → hasRun o sep longer = true → longer.length ≤ run.length

/-- The first run of two or more segments that the object lacks is `run` with the segment `next`. -/
structure FirstGap (o : Obj) (sep : String) (parts run : List String) (next : String) (rest : List String) :
    Prop where
  filled : run ≠ []
  cut : parts = run ++ next :: rest
  present : ∀ front, 2 ≤ front.length → front <+: run → hasRun o sep front = true
  missing : hasRun o sep (run ++ [next]) = false

/-- Behind its first gap the object has something: a longer run, or the name of a later segment joined to
what stands before the missing one. -/
def HasBehindGap (o : Obj) (sep : String) (parts : List String) : Prop :=
  ∃ run next rest, FirstGap o sep parts run next rest ∧
    ((∃ more, more <+: rest ∧ hasRun o sep (run ++ next :: more) = true) ∨
      ∃ part ∈ rest, hasRun o sep (run ++ [part]) = true)

theorem IsLongestRun.unique {other : String} (longest : IsLongestRun o sep parts name)
    (again : IsLongestRun o sep parts other) : name = other := by
  obtain ⟨run, -, front, rfl, there, most⟩ := longest
  obtain ⟨run', -, front', rfl, there', most'⟩ := again
  have same : run = run' := by
    apply List.IsPrefix.eq_of_length (List.prefix_of_prefix_length_le front front' (most' run front there))
    exact Nat.le_antisymm (most' run front there) (most run' front' there')
  rw [same]

theorem exists_isLongestRun (some : run ≠ []) (front : run <+: parts) (there : hasRun o sep run = true) :
    ∃ name, IsLongestRun o sep parts name := by
  let P := fun n => hasRun o sep (parts.take n) = true
  have taken : parts.take run.length = run := (List.prefix_iff_eq_take.1 front).symm
  have holds : P run.length := by
    simp only [P, taken, there]
  have reached := Nat.findGreatest_spec front.length_le holds
  have least := Nat.le_findGreatest front.length_le holds
  refine ⟨_, parts.take (Nat.findGreatest P parts.length), ?_, List.take_prefix _ _, rfl, reached, ?_⟩
  · intro none
    have zero := congrArg List.length none
    have positive := List.length_pos_of_ne_nil some
    rw [List.length_take, List.length_nil] at zero
    have bound := front.length_le
    omega
  · intro longer sub there
    have bound := Nat.findGreatest_le (P := P) parts.length
    have more : P longer.length := by
      simp only [P, ← List.prefix_iff_eq_take.1 sub, there]
    rw [List.length_take, Nat.min_eq_left bound]
    exact Nat.le_findGreatest sub.length_le more

theorem isLongestRun_whole (some : parts ≠ []) (whole : hasRun o sep parts = true) :
    IsLongestRun o sep parts (sep.intercalate parts) :=
  ⟨parts, some, List.prefix_refl parts, rfl, whole, fun _ sub _ => sub.length_le⟩

namespace FirstGap

variable {after before : List String} {part : String}

theorem length_le (gap : FirstGap o sep parts run next rest) (other : FirstGap o sep parts before part after) :
    run.length ≤ before.length := by
  by_contra shorter
  have positive := List.length_pos_of_ne_nil other.filled
  have sub : before ++ [part] <+: parts := by
    rw [other.cut]
    exact ⟨after, List.append_assoc before [part] after⟩
  have front : before ++ [part] <+: run := by
    apply List.prefix_of_prefix_length_le sub ⟨next :: rest, gap.cut.symm⟩
    rw [List.length_append, List.length_singleton]
    omega
  have there := gap.present (before ++ [part]) (by simp only [List.length_append, List.length_singleton]; omega)
    front
  rw [other.missing] at there
  cases there

theorem unique (gap : FirstGap o sep parts run next rest) (other : FirstGap o sep parts before part after) :
    run = before ∧ next = part ∧ rest = after := by
  have same := gap.cut.symm.trans other.cut
  have lengths := Nat.le_antisymm (gap.length_le other) (other.length_le gap)
  obtain ⟨rfl, later⟩ := List.append_inj same lengths
  cases later
  exact ⟨rfl, rfl, rfl⟩

theorem grown_of_none (gap : FirstGap o sep parts run next rest) (none : ¬ HasBehindGap o sep parts) :
    grown o sep run (next :: rest) = run := by
  apply Path.grown_of_none
  intro part listed
  rcases List.mem_cons.1 listed with rfl | later
  · exact gap.missing
  · exact Bool.eq_false_iff.2 fun there => none ⟨run, next, rest, gap, .inr ⟨part, later, there⟩⟩

theorem length_le_of_none (gap : FirstGap o sep parts run next rest) (none : ¬ HasBehindGap o sep parts)
    {longer : List String} (sub : longer <+: parts) (there : hasRun o sep longer = true) :
    longer.length ≤ run.length := by
  by_contra more
  have front : run ++ [next] <+: parts := by
    rw [gap.cut]
    exact ⟨rest, List.append_assoc run [next] rest⟩
  obtain ⟨tail, rfl⟩ : run ++ [next] <+: longer := by
    apply List.prefix_of_prefix_length_le front sub
    rw [List.length_append, List.length_singleton]
    omega
  rw [gap.cut, List.append_assoc, List.prefix_append_right_inj, List.singleton_append, List.cons_prefix_cons]
    at sub
  rw [List.append_assoc, List.singleton_append] at there
  exact none ⟨run, next, rest, gap, .inl ⟨tail, sub.2, there⟩⟩

end FirstGap

/-- An object that lacks the name of a path has a first gap in its segments, and the path's name is grown on
from there. -/
theorem exists_firstGap (present : sep ≠ "") (whole : Source.hasAttr o path = false)
    (many : 2 ≤ (segments sep path).length) :
    ∃ run next rest, FirstGap o sep (segments sep path) run next rest ∧
      leadingAttr? o path sep =
        if hasRun o sep (grown o sep run (next :: rest)) then
          some (sep.intercalate (grown o sep run (next :: rest)))
        else none := by
  obtain ⟨first, others, cut⟩ := List.exists_cons_of_ne_nil (segments_ne_nil present path)
  obtain ⟨front, back, rfl, same, runs, last⟩ := exists_stem o sep [first] others
  have lacked : hasRun o sep (first :: (front ++ back)) = false := by
    rw [hasRun, ← cut, intercalate_segments present]
    exact whole
  rw [leadingAttr?_eq whole cut, same]
  cases back with
  | nil =>
      rw [List.append_nil] at lacked cut
      have some : front ≠ [] := by
        rintro rfl
        rw [cut, List.length_singleton] at many
        omega
      have there := runs front some (List.prefix_refl front)
      rw [List.singleton_append, lacked] at there
      cases there
  | cons next rest =>
      refine ⟨first :: front, next, rest, ⟨List.cons_ne_nil first front, cut, ?_, last next rfl⟩, rfl⟩
      intro run long sub
      cases run with
      | nil => cases long
      | cons head more =>
          obtain ⟨rfl, later⟩ := List.cons_prefix_cons.1 sub
          apply runs more _ later
          exact List.ne_nil_of_length_pos (Nat.le_of_succ_le_succ long)

/-- Without a name behind the first gap, what a path starts with is the longest run. -/
theorem leadingAttr?_of_none (present : sep ≠ "") (whole : Source.hasAttr o path = false)
    (none : ¬ HasBehindGap o sep (segments sep path)) (name : String) :
    leadingAttr? o path sep = some name ↔ IsLongestRun o sep (segments sep path) name := by
  by_cases many : 2 ≤ (segments sep path).length
  · obtain ⟨run, next, rest, gap, eq⟩ := exists_firstGap present whole many
    rw [eq, gap.grown_of_none none]
    split
    · rename_i there
      have longest : IsLongestRun o sep (segments sep path) (sep.intercalate run) :=
        ⟨run, gap.filled, ⟨next :: rest, gap.cut.symm⟩, rfl, there, fun _ => gap.length_le_of_none none⟩
      rw [Option.some_inj]
      exact ⟨fun same => same ▸ longest, longest.unique⟩
    · rename_i lacked
      refine ⟨nofun, ?_⟩
      rintro ⟨other, some, front, -, there, -⟩
      have short : ¬ 2 ≤ run.length := fun long => lacked (gap.present run long (List.prefix_refl run))
      have bound := gap.length_le_of_none none front there
      have positive := List.length_pos_of_ne_nil some
      have sub := List.prefix_of_prefix_length_le front ⟨next :: rest, gap.cut.symm⟩ bound
      rw [sub.eq_of_length (by omega)] at there
      exact absurd there lacked
  · -- a single segment is the path itself, which the object lacks
    obtain ⟨first, rest, cut⟩ := List.exists_cons_of_ne_nil (segments_ne_nil present path)
    obtain rfl : rest = [] := by
      rw [cut, List.length_cons] at many
      exact List.eq_nil_of_length_eq_zero (by omega)
    have alone : hasRun o sep [first] = false := by
      rw [hasRun, ← cut, intercalate_segments present]
      exact whole
    rw [leadingAttr?_eq whole cut, grown, alone, if_neg Bool.false_ne_true]
    refine ⟨nofun, ?_⟩
    rintro ⟨other, some, front, -, there, -⟩
    rw [cut] at front
    obtain ⟨head, others, rfl⟩ := List.exists_cons_of_ne_nil some
    obtain ⟨rfl, none⟩ := List.cons_prefix_cons.1 front
    rw [List.prefix_nil.1 none, alone] at there
    cases there

/-- With a name behind the first gap, what a path starts with is not the longest run. -/
theorem leadingAttr?_of_behind (present : sep ≠ "") (whole : Source.hasAttr o path = false)
    (behind : HasBehindGap o sep (segments sep path)) :
    ¬ ∀ name, leadingAttr? o path sep = some name ↔ IsLongestRun o sep (segments sep path) name := by
  intro agrees
  obtain ⟨run, next, rest, gap, behind⟩ := behind
  have many : 2 ≤ (segments sep path).length := by
    have positive := List.length_pos_of_ne_nil gap.filled
    rw [gap.cut, List.length_append, List.length_cons]
    omega
  obtain ⟨run', next', rest', gap', eq⟩ := exists_firstGap present whole many
  obtain ⟨rfl, rfl, rfl⟩ := gap'.unique gap
  rcases grown_cases o sep run' (next' :: rest') with ⟨stays, none⟩ | ⟨first, kept, same, sub, there, all⟩
  · -- Nothing was taken, so the object has a longer run, which was not found.
    obtain ⟨more, sub, there⟩ : ∃ more, more <+: rest' ∧ hasRun o sep (run' ++ next' :: more) = true := by
      refine behind.resolve_right ?_
      rintro ⟨part, listed, there⟩
      rw [none part (List.mem_cons_of_mem next' listed)] at there
      cases there
    have front : run' ++ next' :: more <+: segments sep path := by
      rw [gap.cut, List.prefix_append_right_inj, List.cons_prefix_cons]
      exact ⟨rfl, sub⟩
    obtain ⟨name, longest⟩ := exists_isLongestRun (List.append_ne_nil_of_right_ne_nil run'
      (List.cons_ne_nil next' more)) front there
    have found := (agrees name).2 longest
    rw [eq, stays] at found
    split at found
    · cases found
      obtain ⟨other, some, sub', same, -, most⟩ := longest
      have := eq_of_intercalate_eq present some sub'.sublist gap.filled
        (List.IsPrefix.sublist ⟨next' :: rest', gap.cut.symm⟩) same
      subst this
      have bound := most _ front there
      rw [List.length_append, List.length_cons] at bound
      omega
    · cases found
  · -- A later segment was taken, which no run of first segments has in that place.
    rw [eq, same] at agrees
    rw [same] at all
    rw [if_pos all] at agrees
    obtain ⟨other, some, front, name, -, -⟩ := (agrees _).1 rfl
    have chosen : (run' ++ first :: kept).Sublist (segments sep path) := by
      rw [gap.cut]
      exact sub.append_left run'
    have := eq_of_intercalate_eq present some front.sublist
      (List.append_ne_nil_of_left_ne_nil gap.filled _) chosen name
    subst this
    rw [gap.cut, List.prefix_append_right_inj, List.cons_prefix_cons] at front
    rw [front.1, gap.missing] at there
    cases there

/-- What a path starts with is the longest run of segments that names an attribute, for exactly the objects
that have the path's own name or nothing behind the first gap. In any case it names an attribute, by the
first segment and some of the others. -/
theorem leadingAttr?_isLongestRun_iff (present : sep ≠ "") (o : Obj) (path : String) :
    ((∀ name, leadingAttr? o path sep = some name ↔ IsLongestRun o sep (segments sep path) name) ↔
      (Source.hasAttr o path = true ∨ ¬ HasBehindGap o sep (segments sep path))) ∧
    ∀ name, leadingAttr? o path sep = some name → Source.hasAttr o name = true ∧
      ∃ first rest kept, segments sep path = first :: rest ∧ kept.Sublist rest ∧
        name = sep.intercalate (first :: kept) := by
  refine ⟨?_, fun name found => exists_kept present found⟩
  cases whole : Source.hasAttr o path with
  | true =>
      refine iff_of_true (fun name => ?_) (.inl rfl)
      have longest := isLongestRun_whole (segments_ne_nil present path)
        ((congrArg (Source.hasAttr o) (intercalate_segments present path)).trans whole)
      rw [intercalate_segments present] at longest
      rw [leadingAttr?, if_pos whole, Option.some_inj]
      exact ⟨fun same => same ▸ longest, longest.unique⟩
  | false =>
      constructor
      · exact fun agrees => .inr fun behind => leadingAttr?_of_behind present whole behind agrees
      · exact fun none => leadingAttr?_of_none present whole (none.resolve_left Bool.false_ne_true)

def lodging : Record :=
  ⟨none, none, [("house", .value (.text "Rowan")), ("house__floor__number", .value (.integer 2))]⟩

theorem leadingAttr?_isLongestRun_lodging :
    relation ≠ "" ∧ leadingAttr? lodging "house__door" relation = some "house" ∧
      IsLongestRun lodging relation (segments relation "house__door") "house" := by
  have present : relation ≠ "" := by decide
  have house : leadingAttr? lodging "house__door" relation = some "house" := by with_unfolding_all rfl
  have cut : segments relation "house__door" = ["house", "door"] := by with_unfolding_all rfl
  have gap : FirstGap lodging relation (segments relation "house__door") ["house"] "door" [] := by
    refine ⟨List.cons_ne_nil "house" [], cut, ?_, by with_unfolding_all rfl⟩
    intro front long sub
    exact absurd (Nat.le_trans long sub.length_le) (by decide)
  have none : ¬ HasBehindGap lodging relation (segments relation "house__door") := by
    rintro ⟨run, next, rest, other, behind⟩
    obtain ⟨rfl, rfl, rfl⟩ := other.unique gap
    rcases behind with ⟨more, sub, there⟩ | ⟨part, listed, -⟩
    · rw [List.prefix_nil.1 sub] at there
      exact absurd there (Bool.eq_false_iff.1 gap.missing)
    · cases listed
  obtain ⟨agrees, -⟩ := leadingAttr?_isLongestRun_iff present lodging "house__door"
  exact ⟨present, house, (agrees.2 (.inr none) "house").1 house⟩

/-- The name of the house is taken where the number of its floor is the longest run. -/
theorem not_leadingAttr?_isLongestRun :
    ¬ ∀ (o : Record) (path sep name : String), sep ≠ "" →
      (leadingAttr? o path sep = some name ↔ IsLongestRun o sep (segments sep path) name) := by
  intro longest
  have present : relation ≠ "" := by decide
  have house : leadingAttr? lodging "house__floor__number__parity" relation = some "house" := by
    with_unfolding_all rfl
  have cut : segments relation "house__floor__number__parity" = ["house", "floor", "number", "parity"] := by
    with_unfolding_all rfl
  obtain ⟨run, some, front, name, -, most⟩ := (longest lodging _ relation "house" present).1 house
  rw [cut] at most
  have number := most ["house", "floor", "number"] (by decide) (by with_unfolding_all rfl)
  have single : run = ["house"] := by
    apply eq_of_intercalate_eq present some front.sublist (List.cons_ne_nil "house" []) _ name
    rw [cut]
    decide
  rw [single] at number
  exact absurd number (by decide)

end RecordSearch.Path
