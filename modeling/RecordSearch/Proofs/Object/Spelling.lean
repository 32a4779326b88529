import RecordSearch.Proofs.Object.LeadingName
import RecordSearch.Proofs.Object.Sentinel

/-!
The three spellings of a path: with points, with double underscores, and flattened. They find the same
attribute; a name that only leads to others is found with points and flattened, but not with double
underscores.
-/

namespace RecordSearch.Path

/-- A part of a path that does not run into the mark of a relation behind it. -/
structure IsPart (name : String) : Prop extends IsSegment name where
  closed : name.toList.getLast? ≠ some '_'

instance (name : String) : Decidable (IsPart name) :=
  decidable_of_iff (IsSegment name ∧ name.toList.getLast? ≠ some '_')
    ⟨fun both => ⟨both.1, both.2⟩, fun part => ⟨part.toIsSegment, part.closed⟩⟩

section

variable {name next : String} {names rest : List String}

theorem isSegment_of_isPart (parts : ∀ part ∈ names, IsPart part) : ∀ part ∈ names, IsSegment part :=
  fun part listed => (parts part listed).toIsSegment

theorem not_relation_infix_part (part : IsPart name) : ¬ relation.toList <:+: name.toList ++ ['_'] := by
  have unrelated := part.unrelated
  rw [not_relation_infix_iff] at unrelated ⊢
  rw [List.isChain_append]
  refine ⟨unrelated, List.isChain_singleton '_', ?_⟩
  rintro a last b - ⟨rfl, -⟩
  exact part.closed last

theorem splitAll_joined (present : names ≠ []) (parts : ∀ part ∈ names, IsPart part) :
    Text.splitAll relation.toList (relation.intercalate names).toList = names.map String.toList := by
  rw [String.toList_intercalate]
  apply Text.splitAll_intercalate_sep (by decide) (map_toList_ne_nil present)
  intro part listed
  obtain ⟨name, there, rfl⟩ := List.mem_map.1 listed
  exact not_relation_infix_part (parts name there)

theorem flattenRelations_joined (present : names ≠ []) (parts : ∀ part ∈ names, IsPart part) :
    flattenRelations (relation.intercalate names).toList = (flattened names).toList := by
  rw [flattenRelations, Text.replaceAll, splitAll_joined present parts, flattened, String.toList_intercalate]

theorem undotted_intercalate {sep : String} (between : '.' ∉ sep.toList)
    (undotted : ∀ part ∈ names, '.' ∉ part.toList) : '.' ∉ (sep.intercalate names).toList := by
  induction names with
  | nil => exact List.not_mem_nil
  | cons name names ih =>
      obtain ⟨here, others⟩ := List.forall_mem_cons.1 undotted
      cases names with
      | nil => rwa [String.intercalate_singleton]
      | cons next rest =>
          rw [String.intercalate_cons_of_ne_nil (List.cons_ne_nil next rest), String.toList_append,
            String.toList_append, List.mem_append, List.mem_append]
          rintro ((front | inner) | behind)
          · exact here front
          · exact between inner
          · exact ih others behind

theorem isSegment_flattened (segments : ∀ part ∈ names, IsSegment part) : IsSegment (flattened names) :=
  ⟨undotted_intercalate (by decide) fun part listed => (segments part listed).undotted,
    not_relation_infix_flattened segments⟩

/-- The path that is written with relations is flattened to the same name. -/
theorem flatten_joined (present : names ≠ []) (parts : ∀ part ∈ names, IsPart part) :
    flatten (relation.intercalate names) = flattened names := by
  have undotted : '.' ∉ (relation.intercalate names).toList :=
    undotted_intercalate (by decide) fun part listed => (parts part listed).undotted
  have whole : Text.replaceAll ['.'] separator.toList (relation.intercalate names).toList =
      (relation.intercalate names).toList :=
    Text.replaceAll_of_not_infix fun there => undotted ((List.singleton_infix_iff _ _).1 there)
  rw [flatten, whole, flattenRelations_joined present parts, String.ofList_toList]

theorem dotParts_joined (parts : ∀ part ∈ names, IsPart part) :
    Handle.dotParts (relation.intercalate names) = [relation.intercalate names] := by
  have undotted : '.' ∉ (relation.intercalate names).toList :=
    undotted_intercalate (by decide) fun part listed => (parts part listed).undotted
  rw [Handle.dotParts, Text.splitAll_of_not_mem undotted, List.map_singleton, String.ofList_toList]

theorem relation_infix_joined (name next : String) (rest : List String) :
    relation.toList <:+: (relation.intercalate (name :: next :: rest)).toList := by
  rw [String.intercalate_cons_of_ne_nil (List.cons_ne_nil next rest), String.toList_append, String.toList_append]
  exact List.infix_append _ _ _

end

variable {Obj : Type} [Source Obj] {o : Obj} {name next : String} {names rest : List String}

/-- A flat source in whose names no relation is marked. -/
structure IsPlain (o : Obj) : Prop extends IsFlat o where
  unrelated : ∀ name ∈ Source.attrNames o, ¬ relation.toList <:+: name.toList

theorem goesOn_of_leads (flat : IsFlat o) {k : String} (led : leads o (name ++ separator ++ k) = true) :
    GoesOn o name := by
  rw [leads, Bool.or_eq_true] at led
  rcases led with longer | there
  · obtain ⟨attr, listed, inside⟩ := isFlattened_iff.1 longer
    have front : (name ++ separator).toList <+: (name ++ separator ++ k ++ separator).toList := by
      simp only [String.toList_append, List.append_assoc]
      exact (List.prefix_append_right_inj _).2 (List.prefix_append _ _)
    exact ⟨attr, listed, front.isInfix.trans inside⟩
  · exact isFlattened_iff.1 (isFlattened_of_hasAttr flat there)

theorem toOption_getAll_stored (flat : IsFlat o) (name : String) (names : List String) :
    ((Handle.stored o name).bind fun h => h.getAll names).toOption =
      (Handle.stored o (flattened (name :: names))).toOption := by
  induction names generalizing name with
  | nil =>
      rw [flattened_singleton]
      cases Handle.stored o name <;> rfl
  | cons next rest ih =>
      by_cases led : leads o name = true
      · rw [Handle.stored_eq_ok_iff.2 ⟨led, rfl⟩, ← flattened_joined, ← ih, ← Handle.get_named flat.plain]
        simp only [Except.bind, Handle.getAll]
        cases (Handle.named o name).get next <;> rfl
      · have ends : ¬ leads o (flattened (name :: next :: rest)) = true := by
          intro longer
          rw [flattened_cons_cons] at longer
          rw [leads, isFlattened_iff.2 (goesOn_of_leads flat longer), Bool.true_or] at led
          exact led rfl
        rw [Handle.stored_eq, if_neg led, Handle.stored_eq, if_neg ends]
        rfl

theorem toOption_resolve_dotted (flat : IsFlat o) (segments : ∀ part ∈ name :: names, IsSegment part) :
    (resolve o (dotted (name :: names))).toOption = (Handle.stored o (flattened (name :: names))).toOption := by
  rw [resolve_dotted flat segments, toOption_getAll_stored flat]

theorem resolve_flattened (segments : ∀ part ∈ names, IsSegment part) :
    resolve o (flattened names) = Handle.stored o (flattened names) :=
  resolve_segment (isSegment_flattened segments)

/-- With double underscores only attributes are found. -/
theorem toOption_resolve_joined (plain : IsPlain o) (parts : ∀ part ∈ name :: next :: rest, IsPart part) :
    (resolve o (relation.intercalate (name :: next :: rest))).toOption =
      if Source.hasAttr o (flattened (name :: next :: rest)) = true then
        some (.named o (flattened (name :: next :: rest))) else none := by
  have present := List.cons_ne_nil name (next :: rest)
  have marked := relation_infix_joined name next rest
  have direct : Source.attr? o (relation.intercalate (name :: next :: rest)) = none := by
    rw [← Option.not_isSome_iff_eq_none]
    exact fun there => plain.unrelated _ (plain.listed _ there) marked
  have ends : isFlattened o (relation.intercalate (name :: next :: rest)) = false := by
    rw [Bool.eq_false_iff]
    intro longer
    obtain ⟨attr, listed, inside⟩ := isFlattened_iff.1 longer
    rw [String.toList_append] at inside
    exact plain.unrelated attr listed (marked.trans ((List.prefix_append _ _).isInfix.trans inside))
  have flat : String.ofList (flattenRelations (relation.intercalate (name :: next :: rest)).toList) =
      flattened (name :: next :: rest) := by
    rw [flattenRelations_joined present parts, String.ofList_toList]
  rw [resolve, direct, flatten_joined present parts, dotParts_joined parts, Source.hasAttr]
  simp only [Handle.first, ends, Bool.false_eq_true, if_false, flat]
  split
  · rename_i attr found
    rw [found, Handle.named_of_attr? found]
    rfl
  · rename_i missing
    rw [missing]
    rfl

/-- Written with points and flattened, a path gives the same handle or none. Written with double underscores it
gives that too, unless no attribute has the flattened name and it only leads to others: then it fails, and the
others give the null sentinel. -/
theorem resolve_spellings (plain : IsPlain o) (parts : ∀ part ∈ name :: next :: rest, IsPart part) :
    let names := name :: next :: rest
    let sentinel := Source.hasAttr o (flattened names) = false ∧ GoesOn o (flattened names)
    (resolve o (dotted names)).toOption = (resolve o (flattened names)).toOption ∧
    (¬ sentinel → (resolve o (relation.intercalate names)).toOption = (resolve o (dotted names)).toOption) ∧
    (sentinel → (resolve o (relation.intercalate names)).toOption = none ∧
      (resolve o (dotted names)).toOption = some ⟨none, flattened names, o⟩) := by
  intro names sentinel
  have segments := isSegment_of_isPart parts
  have points := toOption_resolve_dotted plain.toIsFlat segments
  have relations := toOption_resolve_joined plain parts
  refine ⟨points.trans (congrArg Except.toOption (resolve_flattened segments).symm), ?_, ?_⟩
  · intro other
    rw [relations, points, Handle.stored_eq, leads]
    by_cases there : Source.hasAttr o (flattened names) = true
    · rw [if_pos there, there, Bool.or_true, if_pos rfl]
      rfl
    · have absent := Bool.eq_false_iff.2 there
      have ends : isFlattened o (flattened names) = false :=
        Bool.eq_false_iff.2 fun longer => other ⟨absent, isFlattened_iff.1 longer⟩
      rw [if_neg there, ends, absent, Bool.or_false, if_neg Bool.false_ne_true]
      rfl
  · rintro ⟨absent, goesOn⟩
    have missing : Source.attr? o (flattened names) = none :=
      Option.not_isSome_iff_eq_none.1 (Bool.eq_false_iff.1 absent)
    have led : leads o (flattened names) = true := by rw [leads, isFlattened_iff.2 goesOn, Bool.true_or]
    rw [relations, points, if_neg (Bool.eq_false_iff.1 absent), Handle.stored_eq, if_pos led, Handle.named, missing]
    exact ⟨rfl, rfl⟩

theorem isPlain_novel : IsPlain novel where
  toIsFlat := isFlat_hit (by decide)
  unrelated := by decide

theorem resolve_spellings_novel :
    IsPlain novel ∧ (∀ part ∈ ["author", "home"], IsPart part) ∧
      (resolve novel (dotted ["author", "home"])).toOption = (resolve novel (flattened ["author", "home"])).toOption ∧
      (resolve novel (relation.intercalate ["author", "home"])).toOption = none ∧
      (resolve novel (dotted ["author", "home"])).toOption = some ⟨none, "author0_0_0home", novel⟩ := by
  have parts : ∀ part ∈ ["author", "home"], IsPart part := by decide
  obtain ⟨flat, -, only⟩ := resolve_spellings isPlain_novel parts
  have goesOn : GoesOn novel (flattened ["author", "home"]) :=
    ⟨"author0_0_0home0_0_0town", by decide, by decide⟩
  exact ⟨isPlain_novel, parts, flat, only ⟨by decide, goesOn⟩⟩

/-- A home leads to a town, but not behind a double underscore. -/
theorem not_resolve_spellings :
    ¬ ∀ (o : Hit Nat) (names : List String), IsPlain o → 2 ≤ names.length → (∀ part ∈ names, IsPart part) →
      (resolve o (relation.intercalate names)).toOption = (resolve o (dotted names)).toOption := by
  intro same
  have home := same novel ["author", "home"] isPlain_novel (by decide) (by decide)
  have failed : (resolve novel (relation.intercalate ["author", "home"])).toOption.isSome = false := by
    decide +kernel
  have read : (resolve novel (dotted ["author", "home"])).toOption.isSome = true := by decide +kernel
  rw [home, read] at failed
  cases failed

end RecordSearch.Path
