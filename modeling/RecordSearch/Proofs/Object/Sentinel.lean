import RecordSearch.Object.Record
import RecordSearch.Proofs.Object.Flat

/-!
Names that are no attributes and only lead to others. A path ends at such a name just if the name stands
somewhere in that of an attribute, with the separator of flattened names behind it.
-/

namespace RecordSearch.Path

/-- The names that a path may stand for: the path as it is, with all of its separators flattened, with the
points flattened, and with the points and the relations before the first point flattened. -/
def spellings (path : String) : List String :=
  [path, flatten path, flattened (Handle.dotParts path),
    flattened ((Handle.dotParts path).modifyHead fun name => String.ofList (flattenRelations name.toList))]

theorem dotParts_ne_nil (path : String) : Handle.dotParts path ≠ [] := by
  rw [Handle.dotParts, ne_eq, List.map_eq_nil_iff]
  exact Text.splitAll_ne_nil _ _

variable {Obj : Type} [Source Obj] {o : Obj} {name path : String}

/-- The name stands in that of an attribute, with the separator of flattened names behind it. -/
def GoesOn (o : Obj) (name : String) : Prop :=
  ∃ attr ∈ Source.attrNames o, (name ++ separator).toList <:+: attr.toList

theorem isFlattened_iff : isFlattened o name = true ↔ GoesOn o name := by
  have present : (name ++ separator).toList ≠ [] := by
    rw [String.toList_append]
    exact List.append_ne_nil_of_right_ne_nil _ (by decide)
  simp only [isFlattened, List.any_eq_true, Text.isSome_splitFirst?_iff present, GoesOn]

theorem leads_of_attr? {attr : Attr Obj} (found : Source.attr? o name = some attr) : leads o name = true := by
  rw [leads, Source.hasAttr, found, Option.isSome_some, Bool.or_true]

def IsFilled (o : Obj) : Prop :=
  ∀ name attr, Source.attr? o name = some attr → ∃ v, attr = .value v ∧ v.isNull = false

theorem IsFilled.plain (filled : IsFilled o) (name : String) (related : Obj) :
    Source.attr? o name ≠ some (.object related) := by
  intro object
  obtain ⟨v, value, -⟩ := filled name _ object
  cases value

namespace Handle

theorem stored_eq_ok_iff {h : Handle Obj} : stored o name = .ok h ↔ leads o name = true ∧ h = named o name := by
  rw [stored_eq]
  cases leads o name <;> simp [eq_comm]

theorem exists_noAttribute_of_stored {e : Error} (failed : stored o name = .error e) :
    ∃ missing, e = .noAttribute (Source.describe o) missing := by
  rw [stored_eq] at failed
  split at failed
  · cases failed
  · cases failed
    exact ⟨name, rfl⟩

theorem named_of_attr? {attr : Attr Obj} (found : Source.attr? o name = some attr) :
    of (some attr) name o = named o name := by
  rw [named, found]

/-- On a source of values the null sentinel stands for names that are no attributes. -/
theorem isNull_named_iff (filled : IsFilled o) : (named o name).isNull = true ↔ Source.hasAttr o name = false := by
  rw [named, Source.hasAttr]
  cases found : Source.attr? o name with
  | none => exact ⟨fun _ => rfl, fun _ => rfl⟩
  | some attr =>
      obtain ⟨v, rfl, present⟩ := filled name attr found
      cases v with
      | null => cases present
      | _ => constructor <;> (intro same; cases same)

theorem goesOn_of_isNull_named (filled : IsFilled o) (led : leads o name = true)
    (null : (named o name).isNull = true) : Source.hasAttr o name = false ∧ GoesOn o name := by
  have absent := (isNull_named_iff filled).1 null
  rw [leads, absent, Bool.or_false] at led
  exact ⟨absent, isFlattened_iff.1 led⟩

theorem getAll_named (filled : IsFilled o) (led : leads o name = true) (names : List String) :
    (leads o (flattened (name :: names)) = true ∧
      (named o name).getAll names = .ok (named o (flattened (name :: names)))) ∨
    ∃ missing, (named o name).getAll names = .error (.noAttribute (Source.describe o) missing) := by
  induction names generalizing name with
  | nil =>
      rw [flattened_singleton]
      exact .inl ⟨led, rfl⟩
  | cons next rest ih =>
      rw [getAll, get_named filled.plain, ← flattened_joined]
      cases step : stored o (name ++ separator ++ next) with
      | error e =>
          obtain ⟨missing, rfl⟩ := exists_noAttribute_of_stored step
          exact .inr ⟨missing, rfl⟩
      | ok h =>
          obtain ⟨longer, rfl⟩ := stored_eq_ok_iff.1 step
          exact ih longer

theorem first_cases (o : Obj) (name : String) :
    (∃ flat ∈ [name, String.ofList (flattenRelations name.toList)],
      leads o flat = true ∧ first o name = .ok (named o flat)) ∨
    ∃ missing, first o name = .error (.noAttribute (Source.describe o) missing) := by
  rw [first]
  split
  · rename_i flattened
    refine .inl ⟨name, List.mem_cons_self, ?_, rfl⟩
    rw [leads, flattened, Bool.true_or]
  · simp only
    split
    · rename_i attr found
      refine .inl ⟨_, List.mem_cons_of_mem _ List.mem_cons_self, leads_of_attr? found, ?_⟩
      rw [named_of_attr? found]
    · exact .inr ⟨name, rfl⟩

end Handle

/-- A path is read as one of its spellings, which is an attribute or leads to some, or fails for an attribute
that is missing. -/
theorem resolve_cases (filled : IsFilled o) (path : String) :
    (∃ name ∈ spellings path, leads o name = true ∧ resolve o path = .ok (.named o name)) ∨
    ∃ missing, resolve o path = .error (.noAttribute (Source.describe o) missing) := by
  rw [resolve]
  split
  · rename_i attr found
    exact .inl ⟨path, by simp [spellings], leads_of_attr? found, by rw [Handle.named_of_attr? found]⟩
  · simp only
    split
    · rename_i attr found
      exact .inl ⟨flatten path, by simp [spellings], leads_of_attr? found, by rw [Handle.named_of_attr? found]⟩
    · obtain ⟨name, names, parts⟩ := List.exists_cons_of_ne_nil (dotParts_ne_nil path)
      rw [parts]
      simp only
      rcases Handle.first_cases o name with ⟨flat, read, led, found⟩ | ⟨missing, failed⟩
      · rw [found]
        rcases Handle.getAll_named filled led names with ⟨longer, walked⟩ | ⟨missing, failed⟩
        · refine .inl ⟨_, ?_, longer, walked⟩
          rcases List.mem_pair.1 read with rfl | rfl <;> simp [spellings, parts]
        · exact .inr ⟨missing, failed⟩
      · rw [failed]
        exact .inr ⟨missing, rfl⟩

theorem resolve_segment (segment : IsSegment name) : resolve o name = Handle.stored o name := by
  have only : ∀ part ∈ [name], IsSegment part := fun part listed => List.mem_singleton.1 listed ▸ segment
  have flat : flatten name = name := by
    have joined := flatten_dotted (List.cons_ne_nil name []) only
    rwa [dotted_singleton, flattened_singleton] at joined
  have parts : Handle.dotParts name = [name] := by
    have cut := dotParts_dotted (List.cons_ne_nil name []) only
    rwa [dotted_singleton] at cut
  rw [resolve, flat, parts]
  cases found : Source.attr? o name with
  | some attr => rw [Handle.stored_eq, if_pos (leads_of_attr? found), Handle.named, found]
  | none =>
      simp only [found, Handle.first_eq_stored segment]
      cases Handle.stored o name <;> rfl

/-- On a source of values other than null, a path gives the null sentinel only for a name that stands in that
of an attribute with the separator behind it, and a path none of whose spellings is an attribute or stands so
in the name of one fails for want of an attribute. A path without points and relations gives the null sentinel
just in that case. -/
theorem goesOn_of_resolve_isNull (filled : IsFilled o) :
    (∀ path h, resolve o path = .ok h → h.isNull = true →
      h.path ∈ spellings path ∧ Source.hasAttr o h.path = false ∧ GoesOn o h.path) ∧
    (∀ path, (∀ name ∈ spellings path, Source.hasAttr o name = false ∧ ¬ GoesOn o name) →
      ∃ missing, resolve o path = .error (.noAttribute (Source.describe o) missing)) ∧
    ∀ name, IsSegment name →
      ((∃ h, resolve o name = .ok h ∧ h.isNull = true) ↔ Source.hasAttr o name = false ∧ GoesOn o name) := by
  refine ⟨?_, ?_, ?_⟩
  · intro path h found null
    rcases resolve_cases filled path with ⟨name, spelled, led, read⟩ | ⟨missing, failed⟩
    · rw [read] at found
      cases found
      rw [Handle.named, Handle.path_of]
      exact ⟨spelled, Handle.goesOn_of_isNull_named filled led null⟩
    · rw [failed] at found
      cases found
  · intro path none
    rcases resolve_cases filled path with ⟨name, spelled, led, -⟩ | failed
    · obtain ⟨absent, ends⟩ := none name spelled
      rw [leads, absent, Bool.or_false] at led
      exact absurd (isFlattened_iff.1 led) ends
    · exact failed
  · intro name segment
    simp only [resolve_segment segment, Handle.stored_eq_ok_iff]
    constructor
    · rintro ⟨h, ⟨led, rfl⟩, null⟩
      exact Handle.goesOn_of_isNull_named filled led null
    · rintro ⟨absent, goesOn⟩
      have led : leads o name = true := by rw [leads, isFlattened_iff.2 goesOn, Bool.true_or]
      exact ⟨_, ⟨led, rfl⟩, (Handle.isNull_named_iff filled).2 absent⟩

theorem isFilled_record {r : Record} (values : ∀ entry ∈ r.attrs, ∃ v, entry.2 = .value v ∧ v.isNull = false) :
    IsFilled r :=
  fun name attr found => values (name, attr) (Record.mem_attrs_of_attr? found)

def paper : Record := ⟨none, none, [("coauthor0_0_0name", .value (.text "Bea"))]⟩

theorem isFilled_paper : IsFilled paper := by
  apply isFilled_record
  intro entry listed
  obtain rfl := List.mem_singleton.1 listed
  exact ⟨.text "Bea", rfl, rfl⟩

theorem goesOn_of_resolve_isNull_coauthor :
    IsFilled paper ∧ IsSegment "coauthor" ∧
      (∃ h, resolve paper "coauthor" = .ok h ∧ h.isNull = true ∧ Source.hasAttr paper h.path = false ∧
        GoesOn paper h.path) := by
  obtain ⟨sentinel, -, segments⟩ := goesOn_of_resolve_isNull isFilled_paper
  have segment : IsSegment "coauthor" := by decide
  have goesOn : GoesOn paper "coauthor" := ⟨_, List.mem_cons_self, [], "name".toList, by decide⟩
  obtain ⟨h, found, null⟩ := (segments "coauthor" segment).2 ⟨by decide, goesOn⟩
  exact ⟨isFilled_paper, segment, h, found, null, (sentinel "coauthor" h found null).2⟩

/-- A path gives the null sentinel for a name that no attribute begins with: `author` stands inside of
`coauthor`. -/
theorem not_prefix_of_resolve_isNull :
    ¬ ∀ (o : Record) (path : String) (h : Handle Record), IsFilled o → resolve o path = .ok h → h.isNull = true →
      ∃ attr ∈ Source.attrNames o, (h.path ++ separator).toList <+: attr.toList := by
  intro begins
  have read : resolve paper "author" = .ok (.named paper "author") := by with_unfolding_all rfl
  obtain ⟨attr, listed, front⟩ := begins paper "author" _ isFilled_paper read rfl
  obtain rfl := List.mem_singleton.1 listed
  revert front
  decide

end RecordSearch.Path
