import Mathlib
import RecordSearch.Object.Path
import RecordSearch.Proofs.Text.Split
import RecordSearch.ResultSet.Hit

/-!
Sources without related objects. What lies below a name is stored beside it, under a flattened name, and a
path that is written with points is read in one step or in several, with the same outcome.
-/

namespace RecordSearch.Path

structure IsSegment (name : String) : Prop where
  undotted : '.' ∉ name.toList
  unrelated : ¬ relation.toList <:+: name.toList

instance (name : String) : Decidable (IsSegment name) :=
  decidable_of_iff ('.' ∉ name.toList ∧ ¬ relation.toList <:+: name.toList)
    ⟨fun both => ⟨both.1, both.2⟩, fun segment => ⟨segment.undotted, segment.unrelated⟩⟩

def dotted (names : List String) : String := ".".intercalate names

def flattened (names : List String) : String := separator.intercalate names

section

variable {name next : String} {names rest : List String}

theorem dotted_singleton (name : String) : dotted [name] = name := String.intercalate_singleton

theorem toList_dotted (names : List String) :
    (dotted names).toList = List.intercalate ['.'] (names.map String.toList) := by
  rw [dotted, String.toList_intercalate]
  rfl

theorem flattened_singleton (name : String) : flattened [name] = name := String.intercalate_singleton

theorem flattened_cons_cons (name next : String) (rest : List String) :
    flattened (name :: next :: rest) = name ++ separator ++ flattened (next :: rest) :=
  String.intercalate_cons_of_ne_nil (List.cons_ne_nil next rest)

theorem flattened_joined (name next : String) (rest : List String) :
    flattened ((name ++ separator ++ next) :: rest) = flattened (name :: next :: rest) := by
  cases rest with
  | nil => rw [flattened_cons_cons, flattened_singleton, flattened_singleton]
  | cons other rest => simp only [flattened_cons_cons, String.append_assoc]

theorem map_toList_ne_nil (present : names ≠ []) : names.map String.toList ≠ [] :=
  fun none => present (List.map_eq_nil_iff.1 none)

theorem splitAll_dotted (present : names ≠ []) (segments : ∀ name ∈ names, IsSegment name) :
    Text.splitAll ['.'] (dotted names).toList = names.map String.toList := by
  rw [toList_dotted]
  apply Text.splitAll_intercalate (map_toList_ne_nil present)
  intro part listed
  obtain ⟨name, there, rfl⟩ := List.mem_map.1 listed
  exact (segments name there).undotted

theorem dotParts_dotted (present : names ≠ []) (segments : ∀ name ∈ names, IsSegment name) :
    Handle.dotParts (dotted names) = names := by
  have back : String.ofList ∘ String.toList = id := funext fun s => String.ofList_toList
  rw [Handle.dotParts, splitAll_dotted present segments, List.map_map, back, List.map_id]

theorem mem_dotted (name next : String) (rest : List String) : '.' ∈ (dotted (name :: next :: rest)).toList := by
  rw [toList_dotted, List.map_cons, List.map_cons, List.intercalate_cons_cons]
  simp

theorem not_relation_infix_iff {s : List Char} :
    ¬ relation.toList <:+: s ↔ s.IsChain fun a b => ¬ (a = '_' ∧ b = '_') := by
  rw [List.isChain_iff_forall_rel_of_append_cons_cons]
  constructor
  · rintro absent a b front back rfl ⟨rfl, rfl⟩
    exact absent ⟨front, back, by simp [relation]⟩
  · rintro apart ⟨front, back, rfl⟩
    have whole : front ++ relation.toList ++ back = front ++ '_' :: '_' :: back := by simp [relation]
    exact apart whole ⟨rfl, rfl⟩

/-- The separator of flattened names hides no mark of a relation, whatever it stands between. -/
theorem not_relation_infix_append {s t : List Char} (front : ¬ relation.toList <:+: s)
    (back : ¬ relation.toList <:+: t) : ¬ relation.toList <:+: s ++ separator.toList ++ t := by
  rw [not_relation_infix_iff] at front back ⊢
  have inner : separator.toList = ['0', '_', '0', '_', '0'] := by decide
  rw [inner, List.append_assoc, List.isChain_append]
  refine ⟨front, ?_, ?_⟩
  · rw [List.isChain_append]
    refine ⟨by decide, back, ?_⟩
    rintro a last b - ⟨rfl, -⟩
    cases last
  · rintro a - b first ⟨-, rfl⟩
    cases first

theorem not_relation_infix_flattened (segments : ∀ name ∈ names, IsSegment name) :
    ¬ relation.toList <:+: (flattened names).toList := by
  induction names with
  | nil => decide
  | cons name names ih =>
      obtain ⟨here, others⟩ := List.forall_mem_cons.1 segments
      cases names with
      | nil =>
          rw [flattened_singleton]
          exact here.unrelated
      | cons next rest =>
          rw [flattened_cons_cons, String.toList_append, String.toList_append]
          exact not_relation_infix_append here.unrelated (ih others)

theorem flatten_dotted (present : names ≠ []) (segments : ∀ name ∈ names, IsSegment name) :
    flatten (dotted names) = flattened names := by
  have joined : Text.replaceAll ['.'] separator.toList (dotted names).toList = (flattened names).toList := by
    rw [Text.replaceAll, splitAll_dotted present segments, flattened, String.toList_intercalate]
  rw [flatten, joined, flattenRelations, Text.replaceAll_of_not_infix (not_relation_infix_flattened segments),
    String.ofList_toList]

end

variable {Obj : Type}

namespace Handle

@[simp] theorem path_of (attr : Option (Attr Obj)) (path : String) (root : Obj) :
    (of attr path root).path = path := by
  rw [of.eq_def]
  split <;> rfl

@[simp] theorem root_of (attr : Option (Attr Obj)) (path : String) (root : Obj) :
    (of attr path root).root = root := by
  rw [of.eq_def]
  split <;> rfl

end Handle

variable [Source Obj]

/-- An object of which no attribute is an object, and no attribute has a point in its name. All its attributes
are listed. -/
structure IsFlat (o : Obj) : Prop where
  listed : ∀ name, Source.hasAttr o name = true → name ∈ Source.attrNames o
  plain : ∀ name related, Source.attr? o name ≠ some (.object related)
  undotted : ∀ name, Source.hasAttr o name = true → '.' ∉ name.toList

/-- Whether a name is that of an attribute, or leads to longer ones. -/
def leads (o : Obj) (name : String) : Bool := isFlattened o name || Source.hasAttr o name

namespace Handle

variable {o : Obj} {name next : String} {names rest : List String}

/-- The attribute of that very name; none if the name only leads to others. -/
def named (o : Obj) (name : String) : Handle Obj := .of (Source.attr? o name) name o

theorem stored_eq (o : Obj) (name : String) :
    stored o name = if leads o name then .ok (named o name) else .error (.noAttribute (Source.describe o) name) := by
  rw [stored, leads, named, Source.hasAttr]
  cases isFlattened o name with
  | true => rfl
  | false => cases Source.attr? o name <;> rfl

theorem first_eq_stored (segment : IsSegment name) : first o name = stored o name := by
  have flat : String.ofList (flattenRelations name.toList) = name := by
    rw [flattenRelations, Text.replaceAll_of_not_infix segment.unrelated, String.ofList_toList]
  rw [first, stored, flat]

theorem getAll_append (h : Handle Obj) (front rest : List String) :
    h.getAll (front ++ rest) = (h.getAll front).bind fun h => h.getAll rest := by
  induction front generalizing h with
  | nil => rfl
  | cons name front ih =>
      rw [List.cons_append, getAll, getAll]
      cases h.get name with
      | ok next => exact ih next
      | error e => rfl

theorem getPath_dotted (h : Handle Obj) (present : names ≠ []) (segments : ∀ name ∈ names, IsSegment name) :
    h.getPath (dotted names) = h.getAll names := by
  rw [getPath, dotParts_dotted present segments]

theorem get_of_plain {h : Handle Obj} (plain : ∀ related, h.attr ≠ some (.object related)) (next : String) :
    h.get next = stored h.root (h.path ++ separator ++ next) := by
  rw [get]
  split
  · rename_i attr found
    split at found
    · rename_i related object
      exact absurd object (plain related)
    · cases found
  · rfl

theorem get_named (plain : ∀ name related, Source.attr? o name ≠ some (.object related)) (name next : String) :
    (named o name).get next = stored o (name ++ separator ++ next) := by
  have own : ∀ related, (named o name).attr ≠ some (.object related) := by
    intro related object
    apply plain name related
    rw [named, of.eq_def] at object
    split at object
    · cases object
    · exact object
  rw [get_of_plain own, named, path_of, root_of]

end Handle

variable {o : Obj} {name next : String} {names rest : List String}

/-- A name with a longer flattened one behind it leads to that one. -/
theorem isFlattened_of_hasAttr (flat : IsFlat o) {k : String}
    (there : Source.hasAttr o (name ++ separator ++ k) = true) : isFlattened o name = true := by
  have present : (name ++ separator).toList ≠ [] := by
    rw [String.toList_append]
    exact List.append_ne_nil_of_right_ne_nil _ (by decide)
  have found := Text.splitFirst?_lead present k.toList
  rw [← String.toList_append] at found
  rw [isFlattened, List.any_eq_true]
  exact ⟨_, flat.listed _ there, by rw [found]; rfl⟩

theorem leads_of_hasAttr (flat : IsFlat o) (there : Source.hasAttr o (flattened (name :: rest)) = true) :
    leads o name = true := by
  rw [leads, Bool.or_eq_true]
  cases rest with
  | nil =>
      rw [flattened_singleton] at there
      exact .inr there
  | cons next rest =>
      rw [flattened_cons_cons] at there
      exact .inl (isFlattened_of_hasAttr flat there)

theorem getAll_named_of_hasAttr (flat : IsFlat o) (there : Source.hasAttr o (flattened (name :: names)) = true) :
    (Handle.named o name).getAll names = .ok (Handle.named o (flattened (name :: names))) := by
  induction names generalizing name with
  | nil => rw [flattened_singleton, Handle.getAll]
  | cons next rest ih =>
      rw [← flattened_joined] at there ⊢
      have step : (Handle.named o name).get next = .ok (Handle.named o (name ++ separator ++ next)) := by
        rw [Handle.get_named flat.plain, Handle.stored_eq, leads_of_hasAttr flat there, if_pos rfl]
      rw [Handle.getAll, step]
      exact ih there

/-- On a flat source a path is read name by name: an attribute of its flattened name stands at the end of that
walk. -/
theorem resolve_dotted (flat : IsFlat o) (segments : ∀ part ∈ name :: names, IsSegment part) :
    resolve o (dotted (name :: names)) = (Handle.stored o name).bind fun h => h.getAll names := by
  have present := List.cons_ne_nil name names
  have reached : ∀ attr, Source.attr? o (flattened (name :: names)) = some attr →
      (Handle.stored o name).bind (fun h => h.getAll names) =
        .ok (.of (some attr) (flattened (name :: names)) o) := by
    intro attr found
    have there : Source.hasAttr o (flattened (name :: names)) = true := by rw [Source.hasAttr, found]; rfl
    rw [Handle.stored_eq, leads_of_hasAttr flat there, if_pos rfl, Except.bind, getAll_named_of_hasAttr flat there,
      Handle.named, found]
  rw [resolve, flatten_dotted present segments, dotParts_dotted present segments]
  cases direct : Source.attr? o (dotted (name :: names)) with
  | some attr =>
      -- Only a path of one name is the name of an attribute.
      cases names with
      | nil =>
          have same : dotted [name] = flattened [name] := by rw [dotted_singleton, flattened_singleton]
          rw [same] at direct ⊢
          exact (reached attr direct).symm
      | cons next rest =>
          have there : Source.hasAttr o (dotted (name :: next :: rest)) = true := by
            rw [Source.hasAttr, direct]
            rfl
          exact absurd (mem_dotted name next rest) (flat.undotted _ there)
  | none =>
      cases found : Source.attr? o (flattened (name :: names)) with
      | some attr =>
          simp only [found]
          exact (reached attr found).symm
      | none =>
          simp only [found, Handle.first_eq_stored (segments name List.mem_cons_self)]
          cases Handle.stored o name <;> rfl

/-- On a flat source a path is read in two steps as it is read in one, with the same attribute under the same
flattened path, or the same failure. -/
theorem resolve_dotted_append (flat : IsFlat o) {front rest : List String} (begun : front ≠ [])
    (goesOn : rest ≠ []) (segments : ∀ part ∈ front ++ rest, IsSegment part) :
    resolve o (dotted (front ++ rest)) = (resolve o (dotted front)).bind fun h => h.getPath (dotted rest) := by
  obtain ⟨inFront, inRest⟩ := List.forall_mem_append.1 segments
  obtain ⟨name, names, rfl⟩ := List.exists_cons_of_ne_nil begun
  have assoc : ∀ outcome : Except Error (Handle Obj),
      outcome.bind (fun h => (h.getAll names).bind fun h => h.getAll rest) =
        (outcome.bind fun h => h.getAll names).bind fun h => h.getAll rest := by
    rintro (e | h) <;> rfl
  calc
    resolve o (dotted (name :: names ++ rest))
      = (Handle.stored o name).bind fun h => h.getAll (names ++ rest) := resolve_dotted flat segments
    _ = (Handle.stored o name).bind fun h => (h.getAll names).bind fun h => h.getAll rest := by
      simp only [Handle.getAll_append]
    _ = ((Handle.stored o name).bind fun h => h.getAll names).bind fun h => h.getAll rest := assoc _
    _ = (resolve o (dotted (name :: names))).bind fun h => h.getPath (dotted rest) := by
      simp only [resolve_dotted flat inFront, Handle.getPath_dotted _ goesOn inRest]

section

variable {Loaded : Type} {h : Hit Loaded} {v : Value}

theorem mem_keys_of_find? (found : h.fields.find? name = some v) : name ∈ h.fields.keys := by
  obtain ⟨entry, listed, rfl⟩ := Option.map_eq_some_iff.1 found
  have same := List.find?_some listed
  rw [decide_eq_true_eq] at same
  rw [← same]
  exact List.mem_map_of_mem (List.mem_of_find?_eq_some listed)

theorem mem_builtinNames_of_builtin? (found : h.builtin? name = some v) : name ∈ Hit.builtinNames := by
  unfold Hit.builtin? at found
  simp only [Hit.builtinNames, List.mem_cons, List.not_mem_nil, or_false]
  split_ifs at found with pk score app model
  · exact .inl pk
  · exact .inr (.inl score)
  · exact .inr (.inr (.inl app))
  · exact .inr (.inr (.inr model))

theorem mem_of_attr?_hit {attr : Attr (Hit Loaded)} (found : Source.attr? h name = some attr) :
    (∃ v, attr = .value v) ∧
      (name ∈ h.fields.keys ∨ h.fields.contains name = false ∧ name ∈ Hit.builtinNames) := by
  cases field : h.fields.find? name with
  | some v =>
      simp only [Source.attr?, field] at found
      exact ⟨⟨v, (Option.some.inj found).symm⟩, .inl (mem_keys_of_find? field)⟩
  | none =>
      simp only [Source.attr?, field] at found
      obtain ⟨v, builtin, rfl⟩ := Option.map_eq_some_iff.1 found
      have missing : h.fields.contains name = false := by rw [SortedMap.contains, field]; rfl
      exact ⟨⟨v, rfl⟩, .inr ⟨missing, mem_builtinNames_of_builtin? builtin⟩⟩

/-- A hit is a flat source as long as no field has a point in its name. -/
theorem isFlat_hit (undotted : ∀ name ∈ h.fields.keys, '.' ∉ name.toList) : IsFlat h := by
  have known : ∀ name, Source.hasAttr h name = true →
      name ∈ h.fields.keys ∨ h.fields.contains name = false ∧ name ∈ Hit.builtinNames := by
    intro name there
    obtain ⟨attr, found⟩ := Option.isSome_iff_exists.1 there
    exact (mem_of_attr?_hit found).2
  constructor
  · intro name there
    apply List.mem_append.2
    rcases known name there with field | ⟨missing, builtin⟩
    · exact .inl field
    · exact .inr (List.mem_filter.2 ⟨builtin, by simp [missing]⟩)
  · intro name related found
    obtain ⟨v, value⟩ := (mem_of_attr?_hit found).1
    cases value
  · intro name there
    rcases known name there with field | ⟨-, builtin⟩
    · exact undotted name field
    · have plain : ∀ name ∈ Hit.builtinNames, '.' ∉ name.toList := by decide
      exact plain name builtin

end

def novel : Hit Nat where
  model := ⟨"app", "book"⟩
  pk := "7"
  score := 1
  fields := .ofList [("author0_0_0home0_0_0town", .text "Oxford"), ("author0_0_0name", .text "Ann")]
  additional := []
  highlighted := .empty
  object := none

theorem resolve_dotted_append_novel :
    IsFlat novel ∧ (∀ part ∈ ["author"] ++ ["home", "town"], IsSegment part) ∧
      resolve novel (dotted (["author"] ++ ["home", "town"])) =
        (resolve novel (dotted ["author"])).bind fun h => h.getPath (dotted ["home", "town"]) := by
  have flat : IsFlat novel := isFlat_hit (by decide)
  have segments : ∀ part ∈ ["author"] ++ ["home", "town"], IsSegment part := by decide
  exact ⟨flat, segments, resolve_dotted_append flat (List.cons_ne_nil _ _) (List.cons_ne_nil _ _) segments⟩

end RecordSearch.Path
