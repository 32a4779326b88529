import RecordSearch.Proofs.Index.Prepare

/-!
The registry over whole runs of registrations, failing ones included. It holds what the successful calls
supplied, each model type once, with all fields bound to their names, and lists every field as it was declared
first.
-/

namespace RecordSearch

namespace Field

/-- Whether a field can be bound to a name: it has no name yet, or this very one. -/
def IsFreeFor (f : Field) (name : String) : Prop := ∀ own, f.name = some own → own = name

def named (f : Field) (name : String) : Field := { f with name := some name }

theorem bind_eq_ok_iff {f bound : Field} {name : String} :
    f.bind name = .ok bound ↔ f.IsFreeFor name ∧ bound = f.named name := by
  unfold bind IsFreeFor named
  cases own : f.name with
  | none => simp [eq_comm]
  | some other =>
      by_cases same : other = name
      · have whole : { f with name := some name } = f := by
          rw [← same, ← own]
        simp [same, whole, eq_comm]
      · simp [same]

end Field

namespace Schema

def named (fields : List (String × Field)) : List (String × Field) :=
  fields.map fun field => (field.1, field.2.named field.1)

theorem bindAll_eq_ok_iff {fields bound : List (String × Field)} :
    bindAll fields = .ok bound ↔
      (∀ field ∈ fields, field.2.IsFreeFor field.1) ∧ bound = named fields := by
  induction fields generalizing bound with
  | nil => simp [bindAll, named, eq_comm]
  | cons field rest ih =>
      have whole : named (field :: rest) = (field.1, field.2.named field.1) :: named rest := rfl
      rw [bindAll, List.forall_mem_cons, whole]
      cases first : field.2.bind field.1 with
      | error e =>
          have stuck : ¬ field.2.IsFreeFor field.1 := by
            intro free
            rw [Field.bind_eq_ok_iff.2 ⟨free, rfl⟩] at first
            cases first
          simp [stuck]
      | ok one =>
          obtain ⟨free, rfl⟩ := Field.bind_eq_ok_iff.1 first
          cases others : bindAll rest with
          | error e =>
              have stuck : ¬ ∀ field ∈ rest, field.2.IsFreeFor field.1 := by
                intro every
                rw [ih.2 ⟨every, rfl⟩] at others
                cases others
              simp only [stuck, and_false, false_and, reduceCtorEq]
          | ok bounds =>
              obtain ⟨every, rfl⟩ := ih.1 others
              rw [Except.ok.injEq, eq_comm]
              exact ⟨fun same => ⟨⟨free, every⟩, same⟩, fun all => all.2⟩

theorem validate_eq_ok_iff {s : Schema} :
    s.validate = .ok ⟨⟩ ↔ (s.fields.filter fun field => field.2.isDocument).length = 1 := by
  unfold validate
  generalize (s.fields.filter fun field => field.2.isDocument).length = count
  match count with
  | 0 => simp
  | 1 => simp
  | count + 2 => simp

end Schema

namespace SearchIndex

variable {Obj : Type}

/-- An index that can be registered: one field holds the text, and every field can be bound to its name. -/
structure IsWellFormed (index : SearchIndex Obj) : Prop where
  document : (index.fields.filter fun field => field.2.isDocument).length = 1
  free : ∀ field ∈ index.fields, field.2.IsFreeFor field.1

def bound (index : SearchIndex Obj) : SearchIndex Obj :=
  { index with fields := Schema.named index.fields }

end SearchIndex

namespace Registry

variable {Obj : Type} {r : Registry Obj}

theorem isRegistered_iff {model : ModelType} : r.isRegistered model = true ↔ model ∈ r.models := by
  simp [isRegistered, models]

/-- A call succeeds with a well-formed index of a new model type, and adds it at the end. -/
theorem register_eq_ok_iff {after : Registry Obj} {index : SearchIndex Obj} {store : ObjectStore Obj} :
    r.register index store = .ok after ↔
      (index.IsWellFormed ∧ index.model ∉ r.models) ∧
        after = ⟨r.entries ++ [⟨index.bound, store⟩]⟩ := by
  unfold register
  cases valid : index.validate with
  | error e =>
      have stuck : ¬ index.IsWellFormed := by
        intro wellFormed
        rw [Schema.validate_eq_ok_iff.2 wellFormed.document] at valid
        cases valid
      simp [stuck]
  | ok _ =>
      have document := Schema.validate_eq_ok_iff.1 valid
      cases binding : Schema.bindAll index.fields with
      | error e =>
          have stuck : ¬ index.IsWellFormed := by
            intro wellFormed
            rw [Schema.bindAll_eq_ok_iff.2 ⟨wellFormed.free, rfl⟩] at binding
            cases binding
          simp [stuck]
      | ok fields =>
          obtain ⟨free, rfl⟩ := Schema.bindAll_eq_ok_iff.1 binding
          have wellFormed : index.IsWellFormed := ⟨document, free⟩
          by_cases known : index.model ∈ r.models
          · simp [isRegistered_iff.2 known, known]
          · have new : r.isRegistered index.model = false := by
              rw [← Bool.not_eq_true, isRegistered_iff]
              exact known
            simp [new, known, wellFormed, SearchIndex.bound, eq_comm]

/-- The registry after a call, which is the one before it if the call fails. -/
def attempt (r : Registry Obj) (call : Registration Obj) : Registry Obj :=
  match r.register call.index call.store with
  | .ok after => after
  | .error _ => r

def attemptAll (r : Registry Obj) (calls : List (Registration Obj)) : Registry Obj :=
  calls.foldl attempt r

/-- The calls that succeed, one after the other. -/
def accepted (r : Registry Obj) : List (Registration Obj) → List (Registration Obj)
  | [] => []
  | call :: rest =>
    if (r.register call.index call.store).isOk then call :: (r.attempt call).accepted rest
    else (r.attempt call).accepted rest

def kept (call : Registration Obj) : Registration Obj := ⟨call.index.bound, call.store⟩

theorem models_eq {calls : List (Registration Obj)} (whole : r.entries = calls.map kept) :
    r.models = calls.map fun call => call.index.model := by
  rw [models, whole, List.map_map]
  rfl

theorem attempt_of_error {call : Registration Obj}
    (failed : ∃ e, r.register call.index call.store = .error e) : r.attempt call = r := by
  obtain ⟨e, failed⟩ := failed
  rw [attempt, failed]

/-- A registry that holds what well-formed calls for distinct model types supplied. -/
structure Holds (r : Registry Obj) (calls : List (Registration Obj)) : Prop where
  entries : r.entries = calls.map kept
  wellFormed : ∀ call ∈ calls, call.index.IsWellFormed
  distinct : r.models.Nodup

theorem Holds.register {calls : List (Registration Obj)} (holds : r.Holds calls)
    {call : Registration Obj} {after : Registry Obj}
    (registered : r.register call.index call.store = .ok after) : after.Holds (calls ++ [call]) := by
  obtain ⟨⟨wellFormed, new⟩, rfl⟩ := register_eq_ok_iff.1 registered
  have entries : r.entries ++ [kept call] = (calls ++ [call]).map kept := by
    rw [List.map_append, holds.entries]
    rfl
  refine ⟨entries, ?_, ?_⟩
  · rintro other listed
    rcases List.mem_append.1 listed with earlier | last
    · exact holds.wellFormed other earlier
    · rw [List.mem_singleton.1 last]
      exact wellFormed
  · have grown : (⟨r.entries ++ [kept call]⟩ : Registry Obj).models = r.models ++ [call.index.model] :=
      List.map_append
    change (⟨r.entries ++ [kept call]⟩ : Registry Obj).models.Nodup
    rw [grown, List.nodup_append]
    refine ⟨holds.distinct, List.nodup_singleton _, ?_⟩
    intro model there other last same
    rw [same, List.mem_singleton.1 last] at there
    exact new there

/-- Whatever calls follow, the registry holds what was there and what the successful ones supply. -/
theorem Holds.attemptAll {before : List (Registration Obj)} (holds : r.Holds before)
    (calls : List (Registration Obj)) : (r.attemptAll calls).Holds (before ++ r.accepted calls) := by
  induction calls generalizing r before with
  | nil =>
      rw [accepted, List.append_nil]
      exact holds
  | cons call rest ih =>
      rw [accepted]
      change ((r.attempt call).attemptAll rest).Holds _
      cases outcome : r.register call.index call.store with
      | error e =>
          rw [attempt_of_error ⟨e, outcome⟩]
          exact ih holds
      | ok after =>
          have next : r.attempt call = after := by
            rw [attempt, outcome]
          have grown := ih (holds.register outcome)
          rw [List.append_assoc, List.singleton_append] at grown
          rw [next]
          exact grown

theorem Holds.entry {calls : List (Registration Obj)} (holds : r.Holds calls) {call : Registration Obj}
    (listed : call ∈ calls) : r.entry call.index.model = .ok (kept call) := by
  have there : kept call ∈ r.entries := by
    rw [holds.entries]
    exact List.mem_map_of_mem listed
  have found : (r.entry? call.index.model).isSome = true :=
    List.find?_isSome.2 ⟨kept call, there, decide_eq_true rfl⟩
  obtain ⟨entry, found⟩ := Option.isSome_iff_exists.1 found
  obtain ⟨among, same⟩ := mem_of_entry? found
  have one : entry = kept call := List.inj_on_of_nodup_map holds.distinct among there same
  rw [Registry.entry, found, one]

theorem entry_of_not_mem {model : ModelType} (absent : model ∉ r.models) :
    r.entry model = .error (.notRegistered model) := by
  have missing : r.entry? model = none := by
    unfold entry?
    rw [List.find?_eq_none]
    intro entry there same
    exact absent (List.mem_map.2 ⟨entry, there, of_decide_eq_true same⟩)
  rw [Registry.entry, missing]

theorem Holds.isDocument {calls : List (Registration Obj)} (holds : r.Holds calls) :
    ∀ entry ∈ r.entries, (entry.index.fields.filter fun field => field.2.isDocument).length = 1 := by
  intro entry there
  rw [holds.entries] at there
  obtain ⟨call, listed, rfl⟩ := List.mem_map.1 there
  have wellFormed := holds.wellFormed call listed
  change (List.filter _ (Schema.named call.index.fields)).length = 1
  rw [Schema.named, List.filter_map, List.length_map]
  exact wellFormed.document

theorem Holds.name {calls : List (Registration Obj)} (holds : r.Holds calls) :
    ∀ entry ∈ r.entries, ∀ field ∈ entry.index.fields, field.2.name = some field.1 := by
  intro entry there field declared
  rw [holds.entries] at there
  obtain ⟨call, listed, rfl⟩ := List.mem_map.1 there
  obtain ⟨own, -, rfl⟩ := List.mem_map.1 declared
  rfl

end Registry

section

variable {fields : List (String × Field)} {field : String × Field}

/-- Fields without those of a name that was there before. -/
def Schema.firsts : List (String × Field) → List (String × Field)
  | [] => []
  | field :: rest => field :: (firsts rest).filter fun later => later.1 ≠ field.1

theorem Schema.mem_firsts :
    field ∈ firsts fields ↔ fields.find? (fun other => other.1 = field.1) = some field := by
  induction fields with
  | nil => simp [firsts]
  | cons first rest ih =>
      rw [firsts, List.mem_cons, List.mem_filter, ih]
      by_cases same : first.1 = field.1
      · simp [same, eq_comm]
      · have other : field ≠ first := by
          rintro rfl
          exact same rfl
        simp [same, Ne.symm same, other]

theorem Schema.pairwise_firsts (fields : List (String × Field)) :
    (firsts fields).Pairwise fun a b =>
      fields.findIdx (fun other => other.1 = a.1) < fields.findIdx (fun other => other.1 = b.1) := by
  induction fields with
  | nil => exact .nil
  | cons first rest ih =>
      rw [firsts, List.pairwise_cons]
      constructor
      · intro later listed
        have other := (List.mem_filter.1 listed).2
        simp only [ne_eq, decide_not, Bool.not_eq_true', decide_eq_false_iff_not] at other
        simp [List.findIdx_cons, Ne.symm other]
      · refine (ih.filter _).imp_of_mem ?_
        intro a b inA inB before
        have otherA := (List.mem_filter.1 inA).2
        have otherB := (List.mem_filter.1 inB).2
        simp only [ne_eq, decide_not, Bool.not_eq_true', decide_eq_false_iff_not] at otherA otherB
        simpa [List.findIdx_cons, Ne.symm otherA, Ne.symm otherB] using before

end

namespace Registry

variable {Obj : Type} {r : Registry Obj}

theorem addNew_eq (seen fields : List (String × Field)) :
    addNew seen fields =
      seen ++ (Schema.firsts fields).filter fun field => !seen.any fun other => other.1 = field.1 := by
  induction fields generalizing seen with
  | nil => simp [addNew, Schema.firsts]
  | cons first rest ih =>
      rw [addNew, Schema.firsts, List.filter_cons]
      cases known : seen.any fun other => other.1 = first.1 with
      | true =>
          simp only [if_true, Bool.not_true, Bool.false_eq_true, if_false]
          rw [ih, List.filter_filter]
          congr 1
          apply List.filter_congr
          intro field _
          by_cases same : field.1 = first.1
          · simp [same, known]
          · simp [same]
      | false =>
          simp only [Bool.false_eq_true, if_false, Bool.not_false, if_true]
          rw [ih, List.filter_filter, List.append_assoc, List.singleton_append]
          congr 2
          apply List.filter_congr
          intro field _
          simp [eq_comm, Bool.and_comm]

def declared (r : Registry Obj) : List (String × Field) :=
  r.entries.flatMap fun entry => entry.index.fields

theorem addNew_append (seen fields more : List (String × Field)) :
    addNew seen (fields ++ more) = addNew (addNew seen fields) more := by
  induction fields generalizing seen with
  | nil => rfl
  | cons first rest ih =>
      rw [List.cons_append, addNew, addNew]
      split
      · exact ih seen
      · exact ih _

theorem allFields_eq (r : Registry Obj) : r.allFields = Schema.firsts r.declared := by
  have gathered : ∀ (entries : List (Registration Obj)) (seen : List (String × Field)),
      entries.foldl (fun fields entry => addNew fields entry.index.fields) seen =
        addNew seen (entries.flatMap fun entry => entry.index.fields) := by
    intro entries
    induction entries with
    | nil => exact fun _ => rfl
    | cons entry rest ih =>
        intro seen
        rw [List.foldl_cons, ih, List.flatMap_cons, addNew_append]
  rw [allFields, gathered, addNew_eq, declared]
  simp

theorem exists_register_eq_error_iff {index : SearchIndex Obj} {store : ObjectStore Obj} :
    (∃ e, r.register index store = .error e) ↔
      (index.fields.filter fun field => field.2.isDocument).length ≠ 1 ∨
        (∃ field ∈ index.fields, ∃ own, field.2.name = some own ∧ own ≠ field.1) ∨
          index.model ∈ r.models := by
  have succeeds : (∃ after, r.register index store = .ok after) ↔
      index.IsWellFormed ∧ index.model ∉ r.models := by
    simp only [register_eq_ok_iff, exists_and_left, exists_eq, and_true]
  have bindable : (∀ field ∈ index.fields, field.2.IsFreeFor field.1) ↔
      ¬ ∃ field ∈ index.fields, ∃ own, field.2.name = some own ∧ own ≠ field.1 := by
    simp [Field.IsFreeFor]
  have fails : (∃ e, r.register index store = .error e) ↔
      ¬ ∃ after, r.register index store = .ok after := by
    cases r.register index store <;> simp
  have parts : index.IsWellFormed ↔
      (index.fields.filter fun field => field.2.isDocument).length = 1 ∧
        ∀ field ∈ index.fields, field.2.IsFreeFor field.1 :=
    ⟨fun wellFormed => ⟨wellFormed.document, wellFormed.free⟩, fun both => ⟨both.1, both.2⟩⟩
  rw [fails, succeeds, parts, bindable, not_and_or, not_and_or, not_not, not_not, or_assoc]

/-- What is read off a registry after these calls have succeeded, and no others. -/
structure Reflects (r : Registry Obj) (calls : List (Registration Obj)) : Prop where
  models : r.models = calls.map fun call => call.index.model
  distinct : r.models.Nodup
  index : ∀ call ∈ calls, r.index call.index.model = .ok call.index.bound
  store : ∀ call ∈ calls, r.store call.index.model = .ok call.store
  unknown : ∀ model ∉ r.models, r.index model = .error (.notRegistered model) ∧
    r.store model = .error (.notRegistered model)
  document : ∀ entry ∈ r.entries, (entry.index.fields.filter fun field => field.2.isDocument).length = 1
  bound : ∀ entry ∈ r.entries, ∀ field ∈ entry.index.fields, field.2.name = some field.1
  listed : ∀ name, name ∈ r.allFields.map Prod.fst ↔ name ∈ r.declared.map Prod.fst
  once : (r.allFields.map Prod.fst).Nodup
  /-- The first declaration of a name tells how its field is described, and where it stands. -/
  first : ∀ field ∈ r.allFields, r.declared.find? (fun other => other.1 = field.1) = some field
  ordered : r.allFields.Pairwise fun a b => r.declared.findIdx (fun other => other.1 = a.1) <
    r.declared.findIdx fun other => other.1 = b.1

theorem Holds.reflects {calls : List (Registration Obj)} (holds : r.Holds calls) : r.Reflects calls := by
  have ordered := Schema.pairwise_firsts r.declared
  rw [← allFields_eq] at ordered
  refine ⟨models_eq holds.entries, holds.distinct, ?_, ?_, ?_, holds.isDocument, holds.name, ?_, ?_, ?_,
    ordered⟩
  · intro call listed
    rw [Registry.index, holds.entry listed]
    rfl
  · intro call listed
    rw [Registry.store, holds.entry listed]
    rfl
  · intro model absent
    rw [Registry.index, Registry.store, entry_of_not_mem absent]
    exact ⟨rfl, rfl⟩
  · intro name
    rw [allFields_eq, List.mem_map, List.mem_map]
    constructor
    · rintro ⟨field, listed, rfl⟩
      exact ⟨field, List.mem_of_find?_eq_some (Schema.mem_firsts.1 listed), rfl⟩
    · rintro ⟨field, there, rfl⟩
      have found : (r.declared.find? fun other => other.1 = field.1).isSome = true :=
        List.find?_isSome.2 ⟨field, there, decide_eq_true rfl⟩
      obtain ⟨one, found⟩ := Option.isSome_iff_exists.1 found
      have same : one.1 = field.1 := by simpa using List.find?_some found
      refine ⟨one, Schema.mem_firsts.2 ?_, same⟩
      rw [same]
      exact found
  · refine List.pairwise_map.2 (ordered.imp ?_)
    intro a b before same
    rw [same] at before
    exact Nat.lt_irrefl _ before
  · intro field listed
    rw [allFields_eq] at listed
    exact Schema.mem_firsts.1 listed

/-- After any calls the registry holds what the successful ones supplied, each model type once. A call fails
for an index without or with several document fields, for a field bound to another name and for a model type
that is there, and changes nothing then. -/
theorem reflects_attemptAll (calls : List (Registration Obj)) :
    let r : Registry Obj := empty.attemptAll calls
    r.Reflects (accepted empty calls) ∧
      ∀ call : Registration Obj,
        ((∃ e, r.register call.index call.store = .error e) ↔
          (call.index.fields.filter fun field => field.2.isDocument).length ≠ 1 ∨
            (∃ field ∈ call.index.fields, ∃ own, field.2.name = some own ∧ own ≠ field.1) ∨
              call.index.model ∈ r.models) ∧
        ((∃ e, r.register call.index call.store = .error e) → r.attempt call = r) := by
  intro r
  have start : (empty : Registry Obj).Holds [] :=
    ⟨rfl, fun _ listed => (List.not_mem_nil listed).elim, List.nodup_nil⟩
  have holds : r.Holds (accepted empty calls) := by
    have grown := start.attemptAll calls
    rw [List.nil_append] at grown
    exact grown
  refine ⟨holds.reflects, ?_⟩
  intro call
  exact ⟨exists_register_eq_error_iff, attempt_of_error⟩

end Registry

end RecordSearch
