import Mathlib.Data.List.Nodup
import RecordSearch.Index.Registry
import RecordSearch.Proofs.Field.Convert

namespace RecordSearch

namespace Schema

variable {s : Schema}

theorem field?_of_mem (distinct : (s.fields.map Prod.fst).Nodup) {name : String} {field : Field}
    (declared : (name, field) ∈ s.fields) : s.field? name = some field := by
  unfold field?
  generalize s.fields = fields at distinct declared
  induction fields with
  | nil => cases declared
  | cons first rest ih =>
      rw [List.map_cons, List.nodup_cons] at distinct
      rcases List.mem_cons.1 declared with rfl | later
      · simp
      · have other : first.1 ≠ name := by
          intro same
          exact distinct.1 (List.mem_map.2 ⟨(name, field), later, same.symm⟩)
        simpa [other] using ih distinct.2 later

theorem field?_of_not_mem {name : String} (absent : name ∉ s.fields.map Prod.fst) :
    s.field? name = none := by
  rw [field?, Option.map_eq_none_iff, List.find?_eq_none]
  intro entry listed
  simp only [decide_eq_true_eq]
  intro same
  exact absent (List.mem_map.2 ⟨entry, listed, same⟩)

theorem exists_isDocument_of_validate (valid : s.validate = .ok ⟨⟩) :
    ∃ field ∈ s.fields, field.2.isDocument = true := by
  unfold validate at valid
  cases found : s.fields.filter fun field => field.2.isDocument with
  | nil =>
      rw [found] at valid
      cases valid
  | cons field rest =>
      have listed : field ∈ s.fields.filter fun field => field.2.isDocument := by
        rw [found]
        exact List.mem_cons_self
      exact ⟨field, (List.mem_filter.1 listed).1, (List.mem_filter.1 listed).2⟩

theorem isDocument_bindAll {fields bound : List (String × Field)} (whole : bindAll fields = .ok bound) :
    (bound.map fun field => field.2.isDocument) = fields.map fun field => field.2.isDocument := by
  induction fields generalizing bound with
  | nil =>
      cases whole
      rfl
  | cons field rest ih =>
      rw [bindAll] at whole
      split at whole
      · cases whole
      · rename_i first bindFirst
        split at whole
        · cases whole
        · rename_i others bindOthers
          cases whole
          have same : first.isDocument = field.2.isDocument := by
            unfold Field.bind at bindFirst
            split at bindFirst
            · split at bindFirst
              · cases bindFirst
                rfl
              · cases bindFirst
            · cases bindFirst
              rfl
          rw [List.map_cons, List.map_cons, ih bindOthers, same]

theorem exists_isDocument_bindAll {fields bound : List (String × Field)}
    (whole : bindAll fields = .ok bound) (document : ∃ field ∈ fields, field.2.isDocument = true) :
    ∃ field ∈ bound, field.2.isDocument = true := by
  have same := isDocument_bindAll whole
  obtain ⟨field, listed, holds⟩ := document
  have mapped : true ∈ fields.map fun field => field.2.isDocument :=
    List.mem_map.2 ⟨field, listed, holds⟩
  rw [← same] at mapped
  exact List.mem_map.1 mapped

theorem exists_documentField? (document : ∃ field ∈ s.fields, field.2.isDocument = true) :
    ∃ name, s.documentField? = some name := by
  have found : (s.fields.find? fun field => field.2.isDocument).isSome = true :=
    List.find?_isSome.2 document
  obtain ⟨field, there⟩ := Option.isSome_iff_exists.1 found
  exact ⟨field.1, by rw [documentField?, there]; rfl⟩

end Schema

namespace Registry

variable {Obj : Type}

/-- What comes of registering indexes one after the other. -/
inductive Built : Registry Obj → Prop
  | empty : Built .empty
  | register {r next : Registry Obj} {index : SearchIndex Obj} {store : ObjectStore Obj} (built : Built r)
      (registered : r.register index store = .ok next) : Built next

theorem exists_isDocument_of_built {r : Registry Obj} (built : r.Built) :
    ∀ entry ∈ r.entries, ∃ field ∈ entry.index.fields, field.2.isDocument = true := by
  induction built with
  | empty =>
      intro entry listed
      cases listed
  | @register r next index store built registered ih =>
      unfold Registry.register at registered
      split at registered
      · cases registered
      · rename_i valid
        split at registered
        · cases registered
        · rename_i bound bindAll
          split at registered
          · cases registered
          · cases registered
            intro entry listed
            rcases List.mem_append.1 listed with earlier | last
            · exact ih entry earlier
            · rw [List.mem_singleton.1 last]
              exact Schema.exists_isDocument_bindAll bindAll
                (Schema.exists_isDocument_of_validate valid)

theorem mem_of_entry? {r : Registry Obj} {model : ModelType} {entry : Registration Obj}
    (found : r.entry? model = some entry) : entry ∈ r.entries ∧ entry.index.model = model := by
  refine ⟨List.mem_of_find?_eq_some found, ?_⟩
  simpa using List.find?_some found

theorem index_of_entry? {r : Registry Obj} {model : ModelType} {entry : Registration Obj}
    (found : r.entry? model = some entry) : r.index model = .ok entry.index := by
  rw [index, Registry.entry, found]
  rfl

end Registry

namespace SearchIndex

variable {Obj : Type} {index : SearchIndex Obj} {settings : Settings} {pk : String}

def bookkeeping (index : SearchIndex Obj) (settings : Settings) (pk : String) : List (String × String) :=
  [(settings.idField, index.model.identity pk), (settings.typeField, index.model.label),
    (settings.pkField, pk)]

/-- The document of a key before the declared fields are added. -/
def heading (index : SearchIndex Obj) (settings : Settings) (pk : String) : Document :=
  (index.bookkeeping settings pk).foldl (fun d entry => d.add entry.1 (.text entry.2)) .empty

theorem find?_heading (distinct : [settings.idField, settings.typeField, settings.pkField].Nodup)
    {entry : String × String} (listed : entry ∈ index.bookkeeping settings pk) :
    (index.heading settings pk).find? entry.1 = some (.text entry.2) := by
  simp only [List.nodup_cons, List.mem_cons, List.not_mem_nil, or_false, not_or] at distinct
  obtain ⟨⟨idType, idPk⟩, typePk, -⟩ := distinct
  simp only [bookkeeping, List.mem_cons, List.not_mem_nil, or_false] at listed
  rcases listed with rfl | rfl | rfl
  · simp [heading, bookkeeping, Document.find?_add, idType, idPk, Value.isNull]
  · simp [heading, bookkeeping, Document.find?_add, typePk, Value.isNull]
  · simp [heading, bookkeeping, Document.find?_add, Value.isNull]

theorem find?_heading_of_not_mem {name : String}
    (absent : name ∉ [settings.idField, settings.typeField, settings.pkField]) :
    (index.heading settings pk).find? name = none := by
  simp only [List.mem_cons, List.not_mem_nil, or_false, not_or] at absent
  simp [heading, bookkeeping, Document.find?_add, Document.find?_empty, absent]

variable [Source Obj] {o : Obj} {d added : Document}

theorem prepareField_of_mem (distinct : (index.fields.map Prod.fst).Nodup) (overrides : index.overrides = .empty)
    {name : String} {field : Field} (declared : (name, field) ∈ index.fields) :
    index.prepareField name o = field.prepare o index.renderer := by
  have own : index.field? name = some field := Schema.field?_of_mem distinct declared
  have custom : index.overrides.find? name = none := by
    rw [overrides]
    rfl
  rw [prepareField, custom]
  simp only [own]

theorem exists_addFields_of_prepare (prepared : index.prepare o settings = .ok d) :
    ∃ pk, Source.pk? o = some pk ∧
      index.addFields o (index.heading settings pk) (index.fields.map Prod.fst) = .ok d := by
  unfold prepare at prepared
  split at prepared
  · cases prepared
  · rename_i pk key
    exact ⟨pk, key, prepared⟩

theorem find?_addFields_of_not_mem {names : List String} {name : String} (absent : name ∉ names)
    (whole : index.addFields o d names = .ok added) : added.find? name = d.find? name := by
  induction names generalizing d with
  | nil =>
      cases whole
      rfl
  | cons first rest ih =>
      rw [List.mem_cons, not_or] at absent
      rw [addFields] at whole
      split at whole
      · cases whole
      · rw [ih absent.2 whole, Document.find?_add, if_neg (fun both => absent.1 both.1)]

/-- A named field is in the document with its value, unless that is null. -/
theorem find?_addFields_of_mem {names : List String} {name : String} (listed : name ∈ names)
    (whole : index.addFields o d names = .ok added) :
    ∃ v, index.prepareField name o = .ok v ∧
      added.find? name = if v.isNull = true then d.find? name else some v := by
  induction names generalizing d with
  | nil => cases listed
  | cons first rest ih =>
      rw [addFields] at whole
      split at whole
      · cases whole
      · rename_i v prepared
        have put := d.find?_add first name v
        by_cases again : name ∈ rest
        · obtain ⟨other, preparedOther, found⟩ := ih again whole
          refine ⟨other, preparedOther, ?_⟩
          rw [found, put]
          by_cases same : name = first
          · subst same
            rw [prepared] at preparedOther
            cases preparedOther
            cases v.isNull <;> simp
          · simp [same]
        · obtain rfl : name = first := (List.mem_cons.1 listed).resolve_right again
          refine ⟨v, prepared, ?_⟩
          rw [find?_addFields_of_not_mem again whole, put]
          cases v.isNull <;> simp

/-- An index that prepares every field as it is declared, under names of their own. -/
structure IsPlain (index : SearchIndex Obj) (settings : Settings) : Prop where
  bookkeeping : [settings.idField, settings.typeField, settings.pkField].Nodup
  declared : (index.fields.map Prod.fst).Nodup
  apart : ∀ name ∈ index.fields.map Prod.fst,
    name ≠ settings.idField ∧ name ≠ settings.typeField ∧ name ≠ settings.pkField
  overrides : index.overrides = .empty

structure Describes (index : SearchIndex Obj) (settings : Settings) (o : Obj) (pk : String)
    (d : Document) : Prop where
  id : d.find? settings.idField = some (.text (index.model.identity pk))
  type : d.find? settings.typeField = some (.text index.model.label)
  pk : d.find? settings.pkField = some (.text pk)
  field : ∀ name field, (name, field) ∈ index.fields →
    ∃ v, field.prepare o index.renderer = .ok v ∧
      d.find? name = if v.isNull = true then none else some v

theorem describes_of_prepare (plain : index.IsPlain settings)
    (prepared : index.prepare o settings = .ok d) :
    ∃ pk, Source.pk? o = some pk ∧ index.Describes settings o pk d := by
  obtain ⟨pk, key, whole⟩ := exists_addFields_of_prepare prepared
  have carried : ∀ entry ∈ index.bookkeeping settings pk, entry.1 ∉ index.fields.map Prod.fst →
      d.find? entry.1 = some (.text entry.2) := by
    intro entry listed absent
    rw [find?_addFields_of_not_mem absent whole]
    exact find?_heading plain.bookkeeping listed
  refine ⟨pk, key, ?_, ?_, ?_, ?_⟩
  · exact carried _ List.mem_cons_self fun there => (plain.apart _ there).1 rfl
  · exact carried _ (List.mem_cons_of_mem _ List.mem_cons_self)
      fun there => (plain.apart _ there).2.1 rfl
  · exact carried _ (List.mem_cons_of_mem _ (List.mem_cons_of_mem _ List.mem_cons_self))
      fun there => (plain.apart _ there).2.2 rfl
  · intro name field listed
    have named : name ∈ index.fields.map Prod.fst := List.mem_map.2 ⟨_, listed, rfl⟩
    obtain ⟨v, value, found⟩ := find?_addFields_of_mem named whole
    refine ⟨v, ?_, ?_⟩
    · rw [← value, prepareField_of_mem plain.declared plain.overrides listed]
    · rw [found, find?_heading_of_not_mem]
      simpa using plain.apart name named

end SearchIndex

end RecordSearch
