import RecordSearch.Proofs.ResultSet.Extras

/-!
Fields that are searched and not returned. Where tables differ in such fields only and a search ranks their
documents alike, its hits are the same in all, but for the snippets of documents whose text is such a field: words
are marked in the text that is searched, and it is shown with them.
-/

namespace RecordSearch

namespace Row

variable {settings : Settings} {schema : Schema} {d : Document} {r other : Row}

/-- Whether the text of the document is searched and not returned. -/
def hidesText (r : Row) : Bool := r.indexed.contains r.documentField && !r.stored.contains r.documentField

theorem IsOf.hidesText_iff (own : IsOf settings schema d r) :
    r.hidesText = true ↔ (d.find? r.documentField).isSome = true ∧
      ((schema.field? r.documentField).map Field.isIndexed).getD true = true ∧
      ((schema.field? r.documentField).map Field.isStored).getD true = false := by
  rw [hidesText, SortedMap.contains, SortedMap.contains, own.find?_indexed, own.stored, find?_storedOf]
  cases ((schema.field? r.documentField).map Field.isIndexed).getD true <;>
    cases ((schema.field? r.documentField).map Field.isStored).getD true <;>
      cases d.find? r.documentField <;> simp

theorem IsOf.value?_documentField (own : IsOf settings schema d r) (returned : r.hidesText = false) :
    r.value? r.documentField = r.stored.find? r.documentField := by
  rw [value?]
  cases searched : r.indexed.find? r.documentField with
  | none => rfl
  | some v =>
      rw [own.find?_indexed] at searched
      split at searched
      · rename_i indexed
        have stored : ((schema.field? r.documentField).map Field.isStored).getD true = true := by
          by_contra unstored
          have hides := own.hidesText_iff.2
            ⟨Option.isSome_of_eq_some searched, indexed, Bool.eq_false_iff.2 unstored⟩
          rw [returned] at hides
          cases hides
        rw [own.stored, find?_storedOf, if_pos stored, searched]
      · cases searched

/-- Documents of one identity that hold the same, but for fields that are declared not to be stored. -/
structure AgreeInStored (settings : Settings) (schema : Schema) (d e : Document) : Prop where
  identity : d.find? settings.idField = e.find? settings.idField
  stored : storedOf schema d = storedOf schema e

def Versions (settings : Settings) (schema : Schema) (r other : Row) : Prop :=
  ∃ d e, AgreeInStored settings schema d e ∧ ofDocument settings schema d = .ok r ∧
    ofDocument settings schema e = .ok other

namespace Versions

theorem identity (versions : Versions settings schema r other) : r.identity = other.identity := by
  obtain ⟨d, e, agree, made, otherMade⟩ := versions
  have same := agree.identity
  rw [(isOf_of_ofDocument made).identity, (isOf_of_ofDocument otherMade).identity] at same
  exact Value.text.inj (Option.some.inj same)

theorem stored (versions : Versions settings schema r other) : r.stored = other.stored := by
  obtain ⟨d, e, agree, made, otherMade⟩ := versions
  rw [(isOf_of_ofDocument made).stored, (isOf_of_ofDocument otherMade).stored, agree.stored]

theorem documentField (versions : Versions settings schema r other) : r.documentField = other.documentField := by
  obtain ⟨d, e, -, made, otherMade⟩ := versions
  exact Option.some.inj ((isOf_of_ofDocument made).documentField.symm.trans
    (isOf_of_ofDocument otherMade).documentField)

theorem text (versions : Versions settings schema r other) (returned : r.hidesText = false)
    (otherReturned : other.hidesText = false) : r.text = other.text := by
  have field := versions.documentField
  have stored := versions.stored
  obtain ⟨d, e, -, made, otherMade⟩ := versions
  rw [Row.text, Row.text, (isOf_of_ofDocument made).value?_documentField returned,
    (isOf_of_ofDocument otherMade).value?_documentField otherReturned, field, stored]

end Versions

theorem forall₂_versions {documents others : List Document} {rows otherRows : List Row}
    (agree : List.Forall₂ (AgreeInStored settings schema) documents others)
    (made : documents.mapM (ofDocument settings schema) = .ok rows)
    (otherMade : others.mapM (ofDocument settings schema) = .ok otherRows) :
    List.Forall₂ (Versions settings schema) rows otherRows := by
  rw [Outcome.mapM_eq_ok_iff] at made otherMade
  induction agree generalizing rows otherRows with
  | nil =>
      cases made
      cases otherMade
      exact .nil
  | cons first _ ih =>
      cases made with
      | cons own rest =>
          cases otherMade with
          | cons otherOwn otherRest => exact .cons ⟨_, _, first, own, otherOwn⟩ (ih rest otherRest)

end Row

structure SearchOptions.CountsNothing (options : SearchOptions) : Prop where
  facets : options.facets = []
  dateFacets : options.dateFacets = .empty
  queryFacets : options.queryFacets = []

namespace Table

variable {t other : Table} {query : String} {options : SearchOptions}

/-- Two tables with the same documents, in versions that differ, if at all, in fields that are declared not to be
stored. Each identity is that of one document. -/
structure DiffersInUnstored (t other : Table) : Prop where
  settings : t.settings = other.settings
  rows : List.Forall₂ (fun r s => ∃ schema, Row.Versions t.settings schema r s) t.rows other.rows
  distinct : (t.rows.map Row.identity).Nodup

structure Scored.Versions (settings : Settings) (m n : Scored) : Prop where
  rows : ∃ schema, Row.Versions settings schema m.row n.row
  score : m.score = n.score

def ranked (t : Table) (query : String) (options : SearchOptions) : Except Error (List Scored) := do
  let clause ← Lucene.read query
  let narrow ← readAll options.narrow
  return sortMatches options.sortBy (t.matching clause narrow)

/-- Which documents a search finds with which scores, in the order of its hits. -/
def ranking (t : Table) (query : String) (options : SearchOptions) : Except Error (List (String × Float)) :=
  (t.ranked query options).map fun rows => rows.map fun m => (m.row.identity, m.score)

def shown (t : Table) (query : String) (options : SearchOptions) : List Scored :=
  (t.ranked query options).toOption.elim [] (window options.start options.stop)

def hits (t : Table) (query : String) (options : SearchOptions) : List RawHit :=
  (t.search query options).toOption.elim [] RawResults.results

def marks (t : Table) (query : String) (options : SearchOptions) : Option (List (List Char)) :=
  if options.highlight then (Lucene.read query).toOption.map (Clause.textWords t.settings.contentField) else none

theorem facetCounts_of_countsNothing (nothing : options.CountsNothing) (contentField : String) (rows : List Row) :
    facetCounts contentField options rows = .ok .empty := by
  rw [facetCounts, nothing.facets, nothing.dateFacets, nothing.queryFacets]
  rfl

theorem search_eq (nothing : options.CountsNothing) (t : Table) (query : String) :
    t.search query options = (t.ranked query options).map fun rows =>
      ⟨rows.length, (window options.start options.stop rows).map (toHit (t.marks query options)), .empty⟩ := by
  rw [search, ranked, marks]
  cases Lucene.read query with
  | error e => rfl
  | ok clause =>
      cases readAll options.narrow with
      | error e => rfl
      | ok narrow =>
          simp only [respond, facetCounts_of_countsNothing nothing]
          rfl

theorem search_eq_counted (nothing : options.CountsNothing) (t : Table) (query : String) :
    t.search query options =
      ((t.ranking query options).map List.length).map fun n => ⟨n, t.hits query options, .empty⟩ := by
  rw [hits, search_eq nothing, ranking]
  cases t.ranked query options with
  | error e => rfl
  | ok rows =>
      simp only [Except.map, List.length_map]
      rfl

theorem hits_eq (nothing : options.CountsNothing) (t : Table) (query : String) :
    t.hits query options = (t.shown query options).map (toHit (t.marks query options)) := by
  rw [hits, shown, search_eq nothing]
  cases t.ranked query options with
  | error e => rfl
  | ok rows => rfl

theorem mem_rows_of_ranked {rows : List Scored} (found : t.ranked query options = .ok rows) :
    ∀ m ∈ rows, m.row ∈ t.rows := by
  intro m there
  rw [ranked] at found
  cases read : Lucene.read query with
  | error e =>
      rw [read] at found
      cases found
  | ok clause =>
      cases narrowed : readAll options.narrow with
      | error e =>
          rw [read, narrowed] at found
          cases found
      | ok narrow =>
          rw [read, narrowed] at found
          cases found
          exact mem_rows_of_matching m ((perm_sortMatches _ _).subset there)

theorem forall₂_window {α β : Type} {R : α → β → Prop} {s : List α} {u : List β} (each : List.Forall₂ R s u)
    (start : Nat) (stop : Option Nat) : List.Forall₂ R (window start stop s) (window start stop u) := by
  rw [window, window, each.length_eq]
  exact List.forall₂_drop _ (List.forall₂_take _ each)

theorem getElem?_cases {α β : Type} {R : α → β → Prop} {s : List α} {u : List β} (each : List.Forall₂ R s u)
    (i : Nat) : (s[i]? = none ∧ u[i]? = none) ∨ ∃ a b, s[i]? = some a ∧ u[i]? = some b ∧ R a b := by
  induction each generalizing i with
  | nil => exact .inl ⟨rfl, rfl⟩
  | @cons a b s u first _ ih =>
      cases i with
      | zero => exact .inr ⟨a, b, rfl, rfl, first⟩
      | succ i => exact ih i

theorem forall₂_putRow {settings : Settings} {schema : Schema} {rows otherRows : List Row} {r s : Row}
    (each : List.Forall₂ (fun r s => ∃ schema, Row.Versions settings schema r s) rows otherRows)
    (versions : Row.Versions settings schema r s) :
    List.Forall₂ (fun r s => ∃ schema, Row.Versions settings schema r s) (putRow r rows) (putRow s otherRows) := by
  induction each with
  | nil => exact .cons ⟨schema, versions⟩ .nil
  | cons first others ih =>
      obtain ⟨declared, own⟩ := first
      rw [putRow, putRow, own.identity, versions.identity]
      split
      · exact .cons ⟨schema, versions⟩ others
      · exact .cons ⟨declared, own⟩ ih

namespace DiffersInUnstored

theorem putRow (differs : t.DiffersInUnstored other) {schema : Schema} {r s : Row}
    (versions : Row.Versions t.settings schema r s) :
    DiffersInUnstored ⟨t.settings, Table.putRow r t.rows⟩ ⟨other.settings, Table.putRow s other.rows⟩ :=
  ⟨differs.settings, forall₂_putRow differs.rows versions, nodup_putRow differs.distinct r⟩

theorem update (differs : t.DiffersInUnstored other) {schema : Schema} {documents others : List Document}
    (agree : List.Forall₂ (Row.AgreeInStored t.settings schema) documents others) {after otherAfter : Table}
    (done : t.update schema documents = .ok after) (otherDone : other.update schema others = .ok otherAfter) :
    after.DiffersInUnstored otherAfter := by
  obtain ⟨settings, before⟩ := t
  obtain ⟨_, otherBefore⟩ := other
  cases differs.settings
  rw [Table.update, rowsOf_eq_mapM] at done otherDone
  cases made : documents.mapM (Row.ofDocument settings schema) with
  | error e =>
      rw [made] at done
      cases done
  | ok rows =>
      cases otherMade : others.mapM (Row.ofDocument settings schema) with
      | error e =>
          rw [otherMade] at otherDone
          cases otherDone
      | ok otherRows =>
          rw [made] at done
          rw [otherMade] at otherDone
          cases done
          cases otherDone
          exact List.rel_foldl
            (P := fun rows otherRows => DiffersInUnstored ⟨settings, rows⟩ ⟨settings, otherRows⟩)
            (fun _ _ each _ _ versions => each.putRow versions) differs
            (Row.forall₂_versions agree made otherMade)

theorem versions (differs : t.DiffersInUnstored other) {r s : Row} (there : r ∈ t.rows) (otherThere : s ∈ other.rows)
    (same : r.identity = s.identity) : ∃ schema, Row.Versions t.settings schema r s := by
  obtain ⟨own, ownThere, schema, versions⟩ := Outcome.exists_of_mem_right differs.rows otherThere
  have one : own = r :=
    List.inj_on_of_nodup_map differs.distinct ownThere there (versions.identity.trans same.symm)
  exact ⟨schema, one ▸ versions⟩

/-- A search that ranks the documents alike finds versions of the same documents, one after the other. -/
theorem ranked_cases (differs : t.DiffersInUnstored other)
    (same : t.ranking query options = other.ranking query options) :
    (∃ e, t.ranked query options = .error e ∧ other.ranked query options = .error e) ∨
      ∃ rows otherRows, t.ranked query options = .ok rows ∧ other.ranked query options = .ok otherRows ∧
        List.Forall₂ (Scored.Versions t.settings) rows otherRows := by
  rw [ranking, ranking] at same
  cases found : t.ranked query options with
  | error e =>
      rw [found] at same
      cases otherFound : other.ranked query options with
      | error f =>
          rw [otherFound] at same
          cases same
          exact .inl ⟨e, rfl, rfl⟩
      | ok otherRows =>
          rw [otherFound] at same
          cases same
  | ok rows =>
      rw [found] at same
      cases otherFound : other.ranked query options with
      | error f =>
          rw [otherFound] at same
          cases same
      | ok otherRows =>
          rw [otherFound] at same
          refine .inr ⟨rows, otherRows, rfl, rfl, ?_⟩
          have pairs : List.Forall₂ (fun m n : Scored => (m.row.identity, m.score) = (n.row.identity, n.score))
              rows otherRows := by
            rw [← List.forall₂_map_right_iff, ← List.forall₂_map_left_iff, List.forall₂_eq_eq_eq]
            exact Except.ok.inj same
          obtain ⟨length, each⟩ := List.forall₂_iff_zip.1 pairs
          refine List.forall₂_iff_zip.2 ⟨length, fun {m n} both => ?_⟩
          obtain ⟨identity, score⟩ := Prod.mk.inj (each both)
          obtain ⟨there, otherThere⟩ := List.of_mem_zip both
          exact ⟨differs.versions (mem_rows_of_ranked found m there) (mem_rows_of_ranked otherFound n otherThere)
            identity, score⟩

theorem forall₂_shown (differs : t.DiffersInUnstored other)
    (same : t.ranking query options = other.ranking query options) :
    List.Forall₂ (Scored.Versions t.settings) (t.shown query options) (other.shown query options) := by
  rw [shown, shown]
  rcases differs.ranked_cases same with ⟨e, failed, otherFailed⟩ | ⟨rows, otherRows, found, otherFound, each⟩
  · rw [failed, otherFailed]
    exact .nil
  · rw [found, otherFound]
    exact forall₂_window each options.start options.stop

theorem marks_eq (differs : t.DiffersInUnstored other) : t.marks query options = other.marks query options := by
  rw [marks, marks, differs.settings]

end DiffersInUnstored

section

variable {m n : Scored} {settings : Settings}

theorem bare_toHit (versions : Scored.Versions settings m n) (words : Option (List (List Char))) :
    (toHit words m).bare = (toHit words n).bare := by
  have shape : ∀ m : Scored, (toHit words m).bare = ⟨m.row.stored, m.score, .empty⟩ := fun _ => rfl
  obtain ⟨⟨schema, rows⟩, score⟩ := versions
  rw [shape, shape, rows.stored, score]

theorem toHit_eq (versions : Scored.Versions settings m n) {words : Option (List (List Char))}
    (returned : words = none ∨ (m.row.hidesText = false ∧ n.row.hidesText = false)) :
    toHit words m = toHit words n := by
  obtain ⟨⟨schema, rows⟩, score⟩ := versions
  simp only [toHit, rows.stored, score]
  cases words with
  | none => rfl
  | some words =>
      obtain ⟨first, second⟩ := returned.resolve_left (Option.some_ne_none words)
      simp only [highlighted, rows.text first second, rows.documentField]

end

theorem marks_eq_none (plain : options.highlight = false) (t : Table) (query : String) :
    t.marks query options = none := by
  rw [marks, plain]
  rfl

namespace DiffersInUnstored

theorem bare_hits (differs : t.DiffersInUnstored other) (nothing : options.CountsNothing)
    (same : t.ranking query options = other.ranking query options) :
    (t.hits query options).map RawHit.bare = (other.hits query options).map RawHit.bare := by
  rw [hits_eq nothing, hits_eq nothing, ← differs.marks_eq, List.map_map, List.map_map]
  rw [← List.forall₂_eq_eq_eq, List.forall₂_map_left_iff, List.forall₂_map_right_iff]
  exact (differs.forall₂_shown same).imp fun _ _ versions => bare_toHit versions _

/-- A hit is the same in both tables if nothing is marked or its rows do not hide their texts. -/
theorem hit_eq (differs : t.DiffersInUnstored other) (nothing : options.CountsNothing)
    (same : t.ranking query options = other.ranking query options) {i : Nat}
    (returned : options.highlight = true → ∀ m : Scored,
      (t.shown query options)[i]? = some m ∨ (other.shown query options)[i]? = some m → m.row.hidesText = false) :
    (t.hits query options)[i]? = (other.hits query options)[i]? := by
  rw [hits_eq nothing, hits_eq nothing, ← differs.marks_eq, List.getElem?_map, List.getElem?_map]
  rcases getElem?_cases (differs.forall₂_shown same) i with ⟨none, otherNone⟩ | ⟨m, n, here, there, versions⟩
  · rw [none, otherNone]
  · rw [here, there, Option.map_some, Option.map_some, Option.some_inj]
    apply toHit_eq versions
    cases marked : options.highlight with
    | false => exact .inl (marks_eq_none marked t query)
    | true => exact .inr ⟨returned marked m (.inl here), returned marked n (.inr there)⟩

end DiffersInUnstored

/-- A search that ranks the documents alike returns the same fields and scores; a hit is the same in all unless
words are marked and the text of its document is hidden. -/
theorem search_of_differsInUnstored (differs : t.DiffersInUnstored other) (nothing : options.CountsNothing)
    (same : t.ranking query options = other.ranking query options) :
    (t.search query options).map RawResults.bare = (other.search query options).map RawResults.bare ∧
      (∀ i : Nat, (options.highlight = true → ∀ m : Scored,
          (t.shown query options)[i]? = some m ∨ (other.shown query options)[i]? = some m →
            m.row.hidesText = false) →
        (t.hits query options)[i]? = (other.hits query options)[i]?) ∧
      ((options.highlight = true → ∀ m : Scored,
          m ∈ t.shown query options ∨ m ∈ other.shown query options → m.row.hidesText = false) →
        t.search query options = other.search query options) := by
  refine ⟨?_, fun i returned => differs.hit_eq nothing same returned, ?_⟩
  · have fields := differs.bare_hits nothing same
    rw [search_eq_counted nothing, search_eq_counted nothing, same]
    cases other.ranking query options with
    | error e => simp only [Except.map]
    | ok rows => simp only [Except.map, RawResults.bare, fields]
  · intro returned
    have hits : t.hits query options = other.hits query options := by
      apply List.ext_getElem?
      intro i
      apply differs.hit_eq nothing same
      intro marked m listed
      exact returned marked m (listed.imp List.mem_of_getElem? List.mem_of_getElem?)
    rw [search_eq_counted nothing, search_eq_counted nothing, same, hits]

def postcards (textStored : Bool) : Schema where
  model := ⟨"app", "postcard"⟩
  fields := [
    ("text", { Field.ofKind .char with isDocument := true, isStored := textStored }),
    ("mood", { Field.ofKind .char with isStored := false })]

def postcard (text mood : String) : Document :=
  ⟨⟨[("id", .text "app.postcard.1"), ("model_type", .text "app.postcard"), ("mood", .text mood),
    ("text", .text text)]⟩⟩

def drawer (textStored : Bool) (text mood : String) : Table :=
  (empty .default).orKeep ((empty .default).update (postcards textStored) [postcard text mood])

def withHighlights : SearchOptions := { SearchOptions.default with highlight := true }

theorem differsInUnstored_drawer {textStored : Bool} {text other mood otherMood : String}
    (agree : Row.AgreeInStored .default (postcards textStored) (postcard text mood) (postcard other otherMood)) :
    (drawer textStored text mood).DiffersInUnstored (drawer textStored other otherMood) :=
  DiffersInUnstored.update (t := empty .default) ⟨rfl, .nil, List.nodup_nil⟩ (.cons agree .nil) rfl rfl

theorem search_of_differsInUnstored_drawer :
    (drawer true "A red fox" "glad").search "fox" withHighlights =
      (drawer true "A red fox" "sad").search "fox" withHighlights := by
  have differs : (drawer true "A red fox" "glad").DiffersInUnstored (drawer true "A red fox" "sad") :=
    differsInUnstored_drawer ⟨rfl, rfl⟩
  have same : (drawer true "A red fox" "glad").ranking "fox" withHighlights =
      (drawer true "A red fox" "sad").ranking "fox" withHighlights := rfl
  obtain ⟨-, -, whole⟩ := search_of_differsInUnstored differs ⟨rfl, rfl, rfl⟩ same
  have plain : ∀ mood ∈ ["glad", "sad"], ∀ m ∈ (drawer true "A red fox" mood).shown "fox" withHighlights,
      m.row.hidesText = false := by
    decide
  apply whole
  rintro - m (there | there)
  · exact plain "glad" (by simp) m there
  · exact plain "sad" (by simp) m there

/-- A text that is searched only is shown where words are marked in it. -/
theorem not_search_of_differsInUnstored :
    ¬ ∀ (t other : Table) (query : String) (options : SearchOptions), t.DiffersInUnstored other →
      options.CountsNothing → t.ranking query options = other.ranking query options →
        t.search query options = other.search query options := by
  intro answersAlike
  have differs : (drawer false "A red fox" "glad").DiffersInUnstored (drawer false "A blue dog" "glad") :=
    differsInUnstored_drawer ⟨rfl, rfl⟩
  have answered := answersAlike (drawer false "A red fox" "glad") (drawer false "A blue dog" "glad") "*:*"
    withHighlights differs ⟨rfl, rfl, rfl⟩ rfl
  have different : ((drawer false "A red fox" "glad").hits "*:*" withHighlights).map RawHit.highlighted ≠
      ((drawer false "A blue dog" "glad").hits "*:*" withHighlights).map RawHit.highlighted := by
    decide
  apply different
  rw [hits, hits, answered]

end Table

end RecordSearch
