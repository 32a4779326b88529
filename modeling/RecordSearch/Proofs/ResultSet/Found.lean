import RecordSearch.Proofs.Table.Hits

namespace RecordSearch

open scoped List

def Row.satisfies (contentField : String) (r : Row) (query : String) : Bool :=
  (Lucene.read query).toOption.any fun clause => clause.accepts contentField r

theorem Row.satisfies_of_read {contentField query : String} {clause : Clause}
    (read : Lucene.read query = .ok clause) (r : Row) :
    r.satisfies contentField query = clause.accepts contentField r := by
  rw [satisfies, read]
  rfl

theorem Row.not_satisfies_of_read {contentField query : String} {e : Error}
    (failed : Lucene.read query = .error e) (r : Row) : r.satisfies contentField query = false := by
  rw [satisfies, failed]
  rfl

namespace Table

def isSimilar (t : Table) (identity : String) (r : Row) : Bool :=
  match t.rows.find? fun other => other.identity = identity with
  | some source => r.identity ≠ source.identity &&
      0 < (distinctWords r).countP (distinctWords source).contains
  | none => false

end Table

namespace Plan

def countsReadable (p : Plan) : Bool :=
  p.queryFacets.all fun facet => (Lucene.read (Table.queryFacetKey facet.1 facet.2)).isOk

variable {Obj : Type}

/-- The queries that narrow a search, its own one included where hits are asked to be similar. -/
def narrowing (p : Plan) (c : Connection Table Obj) : List String :=
  (p.options (Engine.querySyntax c.engine) c.settings 0 none).narrow

/-- Whether a row of the table is a hit. -/
def selects (p : Plan) (c : Connection Table Obj) (r : Row) : Bool :=
  let contentField := c.engine.settings.contentField
  let query := p.query (Engine.querySyntax c.engine) c.settings
  p.countsReadable && (p.narrowing c).all (r.satisfies contentField) &&
    match p.similarTo with
    | some identity => c.engine.isSimilar identity r
    | none => !query.isEmpty && r.satisfies contentField query

/-- The rows that are hits of a plan, in the order of the table. -/
def found (p : Plan) (c : Connection Table Obj) : List Row := c.engine.rows.filter (p.selects c)

/-- What is answered to a plan, window by window. -/
def answers (p : Plan) (c : Connection Table Obj) (start : Nat) (stop : Option Nat) : RawResults :=
  (p.ask c start stop).2.1

theorem mem_found {p : Plan} {c : Connection Table Obj} {r : Row} :
    r ∈ p.found c ↔ r ∈ c.engine.rows ∧ p.selects c r = true := List.mem_filter

end Plan

namespace Table

/-- Answers of which each names the number of these rows, and shows a window of one ranking of them. -/
def Ranks (rows : List Row) (answer : Nat → Option Nat → RawResults) : Prop :=
  ∃ ranked : List Row, ranked ~ rows ∧ ∀ start stop, (answer start stop).hits = ranked.length ∧
    (answer start stop).results.map RawHit.fields = window start stop (ranked.map Row.stored)

/-- Answers of which each names the number of these rows, and shows a window of them as the keys sort them. -/
def Sorts (keys : List String) (rows : List Row) (answer : Nat → Option Nat → RawResults) : Prop :=
  ∃ matched : List Scored, matched.map Scored.row = rows ∧ ∀ start stop,
    (answer start stop).hits = matched.length ∧
      (answer start stop).results.map RawHit.fields =
        window start stop ((sortMatches keys matched).map fun m => m.row.stored)

theorem sorts_empty (keys : List String) : Sorts keys [] fun _ _ => .empty := by
  refine ⟨[], rfl, ?_⟩
  intro start stop
  have nothing : sortMatches keys [] = [] := (perm_sortMatches keys []).eq_nil
  rw [nothing]
  exact ⟨rfl, (window_nil start stop).symm⟩

theorem Sorts.ranks {keys : List String} {rows : List Row} {answer : Nat → Option Nat → RawResults}
    (sorts : Sorts keys rows answer) : Ranks rows answer := by
  obtain ⟨matched, rfl, answers⟩ := sorts
  refine ⟨(sortMatches keys matched).map Scored.row, (perm_sortMatches keys matched).map Scored.row, ?_⟩
  intro start stop
  obtain ⟨hits, results⟩ := answers start stop
  rw [List.length_map, (perm_sortMatches keys matched).length_eq, List.map_map]
  exact ⟨hits, results⟩

variable {t : Table}

theorem isOk_queryFacets (contentField : String) (rows : List Row) (counts : SortedMap String Nat)
    (facets : List (String × String)) :
    (queryFacets contentField rows counts facets).isOk =
      facets.all fun facet => (Lucene.read (queryFacetKey facet.1 facet.2)).isOk := by
  induction facets generalizing counts with
  | nil => rfl
  | cons facet rest ih =>
      unfold queryFacets
      simp only [List.all_cons]
      cases Lucene.read (queryFacetKey facet.1 facet.2) with
      | error e => rfl
      | ok clause => exact ih _

theorem isOk_facetCounts (contentField : String) (options : SearchOptions) (rows : List Row) :
    (facetCounts contentField options rows).isOk =
      options.queryFacets.all fun facet => (Lucene.read (queryFacetKey facet.1 facet.2)).isOk := by
  rw [facetCounts, ← isOk_queryFacets contentField rows .empty]
  cases queryFacets contentField rows .empty options.queryFacets <;> rfl

theorem sorts_respond (t : Table) (p : Plan) (syn : QuerySyntax) (settings : Settings)
    (words : Option (List (List Char))) (matched : List Scored) :
    Sorts p.orderBy (if p.countsReadable then matched.map Scored.row else []) fun start stop =>
      (Engine.orEmpty (t.respond (p.options syn settings start stop) words matched, t)).1 := by
  have order : ∀ start stop, (p.options syn settings start stop).sortBy = p.orderBy := fun _ _ => rfl
  have counts : ∀ start stop rows,
      facetCounts t.settings.contentField (p.options syn settings start stop) rows =
        facetCounts t.settings.contentField (p.options syn settings 0 none) rows := fun _ _ _ => rfl
  have readable : (facetCounts t.settings.contentField (p.options syn settings 0 none)
      ((sortMatches p.orderBy matched).map Scored.row)).isOk = p.countsReadable :=
    isOk_facetCounts _ _ _
  simp only [respond, order, counts, ← readable]
  cases facetCounts t.settings.contentField (p.options syn settings 0 none)
      ((sortMatches p.orderBy matched).map Scored.row) with
  | error e => exact sorts_empty p.orderBy
  | ok facets =>
      refine ⟨matched, rfl, ?_⟩
      intro start stop
      constructor
      · exact (perm_sortMatches p.orderBy matched).length_eq
      · simp only [Except.map, Engine.orEmpty, window_map, List.map_map]
        rfl

theorem passes_of_readAll {queries : List String} {clauses : List Clause}
    (read : readAll queries = .ok clauses) (r : Row) :
    t.passes clauses r = queries.all (r.satisfies t.settings.contentField) := by
  induction queries generalizing clauses with
  | nil =>
      cases read
      rfl
  | cons query rest ih =>
      unfold readAll at read
      cases first : Lucene.read query with
      | error e =>
          rw [first] at read
          cases read
      | ok clause =>
          cases others : readAll rest with
          | error e =>
              rw [first, others] at read
              cases read
          | ok clauses =>
              rw [first, others] at read
              cases read
              rw [List.all_cons, Row.satisfies_of_read first, ← ih others]
              rfl

theorem not_satisfies_of_readAll {queries : List String} {e : Error}
    (failed : readAll queries = .error e) (contentField : String) (r : Row) :
    queries.all (r.satisfies contentField) = false := by
  induction queries generalizing e with
  | nil => cases failed
  | cons query rest ih =>
      unfold readAll at failed
      rw [List.all_cons]
      cases first : Lucene.read query with
      | error e => rw [Row.not_satisfies_of_read first, Bool.false_and]
      | ok clause =>
          cases others : readAll rest with
          | error e => rw [ih others, Bool.and_false]
          | ok clauses =>
              rw [first, others] at failed
              cases failed

theorem map_row_filterMap {scored : Row → Option Scored} (wanted : Row → Bool)
    (own : ∀ r, (scored r).map Scored.row = if wanted r then some r else none) (rows : List Row) :
    (rows.filterMap scored).map Scored.row = rows.filter wanted := by
  have same : (fun r => (scored r).map Scored.row) = Option.guard wanted := by
    funext r
    rw [own, Option.guard]
  rw [List.map_filterMap, same, List.filterMap_eq_filter]

theorem map_row_matching (clause : Clause) (narrow : List Clause) :
    (t.matching clause narrow).map Scored.row =
      t.rows.filter fun r => clause.accepts t.settings.contentField r && t.passes narrow r := by
  have scored : ∀ r, ((clause.score t.settings.contentField r).map fun score =>
      (⟨r, score⟩ : Scored)).map Scored.row =
        if clause.accepts t.settings.contentField r then some r else none := by
    intro r
    rw [Clause.accepts]
    cases clause.score t.settings.contentField r <;> rfl
  rw [matching, map_row_filterMap (clause.accepts t.settings.contentField) scored, List.filter_filter]

theorem map_row_sharing (source : Row) (narrow : List Clause) :
    (t.sharing source narrow).map Scored.row =
      t.rows.filter fun r => decide (0 < (distinctWords r).countP (distinctWords source).contains) &&
        (r.identity ≠ source.identity && t.passes narrow r) := by
  rw [sharing, map_row_filterMap fun r =>
    decide (0 < (distinctWords r).countP (distinctWords source).contains), List.filter_filter]
  intro r
  simp only [decide_eq_true_eq]
  split <;> rfl

end Table

namespace Plan

variable {Obj : Type} {p : Plan} {c : Connection Table Obj}

theorem filter_if {α : Type} (wanted : Bool) (q : α → Bool) (s : List α) :
    (if wanted then s.filter q else []) = s.filter fun a => wanted && q a := by
  cases wanted <;> simp

theorem sorts_of_not_selects (refused : ∀ r, p.selects c r = false) :
    Table.Sorts p.orderBy (p.found c) fun _ _ => .empty := by
  have nothing : p.found c = [] := by
    apply List.filter_eq_nil_iff.2
    intro r _ selected
    rw [refused r] at selected
    cases selected
  exact nothing ▸ Table.sorts_empty p.orderBy

theorem sorts_of_selects (p : Plan) (c : Connection Table Obj) {wanted : Row → Bool} {words : Option (List (List Char))}
    {matched : List Table.Scored} (rows : matched.map Table.Scored.row = c.engine.rows.filter wanted)
    (same : ∀ r, p.selects c r = (p.countsReadable && wanted r)) :
    Table.Sorts p.orderBy (p.found c) fun start stop => (Engine.orEmpty
      (c.engine.respond (p.options (Engine.querySyntax c.engine) c.settings start stop) words matched,
        c.engine)).1 := by
  have sorts := c.engine.sorts_respond p (Engine.querySyntax c.engine) c.settings words matched
  rw [rows, filter_if, ← funext same] at sorts
  exact sorts

theorem sorts_search (alone : p.similarTo = none)
    (asked : (p.query (Engine.querySyntax c.engine) c.settings).isEmpty = false) :
    Table.Sorts p.orderBy (p.found c) fun start stop => (Engine.orEmpty
      (c.engine.search (p.query (Engine.querySyntax c.engine) c.settings)
        (p.options (Engine.querySyntax c.engine) c.settings start stop), c.engine)).1 := by
  have narrow : ∀ start stop, (p.options (Engine.querySyntax c.engine) c.settings start stop).narrow =
      p.narrowing c := fun _ _ => rfl
  have marked : ∀ start stop,
      (p.options (Engine.querySyntax c.engine) c.settings start stop).highlight = p.highlight :=
    fun _ _ => rfl
  unfold Table.search
  simp only [narrow, marked]
  cases query : Lucene.read (p.query (Engine.querySyntax c.engine) c.settings) with
  | error e =>
      apply sorts_of_not_selects
      intro r
      simp only [selects, alone, Row.not_satisfies_of_read query, Bool.and_false]
  | ok clause =>
      cases read : Table.readAll (p.narrowing c) with
      | error e =>
          apply sorts_of_not_selects
          intro r
          simp only [selects, Table.not_satisfies_of_readAll read, Bool.and_false, Bool.false_and]
      | ok clauses =>
          refine sorts_of_selects p c (Table.map_row_matching clause clauses) ?_
          intro r
          simp only [selects, alone, asked, Row.satisfies_of_read query,
            Table.passes_of_readAll read, Bool.not_false, Bool.true_and]
          ac_rfl

theorem sorts_similar {identity : String} (similar : p.similarTo = some identity) :
    Table.Sorts p.orderBy (p.found c) fun start stop => (Engine.orEmpty
      (c.engine.similar identity
        (p.options (Engine.querySyntax c.engine) c.settings start stop), c.engine)).1 := by
  have narrow : ∀ start stop, (p.options (Engine.querySyntax c.engine) c.settings start stop).narrow =
      p.narrowing c := fun _ _ => rfl
  unfold Table.similar
  simp only [narrow]
  cases read : Table.readAll (p.narrowing c) with
  | error e =>
      apply sorts_of_not_selects
      intro r
      simp only [selects, Table.not_satisfies_of_readAll read, Bool.and_false, Bool.false_and]
  | ok clauses =>
      cases source : c.engine.rows.find? fun r => r.identity = identity with
      | none =>
          apply sorts_of_not_selects
          intro r
          simp only [selects, similar, Table.isSimilar, source, Bool.and_false]
      | some row =>
          refine sorts_of_selects p c (Table.map_row_sharing row clauses) ?_
          intro r
          simp only [selects, similar, Table.isSimilar, source, Table.passes_of_readAll read]
          ac_rfl

/-- Every answer to a plan counts the rows that it finds, and shows a window of them as its keys sort them. -/
theorem sorts_answers (p : Plan) (c : Connection Table Obj) :
    Table.Sorts p.orderBy (p.found c) (p.answers c) := by
  unfold answers ask
  cases similar : p.similarTo with
  | some identity => exact sorts_similar similar
  | none =>
      simp only [Engine.find]
      cases empty : (p.query (Engine.querySyntax c.engine) c.settings).isEmpty with
      | true =>
          apply sorts_of_not_selects
          intro r
          simp only [selects, similar, empty, Bool.not_true, Bool.false_and, Bool.and_false]
      | false => exact sorts_search similar empty

theorem ranks_answers (p : Plan) (c : Connection Table Obj) : Table.Ranks (p.found c) (p.answers c) :=
  (p.sorts_answers c).ranks

end Plan

end RecordSearch
