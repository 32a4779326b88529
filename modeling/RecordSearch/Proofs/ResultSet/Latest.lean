import RecordSearch.Proofs.ResultSet.Best
import RecordSearch.Proofs.Table.Sorting

/-!
The latest hit of a set. A set that is sorted already keeps its order, and the field decides only among the
hits that the earlier keys leave first; without earlier keys it is the hit with the greatest value.
-/

namespace RecordSearch

open scoped List

open Value (Before)

namespace Table

variable {keys : List String} {field : String} {rows : List Row} {matched : List Scored} {a b : Row}

theorem compareRows_append (keys : List String) (key : String) (a b : Row) :
    compareRows (keys ++ [key]) a b = (compareRows keys a b).then (compareBy key a b) := by
  induction keys with
  | nil => exact Ordering.then_eq
  | cons first keys ih => rw [List.cons_append, compareRows, ih, compareRows, Ordering.then_assoc]

theorem compareRows_of_head {rest : List Scored} {m : Scored} (given : keys ≠ [])
    (one : OneScale keys (matched.map Scored.row)) (first : sortMatches keys matched = m :: rest) :
    ∀ other ∈ matched.map Scored.row, compareRows keys m.row other ≠ .gt := by
  have rowOrder := totalPreorderOn_compareRows one
  have order : TotalPreorderOn (fun a b : Scored => compareRows keys a.row b.row) (· ∈ matched) :=
    rowOrder.comap Scored.row fun m there => List.mem_map_of_mem there
  have ascending := order.pairwise_sorted
  rw [sortMatches, sortMatches?_eq given one, Option.getD_some] at first
  rw [first] at ascending
  rintro _ listed
  obtain ⟨other, there, rfl⟩ := List.mem_map.1 listed
  have placed : other ∈ m :: rest := first ▸ (Sorting.perm_sorted matched).symm.subset there
  rcases List.mem_cons.1 placed with rfl | later
  · have own := rowOrder.swap _ _ listed listed
    intro greater
    rw [greater] at own
    cases own
  · exact (List.pairwise_cons.1 ascending).1 other later

/-- Instants in descending order: a row that has one comes behind none that has a later one or none. -/
theorem exists_value_of_compareBy (kindA : ∀ v ∈ a.value? field, v.kind? = some .instant)
    (kindB : ∀ v ∈ b.value? field, v.kind? = some .instant) (notBehind : compareBy ("-" ++ field) a b ≠ .gt) :
    ∀ w ∈ b.value? field, ∃ v ∈ a.value? field, ¬ Before v w := by
  intro w found
  have whole := compareBy_eq ("-" ++ field) a b
  rw [sortKey_dash, Option.mem_def.1 found] at whole
  rw [whole] at notBehind
  cases foundA : a.value? field with
  | none =>
      rw [foundA] at notBehind
      exact absurd rfl notBehind
  | some v =>
      rw [foundA, missingLast, directed, sortKey_dash] at notBehind
      refine ⟨v, rfl, fun before => ?_⟩
      obtain ⟨scale, own⟩ := Value.exists_scale .instant
      have less := (compareValues_eq_lt_iff (kindA v foundA) (kindB w found)).2 before
      have swapped := (totalPreorderOn_scale scale).swap v w (own v (kindA v foundA)) (own w (kindB w found))
      rw [less] at swapped
      exact notBehind swapped

theorem oneScale_append (earlier : OneScale keys rows)
    (dates : ∀ r ∈ rows, ∀ v ∈ r.value? field, v.kind? = some .instant) :
    OneScale (keys ++ ["-" ++ field]) rows := by
  intro key listed
  rcases List.mem_append.1 listed with before | last
  · exact earlier key before
  · obtain ⟨scale, own⟩ := Value.exists_scale .instant
    refine ⟨scale, fun r there v found => own v (dates r there v ?_)⟩
    rwa [List.mem_singleton.1 last, sortKey_dash] at found

end Table

namespace Hit

variable {Obj : Type} {c : Connection Table Obj} {raw other : RawHit}

/-- A hit that is read from what a row stores. -/
def IsOf (c : Connection Table Obj) (h : Hit Obj) (r : Row) : Prop :=
  ∃ raw : RawHit, raw.fields = r.stored ∧ ofRaw? c.registry c.settings raw = some h

theorem isSome_ofRaw? (same : raw.fields = other.fields) :
    (ofRaw? c.registry c.settings raw).isSome = (ofRaw? c.registry c.settings other).isSome := by
  have model : modelOf? c.settings raw = modelOf? c.settings other := by rw [modelOf?, modelOf?, same]
  have pk : pkOf? c.settings raw = pkOf? c.settings other := by
    rw [pkOf?, withoutType, same]
    rfl
  rw [ofRaw?, ofRaw?, model, pk]
  cases modelOf? c.settings other with
  | none => rfl
  | some m => cases pkOf? c.settings other <;> rfl

end Hit

namespace ResultSet

variable {Obj : Type} {s : ResultSet Obj} {c : Connection Table Obj}

theorem isSome_of_found (kept : s.plan.KeepsHits c) {r : Row} (listed : r ∈ s.plan.found c) {raw : RawHit}
    (own : raw.fields = r.stored) : (Hit.ofRaw? c.registry c.settings raw).isSome = true := by
  obtain ⟨ranked, same, answers⟩ := s.plan.ranks_answers c
  obtain ⟨-, shown⟩ := answers 0 none
  rw [Table.window_none] at shown
  have present : r.stored ∈ (s.plan.answers c 0 none).results.map RawHit.fields := by
    rw [shown]
    exact List.mem_map_of_mem (same.symm.subset listed)
  obtain ⟨other, there, fields⟩ := List.mem_map.1 present
  rw [Hit.isSome_ofRaw? (own.trans fields.symm)]
  exact kept other there

theorem exists_row_of_hit {h : Hit Obj} (listed : h ∈ s.plan.hits c) : ∃ r ∈ s.plan.found c, h.IsOf c r := by
  rw [Plan.hits, s.plan.results_run] at listed
  obtain ⟨raw, there, read⟩ := List.mem_filterMap.1 listed
  obtain ⟨ranked, same, answers⟩ := s.plan.ranks_answers c
  obtain ⟨-, shown⟩ := answers 0 none
  rw [Table.window_none] at shown
  have present : raw.fields ∈ ranked.map Row.stored := by
    rw [← shown]
    exact List.mem_map_of_mem there
  obtain ⟨r, ranks, fields⟩ := List.mem_map.1 present
  exact ⟨r, same.subset ranks, raw, fields.symm, read⟩

/-- Without objects to load, the best match is read from the first row in the order of the keys. -/
theorem exists_bestMatch (fresh : s.cache = .fresh) (plain : s.loadAll = false)
    (kept : ∀ r ∈ s.plan.found c, ∀ raw : RawHit, raw.fields = r.stored →
      (Hit.ofRaw? c.registry c.settings raw).isSome = true) (nonempty : s.plan.found c ≠ []) :
    ∃ matched m rest, matched.map Table.Scored.row = s.plan.found c ∧
      Table.sortMatches s.plan.orderBy matched = m :: rest ∧
      ∃ h, (s.bestMatch c).1 = some h ∧ h.IsOf c m.row := by
  have positive := s.pageSize.pos
  obtain ⟨matched, rows, answers⟩ := s.plan.sorts_answers c
  obtain ⟨-, shown⟩ := answers 0 (some s.pageSize.val)
  have same := Table.perm_sortMatches s.plan.orderBy matched
  cases sorted : Table.sortMatches s.plan.orderBy matched with
  | nil =>
      rw [sorted] at same
      rw [same.symm.eq_nil] at rows
      exact absurd rows.symm nonempty
  | cons m rest =>
      rw [sorted] at same
      rw [sorted, Table.window_some, List.map_cons, List.take_cons positive, List.drop_zero] at shown
      obtain ⟨raw, others, answered, fields, -⟩ := List.map_eq_cons_iff.1 shown
      have there : m.row ∈ s.plan.found c := by
        rw [← rows]
        exact List.mem_map_of_mem (same.subset List.mem_cons_self)
      obtain ⟨h, read⟩ := Option.isSome_iff_exists.1 (kept m.row there raw fields)
      refine ⟨matched, m, rest, rows, sorted, h, ?_, raw, fields, read⟩
      have items : s.page c 0 s.pageSize.val =
          (h :: others.filterMap (Hit.ofRaw? c.registry c.settings)).map some := by
        rw [page, s.fetch_eq (Connection.Alike.refl c), answered, List.filterMap_cons_some read, loadItems, plain]
        rfl
      rw [bestMatch_of_fresh fresh, items]
      rfl

/-- The latest hit is one that the earlier keys of the set put behind no other. Among the hits that these keys
do not tell apart from it, none has a greater value of the field. So without earlier keys its value is the
greatest of all hits that have the field, where hits show the field as the table has it. -/
theorem latest_isGreatest (s : ResultSet Obj) (c : Connection Table Obj) (field : String)
    (plain : s.loadAll = false) (kept : s.plan.KeepsHits c)
    (earlier : Table.OneScale s.plan.orderBy (s.plan.found c))
    (dates : ∀ r ∈ s.plan.found c, ∀ v ∈ r.value? field, v.kind? = some .instant)
    (nonempty : s.plan.found c ≠ []) :
    ∃ h r, (s.latest c field).1 = some h ∧ r ∈ s.plan.found c ∧ h.IsOf c r ∧
      (∀ other ∈ s.plan.found c, Table.compareRows s.plan.orderBy r other ≠ .gt ∧
        (Table.compareRows s.plan.orderBy r other = .eq →
          ∀ w ∈ other.value? field, ∃ v ∈ r.value? field, ¬ Before v w)) ∧
      (s.plan.orderBy = [] →
        (∀ row ∈ s.plan.found c, ∀ g : Hit Obj, g.IsOf c row → g.fields.find? field = row.value? field) →
        ∀ g ∈ s.plan.hits c, ∀ w ∈ g.fields.find? field, ∃ v ∈ h.fields.find? field, ¬ Before v w) := by
  have found : (s.latestFirst field).plan.found c = s.plan.found c := rfl
  have keys : (s.latestFirst field).plan.orderBy = s.plan.orderBy ++ ["-" ++ field] := rfl
  obtain ⟨matched, m, rest, rows, sorted, h, best, own⟩ :=
    exists_bestMatch (s := s.latestFirst field) (c := c) rfl plain
      (fun r listed raw fields => isSome_of_found kept listed fields) nonempty
  rw [found] at rows
  rw [keys] at sorted
  have listed : m.row ∈ s.plan.found c := by
    rw [← rows]
    apply List.mem_map_of_mem
    exact (Table.perm_sortMatches _ matched).subset (sorted ▸ List.mem_cons_self)
  have scales : Table.OneScale (s.plan.orderBy ++ ["-" ++ field]) (matched.map Table.Scored.row) := by
    rw [rows]
    exact Table.oneScale_append earlier dates
  have first : ∀ other ∈ s.plan.found c, Table.compareRows s.plan.orderBy m.row other ≠ .gt ∧
      (Table.compareRows s.plan.orderBy m.row other = .eq →
        ∀ w ∈ other.value? field, ∃ v ∈ m.row.value? field, ¬ Before v w) := by
    intro other there
    have notBehind := Table.compareRows_of_head (by simp) scales sorted other (rows ▸ there)
    rw [Table.compareRows_append] at notBehind
    constructor
    · intro greater
      rw [greater] at notBehind
      exact notBehind rfl
    · intro tied
      rw [tied] at notBehind
      exact Table.exists_value_of_compareBy (dates m.row listed) (dates other there) notBehind
  refine ⟨h, m.row, best, listed, own, first, ?_⟩
  intro unordered shows g hit w has
  obtain ⟨row, there, read⟩ := exists_row_of_hit hit
  rw [shows row there g read] at has
  rw [shows m.row listed h own]
  refine (first row there).2 ?_ w has
  rw [unordered]
  rfl

def datedRow (pk title : String) (day : Calendar.Date) : Row where
  identity := "app.note." ++ pk
  model := "app.note"
  documentField := "text"
  indexed := .ofList [("title", .text title), ("day", .date day)]
  stored := .ofList [("model_type", .text "app.note"), ("model_pk", .text pk), ("day", .date day)]

def firstDay : Calendar.Date := ⟨2009, 6, 25, by decide⟩

def middleDay : Calendar.Date := ⟨2009, 6, 26, by decide⟩

def lastDay : Calendar.Date := ⟨2009, 6, 27, by decide⟩

def diary : Connection Table Nat where
  engine := ⟨.default,
    [datedRow "1" "Blue" firstDay, datedRow "2" "Green" lastDay, datedRow "3" "Blue" middleDay]⟩
  settings := .default
  registry := ⟨[]⟩
  log := .ofEnabled false
  storeCalls := []

def byTitle : ResultSet Nat := ⟨.addOrder .empty ["title"], .of 2, .fresh, false, false, .empty⟩

theorem keepsHits_byTitle : byTitle.plan.KeepsHits diary := by
  unfold Plan.KeepsHits
  decide

theorem latest_isGreatest_byTitle :
    byTitle.loadAll = false ∧ byTitle.plan.KeepsHits diary ∧
      Table.OneScale byTitle.plan.orderBy (byTitle.plan.found diary) ∧
      (∀ r ∈ byTitle.plan.found diary, ∀ v ∈ r.value? "day", v.kind? = some .instant) ∧
      byTitle.plan.found diary ≠ [] ∧ ((byTitle.latest diary "day").1.map Hit.pk) = some "3" ∧
      ∃ h r, (byTitle.latest diary "day").1 = some h ∧ r ∈ byTitle.plan.found diary ∧ h.IsOf diary r ∧
        ∀ other ∈ byTitle.plan.found diary, Table.compareRows byTitle.plan.orderBy r other = .eq →
          ∀ w ∈ other.value? "day", ∃ v ∈ r.value? "day", ¬ Before v w := by
  have earlier : Table.OneScale byTitle.plan.orderBy (byTitle.plan.found diary) := by
    intro key listed
    rw [List.mem_singleton.1 listed]
    exact ⟨.display, by decide⟩
  have dates : ∀ r ∈ byTitle.plan.found diary, ∀ v ∈ r.value? "day", v.kind? = some .instant := by
    decide
  have nonempty : byTitle.plan.found diary ≠ [] := by
    intro nothing
    have three : (byTitle.plan.found diary).length = 3 := by decide
    rw [nothing] at three
    cases three
  obtain ⟨h, r, best, listed, own, first, -⟩ :=
    latest_isGreatest byTitle diary "day" rfl keepsHits_byTitle earlier dates nonempty
  exact ⟨rfl, keepsHits_byTitle, earlier, dates, nonempty, by decide, h, r, best, listed, own,
    fun other there => (first other there).2⟩

/-- In a set that is sorted already, the latest hit may not have the greatest value. -/
theorem not_latest_isGreatest :
    ¬ ∀ (s : ResultSet Nat) (c : Connection Table Nat) (field : String), s.loadAll = false → s.plan.KeepsHits c →
      (∀ g ∈ s.plan.hits c, ∀ v ∈ g.fields.find? field, v.kind? = some .instant) →
      ∀ g ∈ s.plan.hits c, ∀ w ∈ g.fields.find? field,
        ∃ h, (s.latest c field).1 = some h ∧ ∃ v ∈ h.fields.find? field, ¬ Before v w := by
  intro greatest
  have instants : ∀ g ∈ byTitle.plan.hits diary, ∀ v ∈ g.fields.find? "day", v.kind? = some .instant := by
    decide
  have last : ∃ g ∈ byTitle.plan.hits diary,
      (g.fields.find? "day").bind Value.dateTime? = some (.atMidnight lastDay) := by decide
  obtain ⟨g, listed, day⟩ := last
  obtain ⟨w, has, whenW⟩ := Option.bind_eq_some_iff.1 day
  obtain ⟨h, best, v, shown, notBefore⟩ :=
    greatest byTitle diary "day" rfl keepsHits_byTitle instants g listed w has
  have middle : (byTitle.latest diary "day").1.bind (fun h => (h.fields.find? "day").bind Value.dateTime?) =
      some (.atMidnight middleDay) := by decide
  rw [best, Option.bind_some, Option.mem_def.1 shown, Option.bind_some] at middle
  exact notBefore (.instant middle whenW (by decide))

end ResultSet

end RecordSearch
