import Mathlib
import RecordSearch.Proofs.SortedMap
import RecordSearch.Proofs.Table.Sorting
import RecordSearch.Table.Facets

/-!
A field facet has one entry for each key among the items of its field, with the number of the items under
it. Its order is a strict one, so neither the order of the rows nor that of the entries before the sorting
shows in it.
-/

namespace RecordSearch

open scoped List

open Sorting (sorted perm_sorted filter_sorted)

namespace Table

/-- The order of the entries of a facet: the more frequent first, and those of one count by their keys. -/
def ComesFirst (a b : String × Nat) : Prop := b.2 < a.2 ∨ a.2 = b.2 ∧ a.1 < b.1

def compareEntries (a b : String × Nat) : Ordering := (compare b.2 a.2).then (compare a.1 b.1)

/-- What the facet of items is to be. -/
structure CountsItems (items : List Value) (facet : List (String × Nat)) : Prop where
  distinct : (facet.map Prod.fst).Nodup
  exact : ∀ entry ∈ facet, entry.2 = items.countP fun item => facetKey item = entry.1
  positive : ∀ entry ∈ facet, 0 < entry.2
  complete : ∀ item ∈ items, ∃ entry ∈ facet, entry.1 = facetKey item
  total : (facet.map Prod.snd).sum = items.length
  ordered : facet.Pairwise ComesFirst

theorem find?_foldl_countKey (keys : List String) (counts : SortedMap String Nat) (k : String) :
    (keys.foldl countKey counts).find? k =
      if k ∈ keys then some ((counts.find? k).getD 0 + keys.count k) else counts.find? k := by
  induction keys generalizing counts with
  | nil => rfl
  | cons key keys ih =>
      rw [List.foldl_cons, ih, countKey, SortedMap.find?_insert]
      by_cases here : k = key
      · subst here
        by_cases later : k ∈ keys
        · simp [later]
          omega
        · simp [later, List.count_eq_zero_of_not_mem later]
      · simp [here, Ne.symm here]

theorem ascending_foldl_countKey (keys : List String) {counts : SortedMap String Nat}
    (ascending : SortedMap.Ascending counts.entries) :
    SortedMap.Ascending (keys.foldl countKey counts).entries := by
  induction keys generalizing counts with
  | nil => exact ascending
  | cons key keys ih => exact ih (SortedMap.ascending_insertEntry ascending key _)

/-- The keys of items with their counts. -/
def tally (items : List Value) : List (String × Nat) :=
  ((items.map facetKey).foldl countKey .empty).entries

theorem ascending_tally (items : List Value) : SortedMap.Ascending (tally items) :=
  ascending_foldl_countKey (items.map facetKey) List.Pairwise.nil

theorem mem_tally {items : List Value} {entry : String × Nat} :
    entry ∈ tally items ↔
      entry.1 ∈ items.map facetKey ∧ entry.2 = (items.map facetKey).count entry.1 := by
  obtain ⟨key, n⟩ := entry
  have found := SortedMap.find?_eq_some_iff (k := key) (a := n) (ascending_tally items)
  rw [tally, ← found, find?_foldl_countKey]
  by_cases listed : key ∈ items.map facetKey
  · rw [if_pos listed, Option.some_inj]
    constructor
    · intro same
      exact ⟨listed, same.symm.trans (Nat.zero_add _)⟩
    · rintro ⟨-, same⟩
      exact (Nat.zero_add _).trans same.symm
  · rw [if_neg listed]
    constructor
    · rintro ⟨⟩
    · exact fun present => absurd present.1 listed

theorem count_map_facetKey (items : List Value) (key : String) :
    (items.map facetKey).count key = items.countP fun item => facetKey item = key := by
  rw [List.count, List.countP_map]
  rfl

theorem sum_tally (items : List Value) : ((tally items).map Prod.snd).sum = items.length := by
  have counts : (tally items).map Prod.snd =
      ((tally items).map Prod.fst).map fun key => (items.map facetKey).count key := by
    rw [List.map_map]
    exact List.map_congr_left fun entry listed => (mem_tally.1 listed).2
  have keys : (tally items).map Prod.fst ~ (items.map facetKey).dedup := by
    rw [List.perm_ext_iff_of_nodup (SortedMap.nodup_of_ascending (ascending_tally items))
      (List.nodup_dedup _)]
    intro key
    rw [List.mem_dedup, List.mem_map]
    constructor
    · rintro ⟨entry, listed, rfl⟩
      exact (mem_tally.1 listed).1
    · intro present
      exact ⟨(key, (items.map facetKey).count key), mem_tally.2 ⟨present, rfl⟩, rfl⟩
  calc
    ((tally items).map Prod.snd).sum =
        (((items.map facetKey).dedup).map fun key => (items.map facetKey).count key).sum := by
      rw [counts]
      exact (keys.map _).sum_eq
    _ = (items.map facetKey).length := List.sum_map_count_dedup_eq_length _
    _ = items.length := List.length_map facetKey

theorem compareEntries_eq_lt_iff {a b : String × Nat} : compareEntries a b = .lt ↔ ComesFirst a b := by
  rw [compareEntries, Ordering.then_eq_lt, compare_lt_iff_lt, compare_eq_iff_eq, compare_lt_iff_lt, ComesFirst,
    eq_comm (a := b.2)]

theorem totalPreorderOn_count (p : String × Nat → Prop) :
    TotalPreorderOn (fun a b : String × Nat => compare b.2 a.2) p := by
  have counts : TotalPreorderOn (fun a b : Nat => compare b a) fun _ => True := .of_transCmp
  exact counts.comap Prod.snd fun _ _ => trivial

theorem totalPreorderOn_compareEntries (entries : List (String × Nat)) :
    TotalPreorderOn compareEntries (· ∈ entries) := by
  have keys : TotalPreorderOn (compare : String → String → Ordering) fun _ => True := .of_transCmp
  have byKey : TotalPreorderOn (fun a b : String × Nat => compare a.1 b.1) (· ∈ entries) :=
    keys.comap Prod.fst fun _ _ => trivial
  exact (totalPreorderOn_count _).thenBy byKey

theorem comesFirst_of_distinct {entries : List (String × Nat)} (distinct : (entries.map Prod.fst).Nodup)
    (ascending : entries.Pairwise fun a b => compareEntries a b ≠ .gt) : entries.Pairwise ComesFirst := by
  apply (ascending.and (List.pairwise_map.1 distinct)).imp
  intro a b both
  apply compareEntries_eq_lt_iff.1
  cases found : compareEntries a b with
  | lt => rfl
  | gt => exact absurd found both.1
  | eq =>
      rw [compareEntries, Ordering.then_eq_eq, compare_eq_iff_eq, compare_eq_iff_eq] at found
      exact absurd found.2 both.2

theorem comesFirst_asymm {a b : String × Nat} (first : ComesFirst a b) (second : ComesFirst b a) : a = b := by
  rcases first with more | ⟨equal, less⟩
  · rcases second with fewer | ⟨same, -⟩
    · omega
    · omega
  · rcases second with fewer | ⟨-, greater⟩
    · omega
    · exact absurd greater less.asymm

/-- Sorting by the counts alone puts entries in their order, as those of one count keep that of the keys. -/
theorem pairwise_sorted_tally (items : List Value) :
    (sorted (fun a b => a.2 > b.2) (tally items)).Pairwise ComesFirst := by
  have byCount := totalPreorderOn_count (· ∈ tally items)
  have comparison : (fun a b : String × Nat => decide (a.2 > b.2)) =
      fun a b => compare b.2 a.2 == .lt := by
    funext a b
    rw [Bool.eq_iff_iff, decide_eq_true_iff, beq_iff_eq, compare_lt_iff_lt]
  have falling := byCount.pairwise_sorted
  rw [← comparison] at falling
  rw [List.pairwise_iff_forall_sublist] at falling ⊢
  intro a b part
  have notMore : ¬ a.2 < b.2 := by
    rw [← compare_gt_iff_gt]
    exact falling part
  by_cases equal : a.2 = b.2
  · -- Entries of one count are those of the map in their order.
    have kept : (sorted (fun a b => a.2 > b.2) (tally items)).filter (·.2 == a.2) =
        (tally items).filter (·.2 == a.2) := by
      apply filter_sorted
      intro x _ y _ first second
      rw [beq_iff_eq] at first second
      rw [decide_eq_false_iff_not]
      omega
    have both : [a, b].filter (·.2 == a.2) = [a, b] := by simp [equal]
    have before : [a, b] <+ tally items := by
      calc
        [a, b] = [a, b].filter (·.2 == a.2) := both.symm
        _ <+ (sorted (fun a b => a.2 > b.2) (tally items)).filter (·.2 == a.2) := part.filter _
        _ = (tally items).filter (·.2 == a.2) := kept
        _ <+ tally items := List.filter_sublist
    exact .inr ⟨equal, List.pairwise_iff_forall_sublist.1 (ascending_tally items) before⟩
  · exact .inl (by omega)

theorem countsItems_fieldFacet (field : String) (rows : List Row) :
    CountsItems (fieldItems field rows) (fieldFacet field rows) := by
  have whole : fieldFacet field rows = sorted (fun a b => a.2 > b.2) (tally (fieldItems field rows)) := rfl
  generalize fieldItems field rows = items at whole
  have same : fieldFacet field rows ~ tally items := whole ▸ perm_sorted _
  have own : ∀ entry ∈ fieldFacet field rows, entry.1 ∈ items.map facetKey ∧
      entry.2 = (items.map facetKey).count entry.1 := fun entry listed => mem_tally.1 (same.subset listed)
  refine ⟨?_, ?_, ?_, ?_, ?_, ?_⟩
  · exact (same.map Prod.fst).nodup_iff.2 (SortedMap.nodup_of_ascending (ascending_tally items))
  · intro entry listed
    rw [(own entry listed).2, count_map_facetKey]
  · intro entry listed
    rw [(own entry listed).2]
    exact List.count_pos_iff.2 (own entry listed).1
  · intro item present
    have counted : (facetKey item, (items.map facetKey).count (facetKey item)) ∈ tally items :=
      mem_tally.2 ⟨List.mem_map_of_mem present, rfl⟩
    exact ⟨_, same.mem_iff.2 counted, rfl⟩
  · rw [(same.map Prod.snd).sum_eq, sum_tally]
  · rw [whole]
    exact pairwise_sorted_tally items

namespace CountsItems

variable {items others : List Value} {facet other : List (String × Nat)}

theorem mem_iff (counts : CountsItems items facet) {entry : String × Nat} :
    entry ∈ facet ↔ 0 < entry.2 ∧ entry.2 = items.countP fun item => facetKey item = entry.1 := by
  constructor
  · exact fun listed => ⟨counts.positive entry listed, counts.exact entry listed⟩
  · rintro ⟨positive, exact⟩
    rw [exact, List.countP_pos_iff] at positive
    obtain ⟨item, present, own⟩ := positive
    obtain ⟨found, listed, same⟩ := counts.complete item present
    have key : found.1 = entry.1 := same.trans (of_decide_eq_true own)
    have count : found.2 = entry.2 := by rw [counts.exact found listed, key, ← exact]
    rwa [← Prod.ext key count]

theorem nodup (counts : CountsItems items facet) : facet.Nodup := counts.distinct.of_map Prod.fst

theorem unique (counts : CountsItems items facet) (also : CountsItems items other) : other = facet := by
  have same : other ~ facet := by
    rw [List.perm_ext_iff_of_nodup also.nodup counts.nodup]
    exact fun entry => also.mem_iff.trans counts.mem_iff.symm
  exact same.eq_of_pairwise (fun a b _ _ => comesFirst_asymm) also.ordered counts.ordered

theorem of_perm (counts : CountsItems items facet) (same : items ~ others) : CountsItems others facet where
  distinct := counts.distinct
  exact entry listed := (counts.exact entry listed).trans (same.countP_eq _)
  positive := counts.positive
  complete item present := counts.complete item (same.mem_iff.2 present)
  total := counts.total.trans same.length_eq
  ordered := counts.ordered

end CountsItems

theorem find?_facetCounts {field contentField : String} {options : SearchOptions} {rows : List Row}
    {counts : FacetCounts} (answered : facetCounts contentField options rows = .ok counts)
    (listed : field ∈ options.facets) : counts.fields.find? field = some (fieldFacet field rows) := by
  unfold facetCounts at answered
  cases made : queryFacets contentField rows .empty options.queryFacets with
  | error e =>
      rw [made] at answered
      cases answered
  | ok queries =>
      rw [made] at answered
      cases answered
      exact (SortedMap.find?_foldl_insert _ _ _ _).trans (if_pos listed)

theorem fieldFacet_perm {field : String} {rows visited : List Row} (same : visited ~ rows) :
    fieldFacet field visited = fieldFacet field rows := by
  have items : fieldItems field visited ~ fieldItems field rows := same.flatMap_right _
  exact (countsItems_fieldFacet field rows).unique ((countsItems_fieldFacet field visited).of_perm items)

theorem sorted_entries {items : List Value} {facet entries : List (String × Nat)}
    (counts : CountsItems items facet) (same : entries ~ facet) :
    sorted (fun a b => compareEntries a b == .lt) entries = facet := by
  have order := totalPreorderOn_compareEntries entries
  have rearranged : sorted (fun a b => compareEntries a b == .lt) entries ~ facet :=
    (perm_sorted entries).trans same
  have distinct := (rearranged.map Prod.fst).nodup_iff.2 counts.distinct
  have ordered := comesFirst_of_distinct distinct order.pairwise_sorted
  exact rearranged.eq_of_pairwise (fun a b _ _ => comesFirst_asymm) ordered counts.ordered

theorem find?_respond {t : Table} {options : SearchOptions} {words : Option (List (List Char))}
    {matched : List Scored} {answer : RawResults} {field : String}
    (answered : t.respond options words matched = .ok answer) (listed : field ∈ options.facets) :
    answer.facets.fields.find? field = some (fieldFacet field (matched.map Scored.row)) := by
  unfold respond at answered
  simp only at answered
  cases made : facetCounts t.settings.contentField options
      ((sortMatches options.sortBy matched).map Scored.row) with
  | error e =>
      rw [made] at answered
      cases answered
  | ok counts =>
      rw [made] at answered
      cases answered
      rw [← fieldFacet_perm ((perm_sortMatches options.sortBy matched).map Scored.row)]
      exact find?_facetCounts made listed

/-- The facet of a field counts each key of its items and stands in a strict order, so it is the same
whatever order the rows are visited in, and whatever order the entries stand in before they are sorted. It is
what an answer has for the field. -/
theorem fieldFacet_counts (field : String) (rows : List Row) :
    CountsItems (fieldItems field rows) (fieldFacet field rows) ∧
      (∀ visited, visited ~ rows → fieldFacet field visited = fieldFacet field rows) ∧
      (∀ entries, entries ~ fieldFacet field rows →
        sorted (fun a b => compareEntries a b == .lt) entries = fieldFacet field rows) ∧
      ∀ (t : Table) options words matched answer, t.respond options words matched = .ok answer →
        matched.map Scored.row ~ rows → field ∈ options.facets →
          answer.facets.fields.find? field = some (fieldFacet field rows) := by
  have counts := countsItems_fieldFacet field rows
  refine ⟨counts, ?_, ?_, ?_⟩
  · intro visited same
    exact fieldFacet_perm same
  · intro entries same
    exact sorted_entries counts same
  · intro t options words matched answer answered same listed
    rw [find?_respond answered listed, fieldFacet_perm same]

def taggedNotes : List Row :=
  [⟨"1", "app.note", "text", .ofList [("tags", .list [.text "b", .list [.text "a", .text "b"]])], .empty⟩,
    ⟨"2", "app.note", "text", .empty, .ofList [("tags", .list [.text "a", .date springDay])]⟩]

theorem fieldFacet_counts_tagged :
    fieldFacet "tags" taggedNotes = [("a", 2), ("b", 2), ("2009-02-25T00:00:00Z", 1)] ∧
      fieldFacet "tags" taggedNotes.reverse = [("a", 2), ("b", 2), ("2009-02-25T00:00:00Z", 1)] ∧
      ((fieldFacet "tags" taggedNotes).map Prod.snd).sum = 5 := by
  obtain ⟨counts, visits, -⟩ := fieldFacet_counts "tags" taggedNotes
  have whole : fieldFacet "tags" taggedNotes = [("a", 2), ("b", 2), ("2009-02-25T00:00:00Z", 1)] := by
    decide
  have five : (fieldItems "tags" taggedNotes).length = 5 := by decide
  exact ⟨whole, (visits _ (List.reverse_perm taggedNotes)).trans whole, counts.total.trans five⟩

end Table

end RecordSearch
