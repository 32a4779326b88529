import Mathlib.Data.List.Infix
import RecordSearch.Proofs.ResultSet.Pages

/-!
Iterators over sets with hits that cannot be read. The caching iterator goes on past a page all of whose hits
were dropped; the one past the cache ends there, and so misses what is behind the page.
-/

namespace RecordSearch

def Hit.key {Obj : Type} (h : Hit Obj) : ModelType × String := (h.model, h.pk)

/-- None of the hits of a window can be read. -/
def Plan.DropsAll {Obj : Type} (p : Plan) (c : Connection Table Obj) (w : Nat × Nat) : Prop :=
  ∀ raw ∈ (p.answers c w.1 (some w.2)).results, Hit.ofRaw? c.registry c.settings raw = none

namespace Reading

variable {α : Type}

/-- What is shown up to the first page without items is all there is just if no page behind one without
items shows any. -/
theorem shown_takeWhile_eq_iff (page : Nat → Nat → List (Option α)) (windows : List (Nat × Nat)) :
    shown page (windows.takeWhile (hasItems page)) = shown page windows ↔
      windows.Pairwise fun v w => hasItems page v = false → existing (page w.1 w.2) = [] := by
  induction windows with
  | nil => exact ⟨fun _ => List.Pairwise.nil, fun _ => rfl⟩
  | cons v rest ih =>
      rw [List.takeWhile_cons, List.pairwise_cons, shown_cons]
      cases items : hasItems page v with
      | true =>
          rw [if_pos rfl, shown_cons, List.append_right_inj, ih]
          exact ⟨fun behind => ⟨fun _ _ gone => Bool.noConfusion gone, behind⟩, And.right⟩
      | false =>
          have empty : page v.1 v.2 = [] := by
            rw [hasItems, Bool.not_eq_false'] at items
            exact List.isEmpty_iff.1 items
          have nothing : existing (page v.1 v.2) = [] := by
            rw [empty]
            rfl
          rw [if_neg Bool.false_ne_true, nothing, List.nil_append]
          constructor
          · intro ended
            have none : ∀ w ∈ rest, existing (page w.1 w.2) = [] := List.flatMap_eq_nil_iff.1 ended.symm
            exact ⟨fun w listed _ => none w listed,
              List.pairwise_of_forall_mem_list fun _ _ w listed _ => none w listed⟩
          · rintro ⟨behind, -⟩
            have none : shown page rest = [] := List.flatMap_eq_nil_iff.2 fun w listed => behind w listed rfl
            exact none.symm

end Reading

namespace ResultSet

variable {Obj : Type}

theorem hasItems_page (s : ResultSet Obj) (c : Connection Table Obj) (w : Nat × Nat) :
    Reading.hasItems (s.page c) w = false ↔ s.plan.DropsAll c w := by
  have length : (s.page c w.1 w.2).length =
      ((s.plan.answers c w.1 (some w.2)).results.filterMap (Hit.ofRaw? c.registry c.settings)).length := by
    rw [page, s.fetch_eq (Connection.Alike.refl c), length_loadItems]
  rw [Reading.hasItems, Bool.not_eq_false', List.isEmpty_iff_length_eq_zero, length, List.length_eq_zero_iff,
    List.filterMap_eq_nil_iff, Plan.DropsAll]

theorem iter_eq_shown (s : ResultSet Obj) {c d : Connection Table Obj} (fresh : s.cache = .fresh)
    (alike : c.Alike d) :
    (s.iter d none).1 =
      Reading.shown (s.page c) (Reading.pageWindows s.pageSize (s.plan.found c).length) := by
  obtain ⟨values, -⟩ := Reading.iter_pages s.pageSize (s.steady_fetch c) alike
  rw [iter, iterAt, readWith, fresh]
  exact values

/-- Past the cache, an iterator gives the first of what the caching iterator over a fresh set gives. They give
the hits of the same documents just if a page that lost all its hits has only such behind it as show none. -/
theorem stream_eq_iter_iff (s : ResultSet Obj) (c : Connection Table Obj) (fresh : s.cache = .fresh) :
    (s.stream c none).1 <+: (s.iter c none).1 ∧
      ((s.stream c none).1.map Hit.key = (s.iter c none).1.map Hit.key ↔
        (Reading.pageWindows s.pageSize (s.plan.found c).length).Pairwise fun v w =>
          s.plan.DropsAll c v → existing (s.page c w.1 w.2) = []) := by
  obtain ⟨streamed, -⟩ := Reading.stream_pages s.pageSize (s.steady_fetch c) (Connection.Alike.refl c)
  have front : (s.stream c none).1 <+: (s.iter c none).1 := by
    rw [stream, streamed, s.iter_eq_shown fresh (Connection.Alike.refl c)]
    exact List.IsPrefix.flatMap (List.takeWhile_prefix _) _
  have same : (s.stream c none).1.map Hit.key = (s.iter c none).1.map Hit.key ↔
      (s.stream c none).1 = (s.iter c none).1 := by
    constructor
    · intro keys
      have length := congrArg List.length keys
      rw [List.length_map, List.length_map] at length
      exact front.eq_of_length length
    · exact congrArg (List.map Hit.key)
  refine ⟨front, ?_⟩
  rw [same, stream, streamed, s.iter_eq_shown fresh (Connection.Alike.refl c), Reading.shown_takeWhile_eq_iff]
  simp only [hasItems_page]

def strayNotes : Connection Table Nat where
  engine := ⟨.default, [{ noteRow "1" "Blue" with
    stored := .ofList [("model_type", .text "note"), ("model_pk", .text "1")] }, noteRow "2" "Red"]⟩
  settings := .default
  registry := ⟨[]⟩
  log := .ofEnabled false
  storeCalls := []

theorem stream_eq_iter_strayNotes :
    let s : ResultSet Nat := ⟨.addOrder .empty ["-title"], .of 1, .fresh, false, false, .empty⟩
    s.cache = .fresh ∧ (s.stream strayNotes none).1.map Hit.key = (s.iter strayNotes none).1.map Hit.key := by
  intro s
  refine ⟨rfl, (stream_eq_iter_iff s strayNotes rfl).2.2 ?_⟩
  have pages : Reading.pageWindows s.pageSize (s.plan.found strayNotes).length = [(0, 1), (1, 2)] := by
    decide
  have readable : Reading.hasItems (s.page strayNotes) (0, 1) = true := by decide
  rw [pages, List.pairwise_pair]
  intro dropped
  rw [(s.hasItems_page strayNotes (0, 1)).2 dropped] at readable
  cases readable

/-- Past the cache, an iterator may miss hits that the caching iterator gives. -/
theorem not_stream_eq_iter :
    ¬ ∀ (s : ResultSet Nat) (c : Connection Table Nat), s.cache = .fresh →
      (s.stream c none).1.map Hit.key = (s.iter c none).1.map Hit.key := by
  intro agree
  have same := agree ⟨.addOrder .empty ["title"], .of 1, .fresh, false, false, .empty⟩ strayNotes rfl
  rw [iter_eq_shown _ rfl (Connection.Alike.refl strayNotes)] at same
  revert same
  decide

end ResultSet

end RecordSearch
