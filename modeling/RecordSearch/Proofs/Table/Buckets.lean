import Mathlib
import RecordSearch.Proofs.Calendar.Step
import RecordSearch.Table.Facets

/-!
The buckets of a date facet follow one another from the start of the facet on, up to its end or that of the
calendar, and count each date between them once.
-/

namespace RecordSearch

open Calendar (DateTime)

structure TimeSpan where
  start : DateTime
  stop : DateTime
  deriving DecidableEq, Repr

def TimeSpan.holds (span : TimeSpan) (t : DateTime) : Bool := span.start ≤ t && t < span.stop

namespace DateFacet

/-- The spans of the buckets from `start` on, as long as stepping leads further. -/
def spansFrom (facet : DateFacet) (start : DateTime) : List TimeSpan :=
  if _ : start < facet.stop then
    match start.step? facet.unit facet.amount with
    | none => []
    | some next => if _ : start < next then ⟨start, next⟩ :: facet.spansFrom next else []
  else []
termination_by (facet.stop.rank - start.rank).toNat
decreasing_by
  have before : start.rank < facet.stop.rank := ‹start < facet.stop›
  have later : start.rank < next.rank := ‹start < next›
  omega

def spans (facet : DateFacet) : List TimeSpan := facet.spansFrom facet.start

/-- The end of the last bucket, or without any the start of the facet. -/
def finish (facet : DateFacet) : DateTime :=
  (facet.spans.getLast?.map TimeSpan.stop).getD facet.start

/-- The spans follow one another from `start` to `finish`, each begun before the end of the facet and as long
as its gap. They end when the facet does, or when no instant is a gap later. -/
inductive Follow (facet : DateFacet) : DateTime → List TimeSpan → DateTime → Prop where
  | done {finish : DateTime}
      (ends : facet.stop ≤ finish ∨ facet.amount = 0 ∨ finish.Leaves facet.unit facet.amount) :
      Follow facet finish [] finish
  | step {start next finish : DateTime} {later : List TimeSpan} (positive : facet.amount ≠ 0)
      (before : start < facet.stop) (further : start < next)
      (after : DateTime.IsAfter facet.unit facet.amount start next)
      (rest : Follow facet next later finish) : Follow facet start (⟨start, next⟩ :: later) finish

theorem exists_follow (facet : DateFacet) (start : DateTime) :
    ∃ finish, Follow facet start (facet.spansFrom start) finish := by
  fun_induction facet.spansFrom start with
  | case1 start before missing =>
      refine ⟨start, .done (.inr ?_)⟩
      by_cases nothing : facet.amount = 0
      · exact .inl nothing
      · exact .inr ((DateTime.step?_eq_none_iff nothing).1 missing)
  | case2 start before next stepped later ih =>
      obtain ⟨finish, rest⟩ := ih
      have positive : facet.amount ≠ 0 := by
        intro nothing
        rw [nothing, DateTime.step?_zero] at stepped
        cases stepped
        exact Int.lt_irrefl _ later
      exact ⟨finish, .step positive before later (DateTime.isAfter_of_step? positive stepped) rest⟩
  | case3 start before next stepped stuck =>
      -- Every step of one unit or more leads further.
      refine ⟨start, .done (.inr (.inl ?_))⟩
      by_contra positive
      exact stuck (DateTime.lt_of_isAfter positive (DateTime.isAfter_of_step? positive stepped))
  | case4 start ended => exact ⟨start, .done (.inl (Int.not_lt.1 ended))⟩

namespace Follow

variable {facet : DateFacet} {start finish : DateTime} {between : List TimeSpan}

theorem le_finish (follow : Follow facet start between finish) : start ≤ finish := by
  induction follow with
  | done _ => exact Int.le_refl _
  | step positive before further after rest ih => exact Int.le_of_lt (Int.lt_of_lt_of_le further ih)

theorem le_start (follow : Follow facet start between finish) : ∀ span ∈ between, start ≤ span.start := by
  induction follow with
  | done _ => exact List.forall_mem_nil _
  | step positive before further after rest ih =>
      intro span listed
      rcases List.mem_cons.1 listed with rfl | there
      · exact Int.le_refl _
      · exact Int.le_of_lt (Int.lt_of_lt_of_le further (ih span there))

theorem rising (follow : Follow facet start between finish) :
    (between.map TimeSpan.start).Pairwise (· < ·) := by
  induction follow with
  | done _ => exact .nil
  | step positive before further after rest ih =>
      refine List.pairwise_cons.2 ⟨fun t listed => ?_, ih⟩
      obtain ⟨span, there, rfl⟩ := List.mem_map.1 listed
      exact Int.lt_of_lt_of_le further (rest.le_start span there)

theorem start_of_head? (follow : Follow facet start between finish) {span : TimeSpan}
    (first : between.head? = some span) : span.start = start := by
  cases follow with
  | done _ => cases first
  | step positive before further after rest =>
      cases first
      rfl

theorem joined (follow : Follow facet start between finish) :
    between.IsChain fun span next => span.stop = next.start := by
  induction follow with
  | done _ => exact .nil
  | step positive before further after rest ih =>
      refine List.isChain_cons.2 ⟨fun next first => ?_, ih⟩
      exact (rest.start_of_head? first).symm

theorem of_mem (follow : Follow facet start between finish) : ∀ span ∈ between, span.start < facet.stop ∧
    span.start < span.stop ∧ DateTime.IsAfter facet.unit facet.amount span.start span.stop := by
  induction follow with
  | done _ => exact List.forall_mem_nil _
  | step positive before further after rest ih =>
      exact List.forall_mem_cons.2 ⟨⟨before, further, after⟩, ih⟩

theorem finish_eq (follow : Follow facet start between finish) :
    (between.getLast?.map TimeSpan.stop).getD start = finish := by
  induction follow with
  | done _ => rfl
  | @step start next finish later positive before further after rest ih =>
      rw [List.getLast?_cons, ← ih]
      cases later.getLast? <;> rfl

theorem ends (follow : Follow facet start between finish) :
    facet.stop ≤ finish ∨ facet.amount = 0 ∨ finish.Leaves facet.unit facet.amount := by
  induction follow with
  | done ends => exact ends
  | step positive before further after rest ih => exact ih

theorem eq_nil (follow : Follow facet start between finish)
    (nothing : facet.stop ≤ start ∨ facet.amount = 0) : between = [] := by
  cases follow with
  | done _ => rfl
  | step positive before further after rest =>
      rcases nothing with ended | zero
      · exact absurd before (Int.not_lt.2 ended)
      · exact absurd zero positive

theorem length_le (follow : Follow facet start between finish) :
    between.length ≤ (facet.stop.rank - start.rank).toNat := by
  induction follow with
  | done _ => exact Nat.zero_le _
  | step positive before further after rest ih =>
      rw [DateTime.lt_iff] at before further
      rw [List.length_cons]
      omega

theorem countP_holds (follow : Follow facet start between finish) (t : DateTime) :
    between.countP (fun span => span.holds t) = if (TimeSpan.mk start finish).holds t then 1 else 0 := by
  induction follow with
  | @done finish _ =>
      have outside : ¬ (TimeSpan.mk finish finish).holds t := by
        simp only [TimeSpan.holds, Bool.and_eq_true, decide_eq_true_eq]
        exact fun both => Int.not_lt.2 both.1 both.2
      rw [if_neg outside, List.countP_nil]
  | step positive before further after rest ih =>
      have onward := DateTime.le_iff.1 rest.le_finish
      rw [DateTime.lt_iff] at further
      rw [List.countP_cons, ih]
      simp only [TimeSpan.holds, Bool.and_eq_true, decide_eq_true_eq, DateTime.le_iff, DateTime.lt_iff]
      split_ifs <;> omega

end Follow

theorem follow_spans (facet : DateFacet) : Follow facet facet.start facet.spans facet.finish := by
  obtain ⟨last, follow⟩ := facet.exists_follow facet.start
  have same : facet.finish = last := follow.finish_eq
  rwa [same]

/-- What the spans of the buckets of a facet are to be: few, in order, joined, each a gap long, and going on
until the end of the facet or of the calendar. -/
structure Tiles (facet : DateFacet) (between : List TimeSpan) (finish : DateTime) : Prop where
  few : between.length ≤ (facet.stop.rank - facet.start.rank).toNat
  rising : (between.map TimeSpan.start).Pairwise (· < ·)
  before : ∀ span ∈ between, span.start < facet.stop
  first : ∀ span ∈ between.head?, span.start = facet.start
  joined : between.IsChain fun span next => span.stop = next.start
  gaps : ∀ span ∈ between, span.start < span.stop ∧
    DateTime.IsAfter facet.unit facet.amount span.start span.stop
  nothing : facet.stop ≤ facet.start ∨ facet.amount = 0 → between = []
  last : (between.getLast?.map TimeSpan.stop).getD facet.start = finish
  reaches : facet.stop ≤ finish ∨ facet.amount = 0 ∨ finish.Leaves facet.unit facet.amount

theorem tiles_spans (facet : DateFacet) : Tiles facet facet.spans facet.finish := by
  have follow := facet.follow_spans
  exact {
    few := follow.length_le
    rising := follow.rising
    before := fun span listed => (follow.of_mem span listed).1
    first := fun span head => follow.start_of_head? head
    joined := follow.joined
    gaps := fun span listed => (follow.of_mem span listed).2
    nothing := follow.eq_nil
    last := rfl
    reaches := follow.ends }

end DateFacet

namespace Table

def bucket (field : String) (rows : List Row) (span : TimeSpan) : String × Nat :=
  (bucketLabel span.start, rows.countP (inBucket field span.start span.stop))

theorem buckets_eq_map (facet : DateFacet) (field : String) (rows : List Row) (start : DateTime) :
    buckets facet field rows start = (facet.spansFrom start).map (bucket field rows) := by
  fun_induction buckets facet field rows start with
  | case1 start before missing =>
      rw [DateFacet.spansFrom, dif_pos before]
      simp only [missing, List.map_nil]
  | case2 start before next stepped later ih =>
      rw [DateFacet.spansFrom, dif_pos before]
      simp only [stepped, dif_pos later, List.map_cons, ih]
      rfl
  | case3 start before next stepped stuck =>
      rw [DateFacet.spansFrom, dif_pos before]
      simp only [stepped, dif_neg stuck, List.map_nil]
  | case4 start ended =>
      rw [DateFacet.spansFrom, dif_neg ended]
      rfl

def instant? (field : String) (r : Row) : Option DateTime :=
  match fieldItems field [r] with
  | [v] => v.dateTime?
  | _ => none

def datedWithin (field : String) (span : TimeSpan) (r : Row) : Bool := (instant? field r).any span.holds

def hasSeveral (field : String) (r : Row) : Bool := 1 < (fieldItems field [r]).length

/-- The number of spans in whose buckets a row is counted. -/
def countings (field : String) (between : List TimeSpan) (r : Row) : Nat :=
  between.countP fun span => inBucket field span.start span.stop r

theorem inBucket_eq_any (field : String) (span : TimeSpan) (r : Row) :
    inBucket field span.start span.stop r =
      (fieldItems field [r]).any fun item => item.dateTime?.any span.holds := by
  rw [inBucket, fieldItems, List.flatMap_singleton]
  cases r.value? field with
  | none => rfl
  | some v =>
      apply congrArg (fun test => v.scalars.any test)
      funext item
      cases item.dateTime? <;> rfl

variable {field : String} {r : Row}

theorem inBucket_of_single (single : hasSeveral field r = false) (span : TimeSpan) :
    inBucket field span.start span.stop r = datedWithin field span r := by
  rw [hasSeveral, decide_eq_false_iff_not] at single
  rw [inBucket_eq_any, datedWithin, instant?]
  generalize fieldItems field [r] = items at single
  match items with
  | [] => rfl
  | [v] => exact Bool.or_false _
  | _ :: _ :: _ => simp at single

theorem datedWithin_of_several (several : hasSeveral field r = true) (span : TimeSpan) :
    datedWithin field span r = false := by
  rw [hasSeveral, decide_eq_true_eq] at several
  rw [datedWithin, instant?]
  generalize fieldItems field [r] = items at several
  match items with
  | [] => rfl
  | [v] => simp at several
  | _ :: _ :: _ => rfl

theorem countings_of_single {facet : DateFacet} {start finish : DateTime} {between : List TimeSpan}
    (follow : facet.Follow start between finish) (single : hasSeveral field r = false) :
    countings field between r = if datedWithin field ⟨start, finish⟩ r then 1 else 0 := by
  have once : ∀ found : Option DateTime, between.countP (fun span => found.any span.holds) =
      if found.any (TimeSpan.mk start finish).holds then 1 else 0 := by
    intro found
    cases found with
    | none => simp
    | some t => exact follow.countP_holds t
  simp only [countings, inBucket_of_single single]
  exact once (instant? field r)

theorem sum_countP_cons (field : String) (between : List TimeSpan) (r : Row) (rows : List Row) :
    (between.map fun span => (r :: rows).countP (inBucket field span.start span.stop)).sum =
      countings field between r +
        (between.map fun span => rows.countP (inBucket field span.start span.stop)).sum := by
  induction between with
  | nil => rfl
  | cons span between ih =>
      rw [List.map_cons, List.sum_cons, ih, List.map_cons, List.sum_cons, List.countP_cons, countings,
        countings, List.countP_cons]
      omega

/-- All counts together are those of the rows with one date between the start and the finish, and those of
the rows with several values. -/
theorem sum_countP_eq {facet : DateFacet} {start finish : DateTime} {between : List TimeSpan}
    (follow : facet.Follow start between finish) (field : String) (rows : List Row) :
    (between.map fun span => rows.countP (inBucket field span.start span.stop)).sum =
      rows.countP (datedWithin field ⟨start, finish⟩) +
        ((rows.filter (hasSeveral field)).map (countings field between)).sum := by
  induction rows with
  | nil => simp
  | cons r rows ih =>
      rw [sum_countP_cons, ih, List.countP_cons]
      cases several : hasSeveral field r with
      | true =>
          rw [List.filter_cons_of_pos several, List.map_cons, List.sum_cons, datedWithin_of_several several]
          simp only [Bool.false_eq_true, if_false]
          omega
      | false =>
          rw [List.filter_cons_of_neg (by simp [several]), countings_of_single follow several]
          omega

/-- The buckets of a date facet tile the time from its start on. Of the rows with at most one value in the
field, each with a date before the end of the last bucket is counted in one of them, and any other in none,
so that the counts add up to the number of such rows where no row has several values. -/
theorem buckets_tile (facet : DateFacet) :
    facet.Tiles facet.spans facet.finish ∧
      ∀ (field : String) (rows : List Row),
        buckets facet field rows facet.start = facet.spans.map (bucket field rows) ∧
        (∀ r ∈ rows, hasSeveral field r = false → countings field facet.spans r =
          if datedWithin field ⟨facet.start, facet.finish⟩ r then 1 else 0) ∧
        ((buckets facet field rows facet.start).map Prod.snd).sum =
          rows.countP (datedWithin field ⟨facet.start, facet.finish⟩) +
            ((rows.filter (hasSeveral field)).map (countings field facet.spans)).sum := by
  have follow := facet.follow_spans
  refine ⟨facet.tiles_spans, fun field rows => ⟨buckets_eq_map facet field rows facet.start,
    fun r _ single => countings_of_single follow single, ?_⟩⟩
  rw [buckets_eq_map, List.map_map]
  exact sum_countP_eq follow field rows

def winter : DateFacet where
  start := .atMidnight ⟨2009, 1, 31, by decide⟩
  stop := .atMidnight ⟨2009, 4, 1, by decide⟩
  unit := .month
  amount := 1

def onDay (identity : String) (day : Value) : Row :=
  ⟨identity, "app.note", "text", .ofList [("day", day)], .empty⟩

def lastOfFebruary : Row := onDay "1" (.date ⟨2009, 2, 28, by decide⟩)

theorem buckets_tile_winter :
    hasSeveral "day" lastOfFebruary = false ∧ countings "day" winter.spans lastOfFebruary = 1 ∧
      ((buckets winter "day" [lastOfFebruary] winter.start).map Prod.snd).sum = 1 ∧
      winter.stop ≤ winter.finish := by
  have ends : winter.finish = .atMidnight ⟨2009, 4, 28, by decide⟩ := by decide +kernel
  have single : hasSeveral "day" lastOfFebruary = false := by decide
  have within : datedWithin "day" ⟨winter.start, winter.finish⟩ lastOfFebruary = true := by
    rw [ends]
    decide
  obtain ⟨-, counts⟩ := buckets_tile winter
  obtain ⟨-, each, whole⟩ := counts "day" [lastOfFebruary]
  have once := each lastOfFebruary List.mem_cons_self single
  rw [if_pos within] at once
  refine ⟨single, once, ?_, by rw [ends]; decide⟩
  rw [whole, List.countP_cons_of_pos within, List.countP_nil, List.filter_cons_of_neg (by simp [single])]
  rfl

end Table

end RecordSearch
