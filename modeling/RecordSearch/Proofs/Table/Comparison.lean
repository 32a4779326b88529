import Mathlib
import RecordSearch.Proofs.Double.Order
import RecordSearch.Table.Order

/-!
What the sorting of rows compares. Values on one scale, as numbers, as instants or as the texts that show
them, stand in an order; values on several scales do not, as two on one scale may lie on both sides of the
text of a third.
-/

namespace RecordSearch

/-- A comparison puts what satisfies `p` in an order, up to elements that are equal in it. -/
structure TotalPreorderOn {α : Type} (cmp : α → α → Ordering) (p : α → Prop) : Prop where
  swap : ∀ a b, p a → p b → cmp b a = (cmp a b).swap
  trans : ∀ a b c, p a → p b → p c → cmp a b ≠ .gt → cmp b c ≠ .gt → cmp a c ≠ .gt

def missingLast {α : Type} (cmp : α → α → Ordering) : Option α → Option α → Ordering
  | some x, some y => cmp x y
  | some _, none => .lt
  | none, some _ => .gt
  | none, none => .eq

namespace TotalPreorderOn

section

variable {α β : Type} {cmp other : α → α → Ordering} {p : α → Prop}

theorem of_transCmp [Std.TransCmp cmp] : TotalPreorderOn cmp p where
  swap _ _ _ _ := Std.OrientedCmp.eq_swap
  trans a b c _ _ _ first second := by
    apply Ordering.ne_gt_iff_isLE.2
    exact Std.TransCmp.isLE_trans (Ordering.ne_gt_iff_isLE.1 first) (Ordering.ne_gt_iff_isLE.1 second)

theorem congr (order : TotalPreorderOn other p) (same : ∀ a b, p a → p b → cmp a b = other a b) :
    TotalPreorderOn cmp p where
  swap a b ha hb := by
    rw [same b a hb ha, same a b ha hb]
    exact order.swap a b ha hb
  trans a b c ha hb hc := by
    rw [same a b ha hb, same b c hb hc, same a c ha hc]
    exact order.trans a b c ha hb hc

theorem comap {q : β → Prop} (order : TotalPreorderOn cmp p) (f : β → α) (maps : ∀ b, q b → p (f b)) :
    TotalPreorderOn (fun a b => cmp (f a) (f b)) q where
  swap a b ha hb := order.swap (f a) (f b) (maps a ha) (maps b hb)
  trans a b c ha hb hc := order.trans (f a) (f b) (f c) (maps a ha) (maps b hb) (maps c hc)

theorem mono {q : α → Prop} (order : TotalPreorderOn cmp p) (fewer : ∀ a, q a → p a) :
    TotalPreorderOn cmp q :=
  order.comap id fewer

theorem reversed (order : TotalPreorderOn cmp p) : TotalPreorderOn (fun a b => cmp b a) p where
  swap a b ha hb := order.swap b a hb ha
  trans a b c ha hb hc first second := order.trans c b a hc hb ha second first

theorem eq_of_between (order : TotalPreorderOn cmp p) {a b c : α} (ha : p a) (hb : p b) (hc : p c)
    (first : cmp a b ≠ .gt) (second : cmp b c ≠ .gt) (same : cmp a c = .eq) :
    cmp a b = .eq ∧ cmp b c = .eq := by
  have back : cmp c a ≠ .gt := by
    rw [order.swap a c ha hc, same]
    decide
  have left := order.trans b c a hb hc ha second back
  have right := order.trans c a b hc ha hb back first
  rw [order.swap a b ha hb] at left
  rw [order.swap b c hb hc] at right
  constructor
  · cases found : cmp a b with
    | eq => rfl
    | gt => exact absurd found first
    | lt => rw [found] at left; exact absurd rfl left
  · cases found : cmp b c with
    | eq => rfl
    | gt => exact absurd found second
    | lt => rw [found] at right; exact absurd rfl right

theorem thenBy (order : TotalPreorderOn cmp p) (finer : TotalPreorderOn other p) :
    TotalPreorderOn (fun a b => (cmp a b).then (other a b)) p where
  swap a b ha hb := by
    rw [order.swap a b ha hb, finer.swap a b ha hb, Ordering.swap_then]
  trans a b c ha hb hc first second := by
    have before : ∀ o o' : Ordering, o.then o' ≠ .gt → o ≠ .gt := by
      rintro o o' kept rfl
      exact kept rfl
    have ab := before _ _ first
    have bc := before _ _ second
    cases found : cmp a c with
    | lt => rintro ⟨⟩
    | gt => exact absurd found (order.trans a b c ha hb hc ab bc)
    | eq =>
        obtain ⟨left, right⟩ := order.eq_of_between ha hb hc ab bc found
        rw [left] at first
        rw [right] at second
        exact finer.trans a b c ha hb hc first second

theorem missingLast (order : TotalPreorderOn cmp p) :
    TotalPreorderOn (missingLast cmp) (fun a => ∀ x ∈ a, p x) where
  swap a b ha hb := by
    cases a with
    | none => cases b <;> rfl
    | some x =>
        cases b with
        | none => rfl
        | some y => exact order.swap x y (ha x rfl) (hb y rfl)
  trans a b c ha hb hc first second := by
    cases c with
    | none => cases a <;> rintro ⟨⟩
    | some z =>
        cases b with
        | none => exact absurd rfl second
        | some y =>
            cases a with
            | none => exact absurd rfl first
            | some x => exact order.trans x y z (ha x rfl) (hb y rfl) (hc z rfl) first second

end

end TotalPreorderOn

namespace Value

inductive Scale where
  | display
  | number
  | time
  deriving DecidableEq

def scale : Value → Scale
  | integer _ | float _ => .number
  | date _ | dateTime _ => .time
  | null | text _ | boolean _ | list _ => .display

def isNaN : Value → Bool
  | float x => x.toFloat.isNaN
  | _ => false

section

variable {v : Value} {x : Float} {t : Calendar.DateTime}

theorem scale_of_float? (number : v.float? = some x) : v.scale = .number := by
  cases v with
  | integer n => rfl
  | float x => rfl
  | _ => cases number

theorem scale_of_dateTime? (instant : v.dateTime? = some t) : v.scale = .time := by
  cases v with
  | date d => rfl
  | dateTime t => rfl
  | _ => cases instant

theorem exists_float_of_scale (number : v.scale = .number) (real : v.isNaN = false) :
    ∃ x, v.float? = some x ∧ x.isNaN = false := by
  cases v with
  | integer n => exact ⟨_, rfl, Double.isNaN_nearestFloat n⟩
  | float x => exact ⟨_, rfl, real⟩
  | _ => cases number

theorem exists_dateTime_of_scale (instant : v.scale = .time) : ∃ t, v.dateTime? = some t := by
  cases v with
  | date d => exact ⟨_, rfl⟩
  | dateTime t => exact ⟨_, rfl⟩
  | _ => cases instant

end

end Value

namespace Table

open Value (Scale)

section

variable {a b : Value}

theorem compare_booleanText (x y : Bool) :
    compare x y = compare (Value.booleanText x) (Value.booleanText y) := by
  cases x <;> cases y <;> decide

theorem compareValues_display (numbers : a.scale = .number → b.scale ≠ .number)
    (instants : a.scale = .time → b.scale ≠ .time) :
    compareValues a b = compare a.display b.display := by
  unfold compareValues
  split
  · rfl
  · exact compare_booleanText _ _
  · split
    · rename_i first second
      exact absurd (Value.scale_of_float? second) (numbers (Value.scale_of_float? first))
    · split
      · rename_i first second
        exact absurd (Value.scale_of_dateTime? second) (instants (Value.scale_of_dateTime? first))
      · rfl

theorem compareValues_float {x y : Float} (first : a.float? = some x) (second : b.float? = some y) :
    compareValues a b = (Match.compareFloats? x y).getD .eq := by
  unfold compareValues
  split
  · cases first
  · cases first
  · rw [first, second]

theorem compareValues_dateTime {t u : Calendar.DateTime} (first : a.dateTime? = some t)
    (second : b.dateTime? = some u) : compareValues a b = compare t u := by
  unfold compareValues
  split
  · cases first
  · cases first
  · split
    · rename_i number _
      have apart := Value.scale_of_float? number
      rw [Value.scale_of_dateTime? first] at apart
      cases apart
    · rw [first, second]

end

theorem totalPreorderOn_number :
    TotalPreorderOn compareValues fun v => v.isNaN = false ∧ v.scale = .number := by
  have places : TotalPreorderOn Double.comparePlaces fun _ => True := .of_transCmp
  apply (places.comap (fun v : Value => Double.placeOf (v.float?.getD 0)) fun _ _ => trivial).congr
  rintro a b ⟨real, number⟩ ⟨otherReal, other⟩
  obtain ⟨x, first, finite⟩ := Value.exists_float_of_scale number real
  obtain ⟨y, second, otherFinite⟩ := Value.exists_float_of_scale other otherReal
  rw [compareValues_float first second, Double.compareFloats?_eq finite otherFinite, first, second]
  rfl

theorem totalPreorderOn_time :
    TotalPreorderOn compareValues fun v => v.isNaN = false ∧ v.scale = .time := by
  have ranks : TotalPreorderOn (compare : Int → Int → Ordering) fun _ => True := .of_transCmp
  apply (ranks.comap (fun v : Value => (v.dateTime?.map Calendar.DateTime.rank).getD 0)
    fun _ _ => trivial).congr
  rintro a b ⟨-, instant⟩ ⟨-, other⟩
  obtain ⟨t, first⟩ := Value.exists_dateTime_of_scale instant
  obtain ⟨u, second⟩ := Value.exists_dateTime_of_scale other
  rw [compareValues_dateTime first second, first, second]
  rfl

theorem totalPreorderOn_display :
    TotalPreorderOn compareValues fun v => v.isNaN = false ∧ v.scale = .display := by
  have texts : TotalPreorderOn (compare : String → String → Ordering) fun _ => True := .of_transCmp
  apply (texts.comap Value.display fun _ _ => trivial).congr
  rintro a b ⟨-, shown⟩ -
  apply compareValues_display
  · rw [shown]
    rintro ⟨⟩
  · rw [shown]
    rintro ⟨⟩

theorem totalPreorderOn_scale (scale : Scale) :
    TotalPreorderOn compareValues fun v => v.isNaN = false ∧ v.scale = scale := by
  cases scale with
  | display => exact totalPreorderOn_display
  | number => exact totalPreorderOn_number
  | time => exact totalPreorderOn_time

/-- Values that a comparison leads round in a circle. -/
def Circle (a b c : Value) : Prop :=
  compareValues a b ≠ .gt ∧ compareValues b c ≠ .gt ∧ compareValues a c = .gt

instance (a b c : Value) : Decidable (Circle a b c) := inferInstanceAs (Decidable (_ ∧ _ ∧ _))

theorem circle_number_display : Circle (.integer 10) (.text "5") (.integer 9) := by decide

def springDay : Calendar.Date := ⟨2009, 2, 25, by decide⟩

def farDay : Calendar.Date := ⟨10000, 2, 25, by decide⟩

theorem circle_time_display :
    Circle (.dateTime (.atMidnight springDay)) (.date springDay) (.text "2009-02-25") := by
  decide

theorem circle_time_number : Circle (.date farDay) (.integer (-5)) (.date springDay) := by
  decide

/-- On any two scales there are values that a comparison leads round in a circle. -/
theorem exists_circle {s t : Scale} (apart : s ≠ t) :
    ∃ a b c : Value, Circle a b c ∧ ∀ v ∈ [a, b, c], v.isNaN = false ∧ (v.scale = s ∨ v.scale = t) := by
  cases s with
  | display =>
      cases t with
      | display => exact absurd rfl apart
      | number => exact ⟨_, _, _, circle_number_display, by decide⟩
      | time => exact ⟨_, _, _, circle_time_display, by decide⟩
  | number =>
      cases t with
      | display => exact ⟨_, _, _, circle_number_display, by decide⟩
      | number => exact absurd rfl apart
      | time => exact ⟨_, _, _, circle_time_number, by decide⟩
  | time =>
      cases t with
      | display => exact ⟨_, _, _, circle_time_display, by decide⟩
      | number => exact ⟨_, _, _, circle_time_number, by decide⟩
      | time => exact absurd rfl apart

/-- Values stand in an order exactly if they are on one scale. -/
theorem totalPreorderOn_scales_iff (scales : Set Scale) :
    TotalPreorderOn compareValues (fun v => v.isNaN = false ∧ v.scale ∈ scales) ↔
      scales.Subsingleton := by
  constructor
  · intro order s listed t other
    by_contra apart
    obtain ⟨a, b, c, ⟨first, second, greater⟩, fine⟩ := exists_circle apart
    have there : ∀ v ∈ [a, b, c], v.isNaN = false ∧ v.scale ∈ scales := by
      intro v present
      obtain ⟨real, here | here⟩ := fine v present
      · exact ⟨real, here ▸ listed⟩
      · exact ⟨real, here ▸ other⟩
    exact order.trans a b c (there a (by simp)) (there b (by simp)) (there c (by simp)) first second greater
  · intro one
    rcases scales.eq_empty_or_nonempty with rfl | ⟨scale, listed⟩
    · exact ⟨fun a b ha _ => ha.2.elim, fun a b c ha _ _ => ha.2.elim⟩
    · exact (totalPreorderOn_scale scale).mono fun v present => ⟨present.1, one present.2 listed⟩

/-- Under each key, what the rows have is on one scale, and is a number where it is a float. -/
def OneScale (keys : List String) (rows : List Row) : Prop :=
  ∀ key ∈ keys, ∃ scale, ∀ r ∈ rows, ∀ v ∈ r.value? (sortKey key).1, v.isNaN = false ∧ v.scale = scale

def directed (key : String) (x y : Value) : Ordering :=
  if (sortKey key).2 then compareValues y x else compareValues x y

theorem compareBy_eq (key : String) (a b : Row) :
    compareBy key a b =
      missingLast (directed key) (a.value? (sortKey key).1) (b.value? (sortKey key).1) := by
  unfold compareBy directed
  cases sortKey key with
  | mk name descending =>
      change _ = missingLast _ (a.value? name) (b.value? name)
      dsimp only
      cases a.value? name <;> cases b.value? name <;> rfl

section

variable {key : String} {keys : List String} {rows : List Row}

theorem totalPreorderOn_compareBy {scale : Scale}
    (one : ∀ r ∈ rows, ∀ v ∈ r.value? (sortKey key).1, v.isNaN = false ∧ v.scale = scale) :
    TotalPreorderOn (compareBy key) (· ∈ rows) := by
  have values : TotalPreorderOn (directed key) fun v => v.isNaN = false ∧ v.scale = scale := by
    unfold directed
    cases (sortKey key).2 with
    | true => exact (totalPreorderOn_scale scale).reversed
    | false => exact totalPreorderOn_scale scale
  apply (values.missingLast.comap (fun r : Row => r.value? (sortKey key).1) one).congr
  exact fun a b _ _ => compareBy_eq key a b

theorem totalPreorderOn_compareRows (one : OneScale keys rows) :
    TotalPreorderOn (compareRows keys) (· ∈ rows) := by
  induction keys with
  | nil => exact ⟨fun _ _ _ _ => rfl, fun _ _ _ _ _ _ first _ => first⟩
  | cons key keys ih =>
      obtain ⟨scale, shared⟩ := one key List.mem_cons_self
      have others : OneScale keys rows := fun other listed => one other (List.mem_cons_of_mem key listed)
      exact (totalPreorderOn_compareBy shared).thenBy (ih others)

end

/-- Comparison puts the values of some scales in an order exactly if they are of one scale at most, and rows
in an order if under each key their values are of one. -/
theorem totalPreorderOn_comparisons (scales : Set Scale) (keys : List String) (rows : List Row) :
    (TotalPreorderOn compareValues (fun v => v.isNaN = false ∧ v.scale ∈ scales) ↔
      scales.Subsingleton) ∧
    (OneScale keys rows → TotalPreorderOn (compareRows keys) (· ∈ rows)) :=
  ⟨totalPreorderOn_scales_iff scales, totalPreorderOn_compareRows⟩

def shelf : List Row :=
  [⟨"1", "app.note", "text", .ofList [("title", .text "a fox")], .empty⟩,
    ⟨"2", "app.note", "text", .empty, .empty⟩,
    ⟨"3", "app.note", "text", .ofList [("title", .text "a dog")], .empty⟩]

theorem totalPreorderOn_comparisons_shelf :
    OneScale ["-title"] shelf ∧ TotalPreorderOn (compareRows ["-title"]) (· ∈ shelf) := by
  have one : OneScale ["-title"] shelf := by
    intro key listed
    rw [List.mem_singleton.1 listed]
    exact ⟨.display, by decide⟩
  exact ⟨one, (totalPreorderOn_comparisons {.display} ["-title"] shelf).2 one⟩

/-- Values of all kinds do not stand in an order, numbers that are none left out. -/
theorem not_totalPreorderOn_comparisons :
    ¬ ∀ a b c : Value, (∀ v ∈ [a, b, c], ∀ item ∈ v.scalars, item.isNaN = false) →
      compareValues a b ≠ .gt → compareValues b c ≠ .gt → compareValues a c ≠ .gt := by
  intro trans
  obtain ⟨first, second, greater⟩ := circle_number_display
  exact trans (.integer 10) (.text "5") (.integer 9) (by decide) first second greater

end Table

end RecordSearch
