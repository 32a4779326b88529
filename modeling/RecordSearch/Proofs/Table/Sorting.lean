import RecordSearch.Proofs.Table.Comparison
import RecordSearch.Proofs.Table.Hits

/-!
Sorting by fields. Rows whose values under each key are of one kind come in the order of the keys, those
without a value behind those with one, and rows that no key tells apart stay as they stood.
-/

namespace RecordSearch

open scoped List

open Sorting (OrdersOn sorted sorts_sorted perm_sorted)

namespace TotalPreorderOn

variable {α : Type} {cmp : α → α → Ordering} {p : α → Prop} {s : List α}

theorem not_lt_iff (order : TotalPreorderOn cmp p) {a b : α} (ha : p a) (hb : p b) :
    (cmp b a == .lt) = false ↔ cmp a b ≠ .gt := by
  rw [order.swap a b ha hb, beq_eq_false_iff_ne, ne_eq, Ordering.swap_eq_lt]

theorem ordersOn (order : TotalPreorderOn cmp p) : OrdersOn (fun a b => cmp a b == .lt) p := by
  refine ⟨fun {a b} ha hb less => ?_, fun {a b c} ha hb hc first second => ?_⟩
  · rw [order.not_lt_iff ha hb, eq_of_beq less]
    decide
  · rw [order.not_lt_iff ha hb] at first
    rw [order.not_lt_iff hb hc] at second
    rw [order.not_lt_iff ha hc]
    exact order.trans a b c ha hb hc first second

theorem pairwise_sorted (order : TotalPreorderOn cmp (· ∈ s)) :
    (sorted (fun a b => cmp a b == .lt) s).Pairwise fun a b => cmp a b ≠ .gt := by
  apply (sorts_sorted order.ordersOn fun _ there => there).ascending.imp_of_mem
  exact fun ha hb => (order.not_lt_iff ((perm_sorted s).subset ha) ((perm_sorted s).subset hb)).1

theorem sublist_sorted (order : TotalPreorderOn cmp (· ∈ s)) {tied : List α} (part : tied <+ s)
    (equal : ∀ a ∈ tied, ∀ b ∈ tied, cmp a b ≠ .lt) :
    tied <+ sorted (fun a b => cmp a b == .lt) s :=
  (sorts_sorted order.ordersOn fun _ there => there).sublist (fun _ there => there) part
    fun a ha b hb => beq_eq_false_iff_ne.2 (equal a ha b hb)

end TotalPreorderOn

namespace Value

/-- The kinds of values that have an order of their own; a day is an instant, its midnight. -/
inductive Kind where
  | text
  | boolean
  | instant
  deriving DecidableEq

def kind? : Value → Option Kind
  | text _ => some .text
  | boolean _ => some .boolean
  | date _ | dateTime _ => some .instant
  | null | integer _ | float _ | list _ => none

inductive Before : Value → Value → Prop where
  | text {s t : String} : s < t → Before (.text s) (.text t)
  | boolean : Before (.boolean false) (.boolean true)
  | instant {a b : Value} {t u : Calendar.DateTime} :
      a.dateTime? = some t → b.dateTime? = some u → t < u → Before a b

section

variable {v a b : Value} {t u : Calendar.DateTime}

theorem exists_text_of_kind (kind : v.kind? = some .text) : ∃ s, v = .text s := by
  cases v with
  | text s => exact ⟨s, rfl⟩
  | _ => cases kind

theorem exists_boolean_of_kind (kind : v.kind? = some .boolean) : ∃ b, v = .boolean b := by
  cases v with
  | boolean b => exact ⟨b, rfl⟩
  | _ => cases kind

theorem exists_dateTime_of_kind (kind : v.kind? = some .instant) : ∃ t, v.dateTime? = some t := by
  cases v with
  | date d => exact ⟨_, rfl⟩
  | dateTime t => exact ⟨_, rfl⟩
  | _ => cases kind

theorem before_text_iff {s t : String} : Before (.text s) (.text t) ↔ s < t := by
  constructor
  · intro before
    cases before with
    | text less => exact less
    | instant first => cases first
  · exact .text

theorem before_boolean_iff {x y : Bool} : Before (.boolean x) (.boolean y) ↔ x = false ∧ y = true := by
  constructor
  · intro before
    cases before with
    | boolean => exact ⟨rfl, rfl⟩
    | instant first => cases first
  · rintro ⟨rfl, rfl⟩
    exact .boolean

theorem before_instant_iff (first : a.dateTime? = some t) (second : b.dateTime? = some u) :
    Before a b ↔ t < u := by
  constructor
  · intro before
    cases before with
    | text => cases first
    | boolean => cases first
    | instant own other less =>
        cases first.symm.trans own
        cases second.symm.trans other
        exact less
  · exact .instant first second

end

theorem exists_scale (kind : Kind) :
    ∃ scale, ∀ v : Value, v.kind? = some kind → v.isNaN = false ∧ v.scale = scale := by
  cases kind with
  | text =>
      refine ⟨.display, fun v found => ?_⟩
      obtain ⟨s, rfl⟩ := exists_text_of_kind found
      exact ⟨rfl, rfl⟩
  | boolean =>
      refine ⟨.display, fun v found => ?_⟩
      obtain ⟨b, rfl⟩ := exists_boolean_of_kind found
      exact ⟨rfl, rfl⟩
  | instant =>
      refine ⟨.time, fun v found => ?_⟩
      cases v with
      | date d => exact ⟨rfl, rfl⟩
      | dateTime t => exact ⟨rfl, rfl⟩
      | _ => cases found

end Value

namespace Table

open Value (Kind Before)

theorem compareValues_eq_lt_iff {a b : Value} {kind : Kind} (first : a.kind? = some kind)
    (second : b.kind? = some kind) : compareValues a b = .lt ↔ Before a b := by
  cases kind with
  | text =>
      obtain ⟨s, rfl⟩ := Value.exists_text_of_kind first
      obtain ⟨t, rfl⟩ := Value.exists_text_of_kind second
      rw [Value.before_text_iff]
      exact compare_lt_iff_lt
  | boolean =>
      obtain ⟨x, rfl⟩ := Value.exists_boolean_of_kind first
      obtain ⟨y, rfl⟩ := Value.exists_boolean_of_kind second
      rw [Value.before_boolean_iff]
      change compare x y = .lt ↔ _
      cases x <;> cases y <;> decide
  | instant =>
      obtain ⟨t, whenA⟩ := Value.exists_dateTime_of_kind first
      obtain ⟨u, whenB⟩ := Value.exists_dateTime_of_kind second
      rw [compareValues_dateTime whenA whenB, Value.before_instant_iff whenA whenB]
      change compare t.rank u.rank = .lt ↔ t.rank < u.rank
      exact compare_lt_iff_lt

inductive Names : String → String → Bool → Prop where
  | ascending {name : String} : ¬ ['-'] <+: name.toList → Names name name false
  | descending {name : String} : Names ("-" ++ name) name true

theorem sortKey_dash (name : String) : sortKey ("-" ++ name) = (name, true) := by
  have pieces : ("-" ++ name).toList = '-' :: name.toList := by
    rw [String.toList_append]
    rfl
  rw [sortKey, pieces]
  simp

theorem sortKey_plain {name : String} (plain : ¬ ['-'] <+: name.toList) : sortKey name = (name, false) := by
  unfold sortKey
  split
  · rename_i pieces
    rw [pieces] at plain
    exact absurd (List.prefix_append ['-'] _) plain
  · rfl

theorem names_iff {key name : String} {down : Bool} : Names key name down ↔ sortKey key = (name, down) := by
  have names : Names key (sortKey key).1 (sortKey key).2 := by
    by_cases dash : ['-'] <+: key.toList
    · obtain ⟨rest, whole⟩ := dash
      have written : key = "-" ++ String.ofList rest := by
        simp [← String.toList_inj, ← whole]
      rw [written, sortKey_dash]
      exact .descending
    · rw [sortKey_plain dash]
      exact .ascending dash
  constructor
  · intro named
    cases named with
    | ascending plain => exact sortKey_plain plain
    | descending => exact sortKey_dash name
  · intro read
    rwa [read] at names

/-- A row comes before another by one sort key: by what both have, in the direction of the key, or as only
the first has anything. -/
inductive Leads (key : String) (a b : Row) : Prop where
  | ascending {name : String} {x y : Value} : Names key name false →
      a.value? name = some x → b.value? name = some y → Before x y → Leads key a b
  | descending {name : String} {x y : Value} : Names key name true →
      a.value? name = some x → b.value? name = some y → Before y x → Leads key a b
  | present {name : String} {down : Bool} {x : Value} : Names key name down →
      a.value? name = some x → b.value? name = none → Leads key a b

/-- A row comes before another: by the first key that tells them apart. -/
def Comes (keys : List String) (a b : Row) : Prop :=
  ∃ before key after, keys = before ++ key :: after ∧
    (∀ earlier ∈ before, ¬ Leads earlier a b ∧ ¬ Leads earlier b a) ∧ Leads key a b

/-- Under each key, what the rows have is of one kind. -/
def OneKind (keys : List String) (rows : List Row) : Prop :=
  ∀ key ∈ keys, ∃ kind, ∀ name down, Names key name down →
    ∀ r ∈ rows, ∀ v ∈ r.value? name, v.kind? = some kind

section

variable {key : String} {keys : List String} {rows : List Row} {a b : Row}

theorem not_comes_nil : ¬ Comes [] a b := by
  rintro ⟨before, key, after, whole, -, -⟩
  exact List.append_ne_nil_of_right_ne_nil before (List.cons_ne_nil key after) whole.symm

theorem comes_cons : Comes (key :: keys) a b ↔
    Leads key a b ∨ (¬ Leads key a b ∧ ¬ Leads key b a) ∧ Comes keys a b := by
  constructor
  · rintro ⟨before, other, after, whole, tied, leads⟩
    cases before with
    | nil =>
        cases whole
        exact .inl leads
    | cons first before =>
        cases whole
        exact .inr ⟨tied key List.mem_cons_self, before, other, after, rfl,
          fun earlier there => tied earlier (List.mem_cons_of_mem key there), leads⟩
  · rintro (leads | ⟨apart, before, other, after, rfl, tied, leads⟩)
    · exact ⟨[], key, keys, rfl, nofun, leads⟩
    · exact ⟨key :: before, other, after, rfl, List.forall_mem_cons.2 ⟨apart, tied⟩, leads⟩

theorem OneKind.oneScale (one : OneKind keys rows) : OneScale keys rows := by
  intro key listed
  obtain ⟨kind, shared⟩ := one key listed
  obtain ⟨scale, own⟩ := Value.exists_scale kind
  exact ⟨scale, fun r there v present => own v (shared _ _ (names_iff.2 rfl) r there v present)⟩

theorem compareBy_eq_lt_iff {kind : Kind} {name : String} {down : Bool} (named : Names key name down)
    (first : ∀ v ∈ a.value? name, v.kind? = some kind) (second : ∀ v ∈ b.value? name, v.kind? = some kind) :
    compareBy key a b = .lt ↔ Leads key a b := by
  have read := names_iff.1 named
  rw [compareBy_eq, read]
  constructor
  · intro less
    cases foundA : a.value? name with
    | none => cases foundB : b.value? name <;> simp [foundA, foundB, missingLast] at less
    | some x =>
        cases foundB : b.value? name with
        | none => exact .present named foundA foundB
        | some y =>
            simp only [foundA, foundB, missingLast, directed, read] at less
            cases down with
            | true =>
                have before := (compareValues_eq_lt_iff (second y foundB) (first x foundA)).1 less
                exact .descending named foundA foundB before
            | false =>
                have before := (compareValues_eq_lt_iff (first x foundA) (second y foundB)).1 less
                exact .ascending named foundA foundB before
  · intro leads
    cases leads with
    | ascending own foundA foundB before =>
        cases read.symm.trans (names_iff.1 own)
        simp only [foundA, foundB, missingLast, directed, read]
        exact (compareValues_eq_lt_iff (first _ foundA) (second _ foundB)).2 before
    | descending own foundA foundB before =>
        cases read.symm.trans (names_iff.1 own)
        simp only [foundA, foundB, missingLast, directed, read]
        exact (compareValues_eq_lt_iff (second _ foundB) (first _ foundA)).2 before
    | present own foundA foundB =>
        cases read.symm.trans (names_iff.1 own)
        simp only [foundA, foundB, missingLast]

/-- Rows whose values are of one kind under each key are compared by what comes first. -/
theorem compareRows_eq_lt_iff (one : OneKind keys rows) (ha : a ∈ rows) (hb : b ∈ rows) :
    compareRows keys a b = .lt ↔ Comes keys a b := by
  induction keys with
  | nil =>
      constructor
      · rintro ⟨⟩
      · exact fun comes => absurd comes not_comes_nil
  | cons key keys ih =>
      have order : TotalPreorderOn (compareBy key) (· ∈ rows) := by
        obtain ⟨scale, own⟩ := one.oneScale key List.mem_cons_self
        exact totalPreorderOn_compareBy own
      obtain ⟨kind, shared⟩ := one key List.mem_cons_self
      have named : Names key _ _ := names_iff.2 rfl
      have up := compareBy_eq_lt_iff named (shared _ _ named a ha) (shared _ _ named b hb)
      have down := compareBy_eq_lt_iff named (shared _ _ named b hb) (shared _ _ named a ha)
      have others := ih fun other listed => one other (List.mem_cons_of_mem key listed)
      rw [order.swap a b ha hb, Ordering.swap_eq_lt] at down
      rw [comes_cons, ← others, ← up, ← down, compareRows]
      cases compareBy key a b <;> simp

end

/-- Where under each key the values are of one scale, sorting does not break off. -/
theorem sortMatches?_eq {keys : List String} {matched : List Scored} (given : keys ≠ [])
    (one : OneScale keys (matched.map Scored.row)) :
    sortMatches? keys matched = some (sorted (fun a b => compareRows keys a.row b.row == .lt) matched) := by
  have order : TotalPreorderOn (fun a b : Scored => compareRows keys a.row b.row) (· ∈ matched) :=
    (totalPreorderOn_compareRows one).comap Scored.row fun m there => List.mem_map_of_mem there
  rw [sortMatches?, if_neg (mt List.isEmpty_iff.1 given)]
  exact Sorting.stable?_eq order.ordersOn fun m there => there

theorem isSome_sortMatches?_of_length_le {keys : List String} {matched : List Scored}
    (few : matched.length ≤ 20) : (sortMatches? keys matched).isSome := by
  unfold sortMatches?
  split
  · rw [Sorting.stable?_of_length_le few, Option.isSome_some]
  · rw [Sorting.stable?_of_length_le few, Option.isSome_some]

/-- Sorting by fields permutes the rows if it ends, as it does with few rows and with values of one scale under
each key. If these are of one kind, the rows come in the order of the keys, and rows that no key tells apart keep
their order. -/
theorem sortMatches_by_fields (keys : List String) (matched : List Scored) (given : keys ≠ []) :
    (∀ rows, sortMatches? keys matched = some rows → rows ~ matched) ∧
      (matched.length ≤ 20 ∨ OneScale keys (matched.map Scored.row) → (sortMatches? keys matched).isSome) ∧
      (OneKind keys (matched.map Scored.row) →
        ∃ rows, sortMatches? keys matched = some rows ∧ rows ~ matched ∧
          rows.Pairwise (fun a b => ¬ Comes keys b.row a.row) ∧
          ∀ tied, tied <+ matched → (∀ a ∈ tied, ∀ b ∈ tied, ¬ Comes keys a.row b.row) → tied <+ rows) := by
  refine ⟨fun rows => perm_of_sortMatches?, ?_, fun one => ?_⟩
  · rintro (few | one)
    · exact isSome_sortMatches?_of_length_le few
    · rw [sortMatches?_eq given one, Option.isSome_some]
  · have own : ∀ m ∈ matched, m.row ∈ matched.map Scored.row := fun m there => List.mem_map_of_mem there
    have order : TotalPreorderOn (fun a b : Scored => compareRows keys a.row b.row) (· ∈ matched) :=
      (totalPreorderOn_compareRows one.oneScale).comap Scored.row own
    have decides : ∀ a ∈ matched, ∀ b ∈ matched, compareRows keys a.row b.row = .lt ↔ Comes keys a.row b.row :=
      fun a ha b hb => compareRows_eq_lt_iff one (own a ha) (own b hb)
    refine ⟨_, sortMatches?_eq given one.oneScale, perm_sorted matched, ?_, ?_⟩
    · apply List.Pairwise.imp_of_mem _ order.pairwise_sorted
      intro a b ha hb notGreater comes
      have listedA := (perm_sorted matched).subset ha
      have listedB := (perm_sorted matched).subset hb
      apply notGreater
      rw [order.swap b a listedB listedA, (decides b listedB a listedA).2 comes]
      rfl
    · intro tied part equal
      apply order.sublist_sorted part
      intro a ha b hb less
      exact equal a ha b hb ((decides a (part.subset ha) b (part.subset hb)).1 less)

def dated (identity title : String) (day : Option Value) : Scored :=
  { row := ⟨identity, "app.note", "text",
      .ofList (("title", .text title) :: (day.map fun v => ("day", v)).toList), .empty⟩
    score := 1 }

def diary : List Scored :=
  [dated "1" "spring" (some (.date springDay)), dated "2" "none" none,
    dated "3" "spring" (some (.dateTime (.atMidnight springDay))), dated "4" "far" (some (.date farDay))]

theorem oneKind_diary : OneKind ["-day", "title"] (diary.map Scored.row) := by
  have daily : sortKey "-day" = ("day", true) := sortKey_dash "day"
  have titled : sortKey "title" = ("title", false) := sortKey_plain (by decide)
  intro key listed
  rcases List.mem_pair.1 listed with rfl | rfl
  · refine ⟨.instant, fun name down named => ?_⟩
    cases daily.symm.trans (names_iff.1 named)
    decide
  · refine ⟨.text, fun name down named => ?_⟩
    cases titled.symm.trans (names_iff.1 named)
    decide

theorem sortMatches_by_fields_diary :
    OneKind ["-day", "title"] (diary.map Scored.row) ∧
      ∃ rows, sortMatches? ["-day", "title"] diary = some rows ∧ rows ~ diary ∧
        rows.Pairwise (fun a b => ¬ Comes ["-day", "title"] b.row a.row) ∧ [diary[0], diary[2]] <+ rows := by
  obtain ⟨-, -, sorts⟩ := sortMatches_by_fields ["-day", "title"] diary (by decide)
  obtain ⟨rows, sorted, permuted, ordered, keeps⟩ := sorts oneKind_diary
  refine ⟨oneKind_diary, rows, sorted, permuted, ordered, keeps _ ?_ ?_⟩
  · exact .cons_cons _ (.cons _ (.cons_cons _ (List.nil_sublist _)))
  · intro a ha b hb comes
    have own : ∀ m ∈ [diary[0], diary[2]], m.row ∈ diary.map Scored.row := by simp [diary]
    have less := (compareRows_eq_lt_iff oneKind_diary (own a ha) (own b hb)).2 comes
    have equal : ∀ m ∈ [diary[0], diary[2]], ∀ n ∈ [diary[0], diary[2]],
        compareRows ["-day", "title"] m.row n.row ≠ .lt := by decide
    exact equal a ha b hb less

/-- Rows the titles of which are texts and numbers in turn. -/
def numbered : List Scored :=
  (List.range 24).map fun n =>
    { row := ⟨toString n, "app.note", "text",
        .ofList [("title", if n % 2 = 0 then .text (toString n) else .integer (Int64.ofNat n))], .empty⟩
      score := 1 }

/-- Sorting breaks off on titles of two kinds: the two ends of a merge meet at different places. -/
theorem not_sortMatches_by_fields :
    ¬ ∀ (keys : List String) (matched : List Scored), keys ≠ [] →
      ∃ rows, sortMatches? keys matched = some rows ∧ rows ~ matched := by
  intro sorts
  obtain ⟨rows, result, -⟩ := sorts ["title"] numbered (by decide)
  have broken : (sortMatches? ["title"] numbered).isNone := by decide
  rw [result] at broken
  cases broken

end Table

end RecordSearch
