import RecordSearch.Proofs.ResultSet.Sends

/-!
How the windows that reads may ask for lie to what is in the cache. Where pages were fetched as a whole and
a read keeps to them, its windows hold nothing that was fetched before.
-/

namespace RecordSearch

variable {α : Type}

namespace Cache

variable {c : Cache α} {size hits start stop i : Nat} {page : Page α}

def IsFetchedAt (c : Cache α) (i : Nat) : Prop := ∃ slot, c.slots[i]? = some slot ∧ slot.isPending = false

/-- Pages are fetched as a whole, as far as there are hits. -/
def HasWholePages (size : Nat) (c : Cache α) : Prop :=
  ∀ i j, i / size = j / size → c.IsFetchedAt i → j < c.slots.length → c.IsFetchedAt j

/-- A position at which a page begins, or that lies behind the last hit, or that is fetched. -/
def IsEdge (size hits : Nat) (c : Cache α) (i : Nat) : Prop := size ∣ i ∨ hits ≤ i ∨ c.IsFetchedAt i

theorem IsFetchedAt.lt_length (fetched : c.IsFetchedAt i) : i < c.slots.length := by
  obtain ⟨slot, found, -⟩ := fetched
  exact (List.getElem?_eq_some_iff.1 found).1

theorem lt_length_of_isPendingAt (pending : c.isPendingAt i = true) : i < c.slots.length := by
  obtain ⟨slot, found, -⟩ := isPendingAt_iff.1 pending
  exact (List.getElem?_eq_some_iff.1 found).1

theorem isFetchedAt_of_not_isPendingAt (inside : i < c.slots.length) (resolved : c.isPendingAt i = false) :
    c.IsFetchedAt i := by
  have found : c.slots[i]? = some c.slots[i] := List.getElem?_eq_getElem inside
  refine ⟨_, found, ?_⟩
  rw [isPendingAt, slot?, found] at resolved
  exact resolved

theorem IsFetchedAt.isPendingAt (fetched : c.IsFetchedAt i) : c.isPendingAt i = false := by
  obtain ⟨slot, found, resolved⟩ := fetched
  rw [Cache.isPendingAt, slot?, found]
  exact resolved

theorem not_isFetchedAt (pending : c.isPendingAt i = true) : ¬ c.IsFetchedAt i := by
  intro fetched
  rw [fetched.isPendingAt] at pending
  cases pending

theorem Sized.not_isFetchedAt_of_unknown (sized : c.Sized) (unknown : c.hitCount = none) :
    ¬ c.IsFetchedAt i := by
  intro fetched
  have inside := fetched.lt_length
  rw [sized, unknown] at inside
  exact absurd inside (Nat.not_lt_zero i)

theorem Sized.isFetchedAt_setCount_iff (sized : c.Sized) (count : Nat) :
    (c.setCount count).IsFetchedAt i ↔ c.IsFetchedAt i := by
  cases known : c.hitCount with
  | some n => rw [setCount_of_counted (by rw [known]; rfl)]
  | none =>
      constructor
      · rintro ⟨slot, found, resolved⟩
        rw [Cache.setCount, known] at found
        rw [List.eq_of_mem_replicate (List.mem_of_getElem? found)] at resolved
        cases resolved
      · intro fetched
        exact absurd fetched (sized.not_isFetchedAt_of_unknown known)

theorem Sized.isFetchedAt_fill_iff (sized : c.Sized) :
    (c.fill start stop page).IsFetchedAt i ↔
      i < (c.fill start stop page).slots.length ∧ (c.IsFetchedAt i ∨ start ≤ i ∧ i < stop) := by
  rw [← sized.isFetchedAt_setCount_iff page.hits, length_slots_fill]
  unfold IsFetchedAt
  rw [slots_fill, getElem?_fillFrom]
  by_cases inside : start ≤ i ∧ i < stop
  · rw [if_pos inside]
    constructor
    · rintro ⟨slot, found, -⟩
      obtain ⟨before, was, -⟩ := Option.map_eq_some_iff.1 found
      exact ⟨(List.getElem?_eq_some_iff.1 was).1, Or.inr inside⟩
    · rintro ⟨bound, -⟩
      rw [List.getElem?_eq_getElem bound]
      exact ⟨_, rfl, Slot.isPending_fill _ _⟩
  · rw [if_neg inside]
    constructor
    · rintro ⟨slot, found, resolved⟩
      exact ⟨(List.getElem?_eq_some_iff.1 found).1, Or.inl ⟨slot, found, resolved⟩⟩
    · rintro ⟨-, fetched | within⟩
      · exact fetched
      · exact absurd within inside

theorem Sized.isEdge_fill (sized : c.Sized) (edge : c.IsEdge size hits i) :
    (c.fill start stop page).IsEdge size hits i := by
  rcases edge with begins | behind | fetched
  · exact Or.inl begins
  · exact Or.inr (Or.inl behind)
  · obtain ⟨slot, found, resolved⟩ := fetched
    exact Or.inr (Or.inr ⟨slot, sized.keeps_fill start stop page i slot found resolved, resolved⟩)

end Cache

section

variable {size start stop i j : Nat}

theorem le_of_div_eq (same : i / size = j / size) (begins : size ∣ start) (le : start ≤ i) : start ≤ j := by
  obtain ⟨k, rfl⟩ := begins
  rcases Nat.eq_zero_or_pos size with rfl | positive
  · rw [Nat.zero_mul]
    exact Nat.zero_le j
  · have page := Nat.div_le_div_right (c := size) le
    rw [Nat.mul_div_cancel_left k positive, same] at page
    calc
      size * k ≤ size * (j / size) := Nat.mul_le_mul_left size page
      _ ≤ j := Nat.mul_div_le j size

theorem lt_of_div_eq (same : i / size = j / size) (ends : size ∣ stop) (lt : i < stop) : j < stop := by
  apply Nat.lt_of_not_le
  intro behind
  exact absurd (le_of_div_eq same.symm ends behind) (Nat.not_le.2 lt)

theorem pageStart_spec (positive : 0 < size) (i : Nat) :
    size ∣ i - i % size ∧ i - i % size ≤ i ∧ i < i - i % size + size ∧ (i - i % size) / size = i / size := by
  have rest := Nat.mod_lt i positive
  have bound := Nat.mod_le i size
  have begins : size ∣ i - i % size := Nat.dvd_sub_mod i
  refine ⟨begins, Nat.sub_le _ _, by omega, ?_⟩
  apply Nat.le_antisymm
  · exact Nat.div_le_div_right (Nat.sub_le _ _)
  · rw [Nat.le_div_iff_mul_le positive, Nat.mul_comm]
    have whole := Nat.div_add_mod i size
    omega

end

namespace Cache

variable {c : Cache α} {size hits start stop first last i : Nat} {page : Page α}

theorem HasWholePages.dvd_of_pending (whole : c.HasWholePages size) (positive : 0 < size)
    (length : c.slots.length ≤ hits) (edge : c.IsEdge size hits start) (le : start ≤ i)
    (passed : ∀ j, size ∣ j → start ≤ j → j < i → c.isPendingAt j = false)
    (pending : c.isPendingAt i = true) : size ∣ i := by
  obtain ⟨begins, before, -, same⟩ := pageStart_spec positive i
  have inside := lt_length_of_isPendingAt pending
  rcases Nat.eq_or_lt_of_le before with here | earlier
  · rw [← here]
    exact begins
  · exfalso
    apply not_isFetchedAt pending
    by_cases later : start ≤ i - i % size
    · have fetched := isFetchedAt_of_not_isPendingAt (Nat.lt_trans earlier inside)
        (passed _ begins later earlier)
      exact whole _ i same fetched inside
    · have page : start / size = i / size := by
        apply Nat.le_antisymm
        · exact Nat.div_le_div_right le
        · rw [← same]
          exact Nat.div_le_div_right (Nat.le_of_not_le later)
      rcases edge with starts | behind | fetched
      · exact absurd (le_of_div_eq (page.trans same.symm) starts (Nat.le_refl start)) later
      · exact absurd (Nat.lt_of_lt_of_le inside (length.trans (behind.trans le))) (Nat.lt_irrefl i)
      · exact whole start i page fetched inside

theorem HasWholePages.ends_of_run (whole : c.HasWholePages size) (positive : 0 < size)
    (begins : size ∣ first) (lt : first < last)
    (pending : ∀ i, first ≤ i → i < last → c.isPendingAt i = true) (edge : c.IsEdge size hits last) :
    size ∣ last ∨ hits ≤ last := by
  rcases edge with ends | behind | fetched
  · exact Or.inl ends
  · exact Or.inr behind
  · obtain ⟨starts, before, -, same⟩ := pageStart_spec positive last
    rcases Nat.eq_or_lt_of_le before with here | earlier
    · rw [here] at starts
      exact Or.inl starts
    · have later : first ≤ last - last % size := le_of_div_eq same.symm begins (Nat.le_of_lt lt)
      have waiting := pending _ later earlier
      have inside := lt_length_of_isPendingAt waiting
      exact absurd (whole last _ same.symm fetched inside) (not_isFetchedAt waiting)

end Cache

namespace Request

/-- A window that begins and ends where pages do, or has no hits. -/
def IsAligned (size hits : Nat) (request : Request) : Prop :=
  hits ≤ request.start ∨ request.stop ≤ request.start ∨
    size ∣ request.start ∧ (size ∣ request.stop ∨ hits ≤ request.stop)

theorem isAligned_page {size hits start : Nat} (begins : size ∣ start) :
    (window start (start + size)).IsAligned size hits :=
  Or.inr (Or.inr ⟨begins, Or.inl (Nat.dvd_add begins (Nat.dvd_refl size))⟩)

end Request

theorem Cache.HasWholePages.fill {c : Cache α} {size : Nat} {page : Page α} {request : Request}
    (whole : c.HasWholePages size) (sized : c.Sized)
    (aligned : request.IsAligned size (c.fill request.start request.stop page).slots.length) :
    (c.fill request.start request.stop page).HasWholePages size := by
  intro i j same fetched inside
  obtain ⟨bound, before | within⟩ := sized.isFetchedAt_fill_iff.1 fetched
  · have counted : c.hitCount.isSome = true := by
      cases known : c.hitCount with
      | some n => rfl
      | none => exact absurd before (sized.not_isFetchedAt_of_unknown known)
    have there := inside
    rw [Cache.length_slots_fill, Cache.setCount_of_counted counted] at there
    exact sized.isFetchedAt_fill_iff.2 ⟨inside, Or.inl (whole i j same before there)⟩
  · apply sized.isFetchedAt_fill_iff.2
    refine ⟨inside, Or.inr ?_⟩
    rcases aligned with behind | nothing | ⟨begins, ends⟩
    · omega
    · omega
    · refine ⟨le_of_div_eq same begins within.1, ?_⟩
      rcases ends with page | behind
      · exact lt_of_div_eq same page within.2
      · exact Nat.lt_of_lt_of_le inside behind

/-- Whether a read keeps to pages where this is in the cache: a slice begins and ends where pages do, or at
positions that are fetched or behind the last hit, or it ends before the next page does; steps lead through
each page or from page to page; an iterator begins where pages do, or goes on where it has come to. -/
def Read.KeepsToPages (size hits : Nat) (c : Cache α) : Read → Prop
  | .slice start stop =>
    c.IsEdge size hits start ∧ ∀ last ∈ stop, c.IsEdge size hits last ∨ last ≤ start + size
  | .sliceStep start _ step => size ∣ start ∧ (max step 1 ∣ size ∨ size ∣ max step 1)
  | .iterAt position _ => c.IsEdge size hits position
  | .count | .get _ | .fillCache _ _ | .stream _ => True

namespace Read

variable {c : Cache α} {size : PageSize} {hits n : Nat} {read : Read} {request : Request}

theorem KeepsToPages.fill (keeps : read.KeepsToPages size.val hits c) (sized : c.Sized)
    (start stop : Nat) (page : Page α) : read.KeepsToPages size.val hits (c.fill start stop page) := by
  cases read with
  | slice first last =>
      obtain ⟨begins, ends⟩ := keeps
      refine ⟨sized.isEdge_fill begins, ?_⟩
      intro stop listed
      rcases ends stop listed with edge | short
      · exact Or.inl (sized.isEdge_fill edge)
      · exact Or.inr short
  | iterAt position limit => exact sized.isEdge_fill keeps
  | sliceStep start stop step => exact keeps
  | count => trivial
  | get position => trivial
  | fillCache start stop => trivial
  | stream limit => trivial

/-- Once the number of hits is known, a read asks for a page with a pending position, or for a longer
window that is all pending. -/
theorem window_of_next (next : read.Next size.val n c request) :
    ∃ start stop, request = .window start stop ∧ start + size.val ≤ stop ∧
      (∃ i, start ≤ i ∧ i < start + size.val ∧ c.isPendingAt i = true) ∧
      (start + size.val < stop → ∀ i, start ≤ i → i < stop → c.isPendingAt i = true) := by
  have positive := size.pos
  -- a window of a single page asks for nothing but a pending position on it
  have single : ∀ start i, start ≤ i → i < start + size.val → c.isPendingAt i = true →
      ∃ first stop, Request.window start (start + size.val) = .window first stop ∧
        first + size.val ≤ stop ∧
        (∃ i, first ≤ i ∧ i < first + size.val ∧ c.isPendingAt i = true) ∧
        (first + size.val < stop → ∀ i, first ≤ i → i < stop → c.isPendingAt i = true) := by
    intro start i first last pending
    refine ⟨start, _, rfl, Nat.le_refl _, ⟨i, first, last, pending⟩, ?_⟩
    intro wide
    exact absurd wide (Nat.lt_irrefl _)
  cases read with
  | get position =>
      obtain ⟨pending, rfl⟩ := next
      obtain ⟨-, before, after, -⟩ := pageStart_spec positive position
      exact single _ position before after pending
  | slice start stop =>
      obtain ⟨first, last, run, rfl⟩ := next
      have lt := run.wide
      have start_waits := run.pending first (Nat.le_refl first) lt
      refine ⟨first, _, rfl, by omega, ⟨first, Nat.le_refl first, by omega, start_waits⟩, ?_⟩
      intro wide i later earlier
      exact run.pending i later (by omega)
  | sliceStep start stop step =>
      obtain ⟨k, pending, -, rfl⟩ := next
      exact single _ _ (Nat.le_refl _) (Nat.lt_add_of_pos_right positive) pending
  | iterAt position limit =>
      obtain ⟨i, -, -, pending, rfl⟩ := next
      exact single i i (Nat.le_refl i) (Nat.lt_add_of_pos_right positive) pending
  | count => exact next.elim
  | fillCache start stop => exact next.elim
  | stream limit => exact next.elim

theorem isAligned_first? (nothing : ∀ i, ¬ c.IsFetchedAt i) (keeps : read.KeepsToPages size.val hits c)
    (sent : read.first? size.val = some request) : request.IsAligned size.val hits := by
  have positive := size.pos
  have fresh : ∀ i, c.IsEdge size.val hits i → size.val ∣ i ∨ hits ≤ i := by
    rintro i (ends | behind | fetched)
    · exact Or.inl ends
    · exact Or.inr behind
    · exact absurd fetched (nothing i)
  cases read with
  | count =>
      cases sent
      exact Or.inr (Or.inl (Nat.le_refl 0))
  | get position =>
      cases sent
      exact Request.isAligned_page (Nat.dvd_sub_mod position)
  | slice start stop =>
      cases sent
      obtain ⟨edge, ends⟩ := keeps
      rcases fresh start edge with begins | behind
      · cases stop with
        | none => exact Request.isAligned_page begins
        | some last =>
            by_cases short : last ≤ start + size.val
            · have page : max (last - start) size.val = size.val := by omega
              simp only [Option.elim, page]
              exact Request.isAligned_page begins
            · have long : start + max (last - start) size.val = last := by omega
              simp only [Option.elim, long]
              rcases ends last rfl with edge | short'
              · exact Or.inr (Or.inr ⟨begins, fresh last edge⟩)
              · exact absurd short' short
      · exact Or.inl behind
  | sliceStep start stop step =>
      cases sent
      exact Request.isAligned_page keeps.1
  | iterAt position limit =>
      cases sent
      exact Or.inr (Or.inr ⟨Nat.dvd_zero size.val, Or.inl (Nat.dvd_refl size.val)⟩)
  | fillCache start stop => cases sent
  | stream limit => cases sent

/-- So do later ones, where all pages were fetched as a whole. -/
theorem isAligned_of_next (whole : c.HasWholePages size.val) (length : c.slots.length = n)
    (keeps : read.KeepsToPages size.val n c) (next : read.Next size.val n c request) :
    request.IsAligned size.val n := by
  have positive := size.pos
  have le := Nat.le_of_eq length
  cases read with
  | get position =>
      obtain ⟨-, rfl⟩ := next
      exact Request.isAligned_page (Nat.dvd_sub_mod position)
  | slice start stop =>
      obtain ⟨first, last, run, rfl⟩ := next
      obtain ⟨edge, ends⟩ := keeps
      have lt := run.wide
      have begins : size.val ∣ first := whole.dvd_of_pending positive le edge run.start_le
        (fun j _ => run.passed j) (run.pending first (Nat.le_refl first) lt)
      by_cases short : last ≤ first + size.val
      · have page : max (last - first) size.val = size.val := by omega
        rw [page]
        exact Request.isAligned_page begins
      · have long : first + max (last - first) size.val = last := by omega
        have start_le := run.start_le
        have edge : c.IsEdge size.val n last := by
          rcases run.ended with clipped | resolved
          · by_cases behind : n ≤ stop.getD n
            · exact Or.inr (Or.inl (by omega))
            · cases stop with
              | none => exact absurd (Nat.le_refl n) behind
              | some stop =>
                  have whole : last = stop := by
                    rw [Option.getD_some] at clipped behind
                    omega
                  rw [whole]
                  rcases ends stop rfl with edge | near
                  · exact edge
                  · omega
          · by_cases inside : last < c.slots.length
            · exact Or.inr (Or.inr (Cache.isFetchedAt_of_not_isPendingAt inside resolved))
            · exact Or.inr (Or.inl (by omega))
        rw [long]
        exact Or.inr (Or.inr ⟨begins, whole.ends_of_run positive begins lt run.pending edge⟩)
  | sliceStep start stop step =>
      obtain ⟨k, pending, passed, rfl⟩ := next
      obtain ⟨begins, steps⟩ := keeps
      apply Request.isAligned_page
      rcases steps with divides | multiple
      · apply whole.dvd_of_pending positive le (Or.inl begins) (Nat.le_add_right start _) _ pending
        intro j page later earlier
        -- the steps lead through the start of every page
        obtain ⟨m, steps⟩ := Nat.dvd_trans divides (Nat.dvd_sub page begins)
        have place : j = start + max step 1 * m := by omega
        rw [place]
        apply passed
        rw [place] at earlier
        exact Nat.lt_of_mul_lt_mul_left (Nat.lt_of_add_lt_add_left earlier)
      · exact Nat.dvd_add begins (Nat.dvd_mul_right_of_dvd multiple k)
  | iterAt position limit =>
      obtain ⟨i, later, passed, pending, rfl⟩ := next
      exact Request.isAligned_page
        (whole.dvd_of_pending positive le keeps later (fun j _ => passed j) pending)
  | count => exact next.elim
  | fillCache start stop => exact next.elim
  | stream limit => exact next.elim

/-- Fewer positions than a page has are fetched again. -/
theorem exists_few_of_next (next : read.Next size.val n c request) :
    ∃ few : List Nat, few.length < size.val ∧
      ∀ i, request.start ≤ i → i < request.stop → c.IsFetchedAt i → i ∈ few := by
  obtain ⟨start, stop, rfl, wide, ⟨waiting, first, last, pending⟩, all⟩ := window_of_next next
  by_cases long : start + size.val < stop
  · refine ⟨[], size.pos, ?_⟩
    intro i later earlier fetched
    exact absurd fetched (Cache.not_isFetchedAt (all long i later earlier))
  · refine ⟨(List.range' start size.val).filter (· ≠ waiting), ?_, ?_⟩
    · calc
        ((List.range' start size.val).filter (· ≠ waiting)).length <
            (List.range' start size.val).length :=
          List.length_filter_lt_length_iff_exists.2
            ⟨waiting, List.mem_range'_1.2 ⟨first, last⟩, by simp⟩
        _ = size.val := List.length_range'
    · intro i later earlier fetched
      have other : i ≠ waiting := by
        rintro rfl
        exact Cache.not_isFetchedAt pending fetched
      have inside : i < start + size.val := Nat.lt_of_lt_of_le earlier (Nat.not_lt.1 long)
      simp only [List.mem_filter, List.mem_range'_1, decide_eq_true_eq]
      exact ⟨⟨later, inside⟩, other⟩

theorem not_isFetchedAt_of_next (next : read.Next size.val n c request) (length : c.slots.length = n)
    (whole : c.HasWholePages size.val) (aligned : request.IsAligned size.val n) {i : Nat}
    (later : request.start ≤ i) (earlier : i < request.stop) : ¬ c.IsFetchedAt i := by
  intro fetched
  obtain ⟨start, stop, rfl, wide, ⟨waiting, first, last, pending⟩, all⟩ := window_of_next next
  have positive := size.pos
  change start ≤ i at later
  change i < stop at earlier
  by_cases long : start + size.val < stop
  · exact Cache.not_isFetchedAt (all long i later earlier) fetched
  · have inside := fetched.lt_length
    rcases aligned with behind | nothing | ⟨begins, -⟩
    · change n ≤ start at behind
      omega
    · change stop ≤ start at nothing
      omega
    · obtain ⟨k, rfl⟩ := begins
      have page : ∀ j, size.val * k ≤ j → j < size.val * k + size.val → j / size.val = k := by
        intro j le lt
        rw [Nat.div_eq_iff positive]
        constructor <;> rw [Nat.mul_comm]
        · exact le
        · omega
      have same : i / size.val = waiting / size.val := by
        rw [page i later (by omega), page waiting first last]
      exact Cache.not_isFetchedAt pending
        (whole i waiting same fetched (Cache.lt_length_of_isPendingAt pending))

end Read

end RecordSearch
