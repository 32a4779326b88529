import RecordSearch.Query.Lucene
import RecordSearch.Query.Read

namespace RecordSearch.Lucene

/-- Each bad character stands behind a backslash, and each backslash before a character. -/
inductive Guarded (bad : Char → Bool) : List Char → Prop where
  | nil : Guarded bad []
  | plain {c : Char} {s : List Char} : c ≠ '\\' → bad c = false → Guarded bad s → Guarded bad (c :: s)
  | pair (c : Char) {s : List Char} : Guarded bad s → Guarded bad ('\\' :: c :: s)

namespace Guarded

variable {bad stop : Char → Bool} {s t : List Char}

theorem append (front : Guarded bad s) (rest : Guarded bad t) : Guarded bad (s ++ t) := by
  induction front with
  | nil => exact rest
  | plain other fine _ ih => exact plain other fine ih
  | pair c _ ih => exact pair c ih

theorem of_forall (fine : ∀ c ∈ s, c ≠ '\\' ∧ bad c = false) : Guarded bad s := by
  induction s with
  | nil => exact nil
  | cons c s ih =>
      obtain ⟨other, harmless⟩ := fine c List.mem_cons_self
      exact plain other harmless (ih fun d present => fine d (List.mem_cons_of_mem c present))

theorem of_all (fine : (s.all fun c => c != '\\' && !bad c) = true) : Guarded bad s := by
  apply of_forall
  intro c present
  have both := List.all_eq_true.1 fine c present
  rw [Bool.and_eq_true, bne_iff_ne, Bool.not_eq_true'] at both
  exact both

theorem mono (weaker : ∀ c, stop c = true → bad c = true) (guarded : Guarded bad s) :
    Guarded stop s := by
  induction guarded with
  | nil => exact nil
  | @plain c _ other fine _ ih =>
      refine plain other ?_ ih
      cases stops : stop c with
      | false => rfl
      | true => rw [weaker c stops] at fine; cases fine
  | pair c _ ih => exact pair c ih

theorem tail {c : Char} (guarded : Guarded bad (c :: s)) (other : c ≠ '\\') : Guarded bad s := by
  cases guarded with
  | plain _ _ rest => exact rest
  | pair _ _ => exact absurd rfl other

theorem of_append (guarded : Guarded bad (s ++ t)) (plain : '\\' ∉ s) : Guarded bad t := by
  induction s with
  | nil => exact guarded
  | cons c s ih =>
      rw [List.mem_cons, not_or] at plain
      exact ih (tail guarded (Ne.symm plain.1)) plain.2

theorem head_fine {c : Char} (guarded : Guarded bad (c :: s)) : c = '\\' ∨ bad c = false := by
  cases guarded with
  | plain _ fine _ => exact Or.inr fine
  | pair _ _ => exact Or.inl rfl

theorem head_ne {c d : Char} (guarded : Guarded bad (c :: s)) (barred : bad d = true) (other : d ≠ '\\') :
    c ≠ d := by
  rintro rfl
  rcases guarded.head_fine with backslash | fine
  · exact other backslash
  · rw [barred] at fine
    cases fine

end Guarded

theorem takeEscaped_pair (stop : Char → Bool) (c : Char) (s : List Char) :
    takeEscaped stop ('\\' :: c :: s) =
      ('\\' :: c :: (takeEscaped stop s).1, (takeEscaped stop s).2) := rfl

theorem takeEscaped_of_stop {stop : Char → Bool} {c : Char} (other : c ≠ '\\') (stops : stop c = true)
    (s : List Char) : takeEscaped stop (c :: s) = ([], c :: s) := by
  rw [takeEscaped]
  · rw [if_pos stops]
  · intro d rest start
    exact absurd start other

theorem takeEscaped_of_go {stop : Char → Bool} {c : Char} (other : c ≠ '\\') (goes : stop c = false)
    (s : List Char) :
    takeEscaped stop (c :: s) = (c :: (takeEscaped stop s).1, (takeEscaped stop s).2) := by
  rw [takeEscaped]
  · rw [goes]
    rfl
  · intro d rest start
    exact absurd start other

def Stopped (stop : Char → Bool) (s : List Char) : Prop :=
  ∀ c ∈ s.head?, c ≠ '\\' ∧ stop c = true

theorem takeEscaped_of_stopped {stop : Char → Bool} {s : List Char} (stopped : Stopped stop s) :
    takeEscaped stop s = ([], s) := by
  cases s with
  | nil => rfl
  | cons c s =>
      obtain ⟨other, stops⟩ := stopped c rfl
      exact takeEscaped_of_stop other stops s

section

variable {bad stop : Char → Bool} {s k : List Char}

/-- What stops a token behind a text does not change what is taken of the text. -/
theorem Guarded.takeEscaped_append (guarded : Guarded bad s) (stopped : Stopped stop k) :
    takeEscaped stop (s ++ k) = ((takeEscaped stop s).1, (takeEscaped stop s).2 ++ k) := by
  induction guarded with
  | nil => exact takeEscaped_of_stopped stopped
  | @plain c s other fine _ ih =>
      rw [List.cons_append]
      cases stops : stop c with
      | true => rw [takeEscaped_of_stop other stops, takeEscaped_of_stop other stops, List.cons_append]
      | false => rw [takeEscaped_of_go other stops, takeEscaped_of_go other stops, ih]
  | pair c _ ih => rw [List.cons_append, List.cons_append, takeEscaped_pair, takeEscaped_pair, ih]

theorem Guarded.takeEscaped_snd (guarded : Guarded bad s) : Guarded bad (takeEscaped stop s).2 := by
  induction guarded with
  | nil => exact Guarded.nil
  | @plain c s other fine rest ih =>
      cases stops : stop c with
      | true =>
          rw [takeEscaped_of_stop other stops]
          exact Guarded.plain other fine rest
      | false =>
          rw [takeEscaped_of_go other stops]
          exact ih
  | pair c _ ih => exact ih

theorem Guarded.takeEscaped_self (guarded : Guarded stop s) : takeEscaped stop s = (s, []) := by
  induction guarded with
  | nil => rfl
  | plain other goes _ ih => rw [takeEscaped_of_go other goes, ih]
  | pair c _ ih => rw [takeEscaped_pair, ih]

theorem Guarded.takeEscaped_whole (guarded : Guarded stop s) (stopped : Stopped stop k) :
    takeEscaped stop (s ++ k) = (s, k) := by
  rw [guarded.takeEscaped_append stopped, guarded.takeEscaped_self]
  rfl

/-- A text ends at what stops it, in one place only. -/
theorem Guarded.append_inj {t u : List Char} (first : Guarded stop s) (second : Guarded stop t)
    (behindFirst : Stopped stop k) (behindSecond : Stopped stop u) (same : s ++ k = t ++ u) : s = t ∧ k = u := by
  have cut := congrArg (takeEscaped stop) same
  rw [first.takeEscaped_whole behindFirst, second.takeEscaped_whole behindSecond] at cut
  exact Prod.mk.inj cut

end

theorem unescape_pair (c : Char) (s : List Char) : unescape ('\\' :: c :: s) = c :: unescape s := rfl

theorem unescape_plain {c : Char} (other : c ≠ '\\') (s : List Char) :
    unescape (c :: s) = c :: unescape s := by
  rw [unescape]
  · intro d rest start
    exact absurd start other
  · intro start
    exact absurd start other

theorem wilds_plain {c : Char} (other : c ≠ '\\') (notMany : c ≠ '*') (notOne : c ≠ '?')
    (s : List Char) : wilds (c :: s) = .char c :: wilds s := by
  rw [wilds]
  · intro d rest start
    exact absurd start other
  · intro start
    exact absurd start other
  · intro start
    exact absurd start notMany
  · intro start
    exact absurd start notOne

section

variable {needs bad : Char → Bool}

theorem escapeWhere_cons (needs : Char → Bool) (c : Char) (s : List Char) :
    escapeWhere needs (c :: s) =
      (if needs c then ['\\', c] else [c]) ++ escapeWhere needs s := rfl

theorem escapeWhere_append (needs : Char → Bool) (s k : List Char) :
    escapeWhere needs (s ++ k) = escapeWhere needs s ++ escapeWhere needs k := List.flatMap_append

theorem escapeWhere_of_not {c : Char} (unneeded : needs c = false) (s : List Char) :
    escapeWhere needs (c :: s) = c :: escapeWhere needs s := by
  rw [escapeWhere_cons, unneeded]
  rfl

theorem escapeWhere_self {s : List Char} (unneeded : ∀ c ∈ s, needs c = false) : escapeWhere needs s = s := by
  induction s with
  | nil => rfl
  | cons c s ih =>
      rw [escapeWhere_of_not (unneeded c List.mem_cons_self),
        ih fun d present => unneeded d (List.mem_cons_of_mem c present)]

theorem guarded_escapeWhere {s : List Char} (backslash : needs '\\' = true)
    (fine : ∀ c ∈ s, needs c = false → bad c = false) : Guarded bad (escapeWhere needs s) := by
  induction s with
  | nil => exact Guarded.nil
  | cons c s ih =>
      have rest := ih fun d present => fine d (List.mem_cons_of_mem c present)
      rw [escapeWhere_cons]
      cases needed : needs c with
      | true => exact Guarded.pair c rest
      | false =>
          refine Guarded.plain ?_ (fine c List.mem_cons_self needed) rest
          rintro rfl
          rw [backslash] at needed
          cases needed

theorem unescape_escapeWhere (backslash : needs '\\' = true) (s : List Char) :
    unescape (escapeWhere needs s) = s := by
  induction s with
  | nil => rfl
  | cons c s ih =>
      rw [escapeWhere_cons]
      cases needed : needs c with
      | true => rw [if_pos rfl, List.cons_append, List.cons_append, unescape_pair, List.nil_append, ih]
      | false =>
          have other : c ≠ '\\' := by
            rintro rfl
            rw [backslash] at needed
            cases needed
          rw [if_neg Bool.false_ne_true, List.cons_append, unescape_plain other, List.nil_append, ih]

theorem wilds_escapeWhere_append (backslash : needs '\\' = true)
    (star : needs '*' = true) (mark : needs '?' = true) (u k : List Char) :
    wilds (escapeWhere needs u ++ k) = u.map .char ++ wilds k := by
  induction u with
  | nil => rfl
  | cons c u ih =>
      rw [escapeWhere_cons, List.map_cons, List.cons_append, ← ih]
      cases needed : needs c with
      | true => rfl
      | false =>
          have kept : ∀ d, needs d = true → c ≠ d := by
            rintro d needed' rfl
            rw [needed'] at needed
            cases needed
          exact wilds_plain (kept _ backslash) (kept _ star) (kept _ mark) _

theorem wilds_escapeWhere (backslash : needs '\\' = true) (star : needs '*' = true)
    (mark : needs '?' = true) (s : List Char) : wilds (escapeWhere needs s) = s.map .char := by
  have whole := wilds_escapeWhere_append backslash star mark s []
  rw [List.append_nil] at whole
  exact whole.trans (List.append_nil _)

end

theorem escapeWhere_escape (s : List Char) :
    escapeWhere (· == ' ') (escape s) = escapeWhere (fun c => reserved.contains c || c == ' ') s := by
  induction s with
  | nil => rfl
  | cons c s ih =>
      rw [escape, escapeWhere_cons, escapeWhere_cons, ← ih, escape, escapeWhere, List.flatMap_append]
      congr 1
      by_cases blank : c = ' '
      · rw [blank]
        rfl
      · cases needed : reserved.contains c <;> simp [blank]

end RecordSearch.Lucene
