import RecordSearch.Proofs.Query.Progress

/-!
The texts that a query asks for, with the distances that it allows between their words. They are cut out of the
query, and a number that does not fit a machine word is dropped.
-/

namespace RecordSearch

namespace Clause

mutual

/-- The texts that a clause asks for as words in their order, with the number of words that may stand
between them; a term allows none. -/
def phrases : Clause → List (String × Nat)
  | and clauses | or clauses => phrasesAll clauses
  | not clause | boost clause _ => phrases clause
  | term _ text => [(text, 0)]
  | phrase _ text slop => [(text, slop.getD 0)]
  | all | wildcard _ _ | fuzzy _ _ _ | range _ _ _ _ _ => []

def phrasesAll : List Clause → List (String × Nat)
  | [] => []
  | clause :: rest => phrases clause ++ phrasesAll rest

end

theorem phrases_boosted (clause : Clause) (factor : Option Float) :
    (clause.boosted factor).phrases = clause.phrases := by
  cases factor <;> rfl

theorem phrases_joined {make : List Clause → Clause}
    (all : ∀ clauses, (make clauses).phrases = phrasesAll clauses) (clauses : List Clause) :
    (joined make clauses).phrases = phrasesAll clauses := by
  unfold joined
  split
  · exact (List.append_nil _).symm
  · exact all clauses

theorem phrases_joined_and (clauses : List Clause) : (joined and clauses).phrases = phrasesAll clauses :=
  phrases_joined (fun _ => rfl) clauses

theorem phrases_joined_or (clauses : List Clause) : (joined or clauses).phrases = phrasesAll clauses :=
  phrases_joined (fun _ => rfl) clauses

end Clause

namespace Decimal

theorem lt_of_readWord? {s : List Char} {n : Nat} (found : readWord? s = some n) : n < UInt64.size := by
  unfold readWord? at found
  split at found
  · split at found
    · rename_i small
      cases found
      exact small
    · cases found
  · cases found

end Decimal

namespace Lucene

open Clause (phrases phrasesAll)

theorem length_unescape_le (s : List Char) : (unescape s).length ≤ s.length := by
  fun_induction unescape s with
  | case1 c rest ih =>
      simp only [List.length_cons]
      omega
  | case2 => exact Nat.zero_le _
  | case3 c rest _ _ ih =>
      simp only [List.length_cons]
      omega
  | case4 => exact Nat.le_refl 0

theorem slop_lt (s : List Char) : (slop s).1.getD 0 < UInt64.size := by
  unfold slop
  split
  · split
    · rename_i number _ _
      cases read : Decimal.readWord? number with
      | none => exact Nat.two_pow_pos 64
      | some n => exact Decimal.lt_of_readWord? read
    · exact Nat.two_pow_pos 64
  · exact Nat.two_pow_pos 64

theorem length_closeQuote?_le {s text rest : List Char} (found : closeQuote? s = some (text, rest)) :
    text.length ≤ s.length := by
  have whole := congrArg List.length (append_takeEscaped (· == '"') s)
  rw [List.length_append] at whole
  unfold closeQuote? at found
  split at found
  · rename_i taken
    cases found
    rw [taken] at whole
    exact Nat.le.intro whole
  · cases found

def KeepsTo (length : Nat) (texts : List (String × Nat)) : Prop :=
  ∀ p ∈ texts, p.1.length ≤ length ∧ p.2 < UInt64.size

namespace KeepsTo

variable {length more : Nat} {texts others : List (String × Nat)}

theorem nil (length : Nat) : KeepsTo length [] := nofun

theorem mono (keeps : KeepsTo length texts) (le : length ≤ more) : KeepsTo more texts :=
  fun p listed => ⟨Nat.le_trans (keeps p listed).1 le, (keeps p listed).2⟩

theorem append (keeps : KeepsTo length texts) (keepsOthers : KeepsTo length others) :
    KeepsTo length (texts ++ others) := by
  intro p listed
  rcases List.mem_append.1 listed with first | last
  · exact keeps p first
  · exact keepsOthers p last

theorem single {s : List Char} {n : Nat} (within : s.length ≤ length) (small : n < UInt64.size) :
    KeepsTo length [(String.ofList (unescape s), n)] := by
  intro p listed
  cases List.mem_singleton.1 listed
  refine ⟨?_, small⟩
  rw [String.length_ofList]
  exact Nat.le_trans (length_unescape_le s) within

end KeepsTo

theorem keepsTo_range? {field : Option String} {s rest : List Char} {clause : Clause}
    (found : range? field s = some (clause, rest)) : KeepsTo s.length clause.phrases := by
  unfold range? at found
  split at found
  · cases found
  · split at found
    · cases found
    · split at found
      · cases found
      · split at found
        · cases found
        · cases found
          rw [Clause.phrases_boosted]
          exact .nil _

theorem keepsTo_phrase? {field : Option String} {s rest : List Char} {clause : Clause}
    (found : phrase? field s = some (clause, rest)) : KeepsTo s.length clause.phrases := by
  unfold phrase? at found
  split at found
  · split at found
    · cases found
    · rename_i inside _ _ after closed
      cases found
      rw [Clause.phrases_boosted]
      exact .single (Nat.le_succ_of_le (length_closeQuote?_le closed)) (slop_lt after)
  · cases found

theorem keepsTo_termClause (field : Option String) {term : List Char} {length : Nat}
    (within : term.length ≤ length) (maxEdits : Option Nat) :
    KeepsTo length (termClause field term maxEdits).phrases := by
  unfold termClause
  split
  · exact .nil _
  · simp only
    split
    · exact .nil _
    · exact .single within (Nat.two_pow_pos 64)

theorem keepsTo_term? {field : Option String} {s rest : List Char} {clause : Clause}
    (found : term? field s = some (clause, rest)) : KeepsTo s.length clause.phrases := by
  have whole := congrArg List.length (append_takeEscaped endsTerm s)
  rw [List.length_append] at whole
  unfold term? at found
  split at found
  · cases found
  · split at found
    · cases found
    · rename_i taken
      cases found
      rw [taken] at whole
      rw [Clause.phrases_boosted]
      exact keepsTo_termClause field (Nat.le.intro whole) _

theorem keepsTo_everything? {s rest : List Char} {clause : Clause}
    (found : everything? s = some (clause, rest)) : KeepsTo s.length clause.phrases := by
  unfold everything? at found
  split at found
  · cases found
    exact .nil _
  · cases found

structure Keeps (fuel : Nat) : Prop where
  ors : ∀ {field s clauses rest}, ors? fuel field s = some (clauses, rest) →
    KeepsTo s.length (phrasesAll clauses)
  ands : ∀ {field s clauses rest}, ands? fuel field s = some (clauses, rest) →
    KeepsTo s.length (phrasesAll clauses)
  unary : ∀ {field s clause rest}, unary? fuel field s = some (clause, rest) → KeepsTo s.length clause.phrases
  group : ∀ {field s clause rest}, group? fuel field s = some (clause, rest) → KeepsTo s.length clause.phrases
  fieldClause : ∀ {s clause rest}, fieldClause? fuel s = some (clause, rest) →
    KeepsTo s.length clause.phrases

namespace Keeps

variable {fuel : Nat} {field : Option String} {s rest : List Char} {clause : Clause} {clauses : List Clause}

theorem ors_succ (keeps : Keeps fuel) (found : ors? (fuel + 1) field s = some (clauses, rest)) :
    KeepsTo s.length (phrasesAll clauses) := by
  simp only [ors?] at found
  split at found
  · cases found
  · rename_i first after foundFirst
    have one := keeps.ands foundFirst
    rw [← Clause.phrases_joined_and] at one
    split at found
    · rename_i others last foundMore
      cases found
      split at foundMore
      · rename_i next joined
        have shorter := (shortens fuel).ands foundFirst
        have word := length_word?_le joined
        have blanks := length_skip_le after
        have blanksNext := length_skip_le next
        exact one.append ((keeps.ors foundMore).mono (by omega))
      · cases foundMore
    · cases found
      exact one.append (.nil _)

theorem ands_succ (keeps : Keeps fuel) (found : ands? (fuel + 1) field s = some (clauses, rest)) :
    KeepsTo s.length (phrasesAll clauses) := by
  simp only [ands?] at found
  split at found
  · cases found
  · rename_i first after foundFirst
    have one := keeps.unary foundFirst
    split at found
    · rename_i others last foundMore
      cases found
      have shorter := (shortens fuel).unary foundFirst
      have blanks := length_skip_le after
      refine one.append ((keeps.ands foundMore).mono ?_)
      split
      · rename_i next joined
        have word := length_word?_le joined
        have blanksNext := length_skip_le next
        omega
      · omega
    · cases found
      exact one.append (.nil _)

theorem unary_succ (keeps : Keeps fuel) (found : unary? (fuel + 1) field s = some (clause, rest)) :
    KeepsTo s.length clause.phrases := by
  simp only [unary?] at found
  rcases orElse_eq_some found with negated | found
  · split at negated
    · rename_i after word
      obtain ⟨inner, foundInner, same⟩ := Option.map_eq_some_iff.1 negated
      obtain ⟨rfl, -⟩ := Prod.mk.inj same
      have blanks := length_skip_le after
      have before := length_word?_le word
      exact (keeps.unary foundInner).mono (by omega)
    · cases negated
  · rcases orElse_eq_some found with everything | found
    · exact keepsTo_everything? everything
    · rcases orElse_eq_some found with group | found
      · exact keeps.group group
      · rcases orElse_eq_some found with named | found
        · exact keeps.fieldClause named
        · rcases orElse_eq_some found with range | found
          · exact keepsTo_range? range
          · rcases orElse_eq_some found with phrase | term
            · exact keepsTo_phrase? phrase
            · exact keepsTo_term? term

theorem group_succ (keeps : Keeps fuel) (found : group? (fuel + 1) field s = some (clause, rest)) :
    KeepsTo s.length clause.phrases := by
  simp only [group?] at found
  split at found
  · split at found
    · cases found
    · rename_i inside _ _ after foundInside
      split at found
      · cases found
        have blanks := length_skip_le inside
        rw [Clause.phrases_boosted, Clause.phrases_joined_or]
        exact (keeps.ors foundInside).mono (Nat.le_succ_of_le blanks)
      · cases found
  · cases found

theorem fieldClause_succ (keeps : Keeps fuel) (found : fieldClause? (fuel + 1) s = some (clause, rest)) :
    KeepsTo s.length clause.phrases := by
  simp only [fieldClause?] at found
  split at found
  · cases found
  · rename_i named
    have name := Nat.le_of_lt (length_fieldName?_lt named)
    rcases orElse_eq_some found with group | found
    · exact (keeps.group group).mono name
    · rcases orElse_eq_some found with range | found
      · exact (keepsTo_range? range).mono name
      · rcases orElse_eq_some found with phrase | term
        · exact (keepsTo_phrase? phrase).mono name
        · exact (keepsTo_term? term).mono name

end Keeps

theorem keeps (fuel : Nat) : Keeps fuel := by
  induction fuel with
  | zero =>
      constructor <;> intros <;> contradiction
  | succ fuel ih => exact ⟨ih.ors_succ, ih.ands_succ, ih.unary_succ, ih.group_succ, ih.fieldClause_succ⟩

/-- The texts that a query asks for are no longer than the query, and their distances fit machine words. -/
theorem keepsTo_read {query : String} {clause : Clause} (found : read query = .ok clause) :
    KeepsTo query.length clause.phrases := by
  have blanks := length_skip_le query.toList
  rw [String.length_toList] at blanks
  unfold read at found
  split at found
  · rename_i reading
    cases found
    unfold readChars? at reading
    simp only at reading
    split at reading
    · rename_i foundAll
      split at reading
      · cases reading
        rw [Clause.phrases_joined_or]
        exact ((keeps _).ors foundAll).mono blanks
      · cases reading
    · split at reading
      · cases reading
        exact .nil _
      · cases reading
  · cases found

end Lucene

end RecordSearch
