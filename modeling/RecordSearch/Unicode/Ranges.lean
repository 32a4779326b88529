namespace RecordSearch.Unicode

def covers : List (Nat × Nat) → Nat → Bool
  | [], _ => false
  | (first, last) :: ranges, n => if n < first then false else n ≤ last || covers ranges n

theorem exists_of_covers {ranges : List (Nat × Nat)} {n : Nat} (covered : covers ranges n = true) :
    ∃ range ∈ ranges, range.1 ≤ n ∧ n ≤ range.2 := by
  induction ranges with
  | nil => cases covered
  | cons range ranges ih =>
      obtain ⟨first, last⟩ := range
      rw [covers] at covered
      split at covered
      · cases covered
      · rename_i above
        rcases Bool.or_eq_true_iff.1 covered with here | later
        · exact ⟨_, List.mem_cons_self, Nat.le_of_not_lt above, of_decide_eq_true here⟩
        · obtain ⟨range, listed, within⟩ := ih later
          exact ⟨range, List.mem_cons_of_mem _ listed, within⟩

def lookupRange? {α : Type} : List (Nat × Nat × α) → Nat → Option α
  | [], _ => none
  | (first, last, value) :: ranges, n =>
    if n < first then none else if n ≤ last then some value else lookupRange? ranges n

end RecordSearch.Unicode
