import Mathlib.Data.List.Forall2

namespace RecordSearch.Outcome

variable {ε α β : Type}

theorem exists_eq_ok {outcome : Except ε α} (fine : outcome.isOk = true) : ∃ a, outcome = .ok a := by
  cases outcome with
  | ok a => exact ⟨a, rfl⟩
  | error e => cases fine

theorem mapM_cons_ok {f : α → Except ε β} {a : α} {rest : List α} {b : β} {bs : List β}
    (first : f a = .ok b) (others : rest.mapM f = .ok bs) : (a :: rest).mapM f = .ok (b :: bs) := by
  rw [List.mapM_cons, first, others]
  rfl

theorem mapM_cons_error {f : α → Except ε β} {a : α} {rest : List α} {b : β} {e : ε}
    (first : f a = .ok b) (failed : rest.mapM f = .error e) : (a :: rest).mapM f = .error e := by
  rw [List.mapM_cons, first, failed]
  rfl

theorem mapM_head_error {f : α → Except ε β} {a : α} {e : ε} (failed : f a = .error e)
    (rest : List α) : (a :: rest).mapM f = .error e := by
  rw [List.mapM_cons, failed]
  rfl

theorem mapM_eq_ok_iff {f : α → Except ε β} {s : List α} {t : List β} :
    s.mapM f = .ok t ↔ List.Forall₂ (fun a b => f a = .ok b) s t := by
  induction s generalizing t with
  | nil =>
      rw [List.mapM_nil, List.forall₂_nil_left_iff]
      constructor
      · intro same
        cases same
        rfl
      · rintro rfl
        rfl
  | cons a rest ih =>
      constructor
      · intro whole
        cases first : f a with
        | error e =>
            rw [mapM_head_error first] at whole
            cases whole
        | ok b =>
            cases others : rest.mapM f with
            | error e =>
                rw [mapM_cons_error first others] at whole
                cases whole
            | ok bs =>
                rw [mapM_cons_ok first others] at whole
                cases whole
                exact .cons first (ih.1 others)
      · intro each
        cases each with
        | cons first others => exact mapM_cons_ok first (ih.2 others)

theorem exists_of_mem_right {R : α → β → Prop} {s : List α} {t : List β} (each : List.Forall₂ R s t) {b : β}
    (listed : b ∈ t) : ∃ a ∈ s, R a b := by
  induction each with
  | nil => cases listed
  | @cons a c rest others first _ ih =>
      rcases List.mem_cons.1 listed with rfl | later
      · exact ⟨a, List.mem_cons_self, first⟩
      · obtain ⟨found, there, related⟩ := ih later
        exact ⟨found, List.mem_cons_of_mem a there, related⟩

theorem exists_of_mem_mapM {f : α → Except ε β} {s : List α} {t : List β} (whole : s.mapM f = .ok t)
    {b : β} (listed : b ∈ t) : ∃ a ∈ s, f a = .ok b :=
  exists_of_mem_right (mapM_eq_ok_iff.1 whole) listed

theorem exists_mapM_eq_error_iff {f : α → Except ε β} {s : List α} :
    (∃ e, s.mapM f = .error e) ↔ ∃ a ∈ s, ∃ e, f a = .error e := by
  induction s with
  | nil =>
      constructor
      · rintro ⟨e, failed⟩
        cases failed
      · rintro ⟨a, there, -⟩
        cases there
  | cons a rest ih =>
      cases first : f a with
      | error e =>
          constructor
          · intro _
            exact ⟨a, List.mem_cons_self, e, first⟩
          · intro _
            exact ⟨e, mapM_head_error first rest⟩
      | ok b =>
          have same : (∃ e, (a :: rest).mapM f = .error e) ↔ ∃ e, rest.mapM f = .error e := by
            cases others : rest.mapM f with
            | error e => simp [mapM_cons_error first others]
            | ok bs => simp [mapM_cons_ok first others]
          rw [same, ih]
          simp [first]

theorem exists_mapM_eq_ok {f : α → Except ε β} {s : List α} (every : ∀ a ∈ s, ∃ b, f a = .ok b) :
    ∃ t, s.mapM f = .ok t := by
  cases whole : s.mapM f with
  | ok t => exact ⟨t, rfl⟩
  | error e =>
      obtain ⟨a, there, failure, failed⟩ := exists_mapM_eq_error_iff.1 ⟨e, whole⟩
      obtain ⟨b, made⟩ := every a there
      rw [made] at failed
      cases failed

theorem mapM_append_ok {f : α → Except ε β} {s t : List α} {bs cs : List β} (front : s.mapM f = .ok bs)
    (rest : t.mapM f = .ok cs) : (s ++ t).mapM f = .ok (bs ++ cs) := by
  rw [List.mapM_append, front, rest]
  rfl

end RecordSearch.Outcome
