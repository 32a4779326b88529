import Mathlib.Order.RelClasses
import RecordSearch.SortedMap

namespace RecordSearch.SortedMap

variable {κ α : Type} [LT κ] {entries : List (κ × α)}

def Ascending (entries : List (κ × α)) : Prop := entries.Pairwise fun x y => x.1 < y.1

theorem nodup_of_ascending [IsStrictTotalOrder κ (· < ·)] (ascending : Ascending entries) :
    (entries.map Prod.fst).Nodup :=
  List.pairwise_map.2 (ascending.imp (ne_of_irrefl (r := (· < ·))))

variable [DecidableEq κ] {m : SortedMap κ α} {k : κ} {a : α}

theorem find?_eq_some_iff [IsStrictTotalOrder κ (· < ·)] (ascending : Ascending m.entries) :
    m.find? k = some a ↔ (k, a) ∈ m.entries := by
  obtain ⟨entries⟩ := m
  simp only [find?] at ascending ⊢
  induction entries with
  | nil => simp
  | cons entry rest ih =>
      obtain ⟨below, rising⟩ := List.pairwise_cons.1 ascending
      by_cases here : entry.1 = k
      · have absent : (k, a) ∉ rest := fun later => ne_of_irrefl (below _ later) here
        rw [List.find?_cons_of_pos (by simpa using here), Option.map_some, List.mem_cons, or_iff_left absent,
          Option.some_inj, Prod.ext_iff]
        exact ⟨fun same => ⟨here.symm, same.symm⟩, fun same => same.2.symm⟩
      · have other : (k, a) ≠ entry := fun same => here (congrArg Prod.fst same).symm
        rw [List.find?_cons_of_neg (by simpa using here), List.mem_cons, or_iff_right other]
        exact ih rising

variable [DecidableLT κ]

theorem find?_foldl_insert (f : κ → α) (keys : List κ) (m : SortedMap κ α) (k : κ) :
    ((keys.map fun key => (key, f key)).foldl (fun m entry => m.insert entry.1 entry.2) m).find? k =
      if k ∈ keys then some (f k) else m.find? k := by
  induction keys generalizing m with
  | nil => rfl
  | cons key keys ih =>
      rw [List.map_cons, List.foldl_cons, ih, find?_insert]
      by_cases later : k ∈ keys
      · rw [if_pos later, if_pos (List.mem_cons_of_mem key later)]
      · by_cases here : k = key
        · simp [here]
        · simp [here, later]

theorem ascending_insertEntry [IsStrictTotalOrder κ (· < ·)] (ascending : Ascending entries) (k : κ) (a : α) :
    Ascending (insertEntry k a entries) := by
  induction entries with
  | nil => exact List.pairwise_singleton _ _
  | cons entry rest ih =>
      obtain ⟨below, rising⟩ := List.pairwise_cons.1 ascending
      rw [insertEntry]
      split
      · rename_i same
        exact List.pairwise_cons.2 ⟨fun x there => same ▸ below x there, rising⟩
      · rename_i other
        split
        · rename_i lower
          refine List.pairwise_cons.2 ⟨fun x there => ?_, ascending⟩
          rcases List.mem_cons.1 there with rfl | later
          · exact lower
          · exact trans_of (· < ·) lower (below x later)
        · rename_i notLower
          refine List.pairwise_cons.2 ⟨fun x there => ?_, ih rising⟩
          rcases mem_insertEntry there with rfl | later
          · rcases trichotomous_of (· < ·) k entry.1 with lower | same | greater
            · exact absurd lower notLower
            · exact absurd same other
            · exact greater
          · exact below x later

end RecordSearch.SortedMap
