import Mathlib.Data.List.Infix
import RecordSearch.Snippet

/-!
Texts cut at byte offsets. A cut is moved back to where a character begins, so that what is cut off a text is
made of whole characters.
-/

namespace RecordSearch

namespace Text

variable {a b s t : List Char}

theorem byteLength_append (s t : List Char) : byteLength (s ++ t) = byteLength s + byteLength t := by
  induction s with
  | nil => exact (Nat.zero_add _).symm
  | cons c s ih => rw [List.cons_append, byteLength, byteLength, ih, Nat.add_assoc]

theorem byteLength_pos {c : Char} (s : List Char) : 0 < byteLength (c :: s) := by
  have := c.utf8Size_pos
  rw [byteLength]
  omega

theorem byteLength_eq_zero_iff : byteLength s = 0 ↔ s = [] := by
  cases s with
  | nil => exact iff_of_true rfl rfl
  | cons c s => exact iff_of_false (byteLength_pos s).ne' (List.cons_ne_nil c s)

theorem byteLength_le_of_prefix (inside : s <+: t) : byteLength s ≤ byteLength t := by
  obtain ⟨rest, rfl⟩ := inside
  rw [byteLength_append]
  exact Nat.le_add_right _ _

theorem prefix_of_byteLength_le (first : a <+: s) (second : b <+: s) (shorter : byteLength a ≤ byteLength b) :
    a <+: b := by
  rcases List.prefix_or_prefix_of_prefix first second with front | ⟨rest, rfl⟩
  · exact front
  · rw [byteLength_append] at shorter
    have none : rest = [] := byteLength_eq_zero_iff.1 (by omega)
    rw [none, List.append_nil]

/-- A byte at which a character of the text begins, or the text ends. -/
def IsBoundary (s : List Char) (byte : Nat) : Prop := ∃ front, front <+: s ∧ byteLength front = byte

structure IsCut (s : List Char) (byte cut : Nat) : Prop where
  boundary : IsBoundary s cut
  le : cut ≤ byte
  last : ∀ other, IsBoundary s other → other ≤ byte → other ≤ cut

/-- The part of a text between two boundaries. -/
def IsSlice (s : List Char) (start stop : Nat) (part : List Char) : Prop :=
  ∃ before after, s = before ++ part ++ after ∧ byteLength before = start ∧ byteLength (before ++ part) = stop

end Text

namespace Highlighter

open Text

variable {n start stop : Nat} {s : List Char}

theorem takeBytes_prefix (n : Nat) (s : List Char) : takeBytes n s <+: s := by
  induction s generalizing n with
  | nil => exact List.prefix_refl []
  | cons c s ih =>
      rw [takeBytes]
      split
      · exact List.cons_prefix_cons.2 ⟨rfl, ih _⟩
      · exact List.nil_prefix

theorem byteLength_takeBytes_le (n : Nat) (s : List Char) : byteLength (takeBytes n s) ≤ n := by
  induction s generalizing n with
  | nil => exact Nat.zero_le n
  | cons c s ih =>
      rw [takeBytes]
      split
      · have := ih (n - c.utf8Size)
        rw [byteLength]
        omega
      · exact Nat.zero_le n

theorem prefix_takeBytes {front : List Char} (inside : front <+: s) (fits : byteLength front ≤ n) :
    front <+: takeBytes n s := by
  induction s generalizing n front with
  | nil => rwa [List.prefix_nil.1 inside] at *
  | cons c s ih =>
      cases front with
      | nil => exact List.nil_prefix
      | cons d front =>
          obtain ⟨rfl, later⟩ := List.cons_prefix_cons.1 inside
          rw [byteLength] at fits
          have room : d.utf8Size ≤ n := by omega
          rw [takeBytes, if_pos room]
          exact List.cons_prefix_cons.2 ⟨rfl, ih later (by omega)⟩

theorem isCut_takeBytes (n : Nat) (s : List Char) : IsCut s n (byteLength (takeBytes n s)) where
  boundary := ⟨_, takeBytes_prefix n s, rfl⟩
  le := byteLength_takeBytes_le n s
  last := by
    rintro _ ⟨front, inside, rfl⟩ fits
    exact byteLength_le_of_prefix (prefix_takeBytes inside fits)

/-- What is rendered of a text is the slice between the two cuts, empty if the second is not behind the first. -/
theorem isSlice_takeBytes (start stop : Nat) (s : List Char) :
    IsSlice s (byteLength (takeBytes start s))
      (max (byteLength (takeBytes start s)) (byteLength (takeBytes stop s)))
      ((takeBytes stop s).drop (takeBytes start s).length) := by
  have first := takeBytes_prefix start s
  have second := takeBytes_prefix stop s
  rcases Nat.le_total (byteLength (takeBytes start s)) (byteLength (takeBytes stop s)) with ahead | behind
  · obtain ⟨part, whole⟩ := prefix_of_byteLength_le first second ahead
    obtain ⟨after, rest⟩ := second
    refine ⟨takeBytes start s, after, ?_, rfl, ?_⟩
    · rw [← whole, List.drop_left, whole, rest]
    · rw [← whole, List.drop_left, whole, Nat.max_eq_right ahead]
  · have short := (prefix_of_byteLength_le second first behind).length_le
    obtain ⟨after, rest⟩ := first
    refine ⟨takeBytes start s, after, ?_, rfl, ?_⟩
    · rw [List.drop_eq_nil_of_le short, List.append_nil, rest]
    · rw [List.drop_eq_nil_of_le short, List.append_nil, Nat.max_eq_left behind]

theorem isEmpty_takeBytes_iff : (takeBytes n s).isEmpty = true ↔ ¬ 0 < byteLength (takeBytes n s) := by
  rw [List.isEmpty_iff, Nat.not_lt, Nat.le_zero, byteLength_eq_zero_iff]

theorem length_takeBytes_lt_iff :
    (takeBytes n s).length < s.length ↔ byteLength (takeBytes n s) < byteLength s := by
  obtain ⟨rest, whole⟩ := takeBytes_prefix n s
  have lengths := congrArg List.length whole
  have bytes := congrArg byteLength whole
  rw [List.length_append] at lengths
  rw [byteLength_append] at bytes
  cases rest with
  | nil =>
      rw [List.length_nil] at lengths
      rw [byteLength] at bytes
      omega
  | cons c rest =>
      have := byteLength_pos (c := c) rest
      rw [List.length_cons] at lengths
      omega

end Highlighter

end RecordSearch
