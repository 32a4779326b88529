import RecordSearch.Text.Case

/-!
Patterns with wildcards. A text is tried together with all its ends, so the work is the product of the two
lengths, however many wildcards there are; the lemmas say place by place what fits.
-/

namespace RecordSearch

inductive Wild where
  | char (c : Char)
  /-- Any character but a line feed. -/
  | one
  /-- Any number of characters other than line feeds. -/
  | many
  deriving DecidableEq, Repr

namespace Wild

/-- The ends of a text that begin with an accepted character before a good end. Each list has a place for
every end, the whole text first and the empty end last. -/
def afterOne (accepts : Char → Bool) : List Char → List Bool → List Bool
  | c :: s, _ :: good => (accepts c && good.headD false) :: afterOne accepts s good
  | _, _ => [false]

/-- The ends of a text that are good after any number of characters other than line feeds. -/
def afterMany : List Char → List Bool → List Bool
  | c :: s, here :: good =>
    let later := afterMany s good
    (here || (c != '\n' && later.headD false)) :: later
  | _, good => good

def fittingEnds : List Wild → List Char → List Bool
  | [], s => s.map (fun _ => false) ++ [true]
  | .char a :: pattern, s => afterOne (Text.sameFold a) s (fittingEnds pattern s)
  | .one :: pattern, s => afterOne (· != '\n') s (fittingEnds pattern s)
  | .many :: pattern, s => afterMany s (fittingEnds pattern s)

/-- Whether a whole text fits a pattern, up to case. -/
def fits (pattern : List Wild) (s : List Char) : Bool := (fittingEnds pattern s).headD false

theorem fittingEnds_cons (pattern : List Wild) (c : Char) (s : List Char) :
    fittingEnds pattern (c :: s) = fits pattern (c :: s) :: fittingEnds pattern s := by
  induction pattern with
  | nil => rfl
  | cons place pattern ih => cases place <;> (simp only [fits, fittingEnds]; rw [ih]; rfl)

theorem fits_nil (s : List Char) : fits [] s = s.isEmpty := by cases s <;> rfl

theorem fits_char_nil (a : Char) (pattern : List Wild) : fits (.char a :: pattern) [] = false := rfl

theorem fits_char_cons (a c : Char) (pattern : List Wild) (s : List Char) :
    fits (.char a :: pattern) (c :: s) = (Text.sameFold a c && fits pattern s) := by
  rw [fits, fittingEnds, fittingEnds_cons]; rfl

theorem fits_one_nil (pattern : List Wild) : fits (.one :: pattern) [] = false := rfl

theorem fits_one_cons (c : Char) (pattern : List Wild) (s : List Char) :
    fits (.one :: pattern) (c :: s) = (c != '\n' && fits pattern s) := by
  rw [fits, fittingEnds, fittingEnds_cons]; rfl

theorem fits_many_nil (pattern : List Wild) : fits (.many :: pattern) [] = fits pattern [] := rfl

theorem fits_many_cons (c : Char) (pattern : List Wild) (s : List Char) :
    fits (.many :: pattern) (c :: s) =
      (fits pattern (c :: s) || (c != '\n' && fits (.many :: pattern) s)) := by
  rw [fits, fittingEnds, fittingEnds_cons]; rfl

end Wild

end RecordSearch
