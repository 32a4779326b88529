import RecordSearch.Unicode.Case
import RecordSearch.Unicode.Cased

namespace RecordSearch.Text

open Unicode

def meetsCased (s : List Char) : Bool :=
  match s.dropWhile isCaseIgnorable with
  | [] => false
  | c :: _ => isCased c

/-- A capital sigma ends a word after a cased character and before none. -/
def lowerSigma (before after : List Char) : Char :=
  if meetsCased before && !meetsCased after then 'ς' else 'σ'

def lowerAfter (before : List Char) : List Char → List Char
  | [] => []
  | c :: s => (if c = 'Σ' then [lowerSigma before s] else lowerChar c) ++ lowerAfter (c :: before) s

def lower (s : List Char) : List Char := lowerAfter [] s

def lowerText (s : String) : String := String.ofList (lower s.toList)

def capitalize : List Char → List Char
  | [] => []
  | c :: s => upperChar c ++ s

/-- Equality that ignores the case of the letters `A` to `Z` and of no other. -/
def sameAscii (a b : List Char) : Bool := a.map Char.toLower == b.map Char.toLower

def sameFold (a b : Char) : Bool := foldChar a == foldChar b

def dropFolded? : List Char → List Char → Option (List Char)
  | [], s => some s
  | _ :: _, [] => none
  | a :: lead, c :: s => if sameFold a c then dropFolded? lead s else none

end RecordSearch.Text
