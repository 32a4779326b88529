import RecordSearch.Text.Split
import RecordSearch.Unicode.Blank

namespace RecordSearch.Text

open Unicode (isBlank)

def trimStart (s : List Char) : List Char := s.dropWhile isBlank

def trim (s : List Char) : List Char := (trimStart (trimStart s).reverse).reverse

def hasBlank (s : List Char) : Bool := s.any isBlank

def blankSeparated (s : List Char) : List (List Char) :=
  (splitWhere isBlank s).filter fun word => !word.isEmpty

end RecordSearch.Text
