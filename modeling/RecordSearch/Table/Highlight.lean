import RecordSearch.Table.Row

namespace RecordSearch

namespace Clause

def onText (contentField : String) (field : Option String) : Bool :=
  match field with
  | none => true
  | some name => name == contentField

mutual

/-- The words that a query asks for in the text of a document. -/
def textWords (contentField : String) : Clause → List (List Char)
  | and clauses | or clauses => textWordsAll contentField clauses
  | boost clause _ => textWords contentField clause
  | term field text | phrase field text _ | fuzzy field text _ =>
    if onText contentField field then Text.words text.toList else []
  | _ => []

def textWordsAll (contentField : String) : List Clause → List (List Char)
  | [] => []
  | clause :: rest => textWords contentField clause ++ textWordsAll contentField rest

end

end Clause

namespace Table

def openMark : List Char := ['<', 'e', 'm', '>']

def closeMark : List Char := ['<', '/', 'e', 'm', '>']

def emphasize (text : List Char) (words : List (List Char)) : List Char :=
  (Text.segments text).flatMap fun piece =>
    if piece.any Text.isAlphanumeric && words.contains (Text.lower piece) then
      openMark ++ piece ++ closeMark
    else piece

def highlighted (r : Row) (words : List (List Char)) : SortedMap String (List String) :=
  if r.text.isEmpty then .empty
  else ⟨[(r.documentField, [String.ofList (emphasize r.text.toList words)])]⟩

end Table

end RecordSearch
