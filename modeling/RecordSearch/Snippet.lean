import RecordSearch.SortedMap
import RecordSearch.Text.Blank
import RecordSearch.Text.Word

namespace RecordSearch

structure Highlighter where
  words : List String
  maxLength : Nat
  tag : String
  cssClass : Option String
  deriving DecidableEq, Repr

namespace Highlighter

def queryWords (query : String) : List String :=
  let words := (Text.blankSeparated query.toList).filter fun word => !(word.head? == some '-')
  (words.map fun word => String.ofList (Text.lower word)).foldl (fun all word => insertSorted word all) []

def ofQuery (query : String) : Highlighter where
  words := queryWords query
  maxLength := 200
  tag := "span"
  cssClass := some "highlighted"

/-- The text without tags: from each `<` to the next `>`. -/
def stripTags : List Char → List Char
  | [] => []
  | c :: s =>
    match _found : if c = '<' then Text.splitFirst? ['>'] s else none with
    | some (_, after) => stripTags after
    | none => c :: stripTags s
termination_by s => s.length
decreasing_by
  · split at _found
    · have whole := congrArg List.length (Text.eq_of_splitFirst? _found)
      simp only [List.length_append, List.length_cons] at whole ⊢
      omega
    · contradiction
  · simp

/-- The byte offsets of a word in a text up to case, without overlap; `skip` characters belong to the
occurrence before. -/
def occurrences (word : List Char) : (offset skip : Nat) → List Char → List Nat
  | _, _, [] => []
  | offset, skip + 1, c :: s => occurrences word (offset + c.utf8Size) skip s
  | offset, 0, c :: s =>
    match Text.dropFolded? word (c :: s) with
    | some _ => offset :: occurrences word (offset + c.utf8Size) (word.length - 1) s
    | none => occurrences word (offset + c.utf8Size) 0 s

def locations (h : Highlighter) (text : List Char) : List (String × List Nat) :=
  h.words.map fun word => (word, occurrences word.toList 0 0 text)

def density (maxLength : Nat) : List Nat → Nat
  | [] => 0
  | start :: rest => 1 + (rest.takeWhile fun offset => offset - start < maxLength).length

/-- The start of the densest window, the earliest of several. -/
def densest (maxLength : Nat) (best : Nat × Nat) : List Nat → Nat
  | [] => best.1
  | start :: rest =>
    let here := density maxLength (start :: rest)
    densest maxLength (if best.2 < here then (start, here) else best) rest

def maxOffset : Nat := UInt64.size - 1

def window (h : Highlighter) (locations : List (String × List Nat)) : Nat × Nat :=
  let found := (locations.flatMap Prod.snd).mergeSort
  let start := densest h.maxLength (0, 0) found
  (start, min (start + h.maxLength) maxOffset)

/-- The characters that end within so many bytes. -/
def takeBytes : Nat → List Char → List Char
  | _, [] => []
  | n, c :: s => if c.utf8Size ≤ n then c :: takeBytes (n - c.utf8Size) s else []

def openTag (h : Highlighter) : List Char :=
  match h.cssClass with
  | some cssClass => ("<" ++ h.tag ++ " class=\"" ++ cssClass ++ "\">").toList
  | none => ("<" ++ h.tag ++ ">").toList

def closeTag (h : Highlighter) : List Char := ("</" ++ h.tag ++ ">").toList

def longestFirst (words : List String) : List (List Char) :=
  (words.mergeSort fun a b => b.utf8ByteSize ≤ a.utf8ByteSize).map String.toList

/-- The length of the first word that a text starts with, up to case. -/
def wordAt? (words : List (List Char)) (s : List Char) : Option Nat :=
  words.findSome? fun word => (Text.dropFolded? word s).map fun _ => word.length

/-- The text with tags around words; `left` characters of an open tag are still to come. -/
def tagWords (h : Highlighter) (words : List (List Char)) : (left : Nat) → List Char → List Char
  | _, [] => []
  | left + 2, c :: s => c :: tagWords h words (left + 1) s
  | 1, c :: s => c :: h.closeTag ++ tagWords h words 0 s
  | 0, c :: s =>
    match wordAt? words (c :: s) with
    | some (n + 2) => h.openTag ++ c :: tagWords h words (n + 1) s
    | some _ => h.openTag ++ c :: h.closeTag ++ tagWords h words 0 s
    | none => c :: tagWords h words 0 s

def dots : List Char := ['.', '.', '.']

def render (h : Highlighter) (text : List Char) (start stop : Nat) : List Char :=
  let before := takeBytes start text
  let upTo := takeBytes stop text
  let chunk := upTo.drop before.length
  (if before.isEmpty then [] else dots) ++ h.tagWords (longestFirst h.words) 0 chunk ++
    (if upTo.length < text.length then dots else [])

def highlight (h : Highlighter) (text : String) : String :=
  let plain := stripTags text.toList
  let (start, stop) := h.window (h.locations plain)
  String.ofList (h.render plain start stop)

end Highlighter

end RecordSearch
