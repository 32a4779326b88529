import RecordSearch.Condition.Write
import RecordSearch.Text.Blank

namespace RecordSearch.Lucene

def reserved : List Char :=
  ['\\', '+', '-', '&', '|', '!', '(', ')', '\x7b', '\x7d', '[', ']', '^', '"', '~', '*', '?', ':', '/']

def escapeWhere (needs : Char → Bool) (s : List Char) : List Char :=
  s.flatMap fun c => if needs c then ['\\', c] else [c]

/-- A backslash before every character with a meaning in the language. -/
def escape (s : List Char) : List Char := escapeWhere reserved.contains s

def clean (text : String) : String := String.ofList (escape text.toList)

def quoteEscape (s : List Char) : List Char := escapeWhere ['\\', '"'].contains s

def inQuotes (text : String) : String :=
  String.ofList ('"' :: quoteEscape text.toList ++ ['"'])

/-- An instant to the second, in universal time; any other value as it is displayed. -/
def dateText (v : Value) : String :=
  match v.dateTime? with
  | some t => String.ofList (t.text ++ ['Z'])
  | none => v.display

def term (v : Value) : String :=
  match v with
  | .text s => if Text.hasBlank s.toList then inQuotes s else clean s
  | .date _ | .dateTime _ => "\"" ++ dateText v ++ "\""
  | .list items => inQuotes (" ".intercalate (items.map Value.display))
  | v => v.display

def phrase (v : Value) : String :=
  match v with
  | .date _ | .dateTime _ => "\"" ++ dateText v ++ "\""
  | v => inQuotes v.display

/-- A value as part of a term with wildcards; a backslash stands before spaces too. -/
def wildcardTerm (v : Value) : String :=
  String.ofList (escapeWhere (· == ' ') (escape v.display.toList))

/-- The field name before a lookup; none stands before the text of a document. -/
def fieldMark (contentField field : String) : String :=
  if field = contentField then "" else field ++ ":"

/-- The phrase of a proximity lookup and the number of words that may stand between its words. -/
def phraseAndSlop (v : Value) : String × Int64 :=
  match v with
  | .list [phrase, slop] => (phrase.display, slop.integer?.getD 1)
  | v => (v.display, 1)

def everything : String := "*:*"

def lookup (contentField field : String) (comparison : Comparison) (v : Value) : String :=
  let mark := fieldMark contentField field
  match comparison with
  | .exact => mark ++ term v
  | .contains => mark ++ "*" ++ wildcardTerm v ++ "*"
  | .startsWith => mark ++ wildcardTerm v ++ "*"
  | .gt => mark ++ "\x7b" ++ term v ++ " TO *\x7d"
  | .gte => mark ++ "[" ++ term v ++ " TO *]"
  | .lt => mark ++ "\x7b* TO " ++ term v ++ "\x7d"
  | .lte => mark ++ "[* TO " ++ term v ++ "]"
  | .within =>
    let options := match v with
      | .list items => items.map fun item => mark ++ phrase item
      | v => [mark ++ phrase v]
    if options.isEmpty then "(NOT " ++ everything ++ ")"
    else "(" ++ " OR ".intercalate options ++ ")"
  | .range =>
    match v with
    | .list [low, high] => mark ++ "[" ++ term low ++ " TO " ++ term high ++ "]"
    | v => mark ++ term v
  | .fuzzy => mark ++ clean v.display ++ "~"
  | .near =>
    let (phrase, slop) := phraseAndSlop v
    mark ++ inQuotes phrase ++ "~" ++ Value.integerText slop

def querySyntax (contentField : String) : QuerySyntax where
  contentField := contentField
  lookup := lookup contentField
  presence field := field ++ ":[* TO *]"
  everything := everything
  clean := clean

end RecordSearch.Lucene
