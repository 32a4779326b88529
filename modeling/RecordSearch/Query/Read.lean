import RecordSearch.Decimal.Read
import RecordSearch.Error
import RecordSearch.Query.Clause
import RecordSearch.Text.EditDistance
import RecordSearch.Text.Split

/-!
Reading Lucene query text. A query is clauses joined by `OR`, each of them clauses joined by `AND` or by
nothing, each of them negated by `NOT` or not; blanks may stand between the parts.
-/

namespace RecordSearch.Lucene

def isBlank (c : Char) : Bool := c == ' ' || c == '\t' || c == '\r' || c == '\n'

def skip (s : List Char) : List Char := s.dropWhile isBlank

/-- Characters that end a term unless a backslash stands before them. -/
def endsTerm (c : Char) : Bool :=
  isBlank c ||
    ['(', ')', '[', ']', '\x7b', '\x7d', '^', '~', '"', ':'].contains c

def startsTerm : List Char → Bool
  | [] => false
  | c :: _ => !endsTerm c

/-- The characters before the first one that satisfies `stop`, and the rest; a backslash and the
character after it stay together and never stop. -/
def takeEscaped (stop : Char → Bool) : List Char → List Char × List Char
  | [] => ([], [])
  | '\\' :: c :: rest =>
    let (taken, rest) := takeEscaped stop rest
    ('\\' :: c :: taken, rest)
  | c :: rest =>
    if stop c then ([], c :: rest)
    else
      let (taken, rest) := takeEscaped stop rest
      (c :: taken, rest)

def unescape : List Char → List Char
  | '\\' :: c :: rest => c :: unescape rest
  | ['\\'] => []
  | c :: rest => c :: unescape rest
  | [] => []

/-- What follows one of the words, where no term goes on after it. -/
def word? (words : List (List Char)) (s : List Char) : Option (List Char) :=
  match words.findSome? fun word => Text.dropLead? word s with
  | some rest => if startsTerm rest then none else some rest
  | none => none

def andWords : List (List Char) := [['A', 'N', 'D'], ['&', '&']]

def orWords : List (List Char) := [['O', 'R'], ['|', '|']]

def notWords : List (List Char) := [['N', 'O', 'T']]

def keywords : List (List Char) := [['A', 'N', 'D'], ['O', 'R'], ['N', 'O', 'T'], ['T', 'O']]

def number? (s : List Char) : Option (List Char × List Char) :=
  let whole := s.takeWhile Char.isDigit
  let rest := s.dropWhile Char.isDigit
  if whole.isEmpty then none
  else
    match rest with
    | '.' :: after =>
      let fraction := after.takeWhile Char.isDigit
      if fraction.isEmpty then some (whole, rest)
      else some (whole ++ '.' :: fraction, after.dropWhile Char.isDigit)
    | rest => some (whole, rest)

def boost (s : List Char) : Option Float × List Char :=
  match s with
  | '^' :: rest =>
    match number? rest with
    | some (number, rest) => (Decimal.readFloat? number, rest)
    | none => (none, s)
  | s => (none, s)

def isFieldChar (c : Char) : Bool := c.isAlphanum || c == '_' || c == '.'

def closeQuote? (s : List Char) : Option (List Char × List Char) :=
  match takeEscaped (· == '"') s with
  | (text, '"' :: rest) => some (text, rest)
  | _ => none

def endsBound (c : Char) : Bool := isBlank c || c == ']' || c == '\x7d'

def bareBound? (s : List Char) : Option (Option String × List Char) :=
  match takeEscaped endsBound s with
  | ([], _) => none
  | (text, rest) => some (some (String.ofList (unescape text)), rest)

/-- A bound of a range; `*` on its own is none. -/
def bound? (s : List Char) : Option (Option String × List Char) :=
  match s with
  | '"' :: rest =>
    match closeQuote? rest with
    | some (text, rest) => some (some (String.ofList (unescape text)), rest)
    | none => bareBound? s
  | '*' :: c :: rest => if endsBound c then some (none, c :: rest) else bareBound? s
  | s => bareBound? s

def openRange? : List Char → Option (Bool × List Char)
  | '[' :: rest => some (true, rest)
  | '\x7b' :: rest => some (false, rest)
  | _ => none

def closeRange? : List Char → Option (Bool × List Char)
  | ']' :: rest => some (true, rest)
  | '\x7d' :: rest => some (false, rest)
  | _ => none

def range? (field : Option String) (s : List Char) : Option (Clause × List Char) :=
  match openRange? s with
  | none => none
  | some (lowerIncluded, rest) =>
    match bound? (skip rest) with
    | none => none
    | some (lower, rest) =>
      match (Text.dropLead? ['T', 'O'] (skip rest)).bind fun rest => bound? (skip rest) with
      | none => none
      | some (upper, rest) =>
        match closeRange? (skip rest) with
        | none => none
        | some (upperIncluded, rest) =>
          let (factor, rest) := boost (skip rest)
          some ((Clause.range field lower upper lowerIncluded upperIncluded).boosted factor, rest)

/-- A number after `~`; the number may be missing or too large to count. -/
def slop (s : List Char) : Option Nat × List Char :=
  match s with
  | '~' :: rest =>
    match number? rest with
    | some (number, rest) => (Decimal.readWord? number, rest)
    | none => (none, s)
  | s => (none, s)

def phrase? (field : Option String) (s : List Char) : Option (Clause × List Char) :=
  match s with
  | '"' :: rest =>
    match closeQuote? rest with
    | none => none
    | some (text, rest) =>
      let (slop, rest) := slop rest
      let (factor, rest) := boost rest
      some ((Clause.phrase field (String.ofList (unescape text)) slop).boosted factor, rest)
  | _ => none

/-- The pattern that a term writes; a backslash takes the meaning from the character after it. -/
def wilds : List Char → List Wild
  | '\\' :: c :: rest => .char c :: wilds rest
  | ['\\'] => []
  | '*' :: rest => .many :: wilds rest
  | '?' :: rest => .one :: wilds rest
  | c :: rest => .char c :: wilds rest
  | [] => []

def isWild : Wild → Bool
  | .char _ => false
  | _ => true

def fuzziness (s : List Char) : Option Nat × List Char :=
  match s with
  | '~' :: rest =>
    match number? rest with
    | some (number, rest) => (some ((Decimal.readWord? number).getD Text.defaultMaxEdits), rest)
    | none => (some Text.defaultMaxEdits, rest)
  | s => (none, s)

def termClause (field : Option String) (term : List Char) : Option Nat → Clause
  | some maxEdits => .fuzzy field (String.ofList (unescape term)) maxEdits
  | none =>
    let pattern := wilds term
    if pattern.any isWild then .wildcard field pattern
    else .term field (String.ofList (unescape term))

def term? (field : Option String) (s : List Char) : Option (Clause × List Char) :=
  if (word? keywords s).isSome then none
  else
    match takeEscaped endsTerm s with
    | ([], _) => none
    | (term, rest) =>
      let (maxEdits, rest) := fuzziness rest
      let (factor, rest) := boost rest
      some ((termClause field term maxEdits).boosted factor, rest)

def fieldName? (s : List Char) : Option (String × List Char) :=
  let name := s.takeWhile isFieldChar
  if name.isEmpty then none
  else
    match skip (s.dropWhile isFieldChar) with
    | ':' :: rest => some (String.ofList name, skip rest)
    | _ => none

def everything? : List Char → Option (Clause × List Char)
  | '*' :: ':' :: '*' :: rest => some (.all, rest)
  | _ => none

def orElse (first : Option (Clause × List Char)) (second : Unit → Option (Clause × List Char)) :
    Option (Clause × List Char) :=
  match first with
  | some result => some result
  | none => second ()

mutual

def ors? : Nat → Option String → List Char → Option (List Clause × List Char)
  | 0, _, _ => none
  | fuel + 1, field, s =>
    match ands? fuel field s with
    | none => none
    | some (clauses, rest) =>
      let clause := Clause.joined .and clauses
      let more := match word? orWords (skip rest) with
        | some next => ors? fuel field (skip next)
        | none => none
      match more with
      | some (others, rest) => some (clause :: others, rest)
      | none => some ([clause], rest)

/-- Clauses joined by `AND` or by nothing. -/
def ands? : Nat → Option String → List Char → Option (List Clause × List Char)
  | 0, _, _ => none
  | fuel + 1, field, s =>
    match unary? fuel field s with
    | none => none
    | some (clause, rest) =>
      let next := match word? andWords (skip rest) with
        | some next => skip next
        | none => skip rest
      match ands? fuel field next with
      | some (others, rest) => some (clause :: others, rest)
      | none => some ([clause], rest)

def unary? : Nat → Option String → List Char → Option (Clause × List Char)
  | 0, _, _ => none
  | fuel + 1, field, s =>
    let negated := match word? notWords s with
      | some rest => (unary? fuel field (skip rest)).map fun (clause, rest) => (.not clause, rest)
      | none => none
    orElse negated fun _ =>
    orElse (everything? s) fun _ =>
    orElse (group? fuel field s) fun _ =>
    orElse (fieldClause? fuel s) fun _ =>
    orElse (range? field s) fun _ =>
    orElse (phrase? field s) fun _ => term? field s

def group? : Nat → Option String → List Char → Option (Clause × List Char)
  | 0, _, _ => none
  | fuel + 1, field, s =>
    match s with
    | '(' :: rest =>
      match ors? fuel field (skip rest) with
      | none => none
      | some (clauses, rest) =>
        match skip rest with
        | ')' :: rest =>
          let (factor, rest) := boost (skip rest)
          some ((Clause.joined .or clauses).boosted factor, rest)
        | _ => none
    | _ => none

def fieldClause? : Nat → List Char → Option (Clause × List Char)
  | 0, _ => none
  | fuel + 1, s =>
    match fieldName? s with
    | none => none
    | some (name, rest) =>
      orElse (group? fuel (some name) rest) fun _ =>
      orElse (range? (some name) rest) fun _ =>
      orElse (phrase? (some name) rest) fun _ => term? (some name) rest

end

/-- Enough for every reading of a text: six steps lead to the next character. -/
def fuelFor (s : List Char) : Nat := 6 * (s.length + 1)

def readChars? (s : List Char) : Option Clause :=
  let start := skip s
  match ors? (fuelFor start) none start with
  | some (clauses, rest) => if (skip rest).isEmpty then some (Clause.joined .or clauses) else none
  | none => if start.isEmpty then some .nothing else none

def read (query : String) : Except Error Clause :=
  match readChars? query.toList with
  | some clause => .ok clause
  | none => .error .malformedQuery

end RecordSearch.Lucene
