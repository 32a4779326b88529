import RecordSearch.Table.Facets
import RecordSearch.Table.Highlight

/-! A table of documents in memory, searched by Lucene queries. -/

namespace RecordSearch

/-- Rows in the order in which their identities were first inserted. -/
structure Table where
  settings : Settings
  rows : List Row

namespace Table

def empty (settings : Settings) : Table := ⟨settings, []⟩

def size (t : Table) : Nat := t.rows.length

def putRow (row : Row) : List Row → List Row
  | [] => [row]
  | r :: rest => if r.identity = row.identity then row :: rest else r :: putRow row rest

def rowsOf (settings : Settings) (schema : Schema) : List Document → Except Error (List Row)
  | [] => .ok []
  | d :: ds =>
    match Row.ofDocument settings schema d with
    | .error e => .error e
    | .ok row =>
      match rowsOf settings schema ds with
      | .error e => .error e
      | .ok rows => .ok (row :: rows)

/-- Puts documents in the place of those with their identities, or at the end. One document that
cannot be stored keeps out all. -/
def update (t : Table) (schema : Schema) (documents : List Document) : Except Error Table :=
  (rowsOf t.settings schema documents).map fun rows =>
    { t with rows := rows.foldl (fun stored row => putRow row stored) t.rows }

def remove (t : Table) (identity : String) : Table :=
  { t with rows := t.rows.filter fun r => r.identity ≠ identity }

/-- Drops the documents of the models, or without any model all documents. -/
def clear (t : Table) (models : List ModelType) : Table :=
  if models.isEmpty then { t with rows := [] }
  else { t with rows := t.rows.filter fun r => !(models.map ModelType.label).contains r.model }

def readAll : List String → Except Error (List Clause)
  | [] => .ok []
  | query :: rest =>
    match Lucene.read query with
    | .error e => .error e
    | .ok clause =>
      match readAll rest with
      | .error e => .error e
      | .ok clauses => .ok (clause :: clauses)

def passes (t : Table) (narrow : List Clause) (r : Row) : Bool :=
  narrow.all fun clause => clause.accepts t.settings.contentField r

def toHit (words : Option (List (List Char))) (m : Scored) : RawHit :=
  { fields := m.row.stored
    score := m.score
    highlighted := match words with
      | some words => highlighted m.row words
      | none => .empty }

/-- The hits between two positions; positions behind the last hit stand for it. -/
def window {α : Type} (start : Nat) (stop : Option Nat) (s : List α) : List α :=
  let first := min start s.length
  let last := max first (min (stop.getD s.length) s.length)
  (s.take last).drop first

def respond (t : Table) (options : SearchOptions) (words : Option (List (List Char)))
    (matched : List Scored) : Except Error RawResults :=
  let rows := sortMatches options.sortBy matched
  (facetCounts t.settings.contentField options (rows.map Scored.row)).map fun facets =>
    { hits := rows.length
      results := (window options.start options.stop rows).map (toHit words)
      facets := facets }

def matching (t : Table) (clause : Clause) (narrow : List Clause) : List Scored :=
  (t.rows.filter (t.passes narrow)).filterMap fun r =>
    (clause.score t.settings.contentField r).map fun score => ⟨r, score⟩

def search (t : Table) (query : String) (options : SearchOptions) : Except Error RawResults :=
  match Lucene.read query, readAll options.narrow with
  | .error e, _ => .error e
  | _, .error e => .error e
  | .ok clause, .ok narrow =>
    let words := if options.highlight then some (clause.textWords t.settings.contentField) else none
    t.respond options words (t.matching clause narrow)

def distinctWords (r : Row) : List (List Char) := (Text.words r.text.toList).eraseDups

/-- The rows that share words with `source`, scored by their number. -/
def sharing (t : Table) (source : Row) (narrow : List Clause) : List Scored :=
  let sourceWords := distinctWords source
  (t.rows.filter fun r => r.identity ≠ source.identity && t.passes narrow r).filterMap fun r =>
    let shared := (distinctWords r).countP sourceWords.contains
    if 0 < shared then some ⟨r, Float.ofNat shared⟩ else none

def similar (t : Table) (identity : String) (options : SearchOptions) : Except Error RawResults :=
  match readAll options.narrow with
  | .error e => .error e
  | .ok narrow =>
    match t.rows.find? fun r => r.identity = identity with
    | none => .error (.unknownIdentity identity)
    | some source => t.respond options none (t.sharing source narrow)

end Table

end RecordSearch
