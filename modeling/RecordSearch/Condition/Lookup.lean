import RecordSearch.Error
import RecordSearch.Object.Path

namespace RecordSearch

inductive Comparison where
  | exact
  | contains
  | gt
  | gte
  | lt
  | lte
  | within
  | startsWith
  | range
  | fuzzy
  | near
  deriving DecidableEq, Repr

namespace Comparison

def all : List Comparison :=
  [exact, contains, gt, gte, lt, lte, within, startsWith, range, fuzzy, near]

def keyword : Comparison → String
  | exact => "exact"
  | contains => "contains"
  | gt => "gt"
  | gte => "gte"
  | lt => "lt"
  | lte => "lte"
  | within => "in"
  | startsWith => "startswith"
  | range => "range"
  | fuzzy => "fuzzy"
  | near => "near"

def ofKeyword? (text : String) : Option Comparison := all.find? fun c => c.keyword = text

def ofKeyword (text : String) : Except Error Comparison :=
  match ofKeyword? text with
  | some c => .ok c
  | none => .error (.notFilter text)

def isKeyword (text : String) : Bool := (ofKeyword? text).isSome

theorem ofKeyword?_keyword (c : Comparison) : ofKeyword? c.keyword = some c := by
  cases c <;> decide

end Comparison

namespace Lookup

def mark : List Char := ['_', '_']

/-- The parts around the last mark, if a keyword follows it. -/
def splitKeyword? (key : String) : Option (List Char × Comparison) :=
  match Text.splitLast? mark key.toList with
  | some (field, last) => (Comparison.ofKeyword? (String.ofList last)).map fun c => (field, c)
  | none => none

/-- Field name and comparison of an expression; without a keyword the comparison is exact. -/
def split (expression : String) : String × Comparison :=
  match splitKeyword? expression with
  | some (field, c) => (String.ofList field, c)
  | none => (expression, .exact)

/-- The expression with relations in the field name flattened; a keyword at its end stays. -/
def prepareKey (key : String) : String :=
  match splitKeyword? key with
  | some (field, c) => String.ofList (Path.flattenRelations field ++ mark) ++ c.keyword
  | none => String.ofList (Path.flattenRelations key.toList)

end Lookup

end RecordSearch
