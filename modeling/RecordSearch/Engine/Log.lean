namespace RecordSearch

structure QueryRecord where
  query : String
  hits : Nat
  start : Nat
  stop : Option Nat
  deriving DecidableEq, Repr

structure QueryLog where
  enabled : Bool
  records : List QueryRecord
  deriving DecidableEq, Repr

namespace QueryLog

def ofEnabled (enabled : Bool) : QueryLog := ⟨enabled, []⟩

def record (log : QueryLog) (r : QueryRecord) : QueryLog :=
  if log.enabled then { log with records := log.records ++ [r] } else log

def reset (log : QueryLog) : QueryLog := { log with records := [] }

def size (log : QueryLog) : Nat := log.records.length

def last? (log : QueryLog) : Option QueryRecord := log.records.getLast?

end QueryLog

end RecordSearch
