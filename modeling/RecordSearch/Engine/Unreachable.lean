import RecordSearch.Engine.Basic
import RecordSearch.Query.Lucene

namespace RecordSearch

structure Unreachable where
  contentField : String
  reason : String

instance : Engine Unreachable where
  querySyntax e := Lucene.querySyntax e.contentField
  update e _ _ := .error (.unavailable e.reason)
  remove e _ := .error (.unavailable e.reason)
  clear e _ := .error (.unavailable e.reason)
  search e _ _ := (.error (.unavailable e.reason), e)
  similar e _ _ := (.error (.unavailable e.reason), e)

end RecordSearch
