import RecordSearch.Engine.Basic
import RecordSearch.Table.Search

namespace RecordSearch

instance : Engine Table where
  querySyntax t := Lucene.querySyntax t.settings.contentField
  update := Table.update
  remove t identity := .ok (t.remove identity)
  clear t models := .ok (t.clear models)
  search t query options := (t.search query options, t)
  similar t identity options := (t.similar identity options, t)

end RecordSearch
