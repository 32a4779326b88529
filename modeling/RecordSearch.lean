import RecordSearch.Engine.Monitored
import RecordSearch.Engine.Table
import RecordSearch.Engine.Unreachable
import RecordSearch.Field.Template
import RecordSearch.Object.Record
import RecordSearch.Proofs.Calendar.DayNumber
import RecordSearch.Proofs.Calendar.Instant
import RecordSearch.Proofs.Calendar.ReadBack
import RecordSearch.Proofs.Calendar.Step
import RecordSearch.Proofs.Condition.Alike
import RecordSearch.Proofs.Condition.Extend
import RecordSearch.Proofs.Condition.Key
import RecordSearch.Proofs.Condition.Meaning
import RecordSearch.Proofs.Condition.Operators
import RecordSearch.Proofs.Decimal.Integer
import RecordSearch.Proofs.Decimal.Positional
import RecordSearch.Proofs.Double.Nearest
import RecordSearch.Proofs.Double.Order
import RecordSearch.Proofs.Double.Rounding
import RecordSearch.Proofs.Engine.Monitored
import RecordSearch.Proofs.Field.Convert
import RecordSearch.Proofs.Field.DateText
import RecordSearch.Proofs.Field.Twice
import RecordSearch.Proofs.Field.Walk
import RecordSearch.Proofs.Index.Absent
import RecordSearch.Proofs.Index.Bookkeeping
import RecordSearch.Proofs.Index.Identity
import RecordSearch.Proofs.Index.Prepare
import RecordSearch.Proofs.Index.Registered
import RecordSearch.Proofs.Index.Removal
import RecordSearch.Proofs.Index.Survival
import RecordSearch.Proofs.Object.Flat
import RecordSearch.Proofs.Object.LongestRun
import RecordSearch.Proofs.Object.Spelling
import RecordSearch.Proofs.Opaque.Base64
import RecordSearch.Proofs.Opaque.Payload
import RecordSearch.Proofs.Query.Boost
import RecordSearch.Proofs.Query.Dated
import RecordSearch.Proofs.Query.Numbered
import RecordSearch.Proofs.Query.Occurrence
import RecordSearch.Proofs.Query.Ordered
import RecordSearch.Proofs.Query.Precedence
import RecordSearch.Proofs.Query.Refused
import RecordSearch.Proofs.Query.Single
import RecordSearch.Proofs.ResultSet.AutoQuery
import RecordSearch.Proofs.ResultSet.Best
import RecordSearch.Proofs.ResultSet.Boosted
import RecordSearch.Proofs.ResultSet.Bulk
import RecordSearch.Proofs.ResultSet.Combined
import RecordSearch.Proofs.ResultSet.Compiled
import RecordSearch.Proofs.ResultSet.Extras
import RecordSearch.Proofs.ResultSet.Fetches
import RecordSearch.Proofs.ResultSet.Found
import RecordSearch.Proofs.ResultSet.Latest
import RecordSearch.Proofs.ResultSet.Logged
import RecordSearch.Proofs.ResultSet.Pieces
import RecordSearch.Proofs.ResultSet.Reach
import RecordSearch.Proofs.ResultSet.Repeats
import RecordSearch.Proofs.ResultSet.Restricted
import RecordSearch.Proofs.ResultSet.Run
import RecordSearch.Proofs.ResultSet.Similar
import RecordSearch.Proofs.Snippet.Marked
import RecordSearch.Proofs.Snippet.Window
import RecordSearch.Proofs.Table.Buckets
import RecordSearch.Proofs.Table.Checked
import RecordSearch.Proofs.Table.Comparison
import RecordSearch.Proofs.Table.FieldCounts
import RecordSearch.Proofs.Table.History
import RecordSearch.Proofs.Table.Hits
import RecordSearch.Proofs.Table.Proximity
import RecordSearch.Proofs.Table.Sorting
import RecordSearch.Proofs.Table.Unstored
import RecordSearch.Proofs.Text.EditDistance
import RecordSearch.Settings.Read
import RecordSearch.Snippet
