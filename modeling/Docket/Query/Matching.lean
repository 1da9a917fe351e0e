/-
Which records a query keeps.  A record without a title never matches a
title pattern, and one whose closing time cannot be read is never closed
since any time.

Main statements: without filters every record is kept, and filtering by
two lists of filters is filtering by one after the other.
-/
import Docket.Query.Parser
import Docket.Record

namespace Docket

/-- The record passes the filter. -/
def Filter.holds : Filter → Record → Bool
  | assigned, r => !r.assignees.isEmpty
  | assignedTo login, r => r.assignees.any fun u => u.login == login
  | closed, r => r.isClosed
  | isOpen, r => !r.isClosed
  | number n, r => r.number == n
  | label name, r => r.labels.any fun l => l.name == name
  | labelled, r => !r.labels.isEmpty
  | title p, r => r.title.any p.isMatch
  | body p, r => r.body.any p.isMatch
  | text p, r => r.title.any p.isMatch || r.body.any p.isMatch
  | pull, r => r.pull.isSome
  | issue, r => r.pull.isNone
  | merged, r => r.isMerged
  | or f g, r => f.holds r || g.holds r
  | and f g, r => f.holds r && g.holds r
  | not f, r => !f.holds r
  | closedSince t, r => r.closedTime.any t.before

/-- The records that pass every filter, in order. -/
def evaluate (filters : List Filter) (records : List Record) : List Record :=
  records.filter fun r => filters.all fun f => f.holds r

namespace Query

/-- The query has no filters. -/
def isEmpty (q : Query) : Bool := q.filters.isEmpty

/-- The record passes every filter of the query. -/
def holds (q : Query) (r : Record) : Bool := q.filters.all fun f => f.holds r

/-- The records that the query keeps. -/
def keep (q : Query) (records : List Record) : List Record := evaluate q.filters records

end Query

/-- Without filters every record is kept. -/
theorem evaluate_nil (records : List Record) : evaluate [] records = records := by
  simp [evaluate]

/-- Filtering by two lists of filters is filtering by one after the other. -/
theorem evaluate_append (fs gs : List Filter) (records : List Record) :
    evaluate (fs ++ gs) records = evaluate gs (evaluate fs records) := by
  simp [evaluate, List.filter_filter, Bool.and_comm]

end Docket
