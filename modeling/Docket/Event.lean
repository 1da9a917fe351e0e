/-
What the program says about its work while it works: events with a level,
a message and named fields.
-/
import Docket.Query.Wording

namespace Docket

/-- The things that are worth saying. -/
inductive Event where
  | ignoredInput (rest : String)
  | parsedQuery (count : Nat)
  | queryFailed (query : String) (error : QueryError)
  | noConfigFile
  | loadedConfig (path : String)
  | noPullsFile (path : String)
  | loadedRecords (issues pulls : Nat) (dir : String)
  | linkedPulls (count : Nat)
  | listedRecords (matched shown : Nat)
deriving DecidableEq, Repr

/-- How much an event matters. -/
inductive EventLevel where
  | debug
  | info
deriving DecidableEq, Repr

/-- The value of a field. -/
inductive EventField where
  | count (n : Nat)
  | text (s : String)
deriving DecidableEq, Repr

namespace Event

/-- How much the event matters. -/
def level : Event → EventLevel
  | loadedConfig _ => .info
  | loadedRecords _ _ _ => .info
  | _ => .debug

/-- The message of the event. -/
def message : Event → String
  | ignoredInput _ => "ignoring unparsed query input"
  | parsedQuery _ => "parsed query"
  | queryFailed _ _ => "query failed"
  | noConfigFile => "no config file found, using defaults"
  | loadedConfig _ => "loaded config"
  | noPullsFile _ => "no pulls file"
  | loadedRecords _ _ _ => "loaded records"
  | linkedPulls _ => "linked pull requests"
  | listedRecords _ _ => "listed records"

/-- The fields of the event. -/
def fields : Event → List (String × EventField)
  | ignoredInput rest => [("rest", .text rest)]
  | parsedQuery count => [("count", .count count)]
  | queryFailed query error => [("query", .text query), ("error", .text error.message)]
  | noConfigFile => []
  | loadedConfig path => [("path", .text path)]
  | noPullsFile path => [("path", .text path)]
  | loadedRecords issues pulls dir =>
    [("issues", .count issues), ("pulls", .count pulls), ("dir", .text dir)]
  | linkedPulls count => [("linked", .count count)]
  | listedRecords matched shown => [("matched", .count matched), ("shown", .count shown)]

end Event

end Docket
