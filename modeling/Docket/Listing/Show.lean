/-
Listing the records that match a query.
-/
import Docket.Listing.Load
import Docket.Listing.Report
import Docket.Query.Matching

namespace Docket

/-- How many records are to be shown at most. -/
structure LimitChoice where
  limit : Option Nat
  noLimit : Bool
deriving DecidableEq, Repr

/-- The limit that holds where `configured` is the usual one. -/
def LimitChoice.resolve (choice : LimitChoice) (configured : Option Nat) : Option Nat :=
  if choice.noLimit then none else choice.limit <|> configured

/-- As many records as a limit lets through. -/
def cutTo (limit : Option Nat) (records : List Record) : List Record :=
  match limit with
  | some n => records.take n
  | none => records

/-- What reading a query says. -/
def Query.events (q : Query) : List Event :=
  (if q.ignored.isEmpty then [] else [.ignoredInput q.ignored])
    ++ [.parsedQuery q.filters.length]

/-- Read a query. -/
def parseQuery (text : String) : Run Query :=
  match Query.parse text with
  | .ok query => do
    Run.tell query.events
    return query
  | .error error => Run.fail (.query error)

/-- The problem of an output that does not take records; an array is written
by a writer with a problem of its own. -/
def OutputFormat.refusal : OutputFormat → Problem
  | .text => .unwritableLine
  | .json => .unwritableListing
  | .id => .unwritableLine

/-- Print records, of which `matched` were found. -/
def printRecords (format : OutputFormat) (records : List Record) (matched : Nat) : Run Unit :=
  Run.put format.refusal (report format records matched)

/-- List the records that match a query.  The query is read first, so that
a wrong one touches no file. -/
def showList (files : Files) (config : Config) (text : String) (format : OutputFormat)
    (limit : Option Nat) : Run Unit := do
  let query ← parseQuery text
  let records ← loadRecords files config
  let matched := query.keep records
  let shown := cutTo limit matched
  Run.say (.listedRecords matched.length shown.length)
  printRecords format shown matched.length

end Docket
