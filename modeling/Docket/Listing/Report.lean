/-
Showing records: as lines of text with a closing status line, as one JSON
array, or as bare numbers.
-/
import Docket.Record.Codec

namespace Docket

/-- The ways to show records. -/
inductive OutputFormat where
  | text
  | json
  | id
deriving DecidableEq, Repr

/-- What a line says about the state of a record: its state and, for a
pull request, whether it was merged. -/
def Record.stateText (r : Record) : String :=
  match r.state, r.pull with
  | some state, some _ => state ++ if r.isMerged then ", merged" else ", pr"
  | some state, none => state
  | none, some _ => "pr"
  | none, none => ""

/-- A text behind a blank, unless it is empty. -/
def spaced (s : String) : String := if s.isEmpty then "" else " " ++ s

/-- A text behind a blank and between brackets, unless it is empty. -/
def bracketed (s : String) : String := if s.isEmpty then "" else " [" ++ s ++ "]"

/-- A record on one line: number, title, state, labels and assignees, as
far as it has them. -/
def Record.line (r : Record) : String :=
  "#" ++ numeralText r.number.toNat
    ++ spaced (r.title.getD "")
    ++ bracketed r.stateText
    ++ (if r.labels.isEmpty then ""
      else " \x7b" ++ ", ".intercalate (r.labels.map Label.name) ++ "\x7d")
    ++ String.join (r.assignees.map fun user => " @" ++ user.login)

/-- The line behind a listing; one that was cut short tells what it was cut
from. -/
def statusLine (shown matched : Nat) : String :=
  if shown < matched then
    numeralText shown ++ " records shown (" ++ numeralText matched ++ " matched)"
  else numeralText shown ++ " records shown"

/-- What is printed for records, of which `matched` were found. -/
def report (format : OutputFormat) (records : List Record) (matched : Nat) : List String :=
  match format with
  | .text => records.map Record.line ++ [statusLine records.length matched]
  | .json => [(encodeRecords records).pretty]
  | .id => records.map fun r => numeralText r.number.toNat

end Docket
