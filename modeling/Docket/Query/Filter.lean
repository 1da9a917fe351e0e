/-
Filters: the questions a query asks of one record, and the arguments that
filters are built from.
-/
import Docket.Pattern
import Docket.Time.Instant

namespace Docket

/-- A question about one record. -/
inductive Filter where
  | assigned
  | assignedTo (login : String)
  | closed
  | isOpen
  | number (n : UInt64)
  | label (name : String)
  | labelled
  | title (pattern : Pattern)
  | body (pattern : Pattern)
  | text (pattern : Pattern)
  | pull
  | issue
  | merged
  | or (f g : Filter)
  | and (f g : Filter)
  | not (f : Filter)
  | closedSince (time : Instant)
deriving DecidableEq

/-- The number of filters in a filter, itself included. -/
def Filter.nodes : Filter → Nat
  | .or f g => 1 + f.nodes + g.nodes
  | .and f g => 1 + f.nodes + g.nodes
  | .not f => 1 + f.nodes
  | _ => 1

/-- Every filter has at least itself. -/
theorem Filter.nodes_pos (f : Filter) : 0 < f.nodes := by
  cases f <;> simp only [nodes] <;> omega

/-- The kinds of arguments: a text up to the next `)`, a number, a filter. -/
inductive ArgKind where
  | string
  | integer
  | filter
deriving DecidableEq, Repr

/-- The word for a kind. -/
def ArgKind.word : ArgKind → String
  | string => "string"
  | integer => "integer"
  | filter => "filter"

/-- An argument. -/
inductive Arg where
  | string (text : String)
  | integer (n : UInt64)
  | filter (f : Filter)
deriving DecidableEq

/-- The kind of an argument. -/
def Arg.kind : Arg → ArgKind
  | string _ => .string
  | integer _ => .integer
  | filter _ => .filter

end Docket
