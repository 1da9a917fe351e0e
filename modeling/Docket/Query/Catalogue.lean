/-
The catalogue of filters: their names in queries, the kinds of their
arguments, a line of help for each, and how a filter is built from its
arguments.  Also the ways in which a query can be wrong, since most of
them name an entry of the catalogue.

Main statements: an entry is found under its name, and what is found under
a name has it.
-/
import Docket.Query.Filter
import Docket.Time.Timestamp

namespace Docket

/-- The entries of the catalogue. -/
inductive FilterName where
  | assigned
  | assignedTo
  | closed
  | isOpen
  | number
  | label
  | labelled
  | title
  | body
  | text
  | pull
  | issue
  | merged
  | or
  | and
  | not
  | closedSince
deriving DecidableEq, Repr

namespace FilterName

/-- The catalogue in the order of the help texts. -/
def all : List FilterName :=
  [assigned, assignedTo, closed, isOpen, number, label, labelled, title, body, text, pull,
    issue, merged, or, and, not, closedSince]

/-- The name of an entry in queries. -/
def word : FilterName → String
  | assigned => "assigned"
  | assignedTo => "assigned_to"
  | closed => "closed"
  | isOpen => "open"
  | number => "n"
  | label => "label"
  | labelled => "labelled"
  | title => "title"
  | body => "body"
  | text => "text"
  | pull => "pr"
  | issue => "issue"
  | merged => "merged"
  | or => "or"
  | and => "and"
  | not => "not"
  | closedSince => "closed_since"

/-- The kinds of an entry's arguments. -/
def params : FilterName → List ArgKind
  | assigned | closed | isOpen | labelled | pull | issue | merged => []
  | assignedTo | label | title | body | text | closedSince => [.string]
  | number => [.integer]
  | not => [.filter]
  | or | and => [.filter, .filter]

/-- What an entry keeps, in a few words. -/
def help : FilterName → String
  | assigned => "has an assignee"
  | assignedTo => "assigned to a specific user"
  | closed => "is closed"
  | isOpen => "is open"
  | number => "issue by number"
  | label => "has a specific label"
  | labelled => "has any label"
  | title => "search title with a regular expression"
  | body => "search body with a regular expression"
  | text => "search title and body with a regular expression"
  | pull => "is a pull request"
  | issue => "is a plain issue, i.e., not(pr)"
  | merged => "a merged pull request"
  | or => "union"
  | and => "intersection"
  | not => "exclusion"
  | closedSince => "issues closed since the date and time"

/-- The entry of a name. -/
def ofWord? (word : String) : Option FilterName := all.find? fun name => name.word == word

/-- Every entry is found under its name. -/
theorem ofWord?_word (name : FilterName) : ofWord? name.word = some name := by
  cases name <;> decide +kernel

/-- What is found under a name has it. -/
theorem word_of_ofWord? {word : String} {name : FilterName}
    (h : ofWord? word = some name) : name.word = word := by
  simpa using List.find?_some h

end FilterName

-- ========================================================= query errors

/-- The ways in which a query can be wrong. -/
inductive QueryError where
  | unknownFilter (word : String)
  | expectedSeparator (expected : Char) (found : Option Char)
  | unterminatedString
  | malformedArgument (name : FilterName) (expected : ArgKind)
  | wrongArgumentCount (name : FilterName) (found : Nat)
  | integerOutOfRange (literal : String)
  | invalidPattern (pattern : String) (fault : PatternFault)
  | invalidTimestamp (value : String)
deriving DecidableEq, Repr

-- ===================================================== building filters

namespace FilterName

/-- The filter of an entry without arguments. -/
def withNone (name : FilterName) (filter : Filter) : List Arg → Except QueryError Filter
  | [] => .ok filter
  | args => .error (.wrongArgumentCount name args.length)

/-- The filter of an entry that takes a text. -/
def withString (name : FilterName) (build : String → Except QueryError Filter) :
    List Arg → Except QueryError Filter
  | [.string s] => build s
  | [_] => .error (.malformedArgument name .string)
  | args => .error (.wrongArgumentCount name args.length)

/-- The filter of an entry that takes a number. -/
def withInteger (name : FilterName) (build : UInt64 → Filter) :
    List Arg → Except QueryError Filter
  | [.integer n] => .ok (build n)
  | [_] => .error (.malformedArgument name .integer)
  | args => .error (.wrongArgumentCount name args.length)

/-- The filter of an entry that takes a filter. -/
def withFilter (name : FilterName) (build : Filter → Filter) :
    List Arg → Except QueryError Filter
  | [.filter f] => .ok (build f)
  | [_] => .error (.malformedArgument name .filter)
  | args => .error (.wrongArgumentCount name args.length)

/-- The filter of an entry that takes two filters. -/
def withFilters (name : FilterName) (build : Filter → Filter → Filter) :
    List Arg → Except QueryError Filter
  | [.filter f, .filter g] => .ok (build f g)
  | [_, _] => .error (.malformedArgument name .filter)
  | args => .error (.wrongArgumentCount name args.length)

/-- A filter with a compiled pattern. -/
def withPattern (build : Pattern → Filter) (source : String) : Except QueryError Filter :=
  match Pattern.compile source with
  | .ok p => .ok (build p)
  | .error fault => .error (.invalidPattern source fault)

/-- A filter with a time. -/
def withTime (build : Instant → Filter) (text : String) : Except QueryError Filter :=
  match Timestamp.ofString? text with
  | some t => .ok (build t)
  | none => .error (.invalidTimestamp text)

/-- Build the filter of an entry from its arguments.  A wrong number of
arguments is found first, then the first one of a wrong kind, then a text
that is no pattern or no timestamp. -/
def construct (name : FilterName) (args : List Arg) : Except QueryError Filter :=
  match name with
  | assigned => withNone name .assigned args
  | assignedTo => withString name (fun s => .ok (.assignedTo s)) args
  | closed => withNone name .closed args
  | isOpen => withNone name .isOpen args
  | number => withInteger name .number args
  | label => withString name (fun s => .ok (.label s)) args
  | labelled => withNone name .labelled args
  | title => withString name (withPattern .title) args
  | body => withString name (withPattern .body) args
  | text => withString name (withPattern .text) args
  | pull => withNone name .pull args
  | issue => withNone name .issue args
  | merged => withNone name .merged args
  | or => withFilters name .or args
  | and => withFilters name .and args
  | not => withFilter name .not args
  | closedSince => withString name (withTime .closedSince) args

end FilterName

end Docket
