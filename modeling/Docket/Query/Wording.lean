/-
What is said about filters and about queries that are wrong.
-/
import Docket.Query.Catalogue

namespace Docket

namespace FilterName

/-- An entry with its arguments, for instance `or(<filter>, <filter>)`. -/
def usage (name : FilterName) : String :=
  if name.params.isEmpty then name.word
  else name.word ++ "("
    ++ ", ".intercalate (name.params.map fun kind => "<" ++ kind.word ++ ">") ++ ")"

/-- The help line of an entry. -/
def describe (name : FilterName) : String := name.usage ++ " - " ++ name.help

/-- The help lines of the catalogue. -/
def describeAll : List String := all.map describe

/-- The names of the catalogue, separated by commas. -/
def wordList : String := ", ".intercalate (all.map word)

/-- The fields of an entry, spelled out for debugging. -/
def inspect (name : FilterName) : String :=
  let kind : ArgKind → String
    | .string => "String"
    | .integer => "Integer"
    | .filter => "Filter"
  "FilterDef \x7b name: \"" ++ name.word
    ++ "\", args: [" ++ ", ".intercalate (name.params.map kind)
    ++ "], help: Some(\"" ++ name.help ++ "\"), .. \x7d"

end FilterName

/-- What is said of a query that is wrong.  What the reader of patterns has
to say of a pattern comes behind it and is not told here. -/
def QueryError.message : QueryError → String
  | unknownFilter word =>
    "unknown filter: '" ++ word ++ "'\n  hint: valid filters are: " ++ FilterName.wordList
  | expectedSeparator expected found =>
    "expecting separator '" ++ expected.toString ++ "' but found "
      ++ match found with
        | some c => "'" ++ c.toString ++ "'"
        | none => "end of input"
  | unterminatedString =>
    "unterminated string\n  hint: string arguments end at the next ')'"
  | malformedArgument name expected =>
    "malformed argument to " ++ name.word ++ ": expected " ++ expected.word
  | wrongArgumentCount name found =>
    "malformed argument to " ++ name.word ++ ": expected " ++ name.usage
      ++ ", found " ++ numeralText found ++ " argument(s)"
  | integerOutOfRange literal =>
    "malformed argument: integer '" ++ literal ++ "' is out of range"
  | invalidPattern pattern _ => "invalid pattern '" ++ pattern ++ "': "
  | invalidTimestamp value =>
    "invalid timestamp: '" ++ value
      ++ "'\n  hint: use YYYY-MM-DD, YYYY-MM-DDTHH:MM:SS, or RFC 3339"

end Docket
