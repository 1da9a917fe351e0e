/-
The help texts.
-/
import Docket.Help.Examples
import Docket.Query.Wording

namespace Docket.Help

/-- The layout of the main help: what stands in braces is filled in. -/
def template : String :=
  "\x7babout-with-newline\x7d\n\x7busage-heading\x7d \x7busage\x7d\n\n\x7bbefore-help\x7d"
    ++ Tint.header.paintText "Options:" ++ "\n\x7boptions\x7d\x7bafter-help\x7d"

/-- The list of commands. -/
def commands : String :=
  Tint.header.paintText "Commands:" ++ "\n  "
    ++ Tint.literal.paintText "list" ++ "        List records matching a query\n  "
    ++ Tint.literal.paintText "filters" ++ "     Show the filter reference\n  "
    ++ Tint.literal.paintText "shell" ++ "       Run queries interactively\n  "
    ++ Tint.literal.paintText "completion" ++ "  Generate shell completions\n"

/-- First steps. -/
def quickstart (colored : Bool) : String :=
  examples colored <|
    "Get started:\n"
    ++ "  triage -C <dir> list                 List every record\n"
    ++ "  triage list open label(bug)          Open records labelled bug\n"
    ++ "  triage list \"or(pr,assigned)\"        Pull requests or assigned records\n"
    ++ "  triage filters                       Show all filters"

/-- One line for every filter. -/
def filterReference : String :=
  "Filters:" ++ String.join (FilterName.describeAll.map fun line => "\n  " ++ line)

/-- What stands behind the options of the list command. -/
def listAfterHelp (colored : Bool) : String :=
  examples colored <|
    "Examples:\n"
    ++ "  triage list                          Every record\n"
    ++ "  triage list 42                       Record number 42\n"
    ++ "  triage list closed_since(2024-01-01)   Closed this year\n"
    ++ "  triage list \"not(labelled) open\"     Open records without labels\n"
    ++ "\n"
    ++ "Query Syntax:\n"
    ++ "  Filters separated by spaces must all match.\n"
    ++ "  String arguments run to the next ')' and are taken literally.\n"
    ++ "\n"
    ++ filterReference

/-- The parts of help output that have a style of their own. -/
structure Styles where
  header : String
  usage : String
  literal : String
  placeholder : String
  valid : String
deriving DecidableEq, Repr

/-- The sequences that switch the styles on, if colors are wanted. -/
def styles (colored : Bool) : Styles :=
  let on (tint : Tint) : String := if colored then String.ofList tint.switchOn else ""
  ⟨on .header, on .header, on .literal, on .context, on .context⟩

end Docket.Help
