/-
The environment variables that the program looks at.
-/
import Docket.Text.Blank

namespace Docket

/-- The value of a variable.  It may be set to bytes that are no text. -/
inductive Variable where
  | unset
  | text (value : String)
  | binary
deriving DecidableEq, Repr

/-- The text that a variable is set to, if it is one. -/
def Variable.text? : Variable → Option String
  | text value => some value
  | _ => none

/-- The values of the variables. -/
structure Environment where
  noColor : Variable
  color : Variable
  log : Variable
  config : Variable
deriving DecidableEq, Repr

namespace Environment

/-- The names of the variables, in the order of the fields. -/
def names : List String := ["NO_COLOR", "COLOR", "TRIAGE_LOG", "TRIAGE_CONFIG"]

/-- The environment in which `value` gives the values of variables. -/
def ofLookup (value : String → Variable) : Environment where
  noColor := value "NO_COLOR"
  color := value "COLOR"
  log := value "TRIAGE_LOG"
  config := value "TRIAGE_CONFIG"

/-- Colors are not wanted. -/
def refusesColor (env : Environment) : Bool := env.noColor == .text "1"

/-- Colors are wanted even where they are not usual. -/
def forcesColor (env : Environment) : Bool := env.color == .text "1"

/-- Output that goes to no terminal is colored. -/
def colored (env : Environment) : Bool := !env.refusesColor && env.forcesColor

/-- What is to be logged, unless that is blank. -/
def logFilter (env : Environment) : Option String :=
  env.log.text?.filter fun value => !(trim value.toList).isEmpty

/-- The configuration file that is asked for.  A value that is no text is
passed over like none. -/
def configPath (env : Environment) : Option String := env.config.text?

end Environment

end Docket
