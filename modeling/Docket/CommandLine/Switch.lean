/-
Options of the command line: their letters and names, which of them take a
value, and what they record.
-/
import Docket.CommandLine.Basic

namespace Docket

/-- The options. -/
inductive Switch where
  | directory
  | config
  | version
  | help
  | output
  | limit
  | noLimit
deriving DecidableEq, Repr

namespace Switch

/-- The letters of an option. -/
def letters : Switch → List Char
  | directory => ['C']
  | version => ['v', 'V']
  | help => ['h']
  | output => ['o']
  | limit => ['n']
  | config | noLimit => []

/-- The name of an option. -/
def name : Switch → String
  | directory => "directory"
  | config => "config"
  | version => "version"
  | help => "help"
  | output => "output"
  | limit => "limit"
  | noLimit => "no-limit"

/-- The option takes a value. -/
def takesValue : Switch → Bool
  | directory | config | output | limit => true
  | version | help | noLimit => false

end Switch

/-- Where on a command line options stand: in front of the command, or
behind it. -/
inductive Scope where
  | program
  | command (name : CommandName)
deriving DecidableEq, Repr

namespace Scope

/-- The options of a place. -/
def switches : Scope → List Switch
  | program => [.directory, .config, .version, .help]
  | command .list => [.output, .limit, .noLimit, .directory, .config, .help]
  | command _ => [.directory, .config, .help]

/-- The option of a letter. -/
def ofLetter? (scope : Scope) (c : Char) : Option Switch :=
  scope.switches.find? fun switch => switch.letters.contains c

/-- The option of a name. -/
def ofName? (scope : Scope) (name : String) : Option Switch :=
  scope.switches.find? fun switch => switch.name == name

/-- Words that start like options are taken as words if they are none. -/
def takesAnyWord (scope : Scope) : Bool := scope == command .list

end Scope

/-- What was given at one place of a command line. -/
structure Given where
  directory : Option String
  config : Option String
  output : Option OutputFormat
  limit : Option Nat
  noLimit : Bool
  query : List String
  shell : Option CompletionShell
deriving DecidableEq, Repr

namespace Given

/-- Nothing was given. -/
def nothing : Given := ⟨none, none, none, none, false, [], none⟩

/-- A path may not be empty. -/
def path? (value : String) : Except Refusal String :=
  if value.isEmpty then .error .invalidValue else .ok value

/-- A count: digits, maybe behind a plus, of a number of 64 bits. -/
def count? (value : String) : Except Refusal Nat :=
  let digits := match value.toList with
    | '+' :: rest => rest
    | cs => cs
  if digits.isEmpty || !digits.all isDigit || wordLimit ≤ decimal digits then
    .error .malformedValue
  else .ok (decimal digits)

/-- Whether an option was given before. -/
def has (given : Given) : Switch → Bool
  | .directory => given.directory.isSome
  | .config => given.config.isSome
  | .output => given.output.isSome
  | .limit => given.limit.isSome
  | .noLimit => given.noLimit
  | .version | .help => false

/-- Record the value of an option. -/
def record (given : Given) (switch : Switch) (value : String) : Except Refusal Given :=
  match switch with
  | .directory => do
    let path ← path? value
    .ok { given with directory := some path }
  | .config => do
    let path ← path? value
    .ok { given with config := some path }
  | .output =>
    match OutputFormat.ofWord? value with
    | some format => .ok { given with output := some format }
    | none => .error .invalidValue
  | .limit => do
    let count ← count? value
    .ok { given with limit := some count }
  | .noLimit => .ok { given with noLimit := true }
  | .version => .error .version
  | .help => .error .help

/-- Give an option its value, once.  One that takes a value needs it. -/
def give (given : Given) (switch : Switch) (value : Option String) : Except Refusal Given :=
  if switch.takesValue && value.isNone then .error .invalidValue
  else if given.has switch then .error .conflict
  else given.record switch (value.getD "")

/-- Record the shell to generate completions for. -/
def giveShell (given : Given) (word : String) : Except Refusal Given :=
  match CompletionShell.ofWord? word with
  | some shell => .ok { given with shell := some shell }
  | none => .error .invalidValue

end Given

end Docket
