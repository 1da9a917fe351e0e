/-
What a command line asks for, and the reasons for which it is refused.
-/
import Docket.Listing.Show

namespace Docket

/-- The names of commands. -/
inductive CommandName where
  | list
  | filters
  | shell
  | completion
deriving DecidableEq, Repr

namespace CommandName

/-- All commands. -/
def all : List CommandName := [list, filters, shell, completion]

/-- The word for a command. -/
def word : CommandName → String
  | list => "list"
  | filters => "filters"
  | shell => "shell"
  | completion => "completion"

/-- The command of a word. -/
def ofWord? (word : String) : Option CommandName := all.find? fun name => name.word == word

end CommandName

/-- The shells that there are completions for. -/
inductive CompletionShell where
  | bash
  | elvish
  | fish
  | powershell
  | zsh
deriving DecidableEq, Repr

namespace CompletionShell

/-- All of these shells. -/
def all : List CompletionShell := [bash, elvish, fish, powershell, zsh]

/-- The word for a shell. -/
def word : CompletionShell → String
  | bash => "bash"
  | elvish => "elvish"
  | fish => "fish"
  | powershell => "powershell"
  | zsh => "zsh"

/-- The shell of a word. -/
def ofWord? (word : String) : Option CompletionShell := all.find? fun shell => shell.word == word

end CompletionShell

namespace OutputFormat

/-- The word for a format. -/
def word : OutputFormat → String
  | text => "text"
  | json => "json"
  | id => "id"

/-- The format of a word; numbers go by two. -/
def ofWord? : String → Option OutputFormat
  | "text" => some text
  | "json" => some json
  | "id" => some id
  | "ids" => some id
  | _ => none

end OutputFormat

/-- A command with all that it needs. -/
inductive Command where
  | list (query : List String) (format : OutputFormat) (limit : LimitChoice)
  | filters
  | shell
  | completion (shell : CompletionShell)
deriving DecidableEq, Repr

/-- A command line that makes sense. -/
structure Invocation where
  directory : Option String
  config : Option String
  command : Command
deriving DecidableEq, Repr

/-- The reasons for which a command line is not carried out.  The first two
are what was asked for. -/
inductive Refusal where
  | help
  | version
  | nothingAsked
  | missingCommand
  | invalidCommand
  | missingArgument
  | unknownArgument
  | invalidValue
  | malformedValue
  | conflict
  | unneededValue
deriving DecidableEq, Repr

/-- The exit code of a refusal. -/
def Refusal.exitCode : Refusal → Nat
  | help => 0
  | version => 0
  | _ => 2

end Docket
