/-
Reading command lines.  Options stand in front of a command or behind it,
and two dashes end them.  The words of a query end them too, so that
everything behind the first word belongs to the query.

What an option was given is looked at only when the next one, or the next
word that is not its value, has been read; of two faults the later one may
therefore be the one that is told.
-/
import Docket.CommandLine.Switch

namespace Docket

/-- Something that was read but not looked at yet: an option, with its
value once that has been read, or the word for a shell. -/
inductive Pending where
  | switch (switch : Switch) (value : Option String)
  | shell (word : String)
deriving DecidableEq, Repr

/-- What was read at one place of a command line.  `literal` tells that no
more options are to come. -/
structure Scan where
  given : Given
  pending : Option Pending
  literal : Bool
  shellSeen : Bool
deriving DecidableEq, Repr

namespace Scan

/-- Nothing was read. -/
def start : Scan := ⟨.nothing, none, false, false⟩

/-- An option waits for its value. -/
def waits (scan : Scan) : Bool :=
  match scan.pending with
  | some (.switch _ none) => !scan.literal
  | _ => false

/-- Look at what has not been looked at. -/
def settle (scan : Scan) : Except Refusal Scan := do
  let given ← match scan.pending with
    | none => .ok scan.given
    | some (.switch switch value) => scan.given.give switch value
    | some (.shell word) => scan.given.giveShell word
  .ok { scan with given := given, pending := none }

/-- Give an option a value that came with it, or the one it stands for. -/
def give (scan : Scan) (switch : Switch) (value : Option String) : Except Refusal Scan := do
  let scan ← scan.settle
  let given ← scan.given.give switch value
  .ok { scan with given := given }

/-- Wait for the value of an option. -/
def awaitValue (scan : Scan) (switch : Switch) : Except Refusal Scan := do
  let scan ← scan.settle
  .ok { scan with pending := some (.switch switch none) }

/-- Read an option that was named; `value` stood behind an equals sign. -/
def named (scan : Scan) (switch : Switch) (value : Option String) : Except Refusal Scan :=
  match switch.takesValue, value with
  | true, some value => scan.give switch (some value)
  | true, none => scan.awaitValue switch
  | false, some _ => .error .unneededValue
  | false, none => scan.give switch none

/-- Read the letters of options that share a dash.  The first one that
takes a value takes all that is left. -/
def lettered (scope : Scope) (scan : Scan) : List Char → Except Refusal Scan
  | [] => .ok scan
  | c :: rest =>
    match scope.ofLetter? c with
    | none => .error .unknownArgument
    | some switch =>
      if switch.takesValue then
        match rest with
        | [] => scan.awaitValue switch
        | '=' :: value => scan.give switch (some (String.ofList value))
        | value => scan.give switch (some (String.ofList value))
      else do lettered scope (← scan.give switch none) rest

/-- Read a word that belongs to no option. -/
def word (scope : Scope) (scan : Scan) (arg : String) : Except Refusal Scan :=
  match scope with
  | .command .list => do
    let scan ← scan.settle
    let given := { scan.given with query := scan.given.query ++ [arg] }
    .ok { scan with given := given, literal := true }
  | .command .completion =>
    if scan.shellSeen then .error .unknownArgument
    else do
      let scan ← scan.settle
      .ok { scan with pending := some (.shell arg), shellSeen := true }
  | .command _ => .error .unknownArgument
  | .program =>
    if scan.literal && (arg == "help" || (CommandName.ofWord? arg).isSome) then
      .error .unknownArgument
    else .error .invalidCommand

/-- Read a word that may be the value of an option. -/
def wordOrValue (scope : Scope) (scan : Scan) (arg : String) : Except Refusal Scan :=
  match scan.pending with
  | some (.switch switch none) => .ok { scan with pending := some (.switch switch (some arg)) }
  | _ => scan.word scope arg

/-- Read one argument, which is no command. -/
def read (scope : Scope) (scan : Scan) (arg : String) : Except Refusal Scan :=
  if scan.literal then scan.word scope arg
  else
    match arg.toList with
    | ['-', '-'] => .ok { scan with literal := true }
    | '-' :: '-' :: body =>
      let name := body.takeWhile (· != '=')
      let value := (body.drop name.length).tail?.map String.ofList
      match scope.ofName? (String.ofList name) with
      | some switch => scan.named switch value
      | none =>
        if scope.takesAnyWord then scan.wordOrValue scope arg else .error .unknownArgument
    | '-' :: c :: rest =>
      if scope.takesAnyWord && (c :: rest).any fun d => (scope.ofLetter? d).isNone then
        scan.wordOrValue scope arg
      else scan.lettered scope (c :: rest)
    | _ => scan.wordOrValue scope arg

end Scan

/-- The command that was asked for, with what was given for it. -/
def Given.command (given : Given) : CommandName → Except Refusal Command
  | .list =>
    if given.noLimit && given.limit.isSome then .error .conflict
    else .ok (.list given.query (given.output.getD .text) ⟨given.limit, given.noLimit⟩)
  | .filters => .ok .filters
  | .shell => .ok .shell
  | .completion =>
    match given.shell with
    | some shell => .ok (.completion shell)
    | none => .error .missingArgument

/-- Read what stands behind a command. -/
def readCommand (name : CommandName) (args : List String) : Except Refusal (Given × Command) := do
  let scan ← args.foldlM (Scan.read (.command name)) .start
  let scan ← scan.settle
  .ok (scan.given, ← scan.given.command name)

/-- Read what help is asked for: a command, or help itself. -/
def readHelp : List String → Refusal
  | [] => .help
  | [arg] =>
    if arg == "help" || (CommandName.ofWord? arg).isSome then .help else .invalidCommand
  | _ => .invalidCommand

/-- Read a command line from the place `scan` on.  What is given behind the
command outdoes what is given in front of it. -/
def readArguments (scan : Scan) : List String → Except Refusal Invocation
  | [] => do
    let scan ← scan.settle
    if scan.given.directory.isSome || scan.given.config.isSome then .error .missingCommand
    else .error .nothingAsked
  | arg :: args =>
    if scan.literal || scan.waits then do readArguments (← scan.read .program arg) args
    else if arg = "help" then .error (readHelp args)
    else
      match CommandName.ofWord? arg with
      | none => do readArguments (← scan.read .program arg) args
      | some name => do
        let (given, command) ← readCommand name args
        let scan ← scan.settle
        .ok {
          directory := given.directory <|> scan.given.directory
          config := given.config <|> scan.given.config
          command := command }

/-- Read a command line. -/
def Invocation.ofArguments (args : List String) : Except Refusal Invocation :=
  readArguments .start args

end Docket
