/-
The program on a machine: what it sees is read from the machine, and what
it prints and says is written out.  A shell session reads one line at a
time and looks at the files anew for each of them.
-/
import Docket.Program

namespace Docket.Terminal

/-- What a path leads to; what cannot be read is not there. -/
def entryAt (path : String) : IO Entry := do
  match ← (IO.FS.readBinFile path).toBaseIO with
  | .error _ => return .missing
  | .ok bytes =>
    match String.fromUTF8? bytes with
    | some text => return .text text
    | none => return .binary

/-- The files at some paths. -/
def filesAt (paths : List String) : IO Files := do
  let entries ← paths.mapM fun path => return (path, ← entryAt path)
  return ⟨fun path => (entries.lookup path).getD .missing⟩

/-- The files of a configuration. -/
def listingFiles (config : Config) : IO Files := filesAt [config.issuesPath, config.pullsPath]

/-- The environment of the process.  Values come as texts. -/
def environment : IO Environment := do
  let values ← Environment.names.mapM fun name => return (name, ← IO.getEnv name)
  return Environment.ofLookup fun name => ((values.lookup name).join).elim .unset .text

/-- The user's directory for configurations: the one that is named, if its
path is absolute, or else the usual one at home. -/
def userDir : IO (Option String) := do
  match (← IO.getEnv "XDG_CONFIG_HOME").filter Path.isAbsolute with
  | some dir => return some dir
  | none =>
    let home := (← IO.getEnv "HOME").filter fun home => !home.isEmpty
    return home.map fun home => Path.join home ".config"

/-- An event on one line. -/
def eventLine (event : Event) : String :=
  let level := match event.level with
    | .debug => "DEBUG"
    | .info => "INFO"
  let field : String × EventField → String
    | (name, .count n) => " " ++ name ++ "=" ++ numeralText n
    | (name, .text s) => " " ++ name ++ "=" ++ s
  level ++ " " ++ event.message ++ String.join (event.fields.map field)

/-- An event is logged if the filter names its level or a lower one. -/
def isLogged (filter : Option String) (event : Event) : Bool :=
  match filter.map trimText, event.level with
  | some "trace", _ | some "debug", _ | some "info", .info => true
  | _, _ => false

/-- Do what a run does; the exit code tells of a problem. -/
def finish {α : Type} (env : Environment) (run : Run α) : IO UInt32 := do
  for deed in run.deeds do
    match deed with
    | .say event => if isLogged env.logFilter event then IO.eprintln (eventLine event)
    | .print text refusal =>
      if let .error _ ← (IO.println text).toBaseIO then
        IO.eprintln ("error: " ++ refusal.message)
        return 1
  match run.result with
  | .ok _ => return 0
  | .error problem => do
    IO.eprintln ("error: " ++ problem.message)
    return 1

/-- Read lines and do what they ask for. -/
partial def converse (env : Environment) (shell : Shell) : IO UInt32 := do
  let stdin ← IO.getStdin
  if ← stdin.isTty then
    IO.print "> "
    (← IO.getStdout).flush
  let line ← stdin.getLine
  if line.isEmpty then return 0
  else
    let request := ShellLine.ofString line
    let next := match request with
      | .load dir => shell.turnTo dir
      | _ => shell
    let run := shell.handle (← listingFiles next.config) request
    let code ← finish env run
    match run.result with
    | .ok (some shell) => converse env shell
    | _ => return code

/-- Carry out a command line. -/
def carryOut (env : Environment) (invocation : Invocation) : IO UInt32 := do
  let here := (← IO.currentDir.toBaseIO).toOption.map toString
  let bare : World := ⟨⟨fun _ => .missing⟩, env, here, ← userDir, [], .boundless⟩
  let files ← filesAt (Config.candidates bare invocation.config)
  let world := { bare with files := files }
  match (world.config invocation).result, invocation.command with
  | .ok config, .shell => do
    let _ ← finish env (world.config invocation)
    let run := Shell.reload (← listingFiles config) (.start config)
    let code ← finish env run
    match run.result with
    | .ok shell => converse env shell
    | .error _ => return code
  | .ok config, _ => do
    let listings ← listingFiles config
    let all : Files := ⟨fun path =>
      match files.entry path with
      | .missing => listings.entry path
      | entry => entry⟩
    finish env (World.run { world with files := all } invocation)
  | .error _, _ => finish env (world.run invocation)

/-- What is said of a command line that is not carried out. -/
def refusalText (colored : Bool) : Refusal → String
  | .help | .nothingAsked => Help.commands ++ "\n" ++ Help.quickstart colored
  | .version => "triage 0.1.0"
  | .missingCommand => "error: a command is missing"
  | .invalidCommand => "error: no such command"
  | .missingArgument => "error: an argument is missing"
  | .unknownArgument => "error: unexpected argument"
  | .invalidValue => "error: invalid value"
  | .malformedValue => "error: malformed value"
  | .conflict => "error: these arguments do not go together"
  | .unneededValue => "error: this argument takes no value"

/-- Run the program on its arguments. -/
def start (args : List String) : IO UInt32 := do
  let env ← environment
  match Invocation.ofArguments args with
  | .ok invocation => carryOut env invocation
  | .error refusal => do
    let text := refusalText env.colored refusal
    if refusal.exitCode = 0 then IO.println text else IO.eprintln text
    return UInt32.ofNat refusal.exitCode

end Docket.Terminal

/-- The program. -/
def main (args : List String) : IO UInt32 := Docket.Terminal.start args
