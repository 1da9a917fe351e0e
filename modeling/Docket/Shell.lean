/-
The shell: a session of lines, each of which is a query or, behind a
slash, a command.  A query that is wrong and a load that fails are told
and the session goes on; only the quit command and the end of the input
end it.

Main statement: no line of a session ends it with a problem.
-/
import Docket.Help.Texts
import Docket.Listing.Show

namespace Docket

/-- What a session knows: where records come from, and the records that
were loaded last, unless that failed. -/
structure Shell where
  config : Config
  records : Option (List Record)
deriving DecidableEq

/-- What a line asks for. -/
inductive ShellLine where
  | query (text : String)
  | help
  | load (dir : Option String)
  | quit
  | unknown (command : String)
deriving DecidableEq, Repr

/-- A letter without its case, if it is an ASCII one.  No other letter has
a letter of a command's name as its lower case. -/
def lowerChar (c : Char) : Char :=
  if 'A' ≤ c ∧ c ≤ 'Z' then Char.ofNat (c.toNat + 32) else c

/-- A word without the case of its letters. -/
def lowerWord (s : String) : String := String.ofList (s.toList.map lowerChar)

/-- What the words of a command ask for. -/
def ShellLine.ofWords : List String → ShellLine
  | [] => .unknown ""
  | word :: words =>
    let name := lowerWord word
    if name = "help" then .help
    else if name = "local" then .load words.head?
    else if name = "quit" ∨ name = "exit" then .quit
    else .unknown (" ".intercalate (word :: words))

/-- What a line asks for; blanks around it do not count. -/
def ShellLine.ofList (cs : List Char) : ShellLine :=
  match trim cs with
  | '/' :: command => ofWords ((words command).map String.ofList)
  | text => .query (String.ofList text)

/-- `ofList` on a string. -/
def ShellLine.ofString (line : String) : ShellLine := ofList line.toList

namespace Shell

/-- A session before its first load. -/
def start (config : Config) : Shell := ⟨config, none⟩

/-- Load the records of the session's configuration. -/
def reload (files : Files) (shell : Shell) : Run Shell := do
  match ← (loadRecords files shell.config).attempt with
  | .ok records => do
    Run.print ["loaded " ++ numeralText records.length ++ " records from " ++ shell.config.dataDir]
    return { shell with records := some records }
  | .error problem => do
    Run.print ["Error: " ++ problem.message]
    return { shell with records := none }

/-- Print the records that match a query. -/
def query (shell : Shell) (text : String) : Run Unit :=
  match shell.records with
  | none => Run.print ["no records loaded\n  hint: use /local <dir> to load records"]
  | some records =>
    match Query.parse text with
    | .error error => do
      Run.say (.queryFailed text error)
      Run.print ["Error: " ++ error.message]
    | .ok query => do
      Run.tell query.events
      let matched := query.keep records
      printRecords .text (cutTo shell.config.limit matched) matched.length

/-- The session about to load from a directory, or from the same one. -/
def turnTo (shell : Shell) : Option String → Shell
  | some dir => { shell with config := shell.config.withDataDir dir }
  | none => shell

/-- Do what a line asks for; nothing is left of a session that was quit. -/
def handle (files : Files) (shell : Shell) : ShellLine → Run (Option Shell)
  | .query text => do
    shell.query text
    return some shell
  | .help => do
    Run.print [Help.filterReference]
    return some shell
  | .load dir => do
    let shell ← reload files (shell.turnTo dir)
    return some shell
  | .quit => return none
  | .unknown command => do
    Run.print ["Error: " ++ (Problem.unknownCommand command).message]
    return some shell

/-- Do what lines ask for, up to the end or to the line that quits. -/
def lines (files : Files) (shell : Shell) : List String → Run Unit
  | [] => return ()
  | line :: rest => do
    match ← handle files shell (.ofString line) with
    | some shell => lines files shell rest
    | none => return ()

/-- A session: load records, then do what the lines ask for. -/
def session (files : Files) (config : Config) (input : List String) : Run Unit := do
  let shell ← reload files (start config)
  lines files shell input

end Shell

/-- The lines of an input.  What follows the last line end is a line too,
unless it is empty. -/
def inputLines (input : String) : List String :=
  let parts := pieces '\n' input.toList
  let parts := if parts.getLast? == some [] then parts.dropLast else parts
  parts.map String.ofList

-- ======================================================== no problem is left

namespace Shell

/-- Loading records is no problem for a session. -/
theorem result_reload (files : Files) (shell : Shell) :
    ∃ next, (reload files shell).result = .ok next := by
  cases h : (loadRecords files shell.config).result <;>
    simp [reload, Run.attempt, bind, Run.andThen, h, Run.print, Run.put, pure, Run.done]

/-- A query is no problem for a session. -/
theorem result_query (shell : Shell) (text : String) : (shell.query text).result = .ok () := by
  unfold query
  split
  · rfl
  · split <;> rfl

/-- No line is a problem for a session. -/
theorem result_handle (files : Files) (shell : Shell) (line : ShellLine) :
    ∃ next, (handle files shell line).result = .ok next := by
  cases line with
  | query text =>
    exact ⟨some shell, by
      simp [handle, bind, Run.andThen, result_query, pure, Run.done]⟩
  | help => exact ⟨some shell, rfl⟩
  | load dir =>
    obtain ⟨next, h⟩ := result_reload files (shell.turnTo dir)
    exact ⟨some next, by simp [handle, bind, Run.andThen, h, pure, Run.done]⟩
  | quit => exact ⟨none, rfl⟩
  | unknown command => exact ⟨some shell, rfl⟩

/-- No lines are a problem for a session. -/
theorem result_lines (files : Files) (shell : Shell) (input : List String) :
    (lines files shell input).result = .ok () := by
  induction input generalizing shell with
  | nil => rfl
  | cons line rest ih =>
    obtain ⟨next, h⟩ := result_handle files shell (.ofString line)
    cases next with
    | none => simp [lines, bind, Run.andThen, h, pure, Run.done]
    | some next => simpa [lines, bind, Run.andThen, h] using ih next

/-- A session always ends well. -/
theorem result_session (files : Files) (config : Config) (input : List String) :
    (session files config input).result = .ok () := by
  obtain ⟨next, h⟩ := result_reload files (start config)
  simpa [session, bind, Run.andThen, h] using result_lines files next input

end Shell

end Docket
