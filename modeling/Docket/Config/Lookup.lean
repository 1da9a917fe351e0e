/-
Which file configures a run: the one that is asked for, by an option or by
the environment, or else the one in the working directory, or else the
user's.  A file that is asked for has to be there; the other two may be
missing, and without any of them the defaults hold.  The user's directory is
where the system keeps such directories.
-/
import Docket.Config
import Docket.World

namespace Docket.Config

/-- The configuration file of a working directory. -/
def localPath (here : String) : String := Path.join here "triage.toml"

/-- The configuration file in the user's directory for them. -/
def userPath (dir : String) : String := Path.join (Path.join dir "triage") "config.toml"

/-- The file that configures a run, if there is one. -/
def choose (files : Files) (explicit : Option String) (here : String)
    (userDir : Option String) : Except Problem (Option String) :=
  match explicit with
  | some path =>
    if files.isFile path then .ok (some path) else .error (.configNotFound path)
  | none =>
    if files.isFile (localPath here) then .ok (some (localPath here))
    else .ok ((userDir.map userPath).filter files.isFile)

/-- The configuration in a file. -/
def ofFile (files : Files) (path : String) : Except Problem Config :=
  match files.read? path with
  | none => .error .unreadableFile
  | some text =>
    match ofText? text with
    | none => .error .malformedConfig
    | some config => .ok (config.locatedAt path)

/-- The file that configures a run, if there is one.  The working directory
has to be there even if it does not matter. -/
def lookup (world : World) (explicit : Option String) : Except Problem (Option String) :=
  match world.here with
  | none => .error .lostDirectory
  | some here => choose world.files (explicit <|> world.env.configPath) here world.userDir

/-- Load the configuration of a run. -/
def load (world : World) (explicit : Option String) : Run Config := do
  match ← Run.ofExcept (lookup world explicit) with
  | none => do
    Run.say .noConfigFile
    return standard
  | some path => do
    let config ← Run.ofExcept (ofFile world.files path)
    Run.say (.loadedConfig path)
    return config

/-- The files that may configure a run. -/
def candidates (world : World) (explicit : Option String) : List String :=
  match world.here, explicit <|> world.env.configPath with
  | none, _ => []
  | some _, some path => [path]
  | some here, none => localPath here :: (world.userDir.map userPath).toList

end Docket.Config
