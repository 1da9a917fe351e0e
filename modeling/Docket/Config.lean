/-
The configuration: where listings are and how many records are shown.

Main statement: a document without keys gives the standard configuration.
-/
import Docket.Files.Path
import Docket.Toml.Reader

namespace Docket

/-- A configuration. -/
structure Config where
  dataDir : String
  issuesFile : String
  pullsFile : String
  limit : Option Nat
deriving DecidableEq, Repr

namespace Config

/-- The configuration without any file. -/
def standard : Config := ⟨".", "issues.json", "pulls.json", none⟩

/-- A text under a key, or the given one if the key is absent. -/
def textAt (key : String) (otherwise : String) (entries : Toml.Entries) : Option String :=
  match entries.lookup key with
  | none => some otherwise
  | some (.string text) => some text
  | some _ => none

/-- A count under a key, if the key is there: an integer of 64 bits. -/
def countAt (key : String) (entries : Toml.Entries) : Option (Option Nat) :=
  match entries.lookup key with
  | none => some none
  | some (.integer n) => if 0 ≤ n ∧ n < wordLimit then some (some n.toNat) else none
  | some _ => none

/-- The configuration of a document; keys that mean nothing are ignored. -/
def ofEntries? (entries : Toml.Entries) : Option Config := do
  some {
    dataDir := ← textAt "data_dir" standard.dataDir entries
    issuesFile := ← textAt "issues_file" standard.issuesFile entries
    pullsFile := ← textAt "pulls_file" standard.pullsFile entries
    limit := ← countAt "limit" entries }

/-- The configuration of a text. -/
def ofText? (text : String) : Option Config := do ofEntries? (← Toml.ofString? text)

/-- A configuration from the file at a path: a relative data directory
starts at the directory of the file. -/
def locatedAt (config : Config) (path : String) : Config :=
  if Path.isRelative config.dataDir then
    match Path.parent? path with
    | some dir => { config with dataDir := Path.join dir config.dataDir }
    | none => config
  else config

/-- The configuration with another data directory. -/
def withDataDir (config : Config) (dir : String) : Config := { config with dataDir := dir }

/-- The path of the issues listing. -/
def issuesPath (config : Config) : String := Path.join config.dataDir config.issuesFile

/-- The path of the listing of pull requests. -/
def pullsPath (config : Config) : String := Path.join config.dataDir config.pullsFile

/-- Without a file the listings are in the working directory. -/
theorem standard_paths :
    standard.issuesPath = "./issues.json" ∧ standard.pullsPath = "./pulls.json" := by decide

/-- Without any keys everything has its default value. -/
theorem ofEntries?_nil : ofEntries? [] = some standard := rfl

end Config

end Docket
