/-
Loading the records of a configuration: the issues listing has to be
there, the listing of pull requests may be missing.
-/
import Docket.Config
import Docket.Files.Tree
import Docket.Listing.Link
import Docket.Record.Codec
import Docket.Run

namespace Docket

/-- What `decode` makes of the file at a path. -/
def readListing {α : Type} (decode : String → Option (List α)) (files : Files) (path : String) :
    Except Problem (List α) :=
  match files.read? path with
  | none => .error .unreadableFile
  | some text =>
    match decode text with
    | none => .error .malformedListing
    | some items => .ok items

/-- The pull requests of a configuration: none when their listing is
missing. -/
def loadPulls (files : Files) (config : Config) : Run (List Pull) :=
  if files.isFile config.pullsPath then
    Run.ofExcept (readListing readPulls? files config.pullsPath)
  else do
    Run.say (.noPullsFile config.pullsPath)
    return []

/-- The records of a configuration, linked and in order. -/
def loadRecords (files : Files) (config : Config) : Run (List Record) := do
  if files.isFile config.issuesPath then
    let issues ← Run.ofExcept (readListing readRecords? files config.issuesPath)
    let pulls ← loadPulls files config
    Run.say (.loadedRecords issues.length pulls.length config.dataDir)
    Run.say (.linkedPulls (linkedCount issues pulls))
    return linkPulls issues pulls
  else Run.fail (.noRecords config.issuesPath)

end Docket
