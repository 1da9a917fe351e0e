/-
The problems that end a run, and what is said of each.
-/
import Docket.Query.Wording

namespace Docket

/-- The problems that end a run. -/
inductive Problem where
  | query (error : QueryError)
  | noRecords (path : String)
  | configNotFound (path : String)
  | malformedConfig
  | unknownCommand (command : String)
  | lostDirectory
  | unreadableFile
  | malformedListing
  | unwritableLine
  | unwritableListing
deriving DecidableEq, Repr

/-- What is said of a problem.  The readers of configurations and listings
and the machine have words of their own for theirs; these come behind and
are not told here. -/
def Problem.message : Problem → String
  | query error => error.message
  | noRecords path =>
    "no records found: " ++ path
      ++ " does not exist\n  hint: use -C <dir> to point at a directory containing the issues file"
  | configNotFound path => "config file not found: " ++ path
  | malformedConfig => "config error: "
  | unknownCommand command =>
    "unknown command: /" ++ command ++ "\n  hint: commands are /help, /local [dir], /quit"
  | lostDirectory => "io error: "
  | unreadableFile => "io error: "
  | malformedListing => "json error: "
  | unwritableLine => "io error: "
  | unwritableListing => "json error: "

end Docket
