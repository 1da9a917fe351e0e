/-
The program: carrying out a command line.
-/
import Docket.CommandLine.Reader
import Docket.Config.Lookup
import Docket.Shell

namespace Docket

/-- The configuration of a run; a directory that was asked for replaces the
configured one. -/
def World.config (world : World) (invocation : Invocation) : Run Config := do
  let config ← Config.load world invocation.config
  match invocation.directory with
  | some dir => return config.withDataDir dir
  | none => return config

/-- What a command line comes to where the output takes everything.
Completions are left to the shells. -/
def World.run (world : World) (invocation : Invocation) : Run Unit :=
  match invocation.command with
  | .list query format limit => do
    let config ← world.config invocation
    showList world.files config (" ".intercalate query) format (limit.resolve config.limit)
  | .filters => Run.print FilterName.describeAll
  | .shell => do
    let config ← world.config invocation
    Shell.session world.files config world.input
  | .completion _ => return ()

/-- Carry out a command line. -/
def World.carryOut (world : World) (invocation : Invocation) : Delivery Unit :=
  (world.run invocation).onto world.output

end Docket
