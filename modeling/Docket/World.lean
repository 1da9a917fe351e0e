/-
What a run of the program finds on a machine.
-/
import Docket.Environment
import Docket.Files.Tree
import Docket.Output

namespace Docket

/-- What a run of the program finds: files, the environment, the working
directory unless that is gone, the user's directory for configurations if
there is one, the lines of its input, and where its output goes. -/
structure World where
  files : Files
  env : Environment
  here : Option String
  userDir : Option String
  input : List String
  output : Output

end Docket
