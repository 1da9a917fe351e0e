/-
Paths.  A path is a text; `/` stands between its parts, and a path that
starts with one is absolute.  Joining and taking the parent work on the
text alone and keep the spelling: nothing is resolved or normalised.

Main statements: an absolute path replaces what it is joined to, and a
relative one joined to nothing is itself.
-/
import Docket.Text.Pieces

namespace Docket.Path

/-- The character between the parts of a path. -/
def separator : Char := '/'

/-- The path starts at the root. -/
def isAbsolute (path : String) : Bool := path.toList.head? == some separator

/-- The path starts at some directory. -/
def isRelative (path : String) : Bool := !isAbsolute path

/-- A path inside another.  An absolute one replaces the other, and a
separator comes between the two unless one is there or nothing is. -/
def join (base path : String) : String :=
  if isAbsolute path then path
  else if base.toList.getLast?.any (· != separator) then base ++ "/" ++ path
  else base ++ path

/-- A piece that names nothing: it is empty or a lone dot. -/
def isIdle (part : List Char) : Bool := part == [] || part == ['.']

/-- The start of a path, and the rest: the root, the dot of a path that
starts with a lone dot, or nothing. -/
def start : List Char → List Char × List Char
  | '/' :: rest => (['/'], rest)
  | ['.'] => (['.'], [])
  | '.' :: '/' :: rest => (['.'], '/' :: rest)
  | path => ([], path)

/-- The directory that a path is in: the path without its last piece that
names something.  The root and the empty path are in none. -/
def parent? (path : String) : Option String :=
  let (first, body) := start path.toList
  match (pieces separator body).reverse.dropWhile isIdle with
  | [] => if first == ['.'] then some "" else none
  | _ :: above =>
    some (String.ofList (first ++ glue separator (above.dropWhile isIdle).reverse))

/-- The pieces of a path. -/
def parts (path : String) : List String := (pieces separator path.toList).map String.ofList

-- ============================================================== joining

/-- An absolute path replaces what it is joined to. -/
theorem join_absolute {base path : String} (h : isAbsolute path = true) :
    join base path = path := by
  simp [join, h]

/-- A relative path joined to nothing is itself. -/
theorem join_empty_left (path : String) : join "" path = path := by
  unfold join
  split
  · rfl
  · simp

end Docket.Path
