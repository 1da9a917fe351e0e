/-
Files.  The program sees the files of a machine through what a path leads
to; a tree of files held in memory gives such a view of itself from a
directory in it.
-/
import Docket.Files.Path

namespace Docket

/-- What a path leads to. -/
inductive Entry where
  | missing
  | directory
  | text (content : String)
  | binary
deriving DecidableEq, Repr

/-- The entry is a file. -/
def Entry.isFile : Entry → Bool
  | text _ => true
  | binary => true
  | _ => false

/-- The text of an entry, if it is a file that holds one. -/
def Entry.text? : Entry → Option String
  | text content => some content
  | _ => none

/-- The files that paths lead to. -/
structure Files where
  entry : String → Entry

namespace Files

/-- The path leads to a file. -/
def isFile (files : Files) (path : String) : Bool := (files.entry path).isFile

/-- The text of the file at a path. -/
def read? (files : Files) (path : String) : Option String := (files.entry path).text?

variable {files files' : Files} {path : String}

/-- Whether a path leads to a file is told by its entry. -/
theorem isFile_congr (h : files'.entry path = files.entry path) :
    files'.isFile path = files.isFile path := by
  unfold isFile
  rw [h]

/-- The text at a path is told by its entry. -/
theorem read?_congr (h : files'.entry path = files.entry path) :
    files'.read? path = files.read? path := by
  unfold read?
  rw [h]

/-- A text at a path is a file that is read as it. -/
theorem isFile_and_read?_of_text {content : String} (h : files.entry path = .text content) :
    files.isFile path = true ∧ files.read? path = some content := by
  unfold isFile read?
  rw [h]
  exact ⟨rfl, rfl⟩

/-- What is read is a file. -/
theorem isFile_of_read? {content : String} (h : files.read? path = some content) :
    files.isFile path = true := by
  unfold read? at h
  unfold isFile
  cases hentry : files.entry path with
  | text _ => rfl
  | _ =>
      rw [hentry] at h
      cases h

end Files

-- ================================================== trees in memory

/-- A tree of files: what stands at the places that are named, the parts of
a place outermost first.  Directories above a place need no naming. -/
structure FileTree where
  entries : List (List String × Entry)

namespace FileTree

/-- What stands at a place. -/
def lookup (tree : FileTree) (place : List String) : Entry :=
  match tree.entries.find? fun e => e.1 == place with
  | some (_, entry) => entry
  | none =>
    if place.isEmpty || tree.entries.any fun e => place.isPrefixOf e.1 then .directory
    else .missing

/-- Follow the pieces of a path from a place: idle pieces stay, two dots
lead up, and every piece needs a directory to start from. -/
def follow (tree : FileTree) (place : List String) : List String → Entry
  | [] => tree.lookup place
  | part :: parts =>
    match tree.lookup place with
    | .directory =>
      if Path.isIdle part.toList then tree.follow place parts
      else if part = ".." then tree.follow place.dropLast parts
      else tree.follow (place ++ [part]) parts
    | _ => .missing

/-- The files of a tree as seen from a directory in it. -/
def view (tree : FileTree) (here : List String) : Files where
  entry path :=
    if path.isEmpty then .missing
    else if Path.isAbsolute path then tree.follow [] (Path.parts path)
    else tree.follow here (Path.parts path)

end FileTree

end Docket
