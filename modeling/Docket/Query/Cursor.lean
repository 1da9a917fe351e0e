/-
A scanner over a query text.  A cursor is the text that is still to be
read; it only ever moves forward, and every step that consumes text also
skips the blanks behind it, so the next significant character is always
in front.

Main statements: no step goes back, and a step that finds a name, a digit
run or a separator consumes at least one character.
-/
import Docket.Text.Blank
import Docket.Text.Width
import Docket.Text.Decimal

namespace Docket

/-- A place in a query: the text that has not been consumed yet. -/
structure Cursor where
  rest : List Char
deriving DecidableEq, Repr

namespace Cursor

/-- The number of characters still to be read. -/
def size (c : Cursor) : Nat := c.rest.length

/-- Skip blanks. -/
def skip (c : Cursor) : Cursor := ⟨trimStart c.rest⟩

/-- The start of a text, blanks skipped. -/
def ofList (cs : List Char) : Cursor := ⟨trimStart cs⟩

/-- The start of a string, blanks skipped. -/
def ofString (s : String) : Cursor := ofList s.toList

/-- The unread text. -/
def remaining (c : Cursor) : String := String.ofList c.rest

/-- Nothing is left to read. -/
def isEmpty (c : Cursor) : Bool := c.rest.isEmpty

/-- The next character, which stays in place. -/
def peek (c : Cursor) : Option Char := c.rest.head?

/-- Drop `n` bytes, whole characters at a time, then skip blanks. -/
def advance (c : Cursor) (n : Nat) : Cursor := ⟨trimStart (dropBytes n c.rest)⟩

/-- Drop `n` characters, then skip blanks. -/
def drop (c : Cursor) (n : Nat) : Cursor := ⟨trimStart (c.rest.drop n)⟩

-- ============================================================= tokens

/-- An ASCII letter. -/
def isLetter (c : Char) : Bool := ('a' ≤ c && c ≤ 'z') || ('A' ≤ c && c ≤ 'Z')

/-- A character that may end a name. -/
def isNameEnd (c : Char) : Bool := isLetter c || isDigit c

/-- A character that may stand inside a name. -/
def isNamePart (c : Char) : Bool := isNameEnd c || c == '-' || c == '_'

/-- The longest name in front of a text: a letter, or a letter followed by
letters, digits, `-` and `_` up to a letter or digit.  Empty when the text
starts with no letter. -/
def nameOf (cs : List Char) : List Char :=
  if cs.head?.any isLetter then
    ((cs.takeWhile isNamePart).reverse.dropWhile (fun d => !isNameEnd d)).reverse
  else []

/-- Read a name, if one starts here. -/
def name? (c : Cursor) : Option (String × Cursor) :=
  match nameOf c.rest with
  | [] => none
  | name => some (String.ofList name, c.drop name.length)

/-- Read a digit run, if one starts here. -/
def digits? (c : Cursor) : Option (List Char × Cursor) :=
  match c.rest.takeWhile isDigit with
  | [] => none
  | ds => some (ds, c.drop ds.length)

/-- Read the text in front of the next `)`, trimmed, and stop before the
`)`.  There is nothing to read when no `)` follows. -/
def upToClose? (c : Cursor) : Option (String × Cursor) :=
  let text := c.rest.takeWhile (· != ')')
  if text.length < c.rest.length then
    some (String.ofList (trim text), c.drop text.length)
  else none

/-- Read the separator `ch`, if it is the next character. -/
def separator? (c : Cursor) (ch : Char) : Option Cursor :=
  if c.peek = some ch then some (c.drop 1) else none

-- =================================================== steps go forward

/-- Dropping characters never lengthens what is left. -/
theorem size_drop_le (c : Cursor) (n : Nat) : (c.drop n).size ≤ c.size := by
  have h := length_trimStart_le (c.rest.drop n)
  simp only [List.length_drop] at h
  simp only [size, drop]
  omega

/-- Dropping a character that is there shortens what is left. -/
theorem size_drop_lt {c : Cursor} {n : Nat} (hn : 0 < n) (hc : 0 < c.size) :
    (c.drop n).size < c.size := by
  have h := length_trimStart_le (c.rest.drop n)
  simp only [List.length_drop] at h
  simp only [size, drop] at hc ⊢
  omega

/-- A name is no longer than the text it was read from. -/
theorem length_nameOf_le (cs : List Char) : (nameOf cs).length ≤ cs.length := by
  unfold nameOf
  split
  · have h₁ := (List.dropWhile_sublist (fun d => !isNameEnd d)
      (l := (cs.takeWhile isNamePart).reverse)).length_le
    have h₂ := (List.takeWhile_sublist isNamePart (l := cs)).length_le
    simp only [List.length_reverse] at h₁ ⊢
    omega
  · simp

/-- Reading a name consumes at least its first letter. -/
theorem size_of_name? {c c' : Cursor} {s : String}
    (h : c.name? = some (s, c')) : c'.size < c.size := by
  unfold name? at h
  split at h
  · cases h
  · next hne =>
    have hpos : 0 < (nameOf c.rest).length := List.length_pos_iff.2 hne
    have hle := length_nameOf_le c.rest
    cases h
    exact size_drop_lt hpos (by simp only [size]; omega)

/-- Reading a digit run consumes at least its first digit. -/
theorem size_of_digits? {c c' : Cursor} {ds : List Char}
    (h : c.digits? = some (ds, c')) : c'.size < c.size := by
  unfold digits? at h
  split at h
  · cases h
  · next hne =>
    have hpos : 0 < (c.rest.takeWhile isDigit).length := List.length_pos_iff.2 hne
    have hle := (List.takeWhile_sublist isDigit (l := c.rest)).length_le
    cases h
    exact size_drop_lt hpos (by simp only [size]; omega)

/-- Reading up to a `)` does not go back. -/
theorem size_of_upToClose? {c c' : Cursor} {s : String}
    (h : c.upToClose? = some (s, c')) : c'.size ≤ c.size := by
  unfold upToClose? at h
  simp only at h
  split at h
  · cases h
    exact size_drop_le _ _
  · cases h

/-- Reading a separator consumes it. -/
theorem size_of_separator? {c c' : Cursor} {ch : Char}
    (h : c.separator? ch = some c') : c'.size < c.size := by
  unfold separator? at h
  split at h
  · next hp =>
    have hpos : 0 < c.size := by
      cases hr : c.rest with
      | nil => simp [peek, hr] at hp
      | cons d ds => simp [size, hr]
    cases h
    exact size_drop_lt (by omega) hpos
  · cases h

end Cursor

end Docket
