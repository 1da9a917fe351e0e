/-
Writing JSON: on one line, or laid out with one item or member to a line
and two blanks of indentation for every level.  A quote, a backslash and
the control characters are written as escapes, all other characters as
they are.
-/
import Docket.Text.Decimal
import Docket.Json.Basic

namespace Docket.Json

/-- A hexadecimal digit. -/
def hexDigit (n : Nat) : Char :=
  if n < 10 then Char.ofNat ('0'.toNat + n) else Char.ofNat ('a'.toNat + (n - 10))

/-- One character of a string literal. -/
def escapeChar (c : Char) : List Char :=
  if c = '"' then ['\\', '"']
  else if c = '\\' then ['\\', '\\']
  else if c = '\x08' then ['\\', 'b']
  else if c = '\x0c' then ['\\', 'f']
  else if c = '\n' then ['\\', 'n']
  else if c = '\r' then ['\\', 'r']
  else if c = '\t' then ['\\', 't']
  else if c.toNat < 0x20 then
    ['\\', 'u', '0', '0', hexDigit (c.toNat / 16), hexDigit (c.toNat % 16)]
  else [c]

/-- A string literal; one that spells no text holds half of a surrogate
pair. -/
def writeString : Option String → List Char
  | some s => '"' :: s.toList.flatMap escapeChar ++ ['"']
  | none => ['"', '\\', 'u', 'd', '8', '0', '0', '"']

/-- How items are laid out: all on one line, or each on its own line at a
level of indentation. -/
inductive Layout where
  | line
  | indented (level : Nat)

/-- The layout of the items of a value. -/
def Layout.deeper : Layout → Layout
  | line => line
  | indented level => indented (level + 1)

/-- What stands in front of an item, and behind the last one. -/
def Layout.start : Layout → List Char
  | line => []
  | indented level => '\n' :: List.replicate (2 * level) ' '

/-- What stands between the name of a member and its value. -/
def Layout.colon : Layout → List Char
  | line => [':']
  | indented _ => [':', ' ']

mutual

/-- Write a value. -/
def write (layout : Layout) : Json → List Char
  | null => ['n', 'u', 'l', 'l']
  | bool true => ['t', 'r', 'u', 'e']
  | bool false => ['f', 'a', 'l', 's', 'e']
  | natural n => Docket.numeral n
  | numeral literal => literal.toList
  | string text => writeString text
  | array [] => ['[', ']']
  | array (item :: items) =>
    '[' :: layout.deeper.start ++ write layout.deeper item ++ writeItems layout.deeper items
      ++ layout.start ++ [']']
  | object [] => ['\x7b', '\x7d']
  | object ((name, value) :: members) =>
    '\x7b' :: layout.deeper.start ++ writeString name ++ layout.deeper.colon
      ++ write layout.deeper value ++ writeMembers layout.deeper members
      ++ layout.start ++ ['\x7d']

/-- Write the items behind the first one. -/
def writeItems (layout : Layout) : List Json → List Char
  | [] => []
  | item :: items => ',' :: layout.start ++ write layout item ++ writeItems layout items

/-- Write the members behind the first one. -/
def writeMembers (layout : Layout) : List (Option String × Json) → List Char
  | [] => []
  | (name, value) :: members =>
    ',' :: layout.start ++ writeString name ++ layout.colon ++ write layout value
      ++ writeMembers layout members

end

/-- A value on one line. -/
def compact (v : Json) : String := String.ofList (write .line v)

/-- A value laid out over lines. -/
def pretty (v : Json) : String := String.ofList (write (.indented 0) v)

end Docket.Json
