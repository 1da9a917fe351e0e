/-
Tables of code points.  A property value carries its names, reduced to
lower case letters and digits, and its code points as text: blank-separated
tokens in base 36, each the gap from the end of the token before it and,
after a dash, the number of further code points in the token.
-/
import Docket.CodeSet

namespace Docket.Unicode

/-- A property value: the names it goes by and its code points. -/
structure Property where
  names : List String
  spans : List String

/-- The value of a base 36 digit. -/
def digit36 (c : Char) : Nat :=
  if c ≤ '9' then c.toNat - '0'.toNat else c.toNat - 'a'.toNat + 10

/-- Where a reader of a table line stands: the next free code point, the
gap read so far, the dash count once a dash was seen, and the spans found. -/
structure TableState where
  next : Nat
  gap : Nat
  more : Option Nat
  found : List (Nat × Nat)

/-- End the current token. -/
def TableState.close (s : TableState) : TableState :=
  let lo := s.next + s.gap
  let hi := lo + s.more.getD 0
  ⟨hi + 1, 0, none, (lo, hi) :: s.found⟩

/-- Read one character of a table line. -/
def TableState.step (s : TableState) (c : Char) : TableState :=
  if c = ' ' then s.close
  else if c = '-' then { s with more := some 0 }
  else match s.more with
    | none => { s with gap := s.gap * 36 + digit36 c }
    | some m => { s with more := some (m * 36 + digit36 c) }

/-- The code points of a property value. -/
def Property.codeSet (p : Property) : CodeSet :=
  let s := p.spans.foldl (fun s line => (line.toList.foldl TableState.step s).close)
    (⟨0, 0, none, []⟩ : TableState)
  ⟨s.found.reverse⟩

/-- The value of that name, if the table lists it. -/
def find? (table : List Property) (name : String) : Option CodeSet :=
  (table.find? fun p => p.names.contains name).map Property.codeSet

end Docket.Unicode
