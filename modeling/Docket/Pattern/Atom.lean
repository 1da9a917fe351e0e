/-
What a pattern is made of: sets of characters and conditions on the place
between two characters, and the switches that change how a pattern is read.
-/
import Docket.Unicode.Lookup
import Docket.Pattern.Regex

namespace Docket

/-- A condition on a place of a text. -/
inductive Look where
  | textStart
  | textEnd
  | lineStart
  | lineEnd
  | lineStartCrlf
  | lineEndCrlf
  | wordEdge
  | noWordEdge
  | wordStart
  | wordEnd
  | wordStartHalf
  | wordEndHalf
deriving DecidableEq, Repr

/-- One character of a set, or a condition; word conditions look at ASCII
words only when `ascii` is set. -/
inductive Atom where
  | char (set : CodeSet)
  | look (look : Look) (ascii : Bool)
deriving DecidableEq, Repr

/-- ASCII letters, digits and `_`. -/
def asciiWord : CodeSet := ⟨[(0x30, 0x39), (0x41, 0x5A), (0x5F, 0x5F), (0x61, 0x7A)]⟩

/-- Whether a place with these neighbours meets a condition. -/
def Look.holds (look : Look) (ascii : Bool) (before behind : Option Char) : Bool :=
  let inWord (c : Option Char) : Bool :=
    c.any fun c => (if ascii then asciiWord else Unicode.wordCharacters).contains c.toNat
  match look with
  | textStart => before.isNone
  | textEnd => behind.isNone
  | lineStart => before.isNone || before = some '\n'
  | lineEnd => behind.isNone || behind = some '\n'
  | lineStartCrlf =>
    before.isNone || before = some '\n' || (before = some '\r' && behind != some '\n')
  | lineEndCrlf =>
    behind.isNone || behind = some '\r' || (behind = some '\n' && before != some '\r')
  | wordEdge => inWord before != inWord behind
  | noWordEdge => inWord before == inWord behind
  | wordStart => !inWord before && inWord behind
  | wordEnd => inWord before && !inWord behind
  | wordStartHalf => !inWord before
  | wordEndHalf => !inWord behind

/-- What an atom does with the places of a text with these surroundings. -/
def Atom.step (around : List (Option Char × Option Char)) : Atom → PlaceStep
  | char set => .consume (placesWhere (fun _ c => c.any fun c => set.contains c.toNat) around)
  | look l ascii => .keep (placesWhere (l.holds ascii) around)

/-- Whether some part of a text matches. -/
def Regex.isMatch (r : Regex Atom) (cs : List Char) : Bool :=
  let around := surroundings cs
  (r.map (Atom.step around)).run around.length (placesWhere (fun _ _ => true) around) != 0

/-- The switches of a pattern: letter case is ignored, `^` and `$` hold at
lines, `.` takes line ends, lines end in `\r\n` too, characters are
Unicode characters, and blanks and comments in the pattern do not count. -/
structure Mode where
  caseless : Bool
  multiLine : Bool
  dotAll : Bool
  crlf : Bool
  unicode : Bool
  verbose : Bool
deriving DecidableEq, Repr

/-- The switches at the start of a pattern. -/
def Mode.initial : Mode := ⟨false, false, false, false, true, false⟩

end Docket
