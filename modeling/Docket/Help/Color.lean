/-
Colors of help texts.  A colored text stands between the sequence that
switches its color on and the one that switches all colors off.
-/
import Docket.Text.Decimal

namespace Docket

/-- The parts that a color tells apart. -/
inductive Tint where
  | header
  | literal
  | context
deriving DecidableEq, Repr

namespace Tint

/-- The number of the color among the 256 of a terminal. -/
def code : Tint → Nat
  | header => 74
  | literal => 250
  | context => 245

/-- The sequence that switches the color on. -/
def switchOn (tint : Tint) : List Char :=
  '\x1b' :: ['[', '3', '8', ';', '5', ';'] ++ numeral tint.code ++ ['m']

/-- The sequence that switches all colors off. -/
def switchOff : List Char := ['\x1b', '[', '0', 'm']

/-- A text in the color. -/
def paint (tint : Tint) (cs : List Char) : List Char := tint.switchOn ++ cs ++ switchOff

/-- A string in the color. -/
def paintText (tint : Tint) (s : String) : String := String.ofList (tint.paint s.toList)

end Tint

end Docket
