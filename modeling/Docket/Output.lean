/-
Where output goes.  An output may stop taking bytes, and a run that prints to
one meets a problem there: what the output took before stays written, and
nothing more is done.

Output leaves line by line.  What follows the last line end of a text is held
back until the line end behind the text, so it is that line end which is not
taken when the last line of a text is not.
-/
import Docket.Run
import Docket.Text.Width

namespace Docket

/-- Where output goes: somewhere that takes all of it, or somewhere with room
for so many bytes. -/
inductive Output where
  | boundless
  | upTo (room : Nat)
deriving DecidableEq, Repr

/-- What becomes of a run that prints to an output: what it says, the bytes
that are written, and what it comes to. -/
structure Delivery (α : Type) where
  events : List Event
  written : List UInt8
  result : Except Problem α

/-- The byte of a line end. -/
def lineEnd : UInt8 := 10

/-- The whole lines at the front of some bytes. -/
def wholeLines (bytes : List UInt8) : List UInt8 := (bytes.reverse.dropWhile (· != lineEnd)).reverse

/-- What follows the last line end of some bytes. -/
def lastLine (bytes : List UInt8) : List UInt8 := (bytes.reverse.takeWhile (· != lineEnd)).reverse

theorem wholeLines_append_lastLine (bytes : List UInt8) :
    wholeLines bytes ++ lastLine bytes = bytes := by
  unfold wholeLines lastLine
  rw [← List.reverse_append, List.takeWhile_append_dropWhile, List.reverse_reverse]

namespace Output

variable {α : Type}

/-- The output has room for so many bytes. -/
def takes : Output → Nat → Bool
  | boundless, _ => true
  | upTo room, size => size ≤ room

/-- The bytes that an output takes of some. -/
def front : Output → List UInt8 → List UInt8
  | boundless, bytes => bytes
  | upTo room, bytes => bytes.take room

/-- The output with so many bytes less room. -/
def behind : Output → Nat → Output
  | boundless, _ => boundless
  | upTo room, size => upTo (room - size)

/-- Write bytes and go on, unless the output does not take all of them. -/
def write (output : Output) (bytes : List UInt8) (refusal : Problem)
    (next : Output → Delivery α) : Delivery α :=
  if output.takes bytes.length then
    let delivery := next (output.behind bytes.length)
    { delivery with written := bytes ++ delivery.written }
  else ⟨[], output.front bytes, .error refusal⟩

/-- Write a text and a line end behind it, and go on. -/
def writeLine (output : Output) (text : String) (refusal : Problem)
    (next : Output → Delivery α) : Delivery α :=
  output.write (wholeLines (bytesOf text)) refusal fun output =>
    output.write (lastLine (bytesOf text) ++ [lineEnd]) .unwritableLine next

/-- Do things one after the other; where all of them can be done, they come
to `result`. -/
def deliver (result : Except Problem α) : List Deed → Output → Delivery α
  | [], _ => ⟨[], [], result⟩
  | .say event :: deeds, output =>
    let delivery := deliver result deeds output
    { delivery with events := event :: delivery.events }
  | .print text refusal :: deeds, output => output.writeLine text refusal (deliver result deeds)

end Output

/-- A run that prints to an output. -/
def Run.onto {α : Type} (run : Run α) (output : Output) : Delivery α :=
  output.deliver run.result run.deeds

end Docket
