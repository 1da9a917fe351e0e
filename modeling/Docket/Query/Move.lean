/-
Working a cursor move by move.  Each move gives a reply and leaves the
cursor somewhere, also when it finds nothing or fails; the next move goes
on from there.

A step that finds nothing leaves the cursor where it was.  One that fails
leaves it at the place of the failure.
-/
import Docket.Query.Parser

namespace Docket

/-- What can be done with a cursor. -/
inductive Move where
  | peek
  | isEmpty
  | skip
  | advance (bytes : Nat)
  | name
  | number
  | text
  | separator (ch : Char)
  | filter
deriving DecidableEq, Repr

/-- What a move comes to. -/
inductive Reply where
  | done
  | nothing
  | character (ch : Char)
  | truth (b : Bool)
  | name (word : String)
  | number (n : UInt64)
  | text (s : String)
  | filter (f : Filter)
  | failed (error : QueryError)
deriving DecidableEq

/-- A failure as the reply to a move, with the place where it was met. -/
def Failure.reply (failure : Failure) : Reply × Cursor := (.failed failure.error, failure.place)

namespace Cursor

/-- Make a move: its reply, and the cursor behind it. -/
def act (c : Cursor) : Move → Reply × Cursor
  | .peek => (c.peek.elim .nothing .character, c)
  | .isEmpty => (.truth c.isEmpty, c)
  | .skip => (.done, c.skip)
  | .advance bytes => (.done, c.advance bytes)
  | .name =>
    match c.name? with
    | some (word, place) => (.name word, place)
    | none => (.nothing, c)
  | .number =>
    match c.number with
    | .ok (some step) => (.number step.value, step.place)
    | .ok none => (.nothing, c)
    | .error failure => failure.reply
  | .text =>
    match c.text with
    | .ok stay => (.text stay.value, stay.place)
    | .error failure => failure.reply
  | .separator ch =>
    match c.separator ch with
    | .ok step => (.done, step.place)
    | .error failure => failure.reply
  | .filter =>
    match c.filter with
    | .ok (some step) => (.filter step.value, step.place)
    | .ok none => (.nothing, c)
    | .error failure => failure.reply

/-- The cursor behind some moves, made one after another. -/
def after (c : Cursor) : List Move → Cursor
  | [] => c
  | move :: moves => (c.act move).2.after moves

end Cursor

end Docket
