/-
Coloring blocks of examples.  A line that ends in a colon is a header.  On
other lines a gap of two blanks or more parts a command from what is said
about it; the command is colored, its placeholders differently from the
rest.

Main statement: the segments of a command make up the command.
-/
import Docket.Help.Color
import Docket.Text.Blank
import Docket.Text.Pieces
import Docket.Text.Width

namespace Docket

-- ================================================================ commands

/-- A part of a command: plain text, or a placeholder from `<` to `>`. -/
inductive Segment where
  | literal (cs : List Char)
  | context (cs : List Char)
deriving DecidableEq, Repr

namespace Segment

/-- The text of a segment. -/
def text : Segment → List Char
  | literal cs => cs
  | context cs => cs

/-- A segment in its color. -/
def paint : Segment → List Char
  | literal cs => Tint.literal.paint cs
  | context cs => Tint.context.paint cs

end Segment

/-- A literal segment, unless it would be empty. -/
def literalSegment : List Char → List Segment
  | [] => []
  | cs => [.literal cs]

/-- The segments of a command.  A placeholder that does not end goes to the
end of the command. -/
def segments (cs : List Char) : List Segment :=
  literalSegment (cs.takeWhile (· != '<')) ++
    match _h : cs.dropWhile (· != '<') with
    | [] => []
    | c :: rest =>
      .context (c :: rest.takeWhile (· != '>') ++ (rest.dropWhile (· != '>')).take 1)
        :: segments ((rest.dropWhile (· != '>')).drop 1)
termination_by cs.length
decreasing_by
  have h₁ := (List.dropWhile_sublist (· != '<') (l := cs)).length_le
  have h₂ := (List.dropWhile_sublist (· != '>') (l := rest)).length_le
  rw [_h] at h₁
  simp only [List.length_drop, List.length_cons] at *
  omega

/-- A command in its colors. -/
def paintCommand (cs : List Char) : List Char := (segments cs).flatMap Segment.paint

-- =================================================================== lines

/-- Cut a text at its first gap of two blanks; the gap stays with what
follows it. -/
def cutAtGap : List Char → Option (List Char × List Char)
  | ' ' :: ' ' :: rest => some ([], ' ' :: ' ' :: rest)
  | c :: rest => (cutAtGap rest).map fun (before, behind) => (c :: before, behind)
  | [] => none

/-- Cut a line into a command and the description behind it, which has to
say something. -/
def cutDescription (cs : List Char) : Option (List Char × List Char) :=
  (cutAtGap cs).filter fun (_, behind) => !(trim behind).isEmpty

/-- The number of bytes in front of the description of a line. -/
def findDescriptionStart (line : String) : Option Nat :=
  (cutDescription line.toList).map fun (command, _) => byteWidth command

/-- A line in its colors. -/
def paintLine (line : List Char) : List Char :=
  let indent := line.takeWhile isBlank
  let body := trimStart line
  if body.getLast? == some ':' && (cutAtGap body).isNone then
    indent ++ Tint.header.paint body
  else
    match cutDescription body with
    | some (command, description) => indent ++ paintCommand command ++ description
    | none => line

/-- Drop a carriage return at the end of a line. -/
def dropReturn (line : List Char) : List Char :=
  if line.getLast? == some '\r' then line.dropLast else line

/-- The lines of a text.  A line ends in a line feed, which a carriage
return may stand before; the last line need not end. -/
def linesOf (cs : List Char) : List (List Char) :=
  let parts := pieces '\n' cs
  parts.dropLast.map dropReturn ++ (parts.getLast?.filter fun last => !last.isEmpty).toList

/-- A block of examples in its colors.  A line end comes between a line and
what there is before it, so that blank lines in front are lost. -/
def colorizeExamples (text : String) : String :=
  String.ofList <| (linesOf text.toList).foldl
    (fun before line => (if before.isEmpty then [] else before ++ ['\n']) ++ paintLine line) []

/-- A block of examples, in colors if they are wanted. -/
def examples (colored : Bool) (text : String) : String :=
  if colored then colorizeExamples text else text

-- ==================================================== segments are the text

/-- A literal segment is the text it was made from. -/
theorem flatMap_literalSegment (cs : List Char) :
    (literalSegment cs).flatMap Segment.text = cs := by
  cases cs <;> simp [literalSegment, Segment.text]

/-- The segments of a command make up the command. -/
theorem flatMap_text_segments (cs : List Char) : (segments cs).flatMap Segment.text = cs := by
  induction hn : cs.length using Nat.strongRecOn generalizing cs with
  | _ n ih =>
    have hsplit : cs.takeWhile (· != '<') ++ cs.dropWhile (· != '<') = cs :=
      List.takeWhile_append_dropWhile
    rw [segments, List.flatMap_append, flatMap_literalSegment]
    split
    · next h => simpa [h] using hsplit
    · next c rest h =>
      have hle := (List.dropWhile_sublist (· != '<') (l := cs)).length_le
      have hle' := (List.dropWhile_sublist (· != '>') (l := rest)).length_le
      have hrest : rest.takeWhile (· != '>') ++ rest.dropWhile (· != '>') = rest :=
        List.takeWhile_append_dropWhile
      rw [h, List.length_cons] at hle
      have hih := ih ((rest.dropWhile (· != '>')).drop 1).length
        (by simp only [List.length_drop]; omega) _ rfl
      rw [List.flatMap_cons, hih]
      simp only [Segment.text, List.append_assoc, List.cons_append, List.take_append_drop, hrest]
      rw [← h]
      exact hsplit

end Docket
