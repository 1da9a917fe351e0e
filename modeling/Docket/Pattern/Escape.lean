/-
The smallest parts of a pattern: escapes and what they stand for.  Each
reader takes the text behind the characters that led to it and returns
what it read together with the text behind that.
-/
import Docket.Text.Blank
import Docket.Text.Hex
import Docket.Pattern.Atom
import Docket.Pattern.Fault

namespace Docket.Pattern

/-- What a reader gives back: a value and the text behind it. -/
abbrev Read (α : Type) := Except PatternFault (α × List Char)

/-- Skip blanks and comments; `comment` tells that the text starts inside
a comment. -/
def skipLoose : Bool → List Char → List Char
  | _, [] => []
  | true, c :: cs => skipLoose (c != '\n') cs
  | false, c :: cs =>
    if isBlank c then skipLoose false cs
    else if c = '#' then skipLoose true cs
    else c :: cs

/-- Skip blanks and comments if they do not count. -/
def skip (mode : Mode) (cs : List Char) : List Char :=
  if mode.verbose then skipLoose false cs else cs

-- ============================================================ hexadecimal

/-- Read exactly `count` digits on top of `value`. -/
def readHexFixed (mode : Mode) : Nat → Nat → List Char → Read Char
  | 0, value, cs => match charOf? value with
    | some c => .ok (c, cs)
    | none => .error .hexValue
  | _ + 1, _, [] => .error .escapeUnfinished
  | count + 1, value, c :: cs => match hexValue? c with
    | some d => readHexFixed mode count (16 * value + d) (skip mode cs)
    | none => .error .hexDigits

/-- Read digits up to a closing brace, on top of those in `value?`. -/
def readHexBraced (mode : Mode) (fuel : Nat) (value? : Option Nat) (cs : List Char) : Read Char :=
  match fuel, cs with
  | 0, _ | _, [] => .error .escapeUnfinished
  | fuel + 1, c :: cs =>
    if c = '\x7d' then
      match value?.bind charOf? with
      | some c => .ok (c, skip mode cs)
      | none => .error .hexValue
    else match hexValue? c with
      | some d => readHexBraced mode fuel (some (16 * value?.getD 0 + d)) (skip mode cs)
      | none => .error .hexDigits

/-- Read the digits of an escape that has `count` of them when they are
not in braces. -/
def readHex (mode : Mode) (count : Nat) (cs : List Char) : Read (Char × Bool) :=
  match skip mode cs with
  | [] => .error .escapeUnfinished
  | c :: rest =>
    if c = '\x7b' then
      (readHexBraced mode (rest.length + 1) none (skip mode rest)).map
        fun (c, rest) => ((c, false), rest)
    else
      (readHexFixed mode count 0 (c :: rest)).map fun (c, rest) => ((c, count = 2), rest)

-- ============================================================= properties

/-- Read a name up to a closing brace. -/
def readBraced (mode : Mode) : Nat → List Char → List Char → Read (List Char)
  | 0, _, _ => .error .escapeUnfinished
  | _ + 1, _, [] => .error .escapeUnfinished
  | fuel + 1, name, c :: cs =>
    if c = '\x7d' then .ok (name.reverse, cs)
    else readBraced mode fuel (c :: name) (skip mode cs)

/-- Split a text at the first place where `mark` stands. -/
def splitAt? (mark : List Char) : List Char → Option (List Char × List Char)
  | [] => none
  | c :: cs =>
    if mark.isPrefixOf (c :: cs) then some ([], (c :: cs).drop mark.length)
    else (splitAt? mark cs).map fun (front, rest) => (c :: front, rest)

/-- The code points that a property expression names, and whether it
names all others instead. -/
def propertyOf (name : List Char) : Except PatternFault (CodeSet × Bool) :=
  let text := String.ofList
  let valued (front value : List Char) (negated : Bool) :=
    match Unicode.byValue? (text front) (text value) with
    | some set => .ok (set, negated)
    | none => .error (.propertyUnknown (text name))
  match splitAt? ['!', '='] name with
  | some (front, value) => valued front value true
  | none => match splitAt? [':'] name with
    | some (front, value) => valued front value false
    | none => match splitAt? ['='] name with
      | some (front, value) => valued front value false
      | none => match Unicode.byName? (text name) with
        | some set => .ok (set, false)
        | none => .error (.propertyUnknown (text name))

/-- Fold letter case if it does not count, then take the complement if
asked to.  Without Unicode only ASCII sets are allowed. -/
def finishSet (mode : Mode) (negated : Bool) (set : CodeSet) : Except PatternFault CodeSet :=
  if mode.unicode then
    let set := if mode.caseless then Unicode.foldCase set else set
    .ok (if negated then set.complement else set)
  else if negated || !set.allBelow 0x80 then .error .notText
  else .ok (if mode.caseless then Unicode.foldCaseAscii set else set)

/-- Read a property behind `\p`, or behind `\P` when `negated`. -/
def readProperty (mode : Mode) (negated : Bool) (cs : List Char) :
    Except PatternFault (CodeSet × List Char) := do
  let (name, rest) ← match skip mode cs with
    | [] => .error .escapeUnfinished
    | c :: rest =>
      if c = '\x7b' then readBraced mode (rest.length + 1) [] (skip mode rest)
      else if c = '\\' then .error .propertyName
      else .ok ([c], skip mode rest)
  if mode.unicode then
    let (set, others) ← propertyOf name
    let set ← finishSet mode (negated != others) set
    .ok (set, rest)
  else .error .propertyWithoutUnicode

-- ================================================================ escapes

/-- The smallest parts: a character (`byte` when it was written as two
hexadecimal digits), a set of characters, or a condition. -/
inductive Part where
  | char (c : Char) (byte : Bool)
  | set (set : CodeSet)
  | look (look : Look)

/-- The classes `\d`, `\s` and `\w`. -/
def letterClass (mode : Mode) (c : Char) : CodeSet :=
  if mode.unicode then
    if c = 'd' then Unicode.decimalDigits
    else if c = 's' then Unicode.blanks
    else Unicode.wordCharacters
  else if c = 'd' then CodeSet.range 0x30 0x39
  else if c = 's' then ⟨[(0x09, 0x0D), (0x20, 0x20)]⟩
  else asciiWord

/-- `letterClass`, or what is not in it. -/
def letterClassPart (mode : Mode) (c : Char) (negated : Bool) : Except PatternFault Part :=
  let set := letterClass mode c
  if !negated then .ok (.set set)
  else if mode.unicode then .ok (.set set.complement)
  else .error .notText

/-- A character of the names of word edges. -/
def isEdgeNamePart (c : Char) : Bool :=
  ('A' ≤ c && c ≤ 'Z') || ('a' ≤ c && c ≤ 'z') || c = '-'

/-- Read the name of a word edge up to its closing brace. -/
def readEdgeName (mode : Mode) : Nat → List Char → List Char → Read (List Char)
  | 0, _, _ => .error .wordEdgeName
  | _ + 1, _, [] => .error .wordEdgeName
  | fuel + 1, name, c :: cs =>
    if isEdgeNamePart c then readEdgeName mode fuel (c :: name) (skip mode cs)
    else if c = '\x7d' then .ok (name.reverse, cs)
    else .error .wordEdgeName

/-- Read what may follow `\b`: the name of a special word edge in braces.
A brace that no such name follows belongs to a repetition. -/
def readWordEdge (mode : Mode) (cs : List Char) : Except PatternFault (Part × List Char) :=
  match cs with
  | c :: rest =>
    if c = '\x7b' then
      match skip mode rest with
      | [] => .error .wordEdgeName
      | d :: rest =>
        if isEdgeNamePart d then do
          let (name, rest) ← readEdgeName mode (rest.length + 2) [] (d :: rest)
          match String.ofList name with
          | "start" => .ok (.look .wordStart, rest)
          | "end" => .ok (.look .wordEnd, rest)
          | "start-half" => .ok (.look .wordStartHalf, rest)
          | "end-half" => .ok (.look .wordEndHalf, rest)
          | _ => .error .wordEdgeName
        else .ok (.look .wordEdge, cs)
    else .ok (.look .wordEdge, cs)
  | [] => .ok (.look .wordEdge, cs)

/-- An ASCII character that stands for itself behind a backslash. -/
def isPlainEscape (c : Char) : Bool :=
  c.toNat < 0x80 && !c.isAlphanum && c != '<' && c != '>'

/-- Read an escape behind its backslash. -/
def readEscape (mode : Mode) (cs : List Char) : Read Part :=
  match cs with
  | [] => .error .escapeUnfinished
  | c :: rest =>
    if isDigit c then .error .backReference
    else match c with
    | 'x' => (readHex mode 2 rest).map fun ((c, byte), rest) => (.char c byte, rest)
    | 'u' => (readHex mode 4 rest).map fun ((c, byte), rest) => (.char c byte, rest)
    | 'U' => (readHex mode 8 rest).map fun ((c, byte), rest) => (.char c byte, rest)
    | 'p' => (readProperty mode false rest).map fun (set, rest) => (.set set, rest)
    | 'P' => (readProperty mode true rest).map fun (set, rest) => (.set set, rest)
    | 'd' | 's' | 'w' => (letterClassPart mode c false).map fun part => (part, rest)
    | 'D' | 'S' | 'W' => (letterClassPart mode c.toLower true).map fun part => (part, rest)
    | 'a' => .ok (.char '\x07' false, rest)
    | 'f' => .ok (.char '\x0c' false, rest)
    | 't' => .ok (.char '\t' false, rest)
    | 'n' => .ok (.char '\n' false, rest)
    | 'r' => .ok (.char '\r' false, rest)
    | 'v' => .ok (.char '\x0b' false, rest)
    | 'A' => .ok (.look .textStart, rest)
    | 'z' => .ok (.look .textEnd, rest)
    | 'b' => readWordEdge mode rest
    | 'B' => .ok (.look .noWordEdge, rest)
    | '<' => .ok (.look .wordStart, rest)
    | '>' => .ok (.look .wordEnd, rest)
    | _ => if isPlainEscape c then .ok (.char c false, rest) else .error (.escapeUnknown c)

end Docket.Pattern
