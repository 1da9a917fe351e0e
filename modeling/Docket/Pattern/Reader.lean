/-
Reading a pattern: groups, alternatives, repetitions, switches.  The
reader works off the text from the left with a stack of the groups that
are open.  Every piece carries how deep its notation is nested; patterns
nested deeper than `maxDepth` are refused.
-/
import Docket.Pattern.Class

namespace Docket.Pattern

/-- The deepest nesting that is accepted. -/
def maxDepth : Nat := 250

/-- The largest repetition count. -/
def maxCount : Nat := 0xFFFFFFFF

/-- A piece of a sequence.  A switch group is a piece that cannot be
repeated. -/
structure Piece where
  regex : Regex Atom
  depth : Nat
  repeatable : Bool

/-- The pieces of one group level: those of the alternative being read,
last first, and the alternatives before it, last first. -/
structure Level where
  pieces : List Piece
  before : List (Regex Atom × Nat)

/-- Nothing read yet. -/
def Level.empty : Level := ⟨[], []⟩

/-- One more piece. -/
def Level.push (l : Level) (p : Piece) : Level := { l with pieces := p :: l.pieces }

/-- The sequence of the pieces; two or more are a level of nesting. -/
def sequenceOf (pieces : List Piece) : Regex Atom × Nat :=
  let inner := pieces.foldl (fun d p => max d p.depth) 0
  (Regex.ofList (pieces.reverse.map Piece.regex), if pieces.length < 2 then inner else inner + 1)

/-- End an alternative. -/
def Level.nextAlternative (l : Level) : Level := ⟨[], sequenceOf l.pieces :: l.before⟩

/-- All of a level; two or more alternatives are a level of nesting. -/
def Level.finish (l : Level) : Regex Atom × Nat :=
  let last := sequenceOf l.pieces
  match (last :: l.before).reverse with
  | [] => last
  | first :: rest =>
    let inner := rest.foldl (fun d a => max d a.2) first.2
    (Regex.choice first.1 (rest.map Prod.fst), if rest.isEmpty then inner else inner + 1)

/-- An open group: what is around it, the switches to go back to, and
whether it is one of the numbered ones. -/
structure OpenGroup where
  outer : Level
  mode : Mode
  numbered : Bool

/-- Where a reader stands. -/
structure State where
  opened : List OpenGroup
  level : Level
  mode : Mode
  names : List (List Char)

-- ================================================================ groups

/-- A character that a group name may have; the first one may be no digit
and no punctuation but `_`. -/
def isNameChar (first : Bool) (c : Char) : Bool :=
  let letter := Unicode.alphabetic.contains c.toNat
  if first then c = '_' || letter
  else c = '_' || c = '.' || c = '[' || c = ']' || letter || Unicode.numeric.contains c.toNat

/-- Read a group name up to its `>`. -/
def readGroupName (cs : List Char) : Read (List Char) :=
  let name := cs.takeWhile (· != '>')
  match name, cs.drop name.length with
  | first :: more, _ :: rest =>
    if isNameChar true first && more.all (isNameChar false) then .ok (name, rest)
    else .error .groupName
  | _, _ => .error .groupName

/-- The switches of a switch group that were already seen. -/
structure Switches where
  mode : Mode
  seen : List Char
  off : Bool
  dangling : Bool

/-- Throw one switch. -/
def setSwitch (mode : Mode) (on : Bool) : Char → Option Mode
  | 'i' => some { mode with caseless := on }
  | 'm' => some { mode with multiLine := on }
  | 's' => some { mode with dotAll := on }
  | 'R' => some { mode with crlf := on }
  | 'u' => some { mode with unicode := on }
  | 'x' => some { mode with verbose := on }
  | 'U' => some mode
  | _ => none

/-- Read switches up to the `:` or `)` that ends them.  Each may occur
once, and so may the dash that turns the ones behind it off. -/
def readSwitches : Switches → List Char → Read (Switches × Char)
  | _, [] => .error .switch
  | s, c :: cs =>
    if c = ':' || c = ')' then
      if s.dangling then .error .switch else .ok ((s, c), cs)
    else if s.seen.contains c then .error .switch
    else if c = '-' then readSwitches { s with seen := c :: s.seen, off := true, dangling := true } cs
    else match setSwitch s.mode (!s.off) c with
      | some mode => readSwitches { s with mode := mode, seen := c :: s.seen, dangling := false } cs
      | none => .error .switch

/-- Read what stands behind an opening parenthesis and is still part of
the group's opening. -/
def openGroup (s : State) (cs : List Char) : Except PatternFault (State × List Char) :=
  let enter (mode : Mode) (numbered : Bool) (names : List (List Char)) : State :=
    ⟨⟨s.level, s.mode, numbered⟩ :: s.opened, Level.empty, mode, names⟩
  let named (rest : List Char) : Except PatternFault (State × List Char) := do
    let (name, rest) ← readGroupName rest
    if s.names.contains name then .error (.groupNameRepeated (String.ofList name))
    else .ok (enter s.mode true (name :: s.names), rest)
  match skip s.mode cs with
  | '?' :: '=' :: _ | '?' :: '!' :: _ => .error .lookAround
  | '?' :: '<' :: '=' :: _ | '?' :: '<' :: '!' :: _ => .error .lookAround
  | '?' :: 'P' :: '<' :: rest => named rest
  | '?' :: '<' :: rest => named rest
  | '?' :: rest => do
    let ((switches, mark), rest) ← readSwitches ⟨s.mode, [], false, false⟩ rest
    if mark = ':' then .ok (enter switches.mode false s.names, rest)
    else if switches.seen.isEmpty then .error .nothingToRepeat
    else .ok (⟨s.opened, s.level.push ⟨.empty, 0, false⟩, switches.mode, s.names⟩, rest)
  | rest => .ok (enter s.mode true s.names, rest)

/-- Close the group that was opened last. -/
def closeGroup (s : State) : Except PatternFault State :=
  match s.opened with
  | [] => .error .groupUnopened
  | g :: opened =>
    let (regex, depth) := s.level.finish
    let regex := if g.numbered then .group regex else regex
    .ok ⟨opened, g.outer.push ⟨regex, depth + 1, true⟩, g.mode, s.names⟩

-- =========================================================== repetitions

/-- Repeat the last piece. -/
def repeatLast (s : State) (least : Nat) (most : Option Nat) : Except PatternFault State :=
  match s.level.pieces with
  | p :: pieces =>
    if p.repeatable then
      .ok { s with level := { s.level with
        pieces := ⟨.rep p.regex least most, p.depth + 1, true⟩ :: pieces } }
    else .error .nothingToRepeat
  | [] => .error .nothingToRepeat

/-- Drop the mark of a repetition that prefers fewer rounds: what matches
is the same. -/
def dropLazy : List Char → List Char
  | '?' :: cs => cs
  | cs => cs

/-- Read the digits of a count, which may stand between blanks. -/
def readCount (mode : Mode) (cs : List Char) : Except PatternFault (Option Nat × List Char) :=
  let rec digits (fuel : Nat) (ds : List Char) (cs : List Char) : List Char × List Char :=
    match fuel, cs with
    | fuel + 1, c :: rest =>
      if isDigit c then digits fuel (c :: ds) (skip mode rest) else (ds.reverse, cs)
    | _, _ => (ds.reverse, cs)
  let (ds, rest) := digits cs.length [] (trimStart cs)
  let rest := trimStart rest
  let rest := if rest.isEmpty then rest else skip mode rest
  if ds.isEmpty then .ok (none, rest)
  else if decimal ds ≤ maxCount then .ok (some (decimal ds), rest)
  else .error .repeatCount

/-- Read a repetition count behind its opening brace. -/
def readRepeat (s : State) (cs : List Char) : Except PatternFault (State × List Char) := do
  let (least, cs) ← readCount s.mode (skip s.mode cs)
  let close (least : Nat) (most : Option Nat) (cs : List Char) :
      Except PatternFault (State × List Char) :=
    match cs with
    | '\x7d' :: rest => do
      let rest := dropLazy (skip s.mode rest)
      if most.all (least ≤ ·) then .ok (← repeatLast s least most, rest)
      else .error .repeatOrder
    | _ => .error .repeatCount
  match least, cs with
  | none, _ => .error .repeatCount
  | some least, ',' :: rest =>
    match skip s.mode rest with
    | '\x7d' :: rest => close least none ('\x7d' :: rest)
    | rest => do
      match ← readCount s.mode rest with
      | (some most, rest) => close least (some most) rest
      | (none, _) => .error .repeatCount
  | some least, cs => close least (some least) cs

-- ============================================================= the reader

/-- A single character outside a class. -/
def charRegex (mode : Mode) (c : Char) (byte : Bool) : Except PatternFault (Regex Atom) :=
  let set := CodeSet.single c.toNat
  if mode.unicode then
    .ok (.atom (.char (if mode.caseless then Unicode.foldCase set else set)))
  else if byte && 0x80 ≤ c.toNat then .error .notText
  else .ok (.atom (.char (if mode.caseless then Unicode.foldCaseAscii set else set)))

/-- The dot. -/
def dotRegex (mode : Mode) : Except PatternFault (Regex Atom) :=
  if !mode.unicode then .error .notText
  else .ok (.atom (.char (
    if mode.dotAll then CodeSet.full
    else if mode.crlf then (CodeSet.mk [(0x0A, 0x0A), (0x0D, 0x0D)]).complement
    else (CodeSet.single 0x0A).complement)))

/-- The condition of `^` (`atStart`) or `$`. -/
def anchor (mode : Mode) (atStart : Bool) : Look :=
  if !mode.multiLine then if atStart then .textStart else .textEnd
  else if mode.crlf then if atStart then .lineStartCrlf else .lineEndCrlf
  else if atStart then .lineStart else .lineEnd

/-- The piece for an escape. -/
def partRegex (mode : Mode) : Part → Except PatternFault (Regex Atom)
  | .char c byte => charRegex mode c byte
  | .set set => .ok (.atom (.char set))
  | .look look => .ok (.atom (.look look !mode.unicode))

/-- Read what stands in front of the text. -/
def step (s : State) (c : Char) (rest : List Char) : Except PatternFault (State × List Char) :=
  let piece (regex : Regex Atom) (depth : Nat) : State :=
    { s with level := s.level.push ⟨regex, depth, true⟩ }
  match c with
  | '(' => openGroup s rest
  | ')' => (closeGroup s).map fun s => (s, rest)
  | '|' => .ok ({ s with level := s.level.nextAlternative }, rest)
  | '[' => do
    let (nested, rest) ← readClass s.mode ('[' :: rest)
    .ok (piece (.atom (.char nested.set)) nested.depth, rest)
  | '?' => (repeatLast s 0 (some 1)).map fun s => (s, dropLazy rest)
  | '*' => (repeatLast s 0 none).map fun s => (s, dropLazy rest)
  | '+' => (repeatLast s 1 none).map fun s => (s, dropLazy rest)
  | '\x7b' => readRepeat s rest
  | '\\' => do
    let (part, rest) ← readEscape s.mode rest
    .ok (piece (← partRegex s.mode part) 0, rest)
  | '.' => (dotRegex s.mode).map fun r => (piece r 0, rest)
  | '^' => .ok (piece (.atom (.look (anchor s.mode true) false)) 0, rest)
  | '$' => .ok (piece (.atom (.look (anchor s.mode false) false)) 0, rest)
  | _ => (charRegex s.mode c false).map fun r => (piece r 0, rest)

/-- Read to the end of the text. -/
def readAll : Nat → State → List Char → Except PatternFault State
  | 0, _, _ => .error .tooDeep
  | fuel + 1, s, cs =>
    match skip s.mode cs with
    | [] => .ok s
    | c :: rest => do
      let (s, rest) ← step s c rest
      readAll fuel s rest

/-- The term that a pattern stands for. -/
def read (cs : List Char) : Except PatternFault (Regex Atom) := do
  let s ← readAll (cs.length + 1) ⟨[], Level.empty, Mode.initial, []⟩ cs
  if !s.opened.isEmpty then .error .groupUnclosed
  else
    let (regex, depth) := s.level.finish
    if depth ≤ maxDepth then .ok regex else .error .tooDeep

end Docket.Pattern
