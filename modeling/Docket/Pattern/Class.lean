/-
Bracketed classes: unions of characters, ranges and nested classes, with
intersection `&&`, difference `--` and symmetric difference `~~`, which
bind more loosely than union and group to the left.

A class is read with a stack of the classes and operations that are open.
Each entry also carries how deep the class is nested, since patterns
nested too deeply are refused.
-/
import Docket.Pattern.Escape

namespace Docket.Pattern

/-- A set of characters and how deep its notation is nested. -/
structure Nested where
  set : CodeSet
  depth : Nat

/-- The items of a union that is being read. -/
structure Items where
  sets : List CodeSet
  depth : Nat

/-- No items yet. -/
def Items.none : Items := ⟨[], 0⟩

/-- One more item. -/
def Items.push (items : Items) (item : Nested) : Items :=
  ⟨item.set :: items.sets, max items.depth item.depth⟩

/-- The union of the items; two or more of them are a level of their own. -/
def Items.union (items : Items) : Nested :=
  match items.sets with
  | [] => ⟨CodeSet.empty, 0⟩
  | [set] => ⟨set, items.depth⟩
  | sets => ⟨CodeSet.unions sets, items.depth + 1⟩

/-- The operations on sets. -/
inductive SetOp where
  | inter
  | diff
  | symmDiff

/-- Apply an operation. -/
def SetOp.apply : SetOp → CodeSet → CodeSet → CodeSet
  | inter => CodeSet.inter
  | diff => CodeSet.diff
  | symmDiff => CodeSet.symmDiff

/-- What is open around the union that is being read: an operation that
waits for its right side, or a class that waits for its end. -/
inductive OpenPart where
  | op (op : SetOp) (left : Nested)
  | bracket (negated : Bool) (outer : Items)

/-- Where a reader of classes stands. -/
structure ClassState where
  opened : List OpenPart
  items : Items

/-- Letter case folded on its own, for the sides of an operation. -/
def foldSide (mode : Mode) (set : CodeSet) : CodeSet :=
  if !mode.caseless then set
  else if mode.unicode then Unicode.foldCase set
  else Unicode.foldCaseAscii set

/-- Apply the operation that waits for `right`, if there is one. -/
def applyPending (mode : Mode) (opened : List OpenPart) (right : Nested) :
    Nested × List OpenPart :=
  match opened with
  | .op op left :: rest =>
    (⟨op.apply (foldSide mode left.set) (foldSide mode right.set),
      max left.depth right.depth + 1⟩, rest)
  | _ => (right, opened)

/-- Start an operation whose left side is what was read so far. -/
def startOp (mode : Mode) (op : SetOp) (s : ClassState) : ClassState :=
  let (left, opened) := applyPending mode s.opened s.items.union
  ⟨.op op left :: opened, Items.none⟩

/-- The literal dashes at the start of a class. -/
def readDashes (mode : Mode) : Nat → Items → List Char → Read Items
  | 0, _, _ => .error .classUnclosed
  | fuel + 1, items, '-' :: cs =>
    match skip mode cs with
    | [] => .error .classUnclosed
    | cs => readDashes mode fuel (items.push ⟨CodeSet.single '-'.toNat, 0⟩) cs
  | _ + 1, items, cs => .ok (items, cs)

/-- Read the start of a class behind its opening bracket: the `^`, then
dashes or a closing bracket that stand for themselves. -/
def readClassStart (mode : Mode) (cs : List Char) :
    Except PatternFault ((Bool × Items) × List Char) := do
  let (negated, cs) ← match skip mode cs with
    | [] => .error .classUnclosed
    | '^' :: rest => match skip mode rest with
      | [] => .error .classUnclosed
      | rest => .ok (true, rest)
    | rest => .ok (false, rest)
  let (items, cs) ← readDashes mode (cs.length + 1) Items.none cs
  match items.sets, cs with
  | [], ']' :: rest => match skip mode rest with
    | [] => .error .classUnclosed
    | rest => .ok ((negated, Items.none.push ⟨CodeSet.single ']'.toNat, 0⟩), rest)
  | _, _ => .ok ((negated, items), cs)

/-- The ASCII classes by name. -/
def asciiClass? (name : String) : Option CodeSet :=
  match name with
  | "alnum" => some ⟨[(0x30, 0x39), (0x41, 0x5A), (0x61, 0x7A)]⟩
  | "alpha" => some ⟨[(0x41, 0x5A), (0x61, 0x7A)]⟩
  | "ascii" => some ⟨[(0x00, 0x7F)]⟩
  | "blank" => some ⟨[(0x09, 0x09), (0x20, 0x20)]⟩
  | "cntrl" => some ⟨[(0x00, 0x1F), (0x7F, 0x7F)]⟩
  | "digit" => some ⟨[(0x30, 0x39)]⟩
  | "graph" => some ⟨[(0x21, 0x7E)]⟩
  | "lower" => some ⟨[(0x61, 0x7A)]⟩
  | "print" => some ⟨[(0x20, 0x7E)]⟩
  | "punct" => some ⟨[(0x21, 0x2F), (0x3A, 0x40), (0x5B, 0x60), (0x7B, 0x7E)]⟩
  | "space" => some ⟨[(0x09, 0x0D), (0x20, 0x20)]⟩
  | "upper" => some ⟨[(0x41, 0x5A)]⟩
  | "word" => some asciiWord
  | "xdigit" => some ⟨[(0x30, 0x39), (0x41, 0x46), (0x61, 0x66)]⟩
  | _ => none

/-- Recognize a named ASCII class behind its opening bracket.  Text of
another form is not an error: its bracket opens a nested class. -/
def namedClass? (cs : List Char) : Option ((CodeSet × Bool) × List Char) :=
  match cs with
  | ':' :: cs =>
    let (negated, cs) := match cs with
      | '^' :: rest => (true, rest)
      | _ => (false, cs)
    let name := cs.takeWhile (· != ':')
    match cs.drop name.length with
    | ':' :: ']' :: rest => (asciiClass? (String.ofList name)).map fun set => ((set, negated), rest)
    | _ => none
  | _ => none

/-- The next character that counts behind the first one.  A comment mark
among the blanks is passed over; when only such text follows, it is the
character right behind. -/
def peekBehind (mode : Mode) (cs : List Char) : Option Char :=
  let rest := cs.drop 1
  if mode.verbose then
    let passed := trimStart rest
    let passed := match passed with
      | '#' :: more => trimStart more
      | _ => passed
    match passed with
    | [] => rest.head?
    | c :: _ => some c
  else rest.head?

/-- Read a character or an escape inside a class. -/
def readItem (mode : Mode) : List Char → Read Part
  | [] => .error .classUnclosed
  | '\\' :: cs => readEscape mode cs
  | c :: cs => .ok (.char c false, cs)

/-- The code point of a character; without Unicode it has to be ASCII. -/
def codeOf (mode : Mode) (c : Char) : Except PatternFault Nat :=
  if mode.unicode || c.toNat < 0x80 then .ok c.toNat else .error .notText

/-- Read a character, a range or an escape. -/
def readRange (mode : Mode) (cs : List Char) : Except PatternFault (CodeSet × List Char) := do
  let (first, cs) ← readItem mode cs
  let cs := skip mode cs
  let single := match first with
    | .char c _ => (codeOf mode c).map CodeSet.single
    | .set set => .ok set
    | .look _ => .error .classItem
  match cs with
  | [] => .error .classUnclosed
  | '-' :: rest =>
    if peekBehind mode cs = some ']' || peekBehind mode cs = some '-' then
      return (← single, cs)
    let rest := skip mode rest
    let (second, rest) ← readItem mode rest
    match first, second with
    | .char a _, .char b _ =>
      let lo ← codeOf mode a
      let hi ← codeOf mode b
      if lo ≤ hi then .ok (CodeSet.range lo hi, rest) else .error .classRange
    | _, _ => .error .classRange
  | _ => return (← single, cs)

/-- Read on until the class that was opened first is closed. -/
def readClassBody (mode : Mode) (fuel : Nat) (s : ClassState) (cs : List Char) :
    Except PatternFault (Nested × List Char) :=
  match fuel, skip mode cs with
  | 0, _ | _, [] => .error .classUnclosed
  | fuel + 1, '[' :: rest =>
    match if s.opened.isEmpty then none else namedClass? rest with
    | some ((set, negated), rest) => do
      let set ← finishSet mode negated set
      readClassBody mode fuel ⟨s.opened, s.items.push ⟨set, 0⟩⟩ rest
    | none => do
      let ((negated, items), rest) ← readClassStart mode rest
      readClassBody mode fuel ⟨.bracket negated s.items :: s.opened, items⟩ rest
  | fuel + 1, ']' :: rest =>
    let (body, opened) := applyPending mode s.opened s.items.union
    match opened with
    | .bracket negated outer :: opened => do
      let closed : Nested := ⟨← finishSet mode negated body.set, body.depth + 1⟩
      if opened.isEmpty then .ok (closed, rest)
      else readClassBody mode fuel ⟨opened, outer.push closed⟩ rest
    | _ => .error .classUnclosed
  | fuel + 1, '&' :: '&' :: rest => readClassBody mode fuel (startOp mode .inter s) rest
  | fuel + 1, '-' :: '-' :: rest => readClassBody mode fuel (startOp mode .diff s) rest
  | fuel + 1, '~' :: '~' :: rest => readClassBody mode fuel (startOp mode .symmDiff s) rest
  | fuel + 1, cs => do
    let (set, rest) ← readRange mode cs
    readClassBody mode fuel ⟨s.opened, s.items.push ⟨set, 0⟩⟩ rest

/-- Read a class that starts with the bracket in front of the text. -/
def readClass (mode : Mode) (cs : List Char) : Except PatternFault (Nested × List Char) :=
  readClassBody mode (2 * cs.length + 2) ⟨[], Items.none⟩ cs

end Docket.Pattern
