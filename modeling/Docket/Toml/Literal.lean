/-
Strings in TOML.  A string between single quotes is taken as it stands;
one between double quotes has escapes.  Between three quotes of a kind a
string runs over lines, and may end in up to two quotes of its own.
-/
import Docket.Text.Found
import Docket.Text.Hex

namespace Docket.Toml

/-- A character that may stand in a comment or a string. -/
def isPlain (c : Char) : Bool := c == '\t' || (0x20 ≤ c.toNat && c.toNat != 0x7F)

/-- The end of a line. -/
def lineBreak : (cs : List Char) → Option (Found Unit cs)
  | '\n' :: rest => some ⟨(), rest, by simp⟩
  | '\r' :: '\n' :: rest => some ⟨(), rest, by simp only [List.length_cons]; omega⟩
  | _ => none

/-- The character of an escape with one letter. -/
def escapedChar? : Char → Option Char
  | 'b' => some '\x08'
  | 't' => some '\t'
  | 'n' => some '\n'
  | 'f' => some '\x0c'
  | 'r' => some '\r'
  | 'e' => some '\x1b'
  | '"' => some '"'
  | '\\' => some '\\'
  | _ => none

/-- The number of hexadecimal digits behind the letter of an escape. -/
def escapeDigits? : Char → Option Nat
  | 'x' => some 2
  | 'u' => some 4
  | 'U' => some 8
  | _ => none

/-- Read the escape behind a backslash. -/
def escape (cs : List Char) : Option (Found Char cs) :=
  match cs with
  | [] => none
  | e :: rest =>
    match escapedChar? e with
    | some c => some ⟨c, rest, by simp⟩
    | none => do
      let count ← escapeDigits? e
      let ds := rest.take count
      if ds.length < count then none
      else do
        let c ← charOf? (← hexadecimal? ds)
        some ⟨c, rest.drop count, by simp only [List.length_drop, List.length_cons]; omega⟩

/-- A blank: a space or a tab. -/
def isGap (c : Char) : Bool := c == ' ' || c == '\t'

/-- Skip blanks and line ends. -/
def skipSpread (cs : List Char) : Rest cs :=
  let gap := Rest.past isGap cs
  match lineBreak gap.val with
  | none => gap
  | some found =>
    have hrest : found.rest.length < cs.length := Nat.lt_of_lt_of_le found.shorter gap.property
    (skipSpread found.rest).since (Nat.le_of_lt hrest)
termination_by cs.length

/-- The text behind a backslash at the end of a line: blanks and line ends
are skipped up to the next character that is neither. -/
def joinedLine (cs : List Char) : Option (Rest cs) :=
  match lineBreak (cs.dropWhile isGap) with
  | none => none
  | some _ => some (skipSpread cs)

-- ================================================ strings on one line

/-- Read what follows an opening double quote. -/
def basicTail (cs : List Char) : Option (Found (List Char) cs) :=
  match cs with
  | [] => none
  | '"' :: rest => some ⟨[], rest, by simp⟩
  | '\\' :: rest => do
    let ⟨c, place, h⟩ ← escape rest
    let ⟨text, last, h'⟩ ← basicTail place
    some ⟨c :: text, last, Nat.lt_succ_of_lt (Nat.lt_trans h' h)⟩
  | c :: rest =>
    if isPlain c then do
      let ⟨text, last, h⟩ ← basicTail rest
      some ⟨c :: text, last, Nat.lt_succ_of_lt h⟩
    else none
termination_by cs.length

/-- Read what follows an opening single quote. -/
def literalTail : (cs : List Char) → Option (Found (List Char) cs)
  | [] => none
  | '\x27' :: rest => some ⟨[], rest, by simp⟩
  | c :: rest =>
    if isPlain c then do
      let ⟨text, last, h⟩ ← literalTail rest
      some ⟨c :: text, last, Nat.lt_succ_of_lt h⟩
    else none

-- ================================================= strings over lines

/-- The end of a string between three quotes: three of them behind up to
two that belong to the string. -/
def closing (quote : Char) (cs : List Char) : Option (Found (List Char) cs) :=
  let run := (cs.takeWhile (· == quote)).take 5
  if h : 3 ≤ run.length ∧ run.length ≤ cs.length then
    some ⟨run.drop 3, cs.drop run.length, by simp only [List.length_drop]; omega⟩
  else none

/-- Read what follows three double quotes and the line end behind them. -/
def basicBlock (cs : List Char) : Option (Found (List Char) cs) :=
  match closing '"' cs, lineBreak cs with
  | some found, _ => some found
  | none, some ⟨_, place, h⟩ => do
    let ⟨text, last, h'⟩ ← basicBlock place
    some ⟨cs.take (cs.length - place.length) ++ text, last, Nat.lt_trans h' h⟩
  | none, none =>
    match cs with
    | [] => none
    | '\\' :: rest =>
      match joinedLine rest with
      | some ⟨place, h⟩ => do
        let ⟨text, last, h'⟩ ← basicBlock place
        some ⟨text, last, Nat.lt_succ_of_lt (Nat.lt_of_lt_of_le h' h)⟩
      | none => do
        let ⟨c, place, h⟩ ← escape rest
        let ⟨text, last, h'⟩ ← basicBlock place
        some ⟨c :: text, last, Nat.lt_succ_of_lt (Nat.lt_trans h' h)⟩
    | c :: rest =>
      if isPlain c then do
        let ⟨text, last, h⟩ ← basicBlock rest
        some ⟨c :: text, last, Nat.lt_succ_of_lt h⟩
      else none
termination_by cs.length

/-- Read what follows three single quotes and the line end behind them. -/
def literalBlock (cs : List Char) : Option (Found (List Char) cs) :=
  match closing '\x27' cs, lineBreak cs with
  | some found, _ => some found
  | none, some ⟨_, place, h⟩ => do
    let ⟨text, last, h'⟩ ← literalBlock place
    some ⟨cs.take (cs.length - place.length) ++ text, last, Nat.lt_trans h' h⟩
  | none, none =>
    match cs with
    | [] => none
    | c :: rest =>
      if isPlain c then do
        let ⟨text, last, h⟩ ← literalBlock rest
        some ⟨c :: text, last, Nat.lt_succ_of_lt h⟩
      else none
termination_by cs.length

/-- The line end behind the opening quotes of a string over lines does not
count. -/
def skipFirstBreak (cs : List Char) : Rest cs :=
  match lineBreak cs with
  | some found => found.behind
  | none => Rest.whole cs

-- ====================================================== any string

/-- Read a string on one line. -/
def lineString : (cs : List Char) → Option (Found String cs)
  | '"' :: rest =>
    (basicTail rest).map fun found => (found.map String.ofList).since (by simp)
  | '\x27' :: rest =>
    (literalTail rest).map fun found => (found.map String.ofList).since (by simp)
  | _ => none

/-- Read a string. -/
def anyString (cs : List Char) : Option (Found String cs) :=
  match spelled? ['"', '"', '"'] cs, spelled? ['\x27', '\x27', '\x27'] cs with
  | some found, _ =>
    let ⟨place, h⟩ := skipFirstBreak found.rest
    (basicBlock place).map fun text =>
      (text.map String.ofList).since (Nat.le_of_lt (Nat.lt_of_le_of_lt h found.shorter))
  | none, some found =>
    let ⟨place, h⟩ := skipFirstBreak found.rest
    (literalBlock place).map fun text =>
      (text.map String.ofList).since (Nat.le_of_lt (Nat.lt_of_le_of_lt h found.shorter))
  | none, none => lineString cs

end Docket.Toml
