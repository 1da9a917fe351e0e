/-
TOML values that are written without quotes: numbers, truth values, dates
and times.  An underscore may stand between two digits of a number.
-/
import Docket.Text.Found
import Docket.Text.Hex
import Docket.Text.Pieces
import Docket.Time.Timestamp
import Docket.Toml.Basic

namespace Docket.Toml

/-- The digits of a run without the underscores between them; `ok` tells
which characters are digits. -/
def digitRun? (ok : Char → Bool) (cs : List Char) : Option (List Char) :=
  let parts := pieces '_' cs
  if parts.all fun part => !part.isEmpty && part.all ok then some parts.flatten else none

/-- The digits of a decimal number, which start with a zero only if there
are no others. -/
def decimalRun? (cs : List Char) : Option (List Char) := do
  let ds ← digitRun? isDigit cs
  if ds.length > 1 && ds.head? == some '0' then none else some ds

/-- A sign in front of a text: whether it is a minus, and the rest. -/
def signed : List Char → Bool × List Char
  | '-' :: cs => (true, cs)
  | '+' :: cs => (false, cs)
  | cs => (false, cs)

-- ============================================================== integers

/-- An integer between the least one that fits in 128 bits with a sign and
the greatest one that fits in 128 bits without. -/
def boundedInteger (n : Int) : Option Toml :=
  if -0x80000000000000000000000000000000 ≤ n ∧ n ≤ 0xFFFFFFFFFFFFFFFFFFFFFFFFFFFFFFFF then
    some (integer n)
  else none

/-- The digits of an integer in a base below ten. -/
def isDigitBelow (base : Nat) (c : Char) : Bool := isDigit c && digitValue c < base

/-- The value of a digit run in a base below ten. -/
def valueIn (base : Nat) (ds : List Char) : Int :=
  (ds.foldl (fun n d => base * n + digitValue d) 0 : Nat)

/-- Read an integer; one in another base than ten has no sign. -/
def integer? (cs : List Char) : Option Toml :=
  match cs with
  | '0' :: 'x' :: rest => do
    let ds ← digitRun? (fun c => (hexValue? c).isSome) rest
    boundedInteger (← hexadecimal? ds : Nat)
  | '0' :: 'o' :: rest => do boundedInteger (valueIn 8 (← digitRun? (isDigitBelow 8) rest))
  | '0' :: 'b' :: rest => do boundedInteger (valueIn 2 (← digitRun? (isDigitBelow 2) rest))
  | _ => do
    let (negative, body) := signed cs
    let n : Int := decimal (← decimalRun? body)
    boundedInteger (if negative then -n else n)

-- ================================================================ floats

/-- The least number that is rounded to infinity: it lies halfway between
the largest float and the next power of two. -/
def floatLimit : Nat := 0x3FFFFFFFFFFFFF * Nat.pow 2 970

/-- A number with that many times ten to that power is beyond the largest
float: it would be rounded to infinity. -/
def overflows (mantissa : Nat) (exponent : Int) : Bool :=
  let size : Int := (numeral mantissa).length + exponent
  if mantissa = 0 ∨ size < 300 then false
  else if size > 310 then true
  else if 0 ≤ exponent then floatLimit ≤ mantissa * Nat.pow 10 exponent.toNat
  else floatLimit * Nat.pow 10 (-exponent).toNat ≤ mantissa

/-- The exponent of a float behind its mark. -/
def exponent? (cs : List Char) : Option Int := do
  let (negative, body) := signed cs
  let n : Int := decimal (← digitRun? isDigit body)
  some (if negative then -n else n)

/-- Read a float: it has a fraction, an exponent or both, or is infinite or
no number at all. -/
def float? (cs : List Char) : Option Toml := do
  let (_, body) := signed cs
  if body = ['i', 'n', 'f'] ∨ body = ['n', 'a', 'n'] then some (float (String.ofList cs))
  else do
    let isMark (c : Char) : Bool := c == 'e' || c == 'E'
    let plain := body.takeWhile fun c => !isMark c
    let power ← match body.dropWhile fun c => !isMark c with
      | [] => some none
      | _ :: rest => (exponent? rest).map some
    let whole ← decimalRun? (plain.takeWhile (· != '.'))
    let part ← match plain.dropWhile (· != '.') with
      | [] => some none
      | _ :: rest => (digitRun? isDigit rest).map some
    let fraction := part.getD []
    if power.isNone && part.isNone then none
    else if overflows (decimal (whole ++ fraction)) (power.getD 0 - fraction.length) then none
    else some (float (String.ofList cs))

-- ======================================================= dates and times

/-- Read a date. -/
def date? (cs : List Char) : Option (List Char) := do
  let (year, cs) ← Timestamp.number 4 4 cs
  let cs ← Timestamp.char '-' cs
  let (month, cs) ← Timestamp.number 2 2 cs
  let cs ← Timestamp.char '-' cs
  let (day, cs) ← Timestamp.number 2 2 cs
  if Date.isValid ⟨year, month, day⟩ then some cs else none

/-- Read a time of day, which may leave out the seconds. -/
def clock? (cs : List Char) : Option (List Char) := do
  let (hour, cs) ← Timestamp.number 2 2 cs
  let cs ← Timestamp.char ':' cs
  let (minute, cs) ← Timestamp.number 2 2 cs
  let (second, nanos, cs) ← match cs with
    | ':' :: rest => do
      let (second, rest) ← Timestamp.number 2 2 rest
      let (nanos, rest) ← Timestamp.fraction rest
      some (second, nanos, rest)
    | _ => some (0, 0, cs)
  if Clock.isValid ⟨hour, minute, second, nanos⟩ then some cs else none

/-- Nothing is left to read. -/
def atEnd (cs : List Char) : Option Unit := if cs.isEmpty then some () else none

/-- Read a date and a time, a date alone or a time alone; a date and a time
may have an offset. -/
def moment? (cs : List Char) : Option Toml := do
  let alone : Option Unit := do atEnd (← clock? cs)
  let dated : Option Unit := do
    let rest ← date? cs
    match rest with
    | [] => some ()
    | mark :: rest =>
      if mark = 'T' ∨ mark = 't' ∨ mark = ' ' then do
        let rest ← clock? rest
        if rest.isEmpty then some ()
        else do
          let (_, rest) ← Timestamp.offset rest
          atEnd rest
      else none
  alone <|> dated
  some (moment (String.ofList cs))

-- ============================================================ any scalar

/-- A character of a value without quotes. -/
def isScalarPart (c : Char) : Bool :=
  isDigit c || ('a' ≤ c && c ≤ 'z') || ('A' ≤ c && c ≤ 'Z')
    || c == '+' || c == '-' || c == '_' || c == '.' || c == ':'

/-- The text of the value in front: the longest run of its characters, and
behind a date also a blank and the run behind that if it starts with a
digit. -/
def scalarText (cs : List Char) : List Char :=
  let first := cs.takeWhile isScalarPart
  match date? first, cs.drop first.length with
  | some [], ' ' :: rest =>
    let second := rest.takeWhile isScalarPart
    if second.head?.any isDigit then first ++ ' ' :: second else first
  | _, _ => first

/-- The value of a text without quotes. -/
def scalar? (cs : List Char) : Option Toml :=
  if cs = ['t', 'r', 'u', 'e'] then some (boolean true)
  else if cs = ['f', 'a', 'l', 's', 'e'] then some (boolean false)
  else integer? cs <|> float? cs <|> moment? cs

/-- Read a value without quotes. -/
def scalar (cs : List Char) : Option (Found Toml cs) := do
  let text := scalarText cs
  let value ← scalar? text
  if h : 0 < text.length ∧ 0 < cs.length then
    some ⟨value, cs.drop text.length, by simp only [List.length_drop]; omega⟩
  else none

end Docket.Toml
