/-
Reading timestamps.  Three notations are tried in turn on the text between
its outer blanks: the exact notation of RFC 3339, which ends in an offset;
a date and a time without an offset, with `T` or blanks between them; and
a date alone, which is its midnight.  The last two are looser about
digits: blanks may stand before any number, a number may have fewer digits
than usual, and a signed year may have more.
-/
import Docket.Text.Blank
import Docket.Text.Decimal
import Docket.Time.Instant

namespace Docket.Timestamp

/-- Read one character. -/
def char (ch : Char) : List Char → Option (List Char)
  | c :: cs => if c = ch then some cs else none
  | [] => none

/-- Read a number of at least `least` digits, and at most `most`. -/
def number (least most : Nat) (cs : List Char) : Option (Nat × List Char) :=
  let ds := (cs.take most).takeWhile isDigit
  if least ≤ ds.length then some (decimal ds, cs.drop ds.length) else none

/-- Read a fraction of a second behind its point, in nanoseconds; digits
behind the ninth are dropped. -/
def nanoseconds (cs : List Char) : Option (Nat × List Char) :=
  let ds := cs.takeWhile isDigit
  let kept := ds.take 9
  if ds.isEmpty then none
  else some (decimal kept * Nat.pow 10 (9 - kept.length), cs.drop ds.length)

/-- Read a fraction if a point announces one. -/
def fraction (cs : List Char) : Option (Nat × List Char) :=
  match cs with
  | '.' :: rest => nanoseconds rest
  | _ => some (0, cs)

-- ======================================================= exact notation

/-- Read an offset from universal time, in seconds: `Z`, or a sign and
hours and minutes.  The minus sign of mathematics is a minus too. -/
def offset (cs : List Char) : Option (Int × List Char) :=
  match cs with
  | 'Z' :: rest | 'z' :: rest => some (0, rest)
  | sign :: rest => do
    let negative ← if sign = '+' then some false
      else if sign = '-' || sign = '−' then some true
      else none
    let (hours, rest) ← number 2 2 rest
    let rest ← char ':' rest
    let (minutes, rest) ← number 2 2 rest
    if hours < 24 && minutes < 60 then
      let size : Int := 3600 * hours + 60 * minutes
      some (if negative then -size else size, rest)
    else none
  | [] => none

/-- The instant of a text in the exact notation. -/
def readExact (cs : List Char) : Option Instant := do
  let (year, cs) ← number 4 4 cs
  let cs ← char '-' cs
  let (month, cs) ← number 2 2 cs
  let cs ← char '-' cs
  let (day, cs) ← number 2 2 cs
  let cs ← match cs with
    | 'T' :: rest | 't' :: rest | ' ' :: rest => some rest
    | _ => none
  let (hour, cs) ← number 2 2 cs
  let cs ← char ':' cs
  let (minute, cs) ← number 2 2 cs
  let cs ← char ':' cs
  let (second, cs) ← number 2 2 cs
  let (nanos, cs) ← fraction cs
  let (offset, cs) ← offset cs
  if cs.isEmpty then Instant.ofCivil? ⟨year, month, day⟩ ⟨hour, minute, second, nanos⟩ offset
  else none

-- ======================================================= loose notations

/-- Read a number of one or two digits behind blanks. -/
def shortNumber (cs : List Char) : Option (Nat × List Char) := number 1 2 (trimStart cs)

/-- Read a year behind blanks: up to four digits, or any number of them
behind a sign. -/
def year (cs : List Char) : Option (Int × List Char) :=
  let cs := trimStart cs
  match cs with
  | '-' :: rest => (number 1 rest.length rest).map fun (n, rest) => (-(n : Int), rest)
  | '+' :: rest => (number 1 rest.length rest).map fun (n, rest) => ((n : Int), rest)
  | _ => (number 1 4 cs).map fun (n, rest) => ((n : Int), rest)

/-- Read a date. -/
def date (cs : List Char) : Option (Date × List Char) := do
  let (year, cs) ← year cs
  let cs ← char '-' cs
  let (month, cs) ← shortNumber cs
  let cs ← char '-' cs
  let (day, cs) ← shortNumber cs
  some (⟨year, month, day⟩, cs)

/-- Read a time of day. -/
def clock (cs : List Char) : Option (Clock × List Char) := do
  let (hour, cs) ← shortNumber cs
  let cs ← char ':' cs
  let (minute, cs) ← shortNumber cs
  let cs ← char ':' cs
  let (second, cs) ← shortNumber cs
  let (nanos, cs) ← fraction cs
  some (⟨hour, minute, second, nanos⟩, cs)

/-- The instant of a date and a time without an offset; `between` reads
what separates them. -/
def readLoose (between : List Char → Option (List Char)) (cs : List Char) : Option Instant := do
  let (date, cs) ← date cs
  let cs ← between cs
  let (clock, cs) ← clock cs
  if cs.isEmpty then Instant.ofCivil? date clock 0 else none

/-- The midnight of a date. -/
def readDate (cs : List Char) : Option Instant := do
  let (date, cs) ← date cs
  if cs.isEmpty then Instant.ofCivil? date ⟨0, 0, 0, 0⟩ 0 else none

/-- The instant of a text, by the first notation that it is in. -/
def read (cs : List Char) : Option Instant :=
  let cs := trim cs
  readExact cs
    <|> readLoose (char 'T') cs
    <|> readLoose (fun cs => some (trimStart cs)) cs
    <|> readDate cs

/-- `read` on a string. -/
def ofString? (s : String) : Option Instant := read s.toList

end Docket.Timestamp
