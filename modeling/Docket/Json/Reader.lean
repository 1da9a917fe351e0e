/-
Reading JSON.  The grammar is the strict one: no text behind the value, no
comma behind a last item, no control character in a string literal, no
leading zero in a number, and nothing but blanks, tabs and line ends
between tokens.

Every reader gives back what it read together with the text behind it, and
shows that this text is shorter than the one it started from.
-/
import Docket.Text.Found
import Docket.Text.Hex
import Docket.Json.Basic

namespace Docket.Json

/-- A character that may stand between tokens. -/
def isSpacing (c : Char) : Bool := c == ' ' || c == '\t' || c == '\n' || c == '\r'

/-- Skip what may stand between tokens. -/
def skipSpacing (cs : List Char) : List Char := cs.dropWhile isSpacing

/-- Skipping never lengthens a text. -/
theorem length_skipSpacing_le (cs : List Char) : (skipSpacing cs).length ≤ cs.length :=
  (List.dropWhile_sublist _).length_le

-- ====================================================== string literals

/-- A piece of a string literal: a character, or half of a surrogate pair. -/
inductive Piece where
  | char (c : Char)
  | unit (n : Nat)
deriving DecidableEq, Repr

/-- The piece of an escape with four hexadecimal digits. -/
def unitPiece? (a b c d : Char) : Option Piece := do
  let n ← hexadecimal? [a, b, c, d]
  if 0xD800 ≤ n ∧ n < 0xE000 then some (.unit n) else some (.char (Char.ofNat n))

/-- The character of an escape with one letter. -/
def escaped? : Char → Option Char
  | '"' => some '"'
  | '\\' => some '\\'
  | '/' => some '/'
  | 'b' => some '\x08'
  | 'f' => some '\x0c'
  | 'n' => some '\n'
  | 'r' => some '\r'
  | 't' => some '\t'
  | _ => none

/-- Read the pieces of a string literal and its closing quote. -/
def readPieces : List Char → Option (List Piece × List Char)
  | [] => none
  | '"' :: rest => some ([], rest)
  | '\\' :: 'u' :: a :: b :: c :: d :: rest => do
    let piece ← unitPiece? a b c d
    let (pieces, rest) ← readPieces rest
    some (piece :: pieces, rest)
  | '\\' :: e :: rest => do
    let c ← escaped? e
    let (pieces, rest) ← readPieces rest
    some (.char c :: pieces, rest)
  | c :: rest =>
    if c.toNat < 0x20 then none
    else do
      let (pieces, rest) ← readPieces rest
      some (.char c :: pieces, rest)

/-- The text that pieces spell: every first half of a surrogate pair is
followed by a second half, and no second half stands alone. -/
def joinPieces : List Piece → Option (List Char)
  | [] => some []
  | .char c :: pieces => (joinPieces pieces).map (c :: ·)
  | .unit high :: .unit low :: pieces =>
    if high < 0xDC00 ∧ 0xDC00 ≤ low then
      (joinPieces pieces).map
        (Char.ofNat (0x10000 + 1024 * (high - 0xD800) + (low - 0xDC00)) :: ·)
    else none
  | .unit _ :: _ => none

/-- Reading pieces consumes at least the closing quote. -/
theorem length_of_readPieces {cs rest : List Char} {pieces : List Piece}
    (h : readPieces cs = some (pieces, rest)) : rest.length < cs.length := by
  fun_induction readPieces cs generalizing pieces rest with
  | case1 => cases h
  | case2 => cases h; simp
  | case3 a b c d tail ih =>
    simp only [Option.bind_eq_bind, Option.bind_eq_some_iff, Option.some.injEq] at h
    obtain ⟨_, _, ⟨ps, r⟩, hr, h⟩ := h
    cases h
    have := ih hr
    simp only [List.length_cons]
    omega
  | case4 e tail _ ih =>
    simp only [Option.bind_eq_bind, Option.bind_eq_some_iff, Option.some.injEq] at h
    obtain ⟨_, _, ⟨ps, r⟩, hr, h⟩ := h
    cases h
    have := ih hr
    simp only [List.length_cons]
    omega
  | case5 => cases h
  | case6 c tail _ _ _ _ ih =>
    simp only [Option.bind_eq_bind, Option.bind_eq_some_iff, Option.some.injEq] at h
    obtain ⟨⟨ps, r⟩, hr, h⟩ := h
    cases h
    have := ih hr
    simp only [List.length_cons]
    omega

/-- Read what follows an opening quote. -/
def stringTail (cs : List Char) : Option (Found (Option String) cs) :=
  match h : readPieces cs with
  | some (pieces, rest) =>
    some ⟨(joinPieces pieces).map String.ofList, rest, length_of_readPieces h⟩
  | none => none

-- ============================================================== numbers

/-- The fraction in front of a text: a point and digits, or nothing. -/
def fractionOf? : List Char → Option (List Char)
  | '.' :: rest =>
    match rest.takeWhile isDigit with
    | [] => none
    | ds => some ('.' :: ds)
  | _ => some []

/-- The exponent in front of a text: `e` or `E`, a sign or none, and
digits, or nothing. -/
def exponentOf? : List Char → Option (List Char)
  | [] => some []
  | e :: rest =>
    if e = 'e' ∨ e = 'E' then
      let sign := rest.take 1 |>.filter fun c => c == '+' || c == '-'
      match (rest.drop sign.length).takeWhile isDigit with
      | [] => none
      | ds => some (e :: sign ++ ds)
    else some []

/-- The number in front of a text, as it is spelled. -/
def numberOf? (cs : List Char) : Option (List Char) := do
  let sign := cs.take 1 |>.filter (· == '-')
  let body := cs.drop sign.length
  let whole := body.takeWhile isDigit
  if whole.isEmpty || (whole.length > 1 && whole.head? == some '0') then none
  else do
    let rest := body.drop whole.length
    let fraction ← fractionOf? rest
    let exponent ← exponentOf? (rest.drop fraction.length)
    some (sign ++ whole ++ fraction ++ exponent)

/-- The value of a number: its own if it is spelled in digits alone. -/
def ofNumber (literal : List Char) : Json :=
  if literal.all isDigit then natural (decimal literal) else numeral (String.ofList literal)

/-- Read a number. -/
def number (cs : List Char) : Option (Found Json cs) :=
  match numberOf? cs with
  | none => none
  | some literal =>
    if h : 0 < literal.length ∧ 0 < cs.length then
      some ⟨ofNumber literal, cs.drop literal.length, by simp only [List.length_drop]; omega⟩
    else none

-- =============================================================== tokens

/-- Read one character, spacing in front of it skipped. -/
def token (c : Char) (cs : List Char) : Option (Found Unit cs) :=
  have hskip := length_skipSpacing_le cs
  match h : skipSpacing cs with
  | d :: rest =>
    if d = c then some ⟨(), rest, by simp only [h, List.length_cons] at hskip; omega⟩ else none
  | [] => none

/-- Read a word that stands for a value. -/
def word (spelling : List Char) (value : Json) (cs : List Char) : Option (Found Json cs) :=
  (spelled? spelling cs).map (Found.map fun _ => value)

/-- Read a string, a number or a word. -/
def scalar : (cs : List Char) → Option (Found Json cs)
  | '"' :: rest => do
    let found ← stringTail rest
    some ⟨string found.value, found.rest, Nat.lt_succ_of_lt found.shorter⟩
  | 'n' :: rest => word ['n', 'u', 'l', 'l'] null ('n' :: rest)
  | 't' :: rest => word ['t', 'r', 'u', 'e'] (bool true) ('t' :: rest)
  | 'f' :: rest => word ['f', 'a', 'l', 's', 'e'] (bool false) ('f' :: rest)
  | cs => number cs

/-- Read the name of a member and the colon behind it. -/
def memberName (cs : List Char) : Option (Found (Option String) cs) := do
  let ⟨_, inside, hquote⟩ ← token '"' cs
  let ⟨name, behind, hname⟩ ← stringTail inside
  let ⟨_, rest, hcolon⟩ ← token ':' behind
  some ⟨name, rest, by omega⟩

/-- The start of the next item: behind a comma, unless it is the first. -/
def nextItem (first : Bool) (cs : List Char) : Option (Rest cs) :=
  if first then some (Rest.whole cs) else (token ',' cs).map Found.behind

-- =============================================================== values

mutual

/-- Read a value. -/
def readValue (cs : List Char) : Option (Found Json cs) :=
  match token '[' cs, token '\x7b' cs with
  | some ⟨_, inside, hopen⟩, _ => do
    let ⟨items, rest, h⟩ ← readItems true inside
    some ⟨array items, rest, by omega⟩
  | none, some ⟨_, inside, hopen⟩ => do
    let ⟨members, rest, h⟩ ← readMembers true inside
    some ⟨object members, rest, by omega⟩
  | none, none =>
    (scalar (skipSpacing cs)).map fun found => found.since (length_skipSpacing_le cs)
termination_by 2 * cs.length

/-- Read the items of an array and its closing bracket. -/
def readItems (first : Bool) (cs : List Char) : Option (Found (List Json) cs) :=
  match token ']' cs with
  | some ⟨_, rest, h⟩ => some ⟨[], rest, h⟩
  | none => do
    let ⟨start, hstart⟩ ← nextItem first cs
    let ⟨item, place, hitem⟩ ← readValue start
    let ⟨items, rest, hitems⟩ ← readItems false place
    some ⟨item :: items, rest, by omega⟩
termination_by 2 * cs.length + 1

/-- Read the members of an object and its closing brace. -/
def readMembers (first : Bool) (cs : List Char) :
    Option (Found (List (Option String × Json)) cs) :=
  match token '\x7d' cs with
  | some ⟨_, rest, h⟩ => some ⟨[], rest, h⟩
  | none => do
    let ⟨start, hstart⟩ ← nextItem first cs
    let ⟨name, middle, hname⟩ ← memberName start
    let ⟨value, place, hvalue⟩ ← readValue middle
    let ⟨members, rest, hmembers⟩ ← readMembers false place
    some ⟨(name, value) :: members, rest, by omega⟩
termination_by 2 * cs.length + 1

end

/-- The value that a whole text spells. -/
def ofList? (cs : List Char) : Option Json := do
  let found ← readValue cs
  if (skipSpacing found.rest).isEmpty then some found.value else none

/-- The value that a whole string spells. -/
def ofString? (s : String) : Option Json := ofList? s.toList

end Docket.Json
