/-
JSON values as they stand in a text: the members of an object keep their
order and may repeat a name, a number keeps its spelling unless it is a
plain natural number, and a string literal may spell no text at all, when
its escapes leave half of a surrogate pair.
-/
import Docket.Text.Decimal

namespace Docket

/-- A JSON value. -/
inductive Json where
  | null
  | bool (b : Bool)
  | natural (n : Nat)
  | numeral (literal : String)
  | string (text : Option String)
  | array (items : List Json)
  | object (members : List (Option String × Json))

namespace Json

/-- A string that spells a text. -/
def text (s : String) : Json := string (some s)

/-- An object whose names all spell texts. -/
def record (members : List (String × Json)) : Json :=
  object (members.map fun (name, value) => (some name, value))

/-- The text of a string. -/
def asText? : Json → Option String
  | string text => text
  | _ => none

/-- A natural number that fits in 64 bits. -/
def asWord? : Json → Option UInt64
  | natural n => if n < wordLimit then some (UInt64.ofNat n) else none
  | _ => none

/-- The items of an array. -/
def asArray? : Json → Option (List Json)
  | array items => some items
  | _ => none

/-- The value of the first member of that name. -/
def member? (name : String) : Json → Option Json
  | object members => (members.find? fun m => m.1 == some name).map Prod.snd
  | _ => none

end Json

end Docket
