/-
Finding a set of code points by the names patterns use for it.  Names are
matched loosely: case, blanks, `_`, `-` and a leading `is` do not count.
-/
import Docket.Unicode.Category
import Docket.Unicode.Script
import Docket.Unicode.ScriptExtension
import Docket.Unicode.Trait
import Docket.Unicode.Age
import Docket.Unicode.Segment
import Docket.Unicode.CaseOrbit

namespace Docket.Unicode

/-- The part of a name that counts.  `isc` keeps its first letters, which
would otherwise leave the name of another property. -/
def looseName (name : String) : String :=
  let (stripped, rest) := match name.toList with
    | 'i' :: 's' :: rest | 'I' :: 's' :: rest
    | 'i' :: 'S' :: rest | 'I' :: 'S' :: rest => (true, rest)
    | cs => (false, cs)
  let kept := (rest.filter fun c => c.toNat < 0x80 && c != ' ' && c != '_' && c != '-').map
    Char.toLower
  if stripped && kept = ['c'] then "isc" else String.ofList kept

/-- The general categories that are unions, with the categories they hold. -/
def categoryGroups : List (List String × List String) := [
  (["l", "letter"], ["lu", "ll", "lt", "lm", "lo"]),
  (["lc", "casedletter"], ["lu", "ll", "lt"]),
  (["m", "mark", "combiningmark"], ["mn", "mc", "me"]),
  (["n", "number"], ["nd", "nl", "no"]),
  (["p", "punct", "punctuation"], ["pc", "pd", "ps", "pe", "pi", "pf", "po"]),
  (["s", "symbol"], ["sm", "sc", "sk", "so"]),
  (["z", "separator"], ["zs", "zl", "zp"]),
  (["c", "other"], ["cc", "cf", "co", "cn"])]

/-- The code points of several categories together. -/
def categoriesOf (names : List String) : CodeSet :=
  CodeSet.unions (names.filterMap (find? categories))

/-- The general category of a loose name. -/
def category? (name : String) : Option CodeSet :=
  if name = "any" then some CodeSet.full
  else if name = "ascii" then some (CodeSet.range 0 0x7F)
  else if name = "assigned" then (find? categories "cn").map CodeSet.complement
  else match categoryGroups.find? fun g => g.1.contains name with
    | some g => some (categoriesOf g.2)
    | none => find? categories name

/-- The script of a loose name. -/
def script? (name : String) : Option CodeSet := find? scripts name

/-- The code points assigned up to the version of a loose name. -/
def age? (name : String) : Option CodeSet :=
  if ages.any fun p => p.names.contains name then
    let earlier := ages.takeWhile fun p => !p.names.contains name
    some (CodeSet.unions ((find? ages name).toList ++ earlier.map Property.codeSet))
  else none

/-- A property given by one name: a yes-or-no property, a general category
or a script.  `cf`, `sc` and `lc` name general categories only. -/
def byName? (name : String) : Option CodeSet :=
  let name := looseName name
  let trait := if ["cf", "sc", "lc"].contains name then none else find? traits name
  trait <|> category? name <|> script? name

/-- A property given by its name and a value. -/
def byValue? (name value : String) : Option CodeSet :=
  let value := looseName value
  match looseName name with
  | "gc" | "generalcategory" => category? value
  | "sc" | "script" => script? value
  | "scx" | "scriptextensions" => find? scriptExtensions value
  | "age" => age? value
  | "gcb" | "graphemeclusterbreak" => find? graphemeBreaks value
  | "wb" | "wordbreak" => find? wordBreaks value
  | "sb" | "sentencebreak" => find? sentenceBreaks value
  | _ => none

-- ================================================ the usual classes

/-- Letters and all that is used like them. -/
def alphabetic : CodeSet := (find? traits "alphabetic").getD CodeSet.empty

/-- Decimal digits of every script. -/
def decimalDigits : CodeSet := categoriesOf ["nd"]

/-- Every character with a numeric value of its own. -/
def numeric : CodeSet := categoriesOf ["nd", "nl", "no"]

/-- Blanks: the property White_Space. -/
def blanks : CodeSet := (find? traits "whitespace").getD CodeSet.empty

/-- The characters of words: letters, marks, decimal digits, connecting
punctuation and join controls. -/
def wordCharacters : CodeSet :=
  CodeSet.unions [alphabetic, categoriesOf ["mn", "mc", "me", "nd", "pc"],
    (find? traits "joinc").getD CodeSet.empty]

-- ======================================================== case folding

/-- Add every code point that differs from a member only in case. -/
def foldCase (s : CodeSet) : CodeSet :=
  CodeSet.union s
    ⟨(caseOrbits.filter fun o => o.any s.contains).flatMap fun o => o.map fun c => (c, c)⟩

/-- Add every ASCII letter that differs from a member only in case. -/
def foldCaseAscii (s : CodeSet) : CodeSet :=
  CodeSet.union s
    ⟨(List.range 26).flatMap fun i =>
      let upper := 0x41 + i
      let lower := 0x61 + i
      if s.contains upper || s.contains lower then [(upper, upper), (lower, lower)] else []⟩

end Docket.Unicode
