/-
Objects with known fields.  Such an object may be given by its members, in
any order and with members of other names among them, or as an array of
the fields' values in their order, which may leave out fields at the end.
-/
import Docket.Json.Basic

namespace Docket.Json

/-- The values of the named fields in the order of the names, where a field
that is left out has no value.  A repeated known name and a name that
spells no text are refused, and so are more values than fields. -/
def fields? (names : List String) : Json → Option (List (Option Json))
  | object members =>
    if members.all (fun m => m.1.isSome)
        && names.all fun name => members.countP (fun m => m.1 == some name) ≤ 1 then
      some (names.map fun name => member? name (object members))
    else none
  | array items =>
    if items.length ≤ names.length then
      some (items.map some ++ List.replicate (names.length - items.length) none)
    else none
  | _ => none

/-- A field that has to be given. -/
def required {α : Type} (decode : Json → Option α) (value : Option Json) : Option α :=
  value.bind decode

/-- A field that may be left out or null. -/
def optional {α : Type} (decode : Json → Option α) : Option Json → Option (Option α)
  | none => some none
  | some null => some none
  | some v => (decode v).map some

/-- A list that may be left out or null. -/
def listed {α : Type} (decode : Json → Option α) : Option Json → Option (List α)
  | none => some []
  | some null => some []
  | some (array items) => items.mapM decode
  | some _ => none

/-- An optional member, left out when there is no value. -/
def given (name : String) : Option Json → List (String × Json)
  | none => []
  | some v => [(name, v)]

/-- A value, or null. -/
def orNull : Option Json → Json
  | none => null
  | some v => v

end Docket.Json
