/-
TOML values, and how a document builds its tables.  A table remembers how
it came to be, since that decides who may still add to it: a header opens
a table once, keys with dots open the tables on their way, the table of an
inline literal is closed at once, and the last table of an array of tables
is open until the next one starts.
-/

namespace Docket

/-- How a table came to be: by a header of its own, on the way of a longer
header, on the way of a key with dots, or by an inline literal. -/
inductive TableForm where
  | header
  | passed
  | dotted
  | closed
deriving DecidableEq, Repr

/-- A TOML value.  Of a float, a date or a time only the spelling counts. -/
inductive Toml where
  | string (text : String)
  | integer (n : Int)
  | boolean (b : Bool)
  | float (literal : String)
  | moment (literal : String)
  | array (items : List Toml)
  | table (form : TableForm) (entries : List (String × Toml))
  | tables (items : List (List (String × Toml)))

namespace Toml

/-- The entries of a table, in the order in which they were opened. -/
abbrev Entries := List (String × Toml)

/-- Give a name a value, in place of the one it had. -/
def put (name : String) (value : Toml) : Entries → Entries
  | [] => [(name, value)]
  | entry :: entries =>
    if entry.1 = name then (name, value) :: entries else entry :: put name value entries

/-- Change the table at the end of a path.  Tables that are missing on the
way are opened, as `dotted` ones when the path is a key; a key may not
pass through a table that has a header of its own, and nothing passes
through an inline table. -/
def within (dotted : Bool) (change : TableForm → Entries → Option Entries) :
    List String → TableForm → Entries → Option Entries
  | [], form, entries => change form entries
  | name :: path, _, entries =>
    match entries.lookup name with
    | none => do
      let form : TableForm := if dotted then .dotted else .passed
      some (put name (table form (← within dotted change path form [])) entries)
    | some (table form inner) =>
      if form = .closed ∨ (dotted ∧ form = .header) then none
      else do some (put name (table form (← within dotted change path form inner)) entries)
    | some (tables items) => do
      let last ← items.getLast?
      let last ← within dotted change path .header last
      some (put name (tables (items.dropLast ++ [last])) entries)
    | some _ => none

/-- Open the table of a header. -/
def openTable (name : String) (entries : Entries) : Option Entries :=
  match entries.lookup name with
  | none => some (put name (table .header []) entries)
  | some (table .passed inner) => some (put name (table .header inner) entries)
  | some _ => none

/-- Start the next table of an array of tables. -/
def openItem (name : String) (entries : Entries) : Option Entries :=
  match entries.lookup name with
  | none => some (put name (tables [[]]) entries)
  | some (tables items) => some (put name (tables (items ++ [[]])) entries)
  | some _ => none

/-- Give a key its value, once.  The table that the key leads to has to be
the one that its dots opened. -/
def assign (path : List String) (name : String) (value : Toml) (entries : Entries) :
    Option Entries :=
  within true (fun form inner =>
    if (path.isEmpty || form = .dotted) && (inner.lookup name).isNone then
      some (put name value inner)
    else none) path .header entries

end Toml

end Docket
