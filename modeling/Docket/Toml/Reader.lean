/-
Reading TOML documents.  A document is a list of lines; a line opens a
table, gives a key of the table opened last its value, or does neither,
and may end in a comment.  Only arrays and inline tables run over lines,
besides strings that say so.
-/
import Docket.Toml.Literal
import Docket.Toml.Scalar

namespace Docket.Toml

/-- How deep arrays and inline tables may stand in each other. -/
def depthLimit : Nat := 80

/-- Skip blanks. -/
def skipGap (cs : List Char) : Rest cs := Rest.past isGap cs

/-- Skip a comment, if one starts here, up to the end of its line. -/
def skipComment (cs : List Char) : Option (Rest cs) :=
  if cs.head? = some '#' then
    let rest := Rest.past isPlain cs
    if rest.val.isEmpty || (lineBreak rest.val).isSome then some rest else none
  else some (Rest.whole cs)

/-- Skip blanks and a comment. -/
def skipMargin (cs : List Char) : Option (Rest cs) :=
  let start := skipGap cs
  (skipComment start.val).map fun rest => rest.since start.property

/-- Skip blanks, comments and line ends. -/
def skipLines (cs : List Char) : Option (Rest cs) := do
  let ⟨behind, hbehind⟩ ← skipMargin cs
  match lineBreak behind with
  | none => some ⟨behind, hbehind⟩
  | some ⟨_, place, h⟩ => do
    have hplace : place.length < cs.length := Nat.lt_of_lt_of_le h hbehind
    let rest ← skipLines place
    some (rest.since (Nat.le_of_lt hplace))
termination_by cs.length

-- =================================================================== keys

/-- A character of a key without quotes. -/
def isKeyPart (c : Char) : Bool :=
  isDigit c || ('a' ≤ c && c ≤ 'z') || ('A' ≤ c && c ≤ 'Z') || c == '_' || c == '-'

/-- Read one name of a key. -/
def keyName (cs : List Char) : Option (Found String cs) :=
  let bare := cs.takeWhile isKeyPart
  if h : 0 < bare.length ∧ 0 < cs.length then
    some ⟨String.ofList bare, cs.drop bare.length, by simp only [List.length_drop]; omega⟩
  else lineString cs

/-- A key: the names that lead to a table, and a name in it. -/
structure Key where
  path : List String
  name : String

/-- Read a key. -/
def key (cs : List Char) : Option (Found Key cs) := do
  let ⟨name, behind, hname⟩ ← keyName cs
  let ⟨point, hpoint⟩ := skipGap behind
  match spelled? ['.'] point with
  | none => some ⟨⟨[], name⟩, behind, hname⟩
  | some ⟨_, next, hnext⟩ => do
    let ⟨start, hstart⟩ := skipGap next
    let ⟨⟨path, last⟩, rest, hrest⟩ ← key start
    some ⟨⟨name :: path, last⟩, rest, by omega⟩
termination_by cs.length

/-- Read a key and the equals sign behind it. -/
def keyEquals (cs : List Char) : Option (Found Key cs) := do
  let ⟨name, behind, hname⟩ ← key cs
  let ⟨mark, hmark⟩ := skipGap behind
  let ⟨_, next, hnext⟩ ← spelled? ['='] mark
  let ⟨rest, hrest⟩ := skipGap next
  some ⟨name, rest, by omega⟩

-- ================================================================= values

/-- The table of an inline literal. -/
def inlineTable (members : List (Key × Toml)) : Option Toml := do
  let entries ← members.foldlM (fun entries (key, value) => assign key.path key.name value entries) []
  some (table .closed entries)

/-- Read a comma or the closing character behind an item; tells whether
there was a comma. -/
def itemEnd (close : Char) (cs : List Char) : Option (Found Bool cs) := do
  let ⟨place, hplace⟩ ← skipLines cs
  match spelled? [','] place, spelled? [close] place with
  | some found, _ => some ((found.map fun _ => true).since hplace)
  | none, some found => some ((found.map fun _ => false).since hplace)
  | none, none => none

mutual

/-- Read a value that may hold others to the given depth. -/
def value (depth : Nat) (cs : List Char) : Option (Found Toml cs) :=
  match depth, spelled? ['['] cs, spelled? ['\x7b'] cs with
  | depth + 1, some ⟨_, inside, hopen⟩, _ => do
    let ⟨items, rest, h⟩ ← items depth inside
    some ⟨array items, rest, by omega⟩
  | depth + 1, none, some ⟨_, inside, hopen⟩ => do
    let ⟨members, rest, h⟩ ← members depth inside
    some ⟨← inlineTable members, rest, by omega⟩
  | 0, some _, _ => none
  | 0, none, some _ => none
  | _, none, none =>
    if cs.head? = some '"' ∨ cs.head? = some '\x27' then
      (anyString cs).map (Found.map string)
    else scalar cs
termination_by 2 * cs.length

/-- Read the items of an array and its closing bracket. -/
def items (depth : Nat) (cs : List Char) : Option (Found (List Toml) cs) := do
  let ⟨start, hstart⟩ ← skipLines cs
  match spelled? [']'] start with
  | some found => some ((found.map fun _ => []).since hstart)
  | none => do
    let ⟨item, behind, hitem⟩ ← value depth start
    let ⟨more, next, hnext⟩ ← itemEnd ']' behind
    if more then do
      let ⟨rest, last, hrest⟩ ← items depth next
      some ⟨item :: rest, last, by omega⟩
    else some ⟨[item], next, by omega⟩
termination_by 2 * cs.length + 1

/-- Read the members of an inline table and its closing brace. -/
def members (depth : Nat) (cs : List Char) : Option (Found (List (Key × Toml)) cs) := do
  let ⟨start, hstart⟩ ← skipLines cs
  match spelled? ['\x7d'] start with
  | some found => some ((found.map fun _ => []).since hstart)
  | none => do
    let ⟨name, middle, hname⟩ ← keyEquals start
    let ⟨member, behind, hmember⟩ ← value depth middle
    let ⟨more, next, hnext⟩ ← itemEnd '\x7d' behind
    if more then do
      let ⟨rest, last, hrest⟩ ← members depth next
      some ⟨(name, member) :: rest, last, by omega⟩
    else some ⟨[(name, member)], next, by omega⟩
termination_by 2 * cs.length + 1

end

-- ================================================================= lines

/-- What a line does. -/
inductive Line where
  | nothing
  | header (key : Key)
  | item (key : Key)
  | entry (key : Key) (value : Toml)

/-- Read the key of a header and its closing brackets. -/
def headerKey (close : List Char) (cs : List Char) : Option (Found Key cs) := do
  let ⟨start, hstart⟩ := skipGap cs
  let ⟨name, behind, hname⟩ ← key start
  let ⟨mark, hmark⟩ := skipGap behind
  let ⟨_, rest, hrest⟩ ← spelled? close mark
  some ⟨name, rest, by omega⟩

/-- Read a header: the line of a table, or between double brackets that of
the next table of an array. -/
def header (cs : List Char) : Option (Found Line cs) :=
  match spelled? ['[', '['] cs with
  | some double =>
    (headerKey [']', ']'] double.rest).map fun found =>
      (found.map Line.item).since double.behind.property
  | none => do
    let single ← spelled? ['['] cs
    (headerKey [']'] single.rest).map fun found =>
      (found.map Line.header).since single.behind.property

/-- Read what a line does, up to its comment. -/
def line (cs : List Char) : Option (Line × Rest cs) := do
  let ⟨start, hstart⟩ := skipGap cs
  if start.head? == some '[' then do
    let ⟨line, rest, hrest⟩ ← header start
    some (line, ⟨rest, by omega⟩)
  else if start.isEmpty || start.head? == some '#' || (lineBreak start).isSome then
    some (.nothing, ⟨start, hstart⟩)
  else do
    let ⟨name, middle, hname⟩ ← keyEquals start
    let ⟨entry, rest, hrest⟩ ← value depthLimit middle
    some (.entry name entry, ⟨rest, by omega⟩)

/-- The entries of a document so far, and the names that lead to the table
that was opened last. -/
structure Draft where
  entries : Entries
  current : List String

/-- What a line adds. -/
def Draft.add (draft : Draft) : Line → Option Draft
  | .nothing => some draft
  | .header key => do
    let entries ← within false (fun _ inner => openTable key.name inner) key.path .header
      draft.entries
    some ⟨entries, key.path ++ [key.name]⟩
  | .item key => do
    let entries ← within false (fun _ inner => openItem key.name inner) key.path .header
      draft.entries
    some ⟨entries, key.path ++ [key.name]⟩
  | .entry key value => do
    let entries ← within false (fun _ inner => assign key.path key.name value inner)
      draft.current .header draft.entries
    some { draft with entries }

/-- Read lines up to the end of the document. -/
def lines (draft : Draft) (cs : List Char) : Option Entries := do
  let (line, ⟨behind, _hbehind⟩) ← line cs
  let draft ← draft.add line
  let ⟨place, _hplace⟩ ← skipMargin behind
  match lineBreak place with
  | some ⟨_, next, _hnext⟩ => lines draft next
  | none => if place.isEmpty then some draft.entries else none
termination_by cs.length

/-- The entries of a document; a byte order mark in front does not count. -/
def read (cs : List Char) : Option Entries :=
  lines ⟨[], []⟩ (if cs.head? = some '\ufeff' then cs.drop 1 else cs)

/-- `read` on a string. -/
def ofString? (s : String) : Option Entries := read s.toList

end Docket.Toml
