/-
Reading queries.  An expression is a number, a name of the catalogue
without arguments, or a name with an argument list; the kinds that the
catalogue declares decide how each argument is read.  A query is read
expression by expression and ends at the first character that can start
none; the text from there on is ignored.

Every reader tells where it stopped.  One that succeeds proves that it
moved forward, which is what ends the recursion; one that fails leaves
the place of the failure.

The end of the file has the query itself: the filters of a text and the
text behind them that was ignored.
-/
import Docket.Query.Catalogue
import Docket.Query.Cursor

namespace Docket

/-- An error, with the place where reading stopped. -/
structure Failure where
  error : QueryError
  place : Cursor
deriving DecidableEq

/-- Something read from `start`, and the place behind it. -/
structure Step (α : Type) (start : Cursor) where
  value : α
  place : Cursor
  forward : place.size < start.size

/-- Something read from `start`, which may be nothing at all. -/
structure Stay (α : Type) (start : Cursor) where
  value : α
  place : Cursor
  notBack : place.size ≤ start.size

namespace Cursor

/-- Read a number, if one starts here. -/
def number (c : Cursor) : Except Failure (Option (Step UInt64 c)) :=
  match h : c.digits? with
  | none => .ok none
  | some (ds, place) =>
    if decimal ds < wordLimit then
      .ok (some ⟨UInt64.ofNat (decimal ds), place, size_of_digits? h⟩)
    else .error ⟨.integerOutOfRange (String.ofList ds), c⟩

/-- Read the text in front of the next `)`. -/
def text (c : Cursor) : Except Failure (Stay String c) :=
  match h : c.upToClose? with
  | some (s, place) => .ok ⟨s, place, size_of_upToClose? h⟩
  | none => .error ⟨.unterminatedString, c⟩

/-- Read a separator. -/
def separator (c : Cursor) (ch : Char) : Except Failure (Step Unit c) :=
  match h : c.separator? ch with
  | some place => .ok ⟨(), place, size_of_separator? h⟩
  | none => .error ⟨.expectedSeparator ch c.peek, c⟩

mutual

/-- Read one expression, if one starts here. -/
def filter (c : Cursor) : Except Failure (Option (Step Filter c)) :=
  match h : c.name? with
  | none => do
    match ← c.number with
    | some ⟨n, place, forward⟩ => .ok (some ⟨.number n, place, forward⟩)
    | none => .ok none
  | some (word, place) =>
    have hname : place.size < c.size := size_of_name? h
    match FilterName.ofWord? word with
    | none => .error ⟨.unknownFilter word, place⟩
    | some name => do
      let ⟨args, last, hargs⟩ ← arguments name true name.params place
      match name.construct args with
      | .ok f => .ok (some ⟨f, last, by omega⟩)
      | .error e => .error ⟨e, last⟩
termination_by (c.size, 0)

/-- Read arguments of the given kinds and the end of their list.  A list
opens in front of its first argument, so one without arguments is not
written at all. -/
def arguments (name : FilterName) (first : Bool) (kinds : List ArgKind) (c : Cursor) :
    Except Failure (Stay (List Arg) c) :=
  match kinds with
  | [] =>
    if first then .ok ⟨[], c, Nat.le_refl _⟩
    else do
      let ⟨_, place, h⟩ ← c.separator ')'
      .ok ⟨[], place, Nat.le_of_lt h⟩
  | kind :: kinds => do
    let ⟨_, inside, hmark⟩ ← c.separator (if first then '(' else ',')
    let ⟨arg, place, harg⟩ ← argument name kind inside
    let ⟨args, last, hargs⟩ ← arguments name false kinds place
    .ok ⟨arg :: args, last, by omega⟩
termination_by (c.size, 2)

/-- Read one argument. -/
def argument (name : FilterName) (kind : ArgKind) (c : Cursor) : Except Failure (Stay Arg c) :=
  match kind with
  | .string => do
    let ⟨s, place, h⟩ ← c.text
    .ok ⟨.string s, place, h⟩
  | .integer => do
    match ← c.number with
    | some ⟨n, place, h⟩ => .ok ⟨.integer n, place, Nat.le_of_lt h⟩
    | none => .error ⟨.malformedArgument name .integer, c⟩
  | .filter => do
    match ← c.filter with
    | some ⟨f, place, h⟩ => .ok ⟨.filter f, place, Nat.le_of_lt h⟩
    | none => .error ⟨.malformedArgument name .filter, c⟩
termination_by (c.size, 1)

end

/-- Read expressions up to the first character that starts none. -/
def filters (c : Cursor) : Except Failure (List Filter × Cursor) := do
  match ← c.filter with
  | some ⟨f, place, _⟩ => do
    let (fs, last) ← filters place
    .ok (f :: fs, last)
  | none => .ok ([], c)
termination_by c.size

end Cursor

/-- A query: filters that all have to hold, and the text behind them that
was not read. -/
structure Query where
  filters : List Filter
  ignored : String
deriving DecidableEq

/-- Read a query. -/
def Query.parse (text : String) : Except QueryError Query :=
  match (Cursor.ofString text).filters with
  | .ok (filters, last) => .ok ⟨filters, last.remaining⟩
  | .error failure => .error failure.error

end Docket
