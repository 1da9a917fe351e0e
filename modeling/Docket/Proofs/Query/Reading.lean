/-
Reading, without the proofs of progress.  The readers of a query return
what they read together with a proof that they moved forward; here that
proof is left out, and each reader is one equation on plain values.

Main statements: one equation for each reader, and for each what a result
of it, good or bad, must have come from.
-/
import Docket.Query.Parser

namespace Docket.Cursor

variable {c c' : Cursor} {name : FilterName} {first : Bool} {kind : ArgKind}
  {kinds : List ArgKind} {args : List Arg} {arg : Arg} {f : Filter} {e : Failure}

-- ======================================================= plain readers

/-- Read a number, if one starts here. -/
def readNumber (c : Cursor) : Except Failure (Option (UInt64 × Cursor)) :=
  c.number.map (Option.map fun s => (s.value, s.place))

/-- Read one expression, if one starts here. -/
def readFilter (c : Cursor) : Except Failure (Option (Filter × Cursor)) :=
  c.filter.map (Option.map fun s => (s.value, s.place))

/-- Read one argument. -/
def readArgument (name : FilterName) (kind : ArgKind) (c : Cursor) :
    Except Failure (Arg × Cursor) :=
  (c.argument name kind).map fun s => (s.value, s.place)

/-- Read arguments of the given kinds and the end of their list. -/
def readArguments (name : FilterName) (first : Bool) (kinds : List ArgKind) (c : Cursor) :
    Except Failure (List Arg × Cursor) :=
  (c.arguments name first kinds).map fun s => (s.value, s.place)

/-- The separator in front of an argument: the first one opens the list. -/
def mark (first : Bool) : Char := if first then '(' else ','

-- ============================================================ equations

/-- A number is a digit run whose value fits in a word. -/
theorem readNumber_eq (c : Cursor) :
    c.readNumber = match c.digits? with
      | none => .ok none
      | some (ds, place) =>
        if decimal ds < wordLimit then .ok (some (UInt64.ofNat (decimal ds), place))
        else .error ⟨.integerOutOfRange (String.ofList ds), c⟩ := by
  unfold readNumber number
  split
  · next h =>
    conv => rhs; rw [h]
    rfl
  · next ds place h =>
    conv => rhs; rw [h]
    split
    · next hlt => simp only [hlt, if_true]; rfl
    · next hge => simp only [hge, if_false]; rfl

/-- An expression is a number where no name starts, and otherwise an entry
of the catalogue with its arguments. -/
theorem readFilter_eq (c : Cursor) :
    c.readFilter = match c.name? with
      | none => c.readNumber.map (Option.map fun r => (.number r.1, r.2))
      | some (word, place) =>
        match FilterName.ofWord? word with
        | none => .error ⟨.unknownFilter word, place⟩
        | some name =>
          match place.readArguments name true name.params with
          | .error e => .error e
          | .ok (args, last) =>
            match name.construct args with
            | .ok f => .ok (some (f, last))
            | .error e => .error ⟨e, last⟩ := by
  unfold readFilter readNumber readArguments
  rw [filter]
  split
  · next h =>
    conv => rhs; rw [h]
    cases c.number with
    | error e => rfl
    | ok r => cases r <;> rfl
  · next word place h =>
    conv => rhs; rw [h]
    simp only
    cases FilterName.ofWord? word with
    | none => rfl
    | some name =>
        simp only
        cases place.arguments name true name.params with
        | error e => rfl
        | ok r =>
            obtain ⟨args, last, hle⟩ := r
            show Except.map _ (match name.construct args with
                | .ok f => _ | .error e => _)
              = match name.construct args with
                | .ok f => _ | .error e => _
            cases name.construct args <;> rfl

/-- A text argument is what stands in front of the next `)`. -/
theorem readArgument_string (name : FilterName) (c : Cursor) :
    c.readArgument name .string = match c.upToClose? with
      | some (s, place) => .ok (.string s, place)
      | none => .error ⟨.unterminatedString, c⟩ := by
  unfold readArgument
  rw [argument, text]
  split
  · next h =>
    conv => rhs; rw [h]
    rfl
  · next h =>
    conv => rhs; rw [h]
    rfl

/-- A number argument is a number. -/
theorem readArgument_integer (name : FilterName) (c : Cursor) :
    c.readArgument name .integer = match c.readNumber with
      | .ok (some (n, place)) => .ok (.integer n, place)
      | .ok none => .error ⟨.malformedArgument name .integer, c⟩
      | .error e => .error e := by
  unfold readArgument readNumber
  rw [argument]
  cases c.number with
  | error e => rfl
  | ok r => cases r <;> rfl

/-- A filter argument is an expression. -/
theorem readArgument_filter (name : FilterName) (c : Cursor) :
    c.readArgument name .filter = match c.readFilter with
      | .ok (some (f, place)) => .ok (.filter f, place)
      | .ok none => .error ⟨.malformedArgument name .filter, c⟩
      | .error e => .error e := by
  unfold readArgument readFilter
  rw [argument]
  cases c.filter with
  | error e => rfl
  | ok r => cases r <;> rfl

/-- An entry without arguments has no list of them. -/
theorem readArguments_none (name : FilterName) (c : Cursor) :
    c.readArguments name true [] = .ok ([], c) := by
  unfold readArguments
  rw [arguments]
  rfl

/-- A separator is read where it is in front, and missed elsewhere. -/
theorem separator_eq (c : Cursor) (ch : Char) :
    (∃ place h, c.separator? ch = some place ∧ c.separator ch = .ok ⟨(), place, h⟩)
      ∨ (c.separator? ch = none
        ∧ c.separator ch = .error ⟨.expectedSeparator ch c.peek, c⟩) := by
  unfold separator
  split
  · next place h => exact Or.inl ⟨place, size_of_separator? h, h, rfl⟩
  · next h => exact Or.inr ⟨h, rfl⟩

/-- A list of arguments ends in `)`. -/
theorem readArguments_close (name : FilterName) (c : Cursor) :
    c.readArguments name false [] = match c.separator? ')' with
      | some place => .ok ([], place)
      | none => .error ⟨.expectedSeparator ')' c.peek, c⟩ := by
  unfold readArguments
  rw [arguments, if_neg (by decide)]
  rcases separator_eq c ')' with ⟨place, hle, h, hsep⟩ | ⟨h, hsep⟩
  · rw [h, hsep]
    rfl
  · rw [h, hsep]
    rfl

/-- In front of each argument stands its separator. -/
theorem readArguments_cons (name : FilterName) (first : Bool) (kind : ArgKind)
    (kinds : List ArgKind) (c : Cursor) :
    c.readArguments name first (kind :: kinds) = match c.separator? (mark first) with
      | none => .error ⟨.expectedSeparator (mark first) c.peek, c⟩
      | some inside =>
        match inside.readArgument name kind with
        | .error e => .error e
        | .ok (arg, place) =>
          match place.readArguments name false kinds with
          | .error e => .error e
          | .ok (args, last) => .ok (arg :: args, last) := by
  unfold readArguments readArgument
  rw [arguments]
  show Except.map _ (Except.bind (c.separator (mark first)) _) = _
  rcases separator_eq c (mark first) with ⟨inside, hle, h, hsep⟩ | ⟨h, hsep⟩
  · rw [h, hsep]
    dsimp only
    show Except.map _ (Except.bind (inside.argument name kind) _) = _
    cases inside.argument name kind with
    | error e => rfl
    | ok r =>
        obtain ⟨arg, place, hle⟩ := r
        dsimp only [Except.map]
        show Except.map _ (Except.bind (place.arguments name false kinds) _) = _
        cases place.arguments name false kinds <;> rfl
  · rw [h, hsep]
    rfl

/-- A query is read expression by expression. -/
theorem filters_eq (c : Cursor) :
    c.filters = match c.readFilter with
      | .error e => .error e
      | .ok none => .ok ([], c)
      | .ok (some (f, place)) => place.filters.map fun r => (f :: r.1, r.2) := by
  unfold readFilter
  rw [filters]
  cases c.filter with
  | error e => rfl
  | ok r =>
      cases r with
      | none => rfl
      | some s =>
          obtain ⟨f, place, h⟩ := s
          show Except.bind place.filters _ = Except.map _ place.filters
          cases place.filters <;> rfl

-- ======================================================== good results

/-- A number that was read is the value of a digit run. -/
theorem exists_of_readNumber {n : UInt64} (h : c.readNumber = .ok (some (n, c'))) :
    ∃ ds, c.digits? = some (ds, c') ∧ decimal ds < wordLimit
      ∧ n = UInt64.ofNat (decimal ds) := by
  rw [readNumber_eq] at h
  split at h
  · cases h
  · next ds place hds =>
    split at h
    · next hlt =>
      cases h
      exact ⟨ds, hds, hlt, rfl⟩
    · cases h

/-- No number is read exactly where no digit run starts. -/
theorem readNumber_eq_none_iff : c.readNumber = .ok none ↔ c.digits? = none := by
  rw [readNumber_eq]
  split
  · next h => simp [h]
  · next h =>
    rw [h]
    split <;> simp

/-- An expression that was read is a number, or an entry that was built
from its arguments. -/
theorem cases_of_readFilter (h : c.readFilter = .ok (some (f, c'))) :
    (c.name? = none ∧ ∃ n, c.readNumber = .ok (some (n, c')) ∧ f = .number n)
      ∨ ∃ word place name args, c.name? = some (word, place)
        ∧ FilterName.ofWord? word = some name
        ∧ place.readArguments name true name.params = .ok (args, c')
        ∧ name.construct args = .ok f := by
  rw [readFilter_eq] at h
  split at h
  · next hname =>
    refine Or.inl ⟨hname, ?_⟩
    cases hr : c.readNumber with
    | error e => rw [hr] at h; cases h
    | ok r =>
        rw [hr] at h
        cases r with
        | none => cases h
        | some r =>
            cases h
            exact ⟨_, rfl, rfl⟩
  · next word place hname =>
    refine Or.inr ?_
    split at h
    · cases h
    · next name hword =>
      split at h
      · cases h
      · next args last hargs =>
        split at h
        · next g hg =>
          cases h
          exact ⟨word, place, name, args, hname, hword, hargs, hg⟩
        · cases h

/-- No expression is read exactly where neither a name nor a digit run
starts. -/
theorem readFilter_eq_none_iff :
    c.readFilter = .ok none ↔ c.name? = none ∧ c.digits? = none := by
  rw [readFilter_eq]
  split
  · next hname =>
    rw [← readNumber_eq_none_iff]
    cases c.readNumber with
    | error e => simp [Except.map]
    | ok r => cases r <;> simp [Except.map, hname]
  · next hname =>
    rw [hname]
    split
    · simp
    · split
      · simp
      · split <;> simp

/-- A list of arguments that was read ended in `)`. -/
theorem exists_of_readArguments_close (h : c.readArguments name false [] = .ok (args, c')) :
    args = [] ∧ c.separator? ')' = some c' := by
  rw [readArguments_close] at h
  split at h
  · next hsep =>
    cases h
    exact ⟨rfl, hsep⟩
  · cases h

/-- Arguments that were read are a separator, an argument and the rest. -/
theorem exists_of_readArguments_cons
    (h : c.readArguments name first (kind :: kinds) = .ok (args, c')) :
    ∃ inside arg place rest, c.separator? (mark first) = some inside
      ∧ inside.readArgument name kind = .ok (arg, place)
      ∧ place.readArguments name false kinds = .ok (rest, c') ∧ args = arg :: rest := by
  rw [readArguments_cons] at h
  split at h
  · cases h
  · next inside hsep =>
    split at h
    · cases h
    · next arg place harg =>
      split at h
      · cases h
      · next rest last hrest =>
        cases h
        exact ⟨inside, arg, place, rest, hsep, harg, hrest, rfl⟩

-- ========================================================= bad results

/-- Reading a number fails on a digit run that does not fit. -/
theorem exists_of_readNumber_error (h : c.readNumber = .error e) :
    ∃ ds place, c.digits? = some (ds, place) ∧ wordLimit ≤ decimal ds
      ∧ e = ⟨.integerOutOfRange (String.ofList ds), c⟩ := by
  rw [readNumber_eq] at h
  split at h
  · cases h
  · next ds place hds =>
    split at h
    · cases h
    · next hge =>
      cases h
      exact ⟨ds, place, hds, Nat.le_of_not_lt hge, rfl⟩

/-- Reading an expression fails in its number, on its name, in its
arguments or when it is built. -/
theorem cases_of_readFilter_error (h : c.readFilter = .error e) :
    c.readNumber = .error e
      ∨ ∃ word place, c.name? = some (word, place)
        ∧ ((FilterName.ofWord? word = none ∧ e = ⟨.unknownFilter word, place⟩)
          ∨ ∃ name, FilterName.ofWord? word = some name
            ∧ (place.readArguments name true name.params = .error e
              ∨ ∃ args last fault, place.readArguments name true name.params = .ok (args, last)
                ∧ name.construct args = .error fault ∧ e = ⟨fault, last⟩)) := by
  rw [readFilter_eq] at h
  split at h
  · left
    cases hr : c.readNumber with
    | error e' =>
        rw [hr] at h
        cases h
        rfl
    | ok r =>
        rw [hr] at h
        cases h
  · next word place hname =>
    refine Or.inr ⟨word, place, hname, ?_⟩
    split at h
    · next hword =>
      cases h
      exact Or.inl ⟨hword, rfl⟩
    · next name hword =>
      refine Or.inr ⟨name, hword, ?_⟩
      split at h
      · next e' hargs =>
        cases h
        exact Or.inl hargs
      · next args last hargs =>
        split at h
        · cases h
        · next fault hfault =>
          cases h
          exact Or.inr ⟨args, last, fault, hargs, hfault, rfl⟩

/-- Reading an argument fails on a text without its `)`, on a number or an
expression that is not there, or inside of one that is. -/
theorem cases_of_readArgument_error (h : c.readArgument name kind = .error e) :
    (kind = .string ∧ c.upToClose? = none ∧ e = ⟨.unterminatedString, c⟩)
      ∨ (kind ≠ .string ∧ e = ⟨.malformedArgument name kind, c⟩)
      ∨ c.readNumber = .error e ∨ c.readFilter = .error e := by
  cases kind with
  | string =>
      rw [readArgument_string] at h
      split at h
      · cases h
      · next hclose =>
        cases h
        exact Or.inl ⟨rfl, hclose, rfl⟩
  | integer =>
      rw [readArgument_integer] at h
      split at h
      · cases h
      · cases h
        exact Or.inr (Or.inl ⟨by decide, rfl⟩)
      · next e' hnumber =>
        cases h
        exact Or.inr (Or.inr (Or.inl hnumber))
  | filter =>
      rw [readArgument_filter] at h
      split at h
      · cases h
      · cases h
        exact Or.inr (Or.inl ⟨by decide, rfl⟩)
      · next e' hfilter =>
        cases h
        exact Or.inr (Or.inr (Or.inr hfilter))

/-- The end of a list is missed at another character. -/
theorem readArguments_close_error (h : c.readArguments name false [] = .error e) :
    c.separator? ')' = none ∧ e = ⟨.expectedSeparator ')' c.peek, c⟩ := by
  rw [readArguments_close] at h
  split at h
  · cases h
  · next hsep =>
    cases h
    exact ⟨hsep, rfl⟩

/-- Reading arguments fails at the separator in front, in the first one or
in the rest. -/
theorem cases_of_readArguments_error
    (h : c.readArguments name first (kind :: kinds) = .error e) :
    (c.separator? (mark first) = none ∧ e = ⟨.expectedSeparator (mark first) c.peek, c⟩)
      ∨ ∃ inside, c.separator? (mark first) = some inside
        ∧ (inside.readArgument name kind = .error e
          ∨ ∃ arg place, inside.readArgument name kind = .ok (arg, place)
            ∧ place.readArguments name false kinds = .error e) := by
  rw [readArguments_cons] at h
  split at h
  · next hsep =>
    cases h
    exact Or.inl ⟨hsep, rfl⟩
  · next inside hsep =>
    refine Or.inr ⟨inside, hsep, ?_⟩
    split at h
    · next e' harg =>
      cases h
      exact Or.inl harg
    · next arg place harg =>
      refine Or.inr ⟨arg, place, harg, ?_⟩
      split at h
      · next e' hrest =>
        cases h
        exact hrest
      · cases h

-- ============================================================= progress

/-- Reading an expression moves forward. -/
theorem size_of_readFilter (h : c.readFilter = .ok (some (f, c'))) : c'.size < c.size := by
  unfold readFilter at h
  cases hr : c.filter with
  | error e => rw [hr] at h; cases h
  | ok r =>
      rw [hr] at h
      cases r with
      | none => cases h
      | some s =>
          cases h
          exact s.forward

/-- Reading an argument does not move back. -/
theorem size_of_readArgument (h : c.readArgument name kind = .ok (arg, c')) :
    c'.size ≤ c.size := by
  unfold readArgument at h
  cases hr : c.argument name kind with
  | error e => rw [hr] at h; cases h
  | ok s =>
      rw [hr] at h
      cases h
      exact s.notBack

/-- What holds of a cursor if it holds of all that stand further behind,
holds of every cursor. -/
theorem induction_behind {P : Cursor → Prop}
    (step : ∀ c, (∀ c', c'.size < c.size → P c') → P c) (c : Cursor) : P c := by
  induction hn : c.size using Nat.strongRecOn generalizing c with
  | _ n ih => exact step c fun c' hc' => ih c'.size (hn ▸ hc') c' rfl

end Docket.Cursor
