/-
Reading comes to an end.  An expression may hold expressions, and a query is
read expression by expression, so neither goes by the form of the text; what
ends both is that every token takes a piece of the text away.

# How far reading goes

The readers are written once more, cut off where their calls are nested too
deep (`filterWithin`) or where too many expressions stand beside each other
(`filtersWithin`).  A call inside of an expression stands behind the name of
its entry, so with more calls allowed than characters are left, nothing is
cut off, and the readers that are not bounded give the same.

# How much is read

Every filter of an expression is there for a name or a digit run of its own
(`Expression.nodes_le`, along the derivation of the expression), so an
expression is no shorter than its filters are many; neither is a query.

Main statement: reading ends within the text, an expression is missed only
where none can start and the cursor then stays, and as many bytes are passed
as there are filters in what was read.
-/
import Docket.Proofs.Query.Moving

namespace Docket

open Cursor

variable {c : Cursor} {name : FilterName} {kind : ArgKind} {kinds : List ArgKind}
  {args : List Arg} {f : Filter} {e k : List Char}

-- ================================================ statement vocabulary

/-- What a reader comes to, or nothing if it was cut off before. -/
abbrev Cut (α : Type) := ExceptT Failure Option α

/-- A reader that was not cut off. -/
def Cut.done {α : Type} (r : Except Failure α) : Cut α := some r

/-- The filters in some filters, all counted. -/
def nodesOf : List Filter → Nat
  | [] => 0
  | f :: fs => f.nodes + nodesOf fs

/-- How deep filters are nested in a filter. -/
def Filter.depth : Filter → Nat
  | .or f g => 1 + max f.depth g.depth
  | .and f g => 1 + max f.depth g.depth
  | .not f => 1 + f.depth
  | _ => 1

namespace Cursor

/-- Read one argument; `nested` reads the expression in it. -/
def argumentWith (nested : Cursor → Cut (Option (Filter × Cursor))) (name : FilterName)
    (kind : ArgKind) (c : Cursor) : Cut (Arg × Cursor) :=
  match kind with
  | .string => Cut.done (c.readArgument name .string)
  | .integer => Cut.done (c.readArgument name .integer)
  | .filter => do
    match ← nested c with
    | some (f, place) => return (.filter f, place)
    | none => throw ⟨.malformedArgument name .filter, c⟩

/-- Read arguments of the given kinds and the end of their list; `nested`
reads the expressions in them. -/
def argumentsWith (nested : Cursor → Cut (Option (Filter × Cursor))) (name : FilterName) :
    Bool → List ArgKind → Cursor → Cut (List Arg × Cursor)
  | first, [], c => Cut.done (c.readArguments name first [])
  | first, kind :: kinds, c =>
    match c.separator? (mark first) with
    | none => throw ⟨.expectedSeparator (mark first) c.peek, c⟩
    | some inside => do
      let (arg, place) ← argumentWith nested name kind inside
      let (args, last) ← argumentsWith nested name false kinds place
      return (arg :: args, last)

/-- Read one expression, if one starts here; `nested` reads the expressions
in its arguments. -/
def filterWith (nested : Cursor → Cut (Option (Filter × Cursor))) (c : Cursor) :
    Cut (Option (Filter × Cursor)) :=
  match c.name? with
  | none => Cut.done (c.readNumber.map (Option.map fun r => (.number r.1, r.2)))
  | some (word, place) =>
    match FilterName.ofWord? word with
    | none => throw ⟨.unknownFilter word, place⟩
    | some name => do
      let (args, last) ← argumentsWith nested name true name.params place
      match name.construct args with
      | .ok f => return some (f, last)
      | .error e => throw ⟨e, last⟩

/-- Read one expression with at most `depth` calls inside of each other, this
one included. -/
def filterWithin : Nat → Cursor → Cut (Option (Filter × Cursor))
  | 0, _ => none
  | depth + 1, c => filterWith (filterWithin depth) c

/-- Read expressions up to the first character that starts none, in at most
`rounds` rounds, each with at most as many calls inside of each other. -/
def filtersWithin : Nat → Cursor → Cut (List Filter × Cursor)
  | 0, _ => none
  | rounds + 1, c => do
    match ← filterWithin (rounds + 1) c with
    | some (f, place) =>
      let (fs, last) ← filtersWithin rounds place
      return (f :: fs, last)
    | none => return ([], c)

end Cursor

-- ===================================================== nothing is cut off

section

variable {nested : Cursor → Cut (Option (Filter × Cursor))} {n : Nat}

/-- An argument is not cut off, if an expression in it is not. -/
theorem Cursor.argumentWith_eq (hc : nested c = Cut.done c.readFilter) :
    argumentWith nested name kind c = Cut.done (c.readArgument name kind) := by
  cases kind with
  | string => rfl
  | integer => rfl
  | filter =>
      unfold argumentWith
      rw [readArgument_filter, hc]
      rcases c.readFilter with e | (_ | r) <;> rfl

/-- A list of arguments is not cut off, if the expressions behind its first
separator are not. -/
theorem Cursor.argumentsWith_eq
    (hn : ∀ c : Cursor, c.size < n → nested c = Cut.done c.readFilter) :
    ∀ (kinds : List ArgKind) (first : Bool) (c : Cursor), c.size ≤ n →
      argumentsWith nested name first kinds c = Cut.done (c.readArguments name first kinds) := by
  intro kinds
  induction kinds with
  | nil => exact fun _ _ _ => rfl
  | cons kind kinds ih =>
      intro first c hle
      unfold argumentsWith
      rw [readArguments_cons]
      cases hsep : c.separator? (mark first) with
      | none => rfl
      | some inside =>
          have hinside := size_of_separator? hsep
          dsimp only
          rw [argumentWith_eq (hn inside (by omega))]
          cases harg : inside.readArgument name kind with
          | error e => rfl
          | ok r =>
              obtain ⟨arg, place⟩ := r
              have hplace := size_of_readArgument harg
              show ExceptT.bind (argumentsWith nested name false kinds place) _ = _
              rw [ih false place (by omega)]
              dsimp only
              cases place.readArguments name false kinds <;> rfl

/-- An expression is not cut off with more calls allowed than characters are
left. -/
theorem Cursor.filterWithin_eq : ∀ {depth : Nat} {c : Cursor}, c.size < depth →
    c.filterWithin depth = Cut.done c.readFilter := by
  intro depth
  induction depth with
  | zero => exact fun h => absurd h (Nat.not_lt_zero _)
  | succ depth ih =>
      intro c hlt
      show filterWith (filterWithin depth) c = _
      unfold filterWith
      rw [readFilter_eq]
      cases hname : c.name? with
      | none => rfl
      | some r =>
          obtain ⟨word, place⟩ := r
          have hplace := size_of_name? hname
          dsimp only
          cases FilterName.ofWord? word with
          | none => rfl
          | some name =>
              dsimp only
              rw [argumentsWith_eq (fun _ h => ih h) name.params true place (by omega)]
              cases place.readArguments name true name.params with
              | error e => rfl
              | ok r =>
                  obtain ⟨args, last⟩ := r
                  show (match name.construct args with
                    | .ok f => _ | .error e => _) = Cut.done (match name.construct args with
                    | .ok f => _ | .error e => _)
                  cases name.construct args <;> rfl

/-- Nor is a query, in as many rounds. -/
theorem Cursor.filtersWithin_eq : ∀ {rounds : Nat} {c : Cursor}, c.size < rounds →
    c.filtersWithin rounds = Cut.done c.filters := by
  intro rounds
  induction rounds with
  | zero => exact fun h => absurd h (Nat.not_lt_zero _)
  | succ rounds ih =>
      intro c hlt
      unfold filtersWithin
      rw [filters_eq, filterWithin_eq hlt]
      cases hfilter : c.readFilter with
      | error e => rfl
      | ok r =>
          cases r with
          | none => rfl
          | some r =>
              obtain ⟨f, place⟩ := r
              have hplace := size_of_readFilter hfilter
              show ExceptT.bind (filtersWithin rounds place) _ = _
              rw [ih (by omega)]
              dsimp only
              cases place.filters <;> rfl

end

-- ========================================================= much is read

/-- A text has at least as many bytes as characters. -/
theorem length_le_utf8ByteSize (cs : List Char) :
    cs.length ≤ (String.ofList cs).utf8ByteSize := by
  induction cs with
  | nil => exact Nat.zero_le _
  | cons ch cs ih =>
      have hpos := Char.utf8Size_pos ch
      rw [String.ofList_cons, String.utf8ByteSize_append, String.utf8ByteSize_singleton,
        List.length_cons]
      omega

/-- The filters in an argument. -/
def Arg.nodes : Arg → Nat
  | .filter f => f.nodes
  | _ => 0

/-- The filters in some arguments, all counted. -/
def nodesAmong : List Arg → Nat
  | [] => 0
  | arg :: args => arg.nodes + nodesAmong args

/-- What an entry stands for is one filter more than there are in its
arguments. -/
theorem Denotes.nodes_eq (h : Denotes name args f) : f.nodes = 1 + nodesAmong args := by
  cases h with
  | or f g => exact (Nat.add_assoc 1 f.nodes g.nodes)
  | and f g => exact (Nat.add_assoc 1 f.nodes g.nodes)
  | _ => rfl

mutual

/-- An expression is no shorter than its filters are many: each of them is
there for a name or a digit run of its own. -/
theorem Expression.nodes_le : ∀ {e k : List Char} {f : Filter}, Expression e k f →
    f.nodes ≤ e.length
  | _, _, _, .number digits fits => List.length_pos_iff.2 digits.1.1
  | _, _, _, @Expression.bare name _ _ word takesNone means => by
      rw [means.nodes_eq]
      exact List.length_pos_iff.2 (longest_isName_iff.1 word).1
  | _, _, _, @Expression.call name b as _ _ _ word gap list means => by
      have hword := List.length_pos_iff.2 (longest_isName_iff.1 word).1
      have hargs := list.nodes_le
      rw [means.nodes_eq, List.length_append, List.length_append]
      omega

/-- Neither is a list of arguments. -/
theorem Arguments.nodes_le : ∀ {mark : Char} {kinds : List ArgKind} {as k : List Char}
    {args : List Arg}, Arguments mark kinds as k args → nodesAmong args ≤ as.length
  | _, _, _, _, _, .close => Nat.zero_le _
  | _, _, _, _, _, .next lead head gap list => by
      have hhead := head.nodes_le
      have hlist := list.nodes_le
      simp only [nodesAmong, List.length_cons, List.length_append]
      omega

/-- Neither is an argument. -/
theorem Argument.nodes_le : ∀ {kind : ArgKind} {a k : List Char} {arg : Arg},
    Argument kind a k arg → arg.nodes ≤ a.length
  | _, _, _, _, .string _ _ _ => Nat.zero_le _
  | _, _, _, _, .integer _ _ => Nat.zero_le _
  | _, _, _, _, .filter expression => expression.nodes_le

end

/-- Behind a piece and the blanks behind it, at least its characters are
passed. -/
theorem utf8ByteSize_trimStart_add_length_le (w k : List Char) :
    (String.ofList (trimStart k)).utf8ByteSize + w.length
      ≤ (String.ofList (w ++ k)).utf8ByteSize := by
  have hw := length_le_utf8ByteSize w
  have hk := takeWhile_append_trimStart k
  conv => rhs; rw [← hk]
  rw [String.ofList_append, String.ofList_append, String.utf8ByteSize_append,
    String.utf8ByteSize_append]
  omega

/-- An expression that was read took at least as many bytes as it has
filters. -/
theorem Cursor.nodes_of_readFilter {c' : Cursor} (h : c.readFilter = .ok (some (f, c'))) :
    c'.remaining.utf8ByteSize + f.nodes ≤ c.remaining.utf8ByteSize := by
  obtain ⟨e, k, hrest, expression, rfl⟩ := derived c f c' h
  have hnodes := expression.nodes_le
  have hbytes := utf8ByteSize_trimStart_add_length_le e k
  show (String.ofList (trimStart k)).utf8ByteSize + f.nodes ≤ (String.ofList c.rest).utf8ByteSize
  rw [hrest]
  omega

/-- So did a query, from any place on. -/
theorem Cursor.nodesOf_of_filters (c : Cursor) : ∀ fs last, c.filters = .ok (fs, last) →
    last.remaining.utf8ByteSize + nodesOf fs ≤ c.remaining.utf8ByteSize := by
  induction c using induction_behind with
  | step c ih =>
      intro fs last h
      rw [filters_eq] at h
      split at h
      · cases h
      · cases h
        exact Nat.le_refl _
      · next f place hfilter =>
        cases hrest : place.filters with
        | error e => rw [hrest] at h; cases h
        | ok r =>
            rw [hrest] at h
            cases h
            have hfirst := nodes_of_readFilter hfilter
            have hbehind := ih place (size_of_readFilter hfilter) r.1 r.2 hrest
            simp only [nodesOf]
            omega

/-- Filters are nested no deeper than they are many. -/
theorem Filter.depth_le_nodes (f : Filter) : f.depth ≤ f.nodes := by
  induction f with
  | or f g ihf ihg => simp only [depth, nodes]; omega
  | and f g ihf ihg => simp only [depth, nodes]; omega
  | not f ih => simp only [depth, nodes]; omega
  | _ => exact Nat.le_refl 1

theorem nodes_le_nodesOf {fs : List Filter} (h : f ∈ fs) : f.nodes ≤ nodesOf fs := by
  induction fs with
  | nil => cases h
  | cons g fs ih =>
      rcases List.mem_cons.1 h with rfl | h
      · exact Nat.le_add_right ..
      · exact Nat.le_add_left_of_le (ih h)

-- ======================================================= within the text

/-- Looking for an expression is idle exactly where none can start. -/
theorem Cursor.act_filter_eq_nothing_iff :
    (c.act .filter).1 = .nothing ↔ ∀ ch ∈ c.peek, isLetter ch = false ∧ isDigit ch = false := by
  have hnone := readFilter_eq_none_iff_startsNone (c := c)
  unfold StartsNone at hnone
  show _ ↔ ∀ ch ∈ c.rest.head?, _
  rw [← hnone, act_filter]
  rcases c.readFilter with e | (_ | r) <;> simp [Failure.reply]

/-- An idle look leaves the cursor where it is. -/
theorem Cursor.act_filter_of_nothing (h : (c.act .filter).1 = .nothing) :
    (c.act .filter).2 = c := by
  rw [act_filter] at h ⊢
  split at h
  · cases h
  · rfl
  · cases h

/-- A look that finds an expression passes it. -/
theorem Cursor.nodes_of_act_filter (h : (c.act .filter).1 = .filter f) :
    (c.act .filter).2.remaining.utf8ByteSize + f.nodes ≤ c.remaining.utf8ByteSize := by
  rw [act_filter] at h ⊢
  split at h
  · next g place hfilter =>
    cases h
    exact nodes_of_readFilter hfilter
  · cases h
  · cases h

/-- What was read from a query and what it left over take up no more than
its bytes. -/
theorem nodesOf_of_parse {text rest : String} {fs : List Filter}
    (h : Query.parse text = .ok ⟨fs, rest⟩) :
    nodesOf fs + rest.utf8ByteSize ≤ text.utf8ByteSize := by
  obtain ⟨front, hfront⟩ := Cursor.exists_front_ofString text
  have hbytes := congrArg String.utf8ByteSize hfront
  rw [String.utf8ByteSize_append] at hbytes
  unfold Query.parse at h
  split at h
  · next fs' last hread =>
    cases h
    have hnodes := nodesOf_of_filters _ _ _ hread
    omega
  · cases h

/-- Reading ends within the text.  From every place, an expression is read
without being cut off once more calls are allowed inside of each other than
characters are left; nothing is found exactly where no letter and no digit is
in front, and then the cursor stays; and what is found has passed at least as
many bytes as there are filters in it, so at least one.  Hence a query is read
without being cut off once more rounds are allowed than it has characters; its
filters, all counted, and what it left over take up no more than its bytes;
and none of its filters is nested deeper than that. -/
theorem reading_ends_within_text :
    (∀ c : Cursor,
      (∀ depth, c.size < depth → c.filterWithin depth = Cut.done c.readFilter)
        ∧ ((c.act .filter).1 = .nothing
          ↔ ∀ ch ∈ c.peek, isLetter ch = false ∧ isDigit ch = false)
        ∧ ((c.act .filter).1 = .nothing → (c.act .filter).2 = c)
        ∧ ∀ f, (c.act .filter).1 = .filter f →
          (c.act .filter).2.remaining.utf8ByteSize + f.nodes ≤ c.remaining.utf8ByteSize
            ∧ (c.act .filter).2.remaining.utf8ByteSize < c.remaining.utf8ByteSize)
      ∧ ∀ text : String,
        (∀ rounds, text.length < rounds → (Cursor.ofString text).filtersWithin rounds
          = Cut.done (Cursor.ofString text).filters)
        ∧ ∀ fs rest, Query.parse text = .ok ⟨fs, rest⟩ →
          nodesOf fs + rest.utf8ByteSize ≤ text.utf8ByteSize
            ∧ ∀ f ∈ fs, f.depth ≤ text.utf8ByteSize := by
  refine ⟨fun c => ⟨fun depth => filterWithin_eq, act_filter_eq_nothing_iff,
    act_filter_of_nothing, fun f hf => ?_⟩, fun text => ⟨fun rounds hlt => ?_, fun fs rest h => ?_⟩⟩
  · have hnodes := nodes_of_act_filter hf
    have hpos := f.nodes_pos
    exact ⟨hnodes, by omega⟩
  · have hle : (Cursor.ofString text).size ≤ text.toList.length := length_trimStart_le text.toList
    rw [String.length_toList] at hle
    exact filtersWithin_eq (by omega)
  · have hnodes := nodesOf_of_parse h
    refine ⟨hnodes, fun f hf => ?_⟩
    have hdepth := f.depth_le_nodes
    have hmember := nodes_le_nodesOf hf
    omega

/-- Four filters in the fifteen bytes of one expression, and a rest at which
looking for another one is idle. -/
theorem reading_ends_within_text_nested :
    (Cursor.ofString "not(or(5,open)) !").filterWithin 18
        = Cut.done (Cursor.ofString "not(or(5,open)) !").readFilter
      ∧ ((Cursor.ofString "not(or(5,open)) !").act .filter).1
        = .filter (.not (.or (.number 5) .isOpen))
      ∧ ((Cursor.ofString "not(or(5,open)) !").act .filter).2.remaining.utf8ByteSize + 4
        ≤ (Cursor.ofString "not(or(5,open)) !").remaining.utf8ByteSize
      ∧ ((Cursor.ofString "!").act .filter).1 = .nothing
      ∧ ((Cursor.ofString "!").act .filter).2 = Cursor.ofString "!"
      ∧ (Cursor.ofString "not(or(5,open)) !").filtersWithin 18
        = Cut.done (Cursor.ofString "not(or(5,open)) !").filters
      ∧ Query.parse "not(or(5,open)) !" = .ok ⟨[.not (.or (.number 5) .isOpen)], "!"⟩
      ∧ nodesOf [.not (.or (.number 5) .isOpen)] + "!".utf8ByteSize
        ≤ "not(or(5,open)) !".utf8ByteSize := by
  have hparse : Query.parse "not(or(5,open)) !" = .ok ⟨[.not (.or (.number 5) .isOpen)], "!"⟩ := by
    cbv
  have hfound : ((Cursor.ofString "not(or(5,open)) !").act .filter).1
      = .filter (.not (.or (.number 5) .isOpen)) := by
    cbv
  obtain ⟨hcursor, htext⟩ := reading_ends_within_text
  have hidle : ((Cursor.ofString "!").act .filter).1 = .nothing := by
    refine (hcursor _).2.1.2 fun ch hch => ?_
    obtain rfl : '!' = ch := Option.some.inj hch
    exact ⟨rfl, rfl⟩
  obtain ⟨hrounds, hfilters⟩ := htext "not(or(5,open)) !"
  exact ⟨(hcursor _).1 18 (by decide), hfound, ((hcursor _).2.2.2 _ hfound).1, hidle,
    (hcursor _).2.2.1 hidle, hrounds 18 (by decide), hparse, (hfilters _ _ hparse).1⟩

end Docket
