/-
Signatures: the kinds of arguments that an entry declares, and the arguments
that it is built from.

An entry is built once the arguments are as many as it declares.  They are
then taken one after another, each by the kind that the entry asks for at
that point, and nothing but the entry itself says how many it asks for and of
which kinds.  `buildInTurn` is building in this way; that it agrees with
`construct`, whatever is said where no argument is left to take, says that
what an entry asks for is what it declares.

Main statement: for any entry and any arguments, `Construction` tells what
building comes to.  A wrong number of arguments goes before a wrong kind, the
first wrong kind before the later ones, and both before a text that is no
pattern or no timestamp; and where none of them applies, the filter of the
entry is built from these arguments in their order.
-/
import Docket.Proofs.Query.Catalogue
import Docket.Query.Wording

namespace Docket

open FilterName

-- ================================================ statement vocabulary

/-- Up to some place the arguments have the declared kinds, and at this place
`kind` is declared and the argument has another one. -/
inductive FirstMismatch : List ArgKind → List Arg → ArgKind → Prop
  | here {kind : ArgKind} {kinds : List ArgKind} {a : Arg} {args : List Arg}
      (differs : a.kind ≠ kind) : FirstMismatch (kind :: kinds) (a :: args) kind
  | later {kind declared : ArgKind} {kinds : List ArgKind} {a : Arg} {args : List Arg}
      (agrees : a.kind = declared) (behind : FirstMismatch kinds args kind) :
      FirstMismatch (declared :: kinds) (a :: args) kind

/-- What building the entry from the arguments comes to. -/
inductive Construction (name : FilterName) (args : List Arg) : Except QueryError Filter → Prop
  | count (wrong : args.length ≠ name.params.length) :
      Construction name args (.error (.wrongArgumentCount name args.length))
  | kind {kind : ArgKind} (fits : args.length = name.params.length)
      (first : FirstMismatch name.params args kind) :
      Construction name args (.error (.malformedArgument name kind))
  | pattern {s : String} {fault : PatternFault}
      (searches : name ∈ [FilterName.title, .body, .text])
      (only : args = [.string s]) (wrong : Pattern.compile s = .error fault) :
      Construction name args (.error (.invalidPattern s fault))
  | timestamp {s : String} (since : name = .closedSince) (only : args = [.string s])
      (wrong : Timestamp.ofString? s = none) :
      Construction name args (.error (.invalidTimestamp s))
  | filter {f : Filter} (means : Denotes name args f) : Construction name args (.ok f)

-- ============================================== taking arguments in turn

/-- Taking arguments from those that are left. -/
abbrev Taking := StateT (List Arg) (Except QueryError)

namespace Taking

/-- The next argument.  If there is none, this is the given error. -/
def next (spent : QueryError) : Taking Arg
  | [] => .error spent
  | a :: args => .ok (a, args)

/-- The next argument, as a text. -/
def string (spent : ArgKind → QueryError) (name : FilterName) : Taking String := do
  match ← next (spent .string) with
  | .string s => pure s
  | _ => throw (.malformedArgument name .string)

/-- The next argument, as a number. -/
def integer (spent : ArgKind → QueryError) (name : FilterName) : Taking UInt64 := do
  match ← next (spent .integer) with
  | .integer n => pure n
  | _ => throw (.malformedArgument name .integer)

/-- The next argument, as a filter. -/
def filter (spent : ArgKind → QueryError) (name : FilterName) : Taking Filter := do
  match ← next (spent .filter) with
  | .filter f => pure f
  | _ => throw (.malformedArgument name .filter)

/-- The next argument, as a pattern. -/
def pattern (spent : ArgKind → QueryError) (name : FilterName) : Taking Pattern := do
  let source ← string spent name
  match Pattern.compile source with
  | .ok p => pure p
  | .error fault => throw (.invalidPattern source fault)

/-- The next argument, as a time. -/
def time (spent : ArgKind → QueryError) (name : FilterName) : Taking Instant := do
  let value ← string spent name
  match Timestamp.ofString? value with
  | some t => pure t
  | none => throw (.invalidTimestamp value)

end Taking

namespace FilterName

/-- The filter of an entry, from the arguments that it asks for. -/
def take (spent : ArgKind → QueryError) (name : FilterName) : Taking Filter :=
  match name with
  | assigned => pure .assigned
  | assignedTo => do return .assignedTo (← Taking.string spent name)
  | closed => pure .closed
  | isOpen => pure .isOpen
  | number => do return .number (← Taking.integer spent name)
  | label => do return .label (← Taking.string spent name)
  | labelled => pure .labelled
  | title => do return .title (← Taking.pattern spent name)
  | body => do return .body (← Taking.pattern spent name)
  | text => do return .text (← Taking.pattern spent name)
  | pull => pure .pull
  | issue => pure .issue
  | merged => pure .merged
  | or => do return .or (← Taking.filter spent name) (← Taking.filter spent name)
  | and => do return .and (← Taking.filter spent name) (← Taking.filter spent name)
  | not => do return .not (← Taking.filter spent name)
  | closedSince => do return .closedSince (← Taking.time spent name)

/-- Build the filter of an entry by taking its arguments in turn, if they are
as many as it declares. -/
def buildInTurn (spent : ArgKind → QueryError) (name : FilterName) (args : List Arg) :
    Except QueryError Filter :=
  if args.length = name.params.length then (name.take spent).run' args
  else .error (.wrongArgumentCount name args.length)

end FilterName

variable {name : FilterName} {args : List Arg} {kind kind' : ArgKind} {kinds : List ArgKind}
  {f : Filter} {s : String} {fault : PatternFault} {spent : ArgKind → QueryError}
  {result : Except QueryError Filter}

-- ================================================= the number of arguments

theorem withNone_of_length_ne (h : args.length ≠ 0) :
    withNone name f args = .error (.wrongArgumentCount name args.length) := by
  unfold withNone
  split
  · exact absurd rfl h
  · rfl

theorem withString_of_length_ne {build : String → Except QueryError Filter}
    (h : args.length ≠ 1) :
    withString name build args = .error (.wrongArgumentCount name args.length) := by
  unfold withString
  split
  · exact absurd rfl h
  · exact absurd rfl h
  · rfl

theorem withInteger_of_length_ne {build : UInt64 → Filter} (h : args.length ≠ 1) :
    withInteger name build args = .error (.wrongArgumentCount name args.length) := by
  unfold withInteger
  split
  · exact absurd rfl h
  · exact absurd rfl h
  · rfl

theorem withFilter_of_length_ne {build : Filter → Filter} (h : args.length ≠ 1) :
    withFilter name build args = .error (.wrongArgumentCount name args.length) := by
  unfold withFilter
  split
  · exact absurd rfl h
  · exact absurd rfl h
  · rfl

theorem withFilters_of_length_ne {build : Filter → Filter → Filter} (h : args.length ≠ 2) :
    withFilters name build args = .error (.wrongArgumentCount name args.length) := by
  unfold withFilters
  split
  · exact absurd rfl h
  · exact absurd rfl h
  · rfl

/-- A wrong number of arguments is said of every entry. -/
theorem construct_of_length_ne (h : args.length ≠ name.params.length) :
    name.construct args = .error (.wrongArgumentCount name args.length) := by
  cases name with
  | assigned | closed | isOpen | labelled | pull | issue | merged => exact withNone_of_length_ne h
  | assignedTo | label | title | body | text | closedSince => exact withString_of_length_ne h
  | number => exact withInteger_of_length_ne h
  | not => exact withFilter_of_length_ne h
  | or | and => exact withFilters_of_length_ne h

-- ================================================ the kinds of arguments

/-- Arguments as many as the kinds, but not of these kinds, have a first one
that differs. -/
theorem exists_firstMismatch (hlen : args.length = kinds.length)
    (hne : args.map Arg.kind ≠ kinds) : ∃ kind, FirstMismatch kinds args kind := by
  induction kinds generalizing args with
  | nil => exact absurd (congrArg _ (List.length_eq_zero_iff.1 hlen)) hne
  | cons declared kinds ih =>
      obtain ⟨a, args, rfl⟩ := List.exists_cons_of_length_eq_add_one hlen
      by_cases ha : a.kind = declared
      · have hrest : args.map Arg.kind ≠ kinds := fun h => hne (congr (congrArg List.cons ha) h)
        obtain ⟨kind, hkind⟩ := ih (Nat.succ.inj hlen) hrest
        exact ⟨kind, .later ha hkind⟩
      · exact ⟨declared, .here ha⟩

/-- One argument of a wrong kind, where one is declared. -/
theorem FirstMismatch.singleton {a : Arg} (h : FirstMismatch [kind] [a] kind') :
    a.kind ≠ kind ∧ kind' = kind := by
  cases h with
  | here differs => exact ⟨differs, rfl⟩
  | later agrees behind => cases behind

/-- The first argument of a wrong kind is said of every entry. -/
theorem construct_of_firstMismatch (hlen : args.length = name.params.length)
    (h : FirstMismatch name.params args kind) :
    name.construct args = .error (.malformedArgument name kind) := by
  cases name with
  | assigned | closed | isOpen | labelled | pull | issue | merged => cases h
  | assignedTo | label | title | body | text | closedSince =>
      obtain ⟨a, rfl⟩ := List.length_eq_one_iff.1 hlen
      obtain ⟨ha, rfl⟩ := h.singleton
      cases a with
      | string s => exact absurd rfl ha
      | _ => rfl
  | number =>
      obtain ⟨a, rfl⟩ := List.length_eq_one_iff.1 hlen
      obtain ⟨ha, rfl⟩ := h.singleton
      cases a with
      | integer n => exact absurd rfl ha
      | _ => rfl
  | not =>
      obtain ⟨a, rfl⟩ := List.length_eq_one_iff.1 hlen
      obtain ⟨ha, rfl⟩ := h.singleton
      cases a with
      | filter f => exact absurd rfl ha
      | _ => rfl
  | or | and =>
      obtain ⟨a, b, rfl⟩ := List.length_eq_two.1 hlen
      cases h with
      | here ha =>
          cases a with
          | filter f => exact absurd rfl ha
          | _ => rfl
      | later ha behind =>
          obtain ⟨hb, rfl⟩ := behind.singleton
          cases a <;> cases ha
          cases b with
          | filter g => exact absurd rfl hb
          | _ => rfl

-- ============================================ the content of arguments

/-- A text that is no pattern is said of an entry that searches. -/
theorem construct_of_not_pattern (searches : name ∈ [FilterName.title, .body, .text])
    (hs : Pattern.compile s = .error fault) :
    name.construct [.string s] = .error (.invalidPattern s fault) := by
  simp only [List.mem_cons, List.not_mem_nil, or_false] at searches
  rcases searches with rfl | rfl | rfl
  · exact searches_title.construct_eq_error hs
  · exact searches_body.construct_eq_error hs
  · exact searches_text.construct_eq_error hs

/-- The entry for closing times reads its text as a time. -/
theorem construct_closedSince (s : String) :
    FilterName.closedSince.construct [.string s] = withTime .closedSince s := by
  simp only [construct, withString]

/-- A text that is no timestamp is said of this entry. -/
theorem construct_of_not_timestamp (hs : Timestamp.ofString? s = none) :
    FilterName.closedSince.construct [.string s] = .error (.invalidTimestamp s) := by
  rw [construct_closedSince]
  unfold withTime
  rw [hs]

/-- Only an entry that searches refuses a text as a pattern. -/
theorem searches_of_construct
    (h : name.construct [.string s] = .error (.invalidPattern s fault)) :
    name ∈ [FilterName.title, .body, .text] := by
  cases name with
  | title | body | text => decide
  | closedSince =>
      rw [construct_closedSince] at h
      obtain ⟨himpossible, -⟩ := withTime_eq_error h
      cases himpossible
  | _ => cases h

/-- Only the entry for closing times refuses a text as a timestamp. -/
theorem closedSince_of_construct
    (h : name.construct [.string s] = .error (.invalidTimestamp s)) : name = .closedSince := by
  cases name with
  | closedSince => rfl
  | title | body | text =>
      obtain ⟨_, himpossible, -⟩ := withPattern_eq_error h
      cases himpossible
  | _ => cases h

-- ================================================= what building comes to

/-- What building comes to is told by the number of the arguments, then by
their kinds, then by their content. -/
theorem construction (name : FilterName) (args : List Arg) :
    Construction name args (name.construct args) := by
  by_cases hlen : args.length = name.params.length
  · by_cases hkinds : args.map Arg.kind = name.params
    · cases hmade : name.construct args with
      | ok f => exact .filter (denotes_of_construct hmade)
      | error e =>
          cases refused_of_construct hkinds hmade with
          | pattern only wrong =>
              subst only
              exact .pattern (searches_of_construct hmade) rfl wrong
          | timestamp only wrong =>
              subst only
              exact .timestamp (closedSince_of_construct hmade) rfl wrong
    · obtain ⟨kind, first⟩ := exists_firstMismatch hlen hkinds
      rw [construct_of_firstMismatch hlen first]
      exact .kind hlen first
  · rw [construct_of_length_ne hlen]
    exact .count hlen

/-- Building comes to nothing else. -/
theorem Construction.construct (h : Construction name args result) :
    name.construct args = result := by
  cases h with
  | count wrong => exact construct_of_length_ne wrong
  | kind fits first => exact construct_of_firstMismatch fits first
  | pattern searches only wrong => rw [only, construct_of_not_pattern searches wrong]
  | timestamp since only wrong => rw [since, only, construct_of_not_timestamp wrong]
  | filter means => exact means.construct

-- ======================================================= building in turn

/-- Where a text is taken and one is there, taking goes on with it. -/
theorem run_string_bind {α : Type} (next : String → Taking α) :
    (Taking.string spent name >>= next).run (.string s :: args) = (next s).run args :=
  rfl

/-- A filter of a text that is taken as a pattern is built with this pattern. -/
theorem run_pattern_bind (build : Pattern → Filter) :
    (Taking.pattern spent name >>= fun p => pure (build p)).run (.string s :: args)
      = (withPattern build s).map fun f => (f, args) := by
  unfold Taking.pattern withPattern
  rw [bind_assoc, run_string_bind]
  cases Pattern.compile s <;> rfl

/-- A filter of a text that is taken as a time is built with this time. -/
theorem run_time_bind (build : Instant → Filter) :
    (Taking.time spent name >>= fun t => pure (build t)).run (.string s :: args)
      = (withTime build s).map fun f => (f, args) := by
  unfold Taking.time withTime
  rw [bind_assoc, run_string_bind]
  cases Timestamp.ofString? s <;> rfl

/-- An entry takes all its arguments, if they are as many as it declares, and
makes of them what is built from them. -/
theorem take_run (hlen : args.length = name.params.length) :
    (name.take spent).run args = (name.construct args).map fun f => (f, []) := by
  cases name with
  | assigned | closed | isOpen | labelled | pull | issue | merged =>
      rw [List.length_eq_zero_iff.1 hlen]
      rfl
  | assignedTo | label | number | not =>
      obtain ⟨a, rfl⟩ := List.length_eq_one_iff.1 hlen
      cases a <;> rfl
  | title | body | text =>
      obtain ⟨a, rfl⟩ := List.length_eq_one_iff.1 hlen
      cases a with
      | string s => exact run_pattern_bind _
      | integer n => rfl
      | filter f => rfl
  | closedSince =>
      obtain ⟨a, rfl⟩ := List.length_eq_one_iff.1 hlen
      cases a with
      | string s =>
          rw [construct_closedSince]
          exact run_time_bind _
      | integer n => rfl
      | filter f => rfl
  | or | and =>
      obtain ⟨a, b, rfl⟩ := List.length_eq_two.1 hlen
      cases a <;> cases b <;> rfl

/-- Building in turn is building, and no argument is missing when it is
taken. -/
theorem buildInTurn_eq (spent : ArgKind → QueryError) (name : FilterName) (args : List Arg) :
    name.buildInTurn spent args = name.construct args := by
  unfold buildInTurn
  by_cases hlen : args.length = name.params.length
  · rw [if_pos hlen]
    show Except.map _ ((name.take spent).run args) = _
    rw [take_run hlen]
    cases name.construct args <;> rfl
  · rw [if_neg hlen, construct_of_length_ne hlen]

/-- A failure for the number of arguments spells out what the entry takes, and
how many arguments there are. -/
theorem message_of_length_ne (h : args.length ≠ name.params.length) :
    (name.construct args).mapError QueryError.message
      = .error ("malformed argument to " ++ name.word ++ ": expected " ++ name.usage
        ++ ", found " ++ numeralText args.length ++ " argument(s)") := by
  rw [construct_of_length_ne h]
  rfl

/-- What an entry declares is what it is built from.  For any entry and any
arguments, building comes to what `Construction` tells, and to nothing else;
if the arguments are not as many as declared, this is said with the usage of
the entry and with their number.  And taking the arguments in turn, each by
the kind that the entry asks for, comes to the same, whatever would be said
if no argument were left; of as many as declared, all are taken. -/
theorem construct_follows_signature (name : FilterName) (args : List Arg) :
    (∀ result, name.construct args = result ↔ Construction name args result)
      ∧ (args.length ≠ name.params.length → (name.construct args).mapError QueryError.message
        = .error ("malformed argument to " ++ name.word ++ ": expected " ++ name.usage
          ++ ", found " ++ numeralText args.length ++ " argument(s)"))
      ∧ ∀ spent, name.buildInTurn spent args = name.construct args
        ∧ (args.length = name.params.length →
          (name.take spent).run args = (name.construct args).map fun f => (f, [])) := by
  refine ⟨fun result => ⟨?_, Construction.construct⟩, message_of_length_ne,
    fun spent => ⟨buildInTurn_eq spent name args, take_run⟩⟩
  rintro rfl
  exact construction name args

/-- One argument where two are declared, two of which the second has a wrong
kind, and a text that is no timestamp; and two filters, both of which are taken. -/
theorem construct_follows_signature_wrong :
    (FilterName.and.construct [.integer 1]).mapError QueryError.message
        = .error "malformed argument to and: expected and(<filter>, <filter>), found 1 argument(s)"
      ∧ FilterName.or.construct [.filter .isOpen, .string "open"]
        = .error (.malformedArgument .or .filter)
      ∧ FilterName.closedSince.construct [.string "soon"] = .error (.invalidTimestamp "soon")
      ∧ FilterName.closedSince.buildInTurn (fun _ => .unterminatedString) [.string "soon"]
        = .error (.invalidTimestamp "soon")
      ∧ (FilterName.or.take fun _ => .unterminatedString).run [.filter .isOpen, .filter .merged]
        = .ok (.or .isOpen .merged, []) := by
  have hcount := (construct_follows_signature .and [.integer 1]).2.1 (by decide)
  have hkind := construct_follows_signature .or [.filter .isOpen, .string "open"]
  have htime := construct_follows_signature .closedSince [.string "soon"]
  have hpair := construct_follows_signature .or [.filter .isOpen, .filter .merged]
  have hsecond : FirstMismatch FilterName.or.params [.filter .isOpen, .string "open"] .filter :=
    .later rfl (.here (by decide))
  have hsoon := (htime.1 (.error (.invalidTimestamp "soon"))).2 (.timestamp rfl rfl (by cbv))
  refine ⟨hcount.trans (congrArg Except.error ?_), (hkind.1 _).2 (.kind rfl hsecond), hsoon,
    (htime.2.2 _).1.trans hsoon, (hpair.2.2 _).2 rfl⟩
  decide +kernel

end Docket
