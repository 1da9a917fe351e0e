/-
Filters and the arguments that they are built from.  `Denotes` says, entry
by entry, which filter an entry stands for when it is given certain
arguments; a pattern is given by its source and a time by a text that reads
as it.

Main statements: building gives a filter exactly when the entry and the
arguments denote it; and arguments of the declared kinds can only fail by
their content, as a text that is no pattern or no timestamp.
-/
import Docket.Query.Catalogue

namespace Docket

open FilterName

variable {name : FilterName} {args : List Arg} {f g : Filter} {e : QueryError}

-- ========================================================== denotation

/-- The entry `name` with the arguments `args` stands for the filter. -/
inductive Denotes : FilterName → List Arg → Filter → Prop
  | assigned : Denotes .assigned [] .assigned
  | closed : Denotes .closed [] .closed
  | isOpen : Denotes .isOpen [] .isOpen
  | labelled : Denotes .labelled [] .labelled
  | pull : Denotes .pull [] .pull
  | issue : Denotes .issue [] .issue
  | merged : Denotes .merged [] .merged
  | assignedTo (s : String) : Denotes .assignedTo [.string s] (.assignedTo s)
  | label (s : String) : Denotes .label [.string s] (.label s)
  | title (p : Pattern) : Denotes .title [.string p.source] (.title p)
  | body (p : Pattern) : Denotes .body [.string p.source] (.body p)
  | text (p : Pattern) : Denotes .text [.string p.source] (.text p)
  | closedSince {s : String} {t : Instant} (reads : Timestamp.ofString? s = some t) :
      Denotes .closedSince [.string s] (.closedSince t)
  | number (n : UInt64) : Denotes .number [.integer n] (.number n)
  | not (f : Filter) : Denotes .not [.filter f] (.not f)
  | or (f g : Filter) : Denotes .or [.filter f, .filter g] (.or f g)
  | and (f g : Filter) : Denotes .and [.filter f, .filter g] (.and f g)

-- ================================================ the shapes of builders

/-- An entry without arguments is built from none. -/
theorem withNone_eq_ok (h : withNone name g args = .ok f) : args = [] ∧ f = g := by
  cases args with
  | nil => exact ⟨rfl, by cases h; rfl⟩
  | cons a as => cases h

/-- An entry that takes a text is built from one text. -/
theorem withString_eq_ok {build : String → Except QueryError Filter}
    (h : withString name build args = .ok f) :
    ∃ s, args = [.string s] ∧ build s = .ok f := by
  unfold withString at h
  split at h
  · next s =>
    exact ⟨s, rfl, h⟩
  · cases h
  · cases h

/-- An entry that takes a number is built from one number. -/
theorem withInteger_eq_ok {build : UInt64 → Filter}
    (h : withInteger name build args = .ok f) : ∃ n, args = [.integer n] ∧ f = build n := by
  unfold withInteger at h
  split at h
  · next n =>
    cases h
    exact ⟨n, rfl, rfl⟩
  · cases h
  · cases h

/-- An entry that takes a filter is built from one filter. -/
theorem withFilter_eq_ok {build : Filter → Filter}
    (h : withFilter name build args = .ok f) : ∃ g, args = [.filter g] ∧ f = build g := by
  unfold withFilter at h
  split at h
  · next g =>
    cases h
    exact ⟨g, rfl, rfl⟩
  · cases h
  · cases h

/-- An entry that takes two filters is built from two filters. -/
theorem withFilters_eq_ok {build : Filter → Filter → Filter}
    (h : withFilters name build args = .ok f) :
    ∃ g g', args = [.filter g, .filter g'] ∧ f = build g g' := by
  unfold withFilters at h
  split at h
  · next g g' =>
    cases h
    exact ⟨g, g', rfl, rfl⟩
  · cases h
  · cases h

/-- A filter with a pattern is built from the source of the pattern. -/
theorem withPattern_eq_ok {build : Pattern → Filter} {s : String}
    (h : withPattern build s = .ok f) : ∃ p, s = p.source ∧ f = build p := by
  unfold withPattern at h
  split at h
  · next p hp => exact ⟨p, (Pattern.source_of_compile hp).symm, by cases h; rfl⟩
  · cases h

/-- Building a filter with a pattern fails on a text that does not
compile. -/
theorem withPattern_eq_error {build : Pattern → Filter} {s : String}
    (h : withPattern build s = .error e) :
    ∃ fault, e = .invalidPattern s fault ∧ Pattern.compile s = .error fault := by
  unfold withPattern at h
  split at h
  · cases h
  · next fault hs => exact ⟨fault, by cases h; rfl, hs⟩

/-- The source of a pattern builds the filter with that pattern. -/
theorem withPattern_source (build : Pattern → Filter) (p : Pattern) :
    withPattern build p.source = .ok (build p) := by
  unfold withPattern
  rw [Pattern.compile_source]

/-- A filter with a time is built from a text that reads as the time. -/
theorem withTime_eq_ok {build : Instant → Filter} {s : String}
    (h : withTime build s = .ok f) :
    ∃ t, Timestamp.ofString? s = some t ∧ f = build t := by
  unfold withTime at h
  split at h
  · next t ht => exact ⟨t, ht, by cases h; rfl⟩
  · cases h

/-- Building a filter with a time fails on a text that is no timestamp. -/
theorem withTime_eq_error {build : Instant → Filter} {s : String}
    (h : withTime build s = .error e) :
    e = .invalidTimestamp s ∧ Timestamp.ofString? s = none := by
  unfold withTime at h
  split at h
  · cases h
  · next hs => exact ⟨by cases h; rfl, hs⟩

-- ============================================ building and denotation

/-- What an entry and its arguments denote is built from them. -/
theorem Denotes.construct (h : Denotes name args f) : name.construct args = .ok f := by
  cases h with
  | title p => exact withPattern_source .title p
  | body p => exact withPattern_source .body p
  | text p => exact withPattern_source .text p
  | @closedSince s t reads =>
      show withTime .closedSince s = .ok (.closedSince t)
      unfold withTime
      rw [reads]
  | _ => rfl

/-- What is built is what the entry and the arguments denote. -/
theorem denotes_of_construct (h : name.construct args = .ok f) : Denotes name args f := by
  cases name with
  | assigned => obtain ⟨rfl, rfl⟩ := withNone_eq_ok h; exact .assigned
  | closed => obtain ⟨rfl, rfl⟩ := withNone_eq_ok h; exact .closed
  | isOpen => obtain ⟨rfl, rfl⟩ := withNone_eq_ok h; exact .isOpen
  | labelled => obtain ⟨rfl, rfl⟩ := withNone_eq_ok h; exact .labelled
  | pull => obtain ⟨rfl, rfl⟩ := withNone_eq_ok h; exact .pull
  | issue => obtain ⟨rfl, rfl⟩ := withNone_eq_ok h; exact .issue
  | merged => obtain ⟨rfl, rfl⟩ := withNone_eq_ok h; exact .merged
  | assignedTo => obtain ⟨s, rfl, hs⟩ := withString_eq_ok h; cases hs; exact .assignedTo s
  | label => obtain ⟨s, rfl, hs⟩ := withString_eq_ok h; cases hs; exact .label s
  | title =>
      obtain ⟨s, rfl, hs⟩ := withString_eq_ok h
      obtain ⟨p, rfl, rfl⟩ := withPattern_eq_ok hs
      exact .title p
  | body =>
      obtain ⟨s, rfl, hs⟩ := withString_eq_ok h
      obtain ⟨p, rfl, rfl⟩ := withPattern_eq_ok hs
      exact .body p
  | text =>
      obtain ⟨s, rfl, hs⟩ := withString_eq_ok h
      obtain ⟨p, rfl, rfl⟩ := withPattern_eq_ok hs
      exact .text p
  | closedSince =>
      obtain ⟨s, rfl, hs⟩ := withString_eq_ok h
      obtain ⟨t, ht, rfl⟩ := withTime_eq_ok hs
      exact .closedSince ht
  | number => obtain ⟨n, rfl, rfl⟩ := withInteger_eq_ok h; exact .number n
  | not => obtain ⟨g, rfl, rfl⟩ := withFilter_eq_ok h; exact .not g
  | or => obtain ⟨g, g', rfl, rfl⟩ := withFilters_eq_ok h; exact .or g g'
  | and => obtain ⟨g, g', rfl, rfl⟩ := withFilters_eq_ok h; exact .and g g'

-- ================================================== failures to build

/-- Arguments of one kind are one argument of that kind. -/
theorem exists_of_kinds_singleton {kind : ArgKind} (h : args.map Arg.kind = [kind]) :
    ∃ a, args = [a] ∧ a.kind = kind := by
  obtain ⟨a, as, rfl, ha, has⟩ := List.map_eq_cons_iff.1 h
  rw [List.map_eq_nil_iff.1 has]
  exact ⟨a, rfl, ha⟩

/-- What can be wrong with arguments of the declared kinds: a text that
should be a pattern or a timestamp is none. -/
inductive Refused (args : List Arg) : QueryError → Prop
  | pattern {s : String} {fault : PatternFault} (only : args = [.string s])
      (wrong : Pattern.compile s = .error fault) : Refused args (.invalidPattern s fault)
  | timestamp {s : String} (only : args = [.string s])
      (wrong : Timestamp.ofString? s = none) : Refused args (.invalidTimestamp s)

/-- A text that is compiled can only be refused as a pattern. -/
theorem refused_of_withPattern {build : Pattern → Filter} {s : String}
    (h : withPattern build s = .error e) : Refused [.string s] e := by
  obtain ⟨fault, rfl, hs⟩ := withPattern_eq_error h
  exact .pattern rfl hs

/-- Arguments of the declared kinds are refused for their content only: a
wrong number or a wrong kind of arguments cannot come up. -/
theorem refused_of_construct (hk : args.map Arg.kind = name.params)
    (h : name.construct args = .error e) : Refused args e := by
  -- the declared kinds leave one shape of arguments for each entry
  cases name with
  | assigned | closed | isOpen | labelled | pull | issue | merged =>
      rw [List.map_eq_nil_iff.1 hk] at h
      cases h
  | assignedTo | label =>
      obtain ⟨a, rfl, ha⟩ := exists_of_kinds_singleton hk
      cases a <;> cases ha
      cases h
  | title | body | text =>
      obtain ⟨a, rfl, ha⟩ := exists_of_kinds_singleton hk
      cases a <;> cases ha
      exact refused_of_withPattern h
  | closedSince =>
      obtain ⟨a, rfl, ha⟩ := exists_of_kinds_singleton hk
      cases a <;> cases ha
      obtain ⟨rfl, hs⟩ := withTime_eq_error h
      exact .timestamp rfl hs
  | number | not =>
      obtain ⟨a, rfl, ha⟩ := exists_of_kinds_singleton hk
      cases a <;> cases ha
      cases h
  | or | and =>
      obtain ⟨a, as, rfl, ha, has⟩ := List.map_eq_cons_iff.1 hk
      obtain ⟨b, rfl, hb⟩ := exists_of_kinds_singleton has
      cases a <;> cases ha
      cases b <;> cases hb
      cases h

end Docket
