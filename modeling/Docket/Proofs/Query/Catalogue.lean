/-
The entries of the catalogue beside each other.  Some say the same in other
words: `open` is `not(closed)`, `issue` is `not(pr)`, and `text` searches the
title or the body.  Some ask for less than others: what was merged is a pull
request, what is assigned to someone is assigned, what has a certain label
is labelled, and what was closed since some time is closed.

The laws are about query texts.  A call of an entry with one text in its
brackets is read as what the entry makes of the text without the blanks
around it (`Query.parse_call`), which may be an error; where an entry takes
filters, an error of the first one is the error of the whole
(`readFilter_of_first_error`).  What is kept is then compared filter by filter.

Main statements: entries that say the same keep the same records, and fail
alike; an entry that asks for more keeps fewer records.
-/
import Docket.Proofs.Query.Algebra

namespace Docket

open Cursor

-- ================================================ statement vocabulary

/-- The text that calls an entry with a text in its brackets. -/
def FilterName.call (name : FilterName) (text : String) : String :=
  name.word ++ "(" ++ text ++ ")"

/-- The text that searches the title and the body, one after the other. -/
def titleOrBody (text : String) : String :=
  disjunction (FilterName.title.call text) (FilterName.body.call text)

/-- Both texts can be read, and of any records they keep the same ones in
the same order. -/
def KeepsAlike (a b : String) : Prop :=
  ∀ records, ∃ those, kept? a records = some those ∧ kept? b records = some those

/-- Both texts can be read, and of any records the second one keeps those
that the first one keeps, in the same order, and maybe others. -/
def KeepsWithin (a b : String) : Prop :=
  ∀ records, ∃ few many, kept? a records = some few ∧ kept? b records = some many
    ∧ few.Sublist many

variable {a b : String} {f g : Filter} {t k x : List Char}
  {kinds : List ArgKind} {failure : Failure} {error : QueryError}

-- ==================================================== calls with a text

/-- Blanks in front are trimmed before a text that begins with none. -/
theorem trimStart_append_cons {d : Char} (hd : isBlank d = false) (t k : List Char) :
    trimStart (t ++ d :: k) = trimStart t ++ d :: k := by
  obtain ⟨lead, hlead, hblank⟩ := exists_longest_blanks t
  obtain ⟨hblanks, hstart⟩ := longest_isBlanks_iff.1 hblank
  conv => lhs; rw [hlead]
  rw [List.append_assoc, trimStart_append_of_blank hblanks]
  refine trimStart_eq_self fun c hc => ?_
  by_cases hnil : trimStart t = []
  · rw [hnil] at hc
    exact outside_cons hd k c hc
  · rw [List.head?_append_of_ne_nil _ hnil] at hc
    exact hstart c hc

/-- What an entry with a list of arguments stands for is told by the list,
with blanks in front of it or without. -/
theorem readFilter_word_spaced (name : FilterName) {gap : List Char} (hgap : IsBlanks gap)
    (x : List Char) :
    (⟨name.word.toList ++ (gap ++ '(' :: x)⟩ : Cursor).readFilter
      = match (⟨'(' :: x⟩ : Cursor).readArguments name true name.params with
        | .error e => .error e
        | .ok (args, last) =>
          match name.construct args with
          | .ok f => .ok (some (f, last))
          | .error e => .error ⟨e, last⟩ := by
  have hword : Longest IsName name.word.toList (gap ++ '(' :: x) :=
    (isName_word name).longest (head?_blanks_append hgap rfl _)
  have hopen : trimStart (gap ++ '(' :: x) = '(' :: x :=
    (longest_blanks_cons hgap rfl x).trimStart_eq
  rw [readFilter_eq, name?_append hword, String.ofList_toList, hopen]
  dsimp only
  rewrite [FilterName.ofWord?_word]
  rfl

/-- Without blanks in front, the list is read where it stands. -/
theorem readFilter_word (name : FilterName) (x : List Char) :
    (⟨name.word.toList ++ '(' :: x⟩ : Cursor).readFilter
      = match (⟨'(' :: x⟩ : Cursor).readArguments name true name.params with
        | .error e => .error e
        | .ok (args, last) =>
          match name.construct args with
          | .ok f => .ok (some (f, last))
          | .error e => .error ⟨e, last⟩ :=
  readFilter_word_spaced name isBlanks_nil x

/-- Behind the bracket that opens a list stands its first argument. -/
theorem readArguments_open (name : FilterName) (kind : ArgKind) (kinds : List ArgKind)
    (x : List Char) :
    (⟨'(' :: x⟩ : Cursor).readArguments name true (kind :: kinds)
      = match (⟨trimStart x⟩ : Cursor).readArgument name kind with
        | .error e => .error e
        | .ok (arg, place) =>
          match place.readArguments name false kinds with
          | .error e => .error e
          | .ok (args, last) => .ok (arg :: args, last) := by
  have hmark : Cursor.mark true = '(' := rfl
  rewrite [readArguments_cons, hmark, separator?_cons]
  rfl

/-- A call of an entry that takes a text is what the entry makes of the text
in front of the next `)`, trimmed. -/
theorem readFilter_call (name : FilterName) (hp : name.params = [.string]) (ht : ')' ∉ t)
    (k : List Char) :
    (⟨name.word.toList ++ '(' :: (t ++ ')' :: k)⟩ : Cursor).readFilter
      = match name.construct [.string (String.ofList (trim t))] with
        | .ok f => .ok (some (f, ⟨trimStart k⟩))
        | .error e => .error ⟨e, ⟨trimStart k⟩⟩ := by
  have hinside : ')' ∉ trimStart t := fun hmem => ht ((trimStart_suffix t).subset hmem)
  have htrim : trim (trimStart t) = trim t := by
    unfold trim
    rw [trimStart_trimStart]
  rw [readFilter_word, hp, readArguments_open, trimStart_append_cons rfl, readArgument_string,
    upToClose?_append hinside, htrim]
  dsimp only
  rw [readArguments_close, separator?_cons]

/-- An entry that takes a filter first fails as that filter does. -/
theorem readFilter_of_first_error (name : FilterName) (hp : name.params = .filter :: kinds)
    (h : (⟨trimStart x⟩ : Cursor).readFilter = .error failure) :
    (⟨name.word.toList ++ '(' :: x⟩ : Cursor).readFilter = .error failure := by
  rw [readFilter_word, hp, readArguments_open, readArgument_filter, h]

/-- A text that begins with the name of an entry begins with no blank. -/
theorem trimStart_word (name : FilterName) (x : List Char) :
    trimStart (name.word.toList ++ x) = name.word.toList ++ x := by
  refine trimStart_eq_self fun c hc => ?_
  obtain ⟨d, hd, hletter⟩ := exists_head?_word name x
  obtain rfl : d = c := Option.some.inj (hd.symm.trans hc)
  exact isBlank_of_isNamePart (isNamePart_of_isNameEnd (isNameEnd_of_isLetter hletter))

/-- A query that begins with an entry fails as the entry does. -/
theorem Query.parse_of_readFilter_error {name : FilterName} (hq : a.toList = name.word.toList ++ x)
    (h : (⟨name.word.toList ++ x⟩ : Cursor).readFilter = .error failure) :
    Query.parse a = .error failure.error := by
  have hlead : a.toList = [] ++ (name.word.toList ++ x) := hq
  rw [Query.parse_eq hlead isBlanks_nil, trimStart_word, filters_eq, h]
  rfl

/-- The characters of a call. -/
theorem FilterName.toList_call (name : FilterName) (text : String) :
    (name.call text).toList = name.word.toList ++ '(' :: (text.toList ++ [')']) := by
  simp [FilterName.call]

/-- A query that calls an entry with a text is what the entry makes of the
trimmed text. -/
theorem Query.parse_call (name : FilterName) (hp : name.params = [.string]) {text : String}
    (ht : ')' ∉ text.toList) :
    Query.parse (name.call text)
      = (name.construct [.string (trimText text)]).map fun f => ⟨[f], ""⟩ := by
  have hcall := name.toList_call text
  have hread := readFilter_call name hp ht []
  show _ = (name.construct [.string (String.ofList (trim text.toList))]).map _
  cases hmade : name.construct [.string (String.ofList (trim text.toList))] with
  | error e =>
      rw [hmade] at hread
      rw [Query.parse_of_readFilter_error hcall hread]
      rfl
  | ok f =>
      rw [hmade] at hread
      have hnone : (⟨[]⟩ : Cursor).readFilter = .ok none :=
        readFilter_eq_none_iff_startsNone.2 nofun
      have hend : (⟨trimStart []⟩ : Cursor).filters = .ok ([], ⟨[]⟩) := by
        show (⟨[]⟩ : Cursor).filters = _
        rw [filters_eq, hnone]
      have hlead : (name.call text).toList
          = [] ++ (name.word.toList ++ '(' :: (text.toList ++ [')'])) := hcall
      rw [Query.parse_eq hlead isBlanks_nil, trimStart_word, filters_eq, hread]
      dsimp only
      rw [hend]
      rfl

-- ================================================= what entries mean

/-- Texts that are read as filters keep what the filters do. -/
theorem KeepsAlike.of_parse (ha : Query.parse a = .ok ⟨[f], ""⟩)
    (hb : Query.parse b = .ok ⟨[g], ""⟩) (h : ∀ r, f.holds r = g.holds r) : KeepsAlike a b := by
  intro records
  refine ⟨evaluate [f] records, kept?_of_parse ha records, ?_⟩
  rw [kept?_of_parse hb]
  exact congrArg some (evaluate_congr (fun r => by simp [h r]) records)

/-- A filter that holds where another one does keeps what that one keeps. -/
theorem KeepsWithin.of_parse (ha : Query.parse a = .ok ⟨[f], ""⟩)
    (hb : Query.parse b = .ok ⟨[g], ""⟩)
    (h : ∀ r, f.holds r = true → g.holds r = true) : KeepsWithin a b := by
  intro records
  refine ⟨_, _, kept?_of_parse ha records, kept?_of_parse hb records, ?_⟩
  refine List.monotone_filter_right records fun r hr => ?_
  simp only [List.all_cons, List.all_nil, Bool.and_true] at hr ⊢
  exact h r hr

/-- What was merged is a pull request. -/
theorem Filter.holds_pull_of_merged (r : Record) (h : Filter.merged.holds r = true) :
    Filter.pull.holds r = true := by
  show r.pull.isSome = true
  have hmerged : r.isMerged = true := h
  cases hpull : r.pull with
  | some pull => rfl
  | none =>
      unfold Record.isMerged at hmerged
      rw [hpull] at hmerged
      cases hmerged

/-- Where something holds of an item of a list, the list is not empty. -/
theorem isEmpty_of_any {α : Type} {p : α → Bool} {items : List α} (h : items.any p = true) :
    items.isEmpty = false := by
  cases items with
  | nil => cases h
  | cons item items => rfl

/-- What is assigned to someone is assigned. -/
theorem Filter.holds_assigned_of_assignedTo (login : String) (r : Record)
    (h : (Filter.assignedTo login).holds r = true) : Filter.assigned.holds r = true := by
  have hany : (r.assignees.any fun user => user.login == login) = true := h
  show (!r.assignees.isEmpty) = true
  rw [isEmpty_of_any hany]
  rfl

/-- What has a certain label is labelled. -/
theorem Filter.holds_labelled_of_label (name : String) (r : Record)
    (h : (Filter.label name).holds r = true) : Filter.labelled.holds r = true := by
  have hany : (r.labels.any fun label => label.name == name) = true := h
  show (!r.labels.isEmpty) = true
  rw [isEmpty_of_any hany]
  rfl

/-- What was closed since some time is closed: its closing time was read,
and so it is not the empty text. -/
theorem Filter.holds_closed_of_closedSince (time : Instant) (r : Record)
    (h : (Filter.closedSince time).holds r = true) : Filter.closed.holds r = true := by
  have hany : r.closedTime.any time.before = true := h
  cases hclosing : r.closedTime with
  | none =>
      rw [hclosing] at hany
      cases hany
  | some closing => exact Record.isClosed_of_closedTime hclosing

/-- Entries without arguments are read as themselves. -/
theorem Query.parse_word (name : FilterName) (hp : name.params = []) (means : Denotes name [] f) :
    Query.parse name.word = .ok ⟨[f], ""⟩ := by
  have he : Expression name.word.toList [] f := .of_word hp nofun means
  have hparse := he.parse
  rwa [String.ofList_toList] at hparse

/-- A call is read where its entry makes a filter of the text. -/
theorem Query.parse_call_of_denotes (name : FilterName) (hp : name.params = [.string])
    {text : String} (ht : ')' ∉ text.toList) (means : Denotes name [.string (trimText text)] f) :
    Query.parse (name.call text) = .ok ⟨[f], ""⟩ := by
  rw [Query.parse_call name hp ht, means.construct]
  rfl

-- ============================================================ searching

/-- The entry takes a text and searches with the pattern that it is. -/
structure Searches (name : FilterName) (build : Pattern → Filter) : Prop where
  params : name.params = [.string]
  construct : ∀ s, name.construct [.string s] = FilterName.withPattern build s

theorem searches_title : Searches .title .title :=
  ⟨rfl, fun s => by simp only [FilterName.construct, FilterName.withString]⟩

theorem searches_body : Searches .body .body :=
  ⟨rfl, fun s => by simp only [FilterName.construct, FilterName.withString]⟩

theorem searches_text : Searches .text .text :=
  ⟨rfl, fun s => by simp only [FilterName.construct, FilterName.withString]⟩

/-- A search fails on a text that is no pattern. -/
theorem Searches.construct_eq_error {name : FilterName} {build : Pattern → Filter}
    (h : Searches name build) {s : String} {fault : PatternFault}
    (hs : Pattern.compile s = .error fault) :
    name.construct [.string s] = .error (.invalidPattern s fault) := by
  rw [h.construct]
  unfold FilterName.withPattern
  rw [hs]

/-- All entries that search compile their text alike. -/
theorem Searches.parse {name : FilterName} {build : Pattern → Filter} (h : Searches name build)
    {text : String} (ht : ')' ∉ text.toList) :
    Query.parse (name.call text)
      = match Pattern.compile (trimText text) with
        | .ok pattern => .ok ⟨[build pattern], ""⟩
        | .error fault => .error (.invalidPattern (trimText text) fault) := by
  rw [Query.parse_call name h.params ht, h.construct]
  unfold FilterName.withPattern
  cases Pattern.compile (trimText text) <;> rfl

/-- Where a text is no pattern, searching the title or the body for it fails
as searching the title does. -/
theorem parse_titleOrBody_error {text : String} (ht : ')' ∉ text.toList) {fault : PatternFault}
    (h : Pattern.compile (trimText text) = .error fault) :
    Query.parse (titleOrBody text) = .error (.invalidPattern (trimText text) fault) := by
  have hor : "or(".toList = FilterName.or.word.toList ++ ['('] := rfl
  have htext : (titleOrBody text).toList = FilterName.or.word.toList
      ++ '(' :: (FilterName.title.word.toList ++ '(' :: (text.toList
        ++ ')' :: (',' :: ((FilterName.body.call text).toList ++ [')'])))) := by
    simp [titleOrBody, disjunction, FilterName.toList_call, hor]
  have hmade := searches_title.construct_eq_error h
  have htitle := readFilter_call .title rfl ht
    (',' :: ((FilterName.body.call text).toList ++ [')']))
  unfold trimText at hmade
  rw [hmade, ← trimStart_word .title] at htitle
  have hfirst := readFilter_of_first_error .or rfl htitle
  exact Query.parse_of_readFilter_error htext hfirst

/-- Searching for a text is searching the title or the body for it: both are
read if it is a pattern, and hold of the same records; and if it is none,
both fail with the same error. -/
theorem parse_text_and_titleOrBody {text : String} (ht : ')' ∉ text.toList) :
    (∃ pattern, Pattern.compile (trimText text) = .ok pattern
        ∧ Query.parse (FilterName.text.call text) = .ok ⟨[.text pattern], ""⟩
        ∧ Query.parse (titleOrBody text) = .ok ⟨[.or (.title pattern) (.body pattern)], ""⟩)
      ∨ ∃ fault, Pattern.compile (trimText text) = .error fault
        ∧ Query.parse (FilterName.text.call text)
          = .error (.invalidPattern (trimText text) fault)
        ∧ Query.parse (titleOrBody text) = .error (.invalidPattern (trimText text) fault) := by
  have htext := searches_text.parse ht
  cases hcompile : Pattern.compile (trimText text) with
  | ok pattern =>
      have htitle := searches_title.parse ht
      have hbody := searches_body.parse ht
      rw [hcompile] at htext htitle hbody
      exact Or.inl ⟨pattern, rfl, htext, parse_disjunction htitle hbody⟩
  | error fault =>
      rw [hcompile] at htext
      exact Or.inr ⟨fault, rfl, htext, parse_titleOrBody_error ht hcompile⟩

/-- A query for what was closed since some time needs a text that reads as
the time. -/
theorem parse_closedSince {text : String} (ht : ')' ∉ text.toList) :
    Query.parse (FilterName.closedSince.call text)
      = match Timestamp.ofString? (trimText text) with
        | some time => .ok ⟨[.closedSince time], ""⟩
        | none => .error (.invalidTimestamp (trimText text)) := by
  have hbuild : ∀ s, FilterName.closedSince.construct [.string s]
      = FilterName.withTime .closedSince s := by
    simp only [FilterName.construct, FilterName.withString, implies_true]
  rw [Query.parse_call .closedSince rfl ht, hbuild]
  unfold FilterName.withTime
  cases Timestamp.ofString? (trimText text) <;> rfl

-- ========================================================= consistency

/-- The catalogue is consistent, from query texts to records.  `open` keeps
what `not(closed)` does and `issue` what `not(pr)` does.  For texts without
`)`: searching for one is searching the title or the body for it, if it is a
pattern, and otherwise both fail with the same error, about the same
pattern; and what `merged`, `assigned_to`, `label` and, where it can be read,
`closed_since` keep is also kept by `pr`, `assigned`, `labelled` and
`closed`. -/
theorem catalogue_consistent :
    KeepsAlike "open" "not(closed)"
      ∧ KeepsAlike "issue" "not(pr)"
      ∧ (∀ text : String, ')' ∉ text.toList →
        (∃ pattern, Pattern.compile (trimText text) = .ok pattern
            ∧ KeepsAlike (FilterName.text.call text) (titleOrBody text))
          ∨ ∃ fault, Pattern.compile (trimText text) = .error fault
            ∧ Query.parse (FilterName.text.call text)
              = .error (.invalidPattern (trimText text) fault)
            ∧ Query.parse (titleOrBody text) = .error (.invalidPattern (trimText text) fault))
      ∧ KeepsWithin "merged" "pr"
      ∧ (∀ login : String, ')' ∉ login.toList →
        KeepsWithin (FilterName.assignedTo.call login) "assigned")
      ∧ (∀ label : String, ')' ∉ label.toList →
        KeepsWithin (FilterName.label.call label) "labelled")
      ∧ ∀ (time : String) (q : Query), ')' ∉ time.toList →
        Query.parse (FilterName.closedSince.call time) = .ok q →
        KeepsWithin (FilterName.closedSince.call time) "closed" := by
  have hopen : Query.parse "open" = .ok ⟨[.isOpen], ""⟩ :=
    Query.parse_word .isOpen rfl .isOpen
  have hclosed : Query.parse "closed" = .ok ⟨[.closed], ""⟩ :=
    Query.parse_word .closed rfl .closed
  have hissue : Query.parse "issue" = .ok ⟨[.issue], ""⟩ :=
    Query.parse_word .issue rfl .issue
  have hpull : Query.parse "pr" = .ok ⟨[.pull], ""⟩ :=
    Query.parse_word .pull rfl .pull
  have hmerged : Query.parse "merged" = .ok ⟨[.merged], ""⟩ :=
    Query.parse_word .merged rfl .merged
  have hassigned : Query.parse "assigned" = .ok ⟨[.assigned], ""⟩ :=
    Query.parse_word .assigned rfl .assigned
  have hlabelled : Query.parse "labelled" = .ok ⟨[.labelled], ""⟩ :=
    Query.parse_word .labelled rfl .labelled
  refine ⟨?_, ?_, fun text ht => ?_, ?_, fun login ht => ?_, fun label ht => ?_,
    fun time q ht hq => ?_⟩
  · have hnot : negation "closed" = "not(closed)" := by simp [negation]
    rw [← hnot]
    exact .of_parse hopen (parse_negation hclosed) fun r => rfl
  · have hnot : negation "pr" = "not(pr)" := by simp [negation]
    rw [← hnot]
    refine .of_parse hissue (parse_negation hpull) fun r => ?_
    show r.pull.isNone = !r.pull.isSome
    rw [Option.not_isSome]
  · rcases parse_text_and_titleOrBody ht with ⟨pattern, hpattern, htext, hsplit⟩ | hfails
    · exact Or.inl ⟨pattern, hpattern, .of_parse htext hsplit fun r => rfl⟩
    · exact Or.inr hfails
  · exact .of_parse hmerged hpull Filter.holds_pull_of_merged
  · have hto := Query.parse_call_of_denotes .assignedTo rfl ht (.assignedTo _)
    exact .of_parse hto hassigned (Filter.holds_assigned_of_assignedTo _)
  · have hlabel := Query.parse_call_of_denotes .label rfl ht (.label _)
    exact .of_parse hlabel hlabelled (Filter.holds_labelled_of_label _)
  · rw [parse_closedSince ht] at hq
    cases hread : Timestamp.ofString? (trimText time) with
    | none =>
        rw [hread] at hq
        cases hq
    | some t =>
        have hsince := parse_closedSince ht
        rw [hread] at hsince
        exact .of_parse hsince hclosed (Filter.holds_closed_of_closedSince t)

/-- A label with a comma and a bracket, no login at all, a pattern and a text
that is none, and a date with blanks around it. -/
theorem catalogue_consistent_brackets :
    ')' ∉ " a, (b".toList ∧ KeepsWithin "label( a, (b)" "labelled"
      ∧ ')' ∉ "".toList ∧ KeepsWithin "assigned_to()" "assigned"
      ∧ ')' ∉ "a|b".toList ∧ KeepsAlike "text(a|b)" "or(title(a|b),body(a|b))"
      ∧ ')' ∉ "a(b".toList
      ∧ Query.parse "or(title(a(b),body(a(b))" = Query.parse "text(a(b)"
      ∧ Query.parse "closed_since( 2020-01-01 )"
        = .ok ⟨[.closedSince ⟨1577836800, 0⟩], ""⟩
      ∧ KeepsWithin "closed_since( 2020-01-01 )" "closed" := by
  have hcompile : (Pattern.compile (trimText "a|b")).isOk = true := by decide +kernel
  have hfails : (Pattern.compile (trimText "a(b")).isOk = false := by decide +kernel
  have hinside : ')' ∉ " 2020-01-01 ".toList := by decide
  have htime : Timestamp.ofString? (trimText " 2020-01-01 ") = some ⟨1577836800, 0⟩ := by
    decide +kernel
  have hdate := parse_closedSince hinside
  rw [htime] at hdate
  obtain ⟨-, -, hsearch, -, hassigned, hlabelled, hclosed⟩ := catalogue_consistent
  refine ⟨by decide, hlabelled " a, (b" (by decide), by decide, hassigned "" (by decide),
    by decide, ?_, by decide, ?_, hdate, hclosed " 2020-01-01 " _ hinside hdate⟩
  · rcases hsearch "a|b" (by decide) with ⟨pattern, -, halike⟩ | ⟨fault, hfault, -⟩
    · exact halike
    · rw [hfault] at hcompile
      cases hcompile
  · rcases hsearch "a(b" (by decide) with ⟨pattern, hpattern, -⟩ | ⟨fault, -, htext, hsplit⟩
    · rw [hpattern] at hfails
      cases hfails
    · exact hsplit.trans htext.symm

end Docket
