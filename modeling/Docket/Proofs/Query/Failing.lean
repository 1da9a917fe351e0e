/-
Failures of queries.  What a failure names is there: an unknown name, a
number or a text that it carries is a piece of the query, and the character
that it found is in front at the place where reading stopped.

All of it goes back to the places that reading reaches.  None of them has a
blank in front, and none is inside of a digit run, since a name or a number
never ends in front of a digit and every separator stands between.

Main statements: each step goes from a reached place to another one; each
way to fail at a reached place is truthful; so is the failure of a query.
-/
import Docket.Proofs.Query.Parsing

namespace Docket

open Cursor

variable {q w k as : List Char} {c c' : Cursor} {name : FilterName} {kind : ArgKind}
  {kinds : List ArgKind} {arg : Arg} {args : List Arg} {f : Filter} {e : Failure}

-- ================================================= truth of a failure

/-- `ds` is a whole digit run of `q`: no digit stands on either side. -/
def DigitRun (q ds : List Char) : Prop :=
  ∃ before behind, q = before ++ (ds ++ behind) ∧ IsDigits ds
    ∧ (∀ d ∈ before.getLast?, isDigit d = false) ∧ ∀ d ∈ behind.head?, isDigit d = false

/-- What a failure has to say of the text `q` that was read. -/
def Failure.Truthful (q : List Char) : Failure → Prop
  | ⟨.unknownFilter word, _⟩ =>
      IsName word.toList ∧ word.toList <:+: q ∧ FilterName.ofWord? word = none
  | ⟨.expectedSeparator expected found, place⟩ =>
      expected ∈ ['(', ',', ')'] ∧ found ≠ some expected
        ∧ (∀ d ∈ found, isBlank d = false ∧ d ∈ q)
        ∧ place.rest <:+ q ∧ found = place.peek ∧ (found = none → place.rest = [])
  | ⟨.unterminatedString, _⟩ => ∃ before behind, q = before ++ '(' :: behind ∧ ')' ∉ behind
  | ⟨.malformedArgument name expected, _⟩ =>
      (name = .number ∧ expected = .integer)
        ∨ (name ∈ [.or, .and, .not] ∧ expected = .filter)
  | ⟨.wrongArgumentCount _ _, _⟩ => False
  | ⟨.integerOutOfRange literal, _⟩ =>
      DigitRun q literal.toList ∧ wordLimit ≤ decimal literal.toList
  | ⟨.invalidPattern pattern fault, _⟩ =>
      Plain pattern ∧ pattern.toList <:+: q ∧ Pattern.compile pattern = .error fault
  | ⟨.invalidTimestamp value, _⟩ =>
      Plain value ∧ value.toList <:+: q ∧ Timestamp.ofString? value = none

-- ================================================ between digit runs

/-- No digit run goes on from `w` to `k`. -/
def Apart (w k : List Char) : Prop :=
  ∀ d ∈ w.getLast?, isDigit d = true → ∀ d' ∈ k.head?, isDigit d' = false

/-- No digit run goes on over a character at the end that is no digit. -/
theorem Apart.of_last {d : Char} (hd : d ∈ w.getLast?) (hdigit : isDigit d = false) :
    Apart w k := by
  intro d' hd' h
  obtain rfl : d = d' := Option.some.inj (hd.symm.trans hd')
  rw [hdigit] at h
  cases h

/-- No digit run goes on over the blanks behind it. -/
theorem Apart.skip (h : Apart w k) : Apart (w ++ k.takeWhile isBlank) (trimStart k) := by
  have hk := takeWhile_append_trimStart k
  by_cases hb : k.takeWhile isBlank = []
  · rw [hb, List.nil_append] at hk
    rw [hb, List.append_nil, hk]
    exact h
  · have hlast := List.getLast?_eq_some_getLast hb
    refine Apart.of_last (d := (k.takeWhile isBlank).getLast hb) ?_ ?_
    · rw [List.getLast?_append_of_ne_nil _ hb]
      exact hlast
    · exact isDigit_of_isBlank (List.mem_takeWhile_imp (List.getLast_mem hb))

/-- Behind a name stands no digit. -/
theorem Longest.no_digit_behind (h : Longest IsName w k) :
    ∀ d ∈ k.head?, isDigit d = false := by
  intro d hd
  have hend := h.head?_of_isName d hd
  unfold isNameEnd at hend
  exact (Bool.or_eq_false_iff.1 hend).2

/-- No digit run goes on behind an expression. -/
theorem Expression.apart (h : Expression w k f) (before : List Char) :
    Apart (before ++ w) k := by
  cases h with
  | number digits fits => exact fun _ _ _ => (longest_isDigits_iff.1 digits).2
  | bare word takesNone means => exact fun _ _ _ => word.no_digit_behind
  | call word gap list means =>
      obtain ⟨front, rfl⟩ := list.exists_concat
      refine Apart.of_last (d := ')') ?_ rfl
      simp

/-- No digit run goes on behind an argument. -/
theorem Argument.apart (h : Argument kind w k arg) (before : List Char) :
    Apart (before ++ w) k := by
  cases h with
  | @string t b k inside trimmed blanks =>
      cases b with
      | nil => exact fun _ _ _ => outside_cons rfl k
      | cons d b => exact fun _ _ _ => outside_cons (isDigit_of_isBlank (blanks d (by simp))) _
  | integer digits fits => exact fun _ _ _ => (longest_isDigits_iff.1 digits).2
  | filter expression => exact expression.apart before

-- ====================================================== reached places

/-- A place that reading `q` may reach: a part of the text with no blank in
front and no digit run across its start. -/
structure Reached (q : List Char) (c : Cursor) : Prop where
  noBlank : ∀ d ∈ c.rest.head?, isBlank d = false
  behind : ∃ before, q = before ++ c.rest ∧ Apart before c.rest

/-- What is left at a reached place is the end of the text. -/
theorem Reached.suffix (h : Reached q c) : c.rest <:+ q := by
  obtain ⟨before, hq, -⟩ := h.behind
  exact ⟨before, hq.symm⟩

/-- What stands at a reached place is a piece of the text. -/
theorem Reached.piece (h : Reached q c) (hrest : c.rest = w ++ k) : w <:+: q := by
  obtain ⟨before, hq, -⟩ := h.behind
  exact ⟨before, k, by rw [hq, hrest, List.append_assoc]⟩

/-- Reading starts at a reached place. -/
theorem Reached.start (q : String) : Reached q.toList (Cursor.ofString q) := by
  refine ⟨fun d hd => head?_trimStart hd, q.toList.takeWhile isBlank, ?_, ?_⟩
  · exact (takeWhile_append_trimStart q.toList).symm
  · exact Apart.skip (w := []) nofun

/-- Behind a piece that no digit run goes on behind, and its blanks, a place
is reached. -/
theorem Reached.past (h : Reached q c) (hrest : c.rest = w ++ k)
    (hw : ∀ before, Apart (before ++ w) k) : Reached q ⟨trimStart k⟩ := by
  obtain ⟨before, hq, -⟩ := h.behind
  refine ⟨fun d hd => head?_trimStart hd, before ++ w ++ k.takeWhile isBlank, ?_, (hw before).skip⟩
  calc q = before ++ (w ++ k) := by rw [hq, hrest]
    _ = before ++ (w ++ (k.takeWhile isBlank ++ trimStart k)) := by
        rw [takeWhile_append_trimStart]
    _ = _ := by simp

/-- A name leads to a reached place. -/
theorem Reached.past_name {word : String} (h : Reached q c) (hname : c.name? = some (word, c')) :
    Reached q c' := by
  obtain ⟨k, hrest, longest, rfl⟩ := exists_of_name? hname
  exact h.past hrest fun _ _ _ _ => longest.no_digit_behind

/-- A separator leads to a reached place. -/
theorem Reached.past_separator {first : Bool} (h : Reached q c)
    (hsep : c.separator? (mark first) = some c') : Reached q c' := by
  obtain ⟨k, hrest, rfl⟩ := exists_of_separator? hsep
  refine h.past (w := [mark first]) hrest fun before => Apart.of_last (d := mark first) ?_ ?_
  · simp
  · cases first <;> rfl

/-- An expression leads to a reached place. -/
theorem Reached.past_filter (h : Reached q c) (hf : c.readFilter = .ok (some (f, c'))) :
    Reached q c' := by
  obtain ⟨w, k, hrest, expression, rfl⟩ := derived c f c' hf
  exact h.past hrest expression.apart

/-- An argument leads to a reached place. -/
theorem Reached.past_argument (h : Reached q c) (harg : c.readArgument name kind = .ok (arg, c')) :
    Reached q c' := by
  obtain ⟨w, k, hrest, argument, rfl⟩ :=
    exists_argument_of_readArgument (derived c) h.noBlank harg
  exact h.past hrest argument.apart

-- ===================================================== ways to fail

/-- An unknown name is a piece of the text. -/
theorem Reached.unknown {word : String} (h : Reached q c) (hname : c.name? = some (word, c'))
    (hword : FilterName.ofWord? word = none) :
    Failure.Truthful q ⟨.unknownFilter word, c'⟩ := by
  obtain ⟨k, hrest, longest, -⟩ := exists_of_name? hname
  exact ⟨longest.1, h.piece hrest, hword⟩

/-- Where a separator is missing, something else is in front, or nothing
is left. -/
theorem Reached.missed {ch : Char} (h : Reached q c) (hch : ch ∈ ['(', ',', ')'])
    (hsep : c.separator? ch = none) :
    Failure.Truthful q ⟨.expectedSeparator ch c.peek, c⟩ := by
  refine ⟨hch, separator?_eq_none_iff.1 hsep, fun d hd => ⟨h.noBlank d hd, ?_⟩, h.suffix, rfl,
    List.head?_eq_none_iff.1⟩
  exact h.suffix.subset (List.mem_of_head? hd)

/-- A text argument without its end has no `)` anywhere behind the `(` in
front of it. -/
theorem Reached.unterminated (h : Reached q c) (hsep : c.separator? '(' = some c')
    (hclose : c'.upToClose? = none) : Failure.Truthful q ⟨.unterminatedString, c'⟩ := by
  obtain ⟨before, hq, -⟩ := h.behind
  obtain ⟨k, hrest, rfl⟩ := exists_of_separator? hsep
  refine ⟨before, k, by rw [hq, hrest], ?_⟩
  rw [upToClose?_eq_none_iff] at hclose
  rw [← takeWhile_append_trimStart k]
  intro hmem
  rcases List.mem_append.1 hmem with hmem | hmem
  · cases List.mem_takeWhile_imp hmem
  · exact hclose hmem

/-- Only the entry for numbers asks for a number, and only the connectives
ask for filters. -/
theorem truthful_malformed (q : List Char) (c : Cursor) (hk : kind ∈ name.params)
    (hs : kind ≠ .string) : Failure.Truthful q ⟨.malformedArgument name kind, c⟩ := by
  cases kind with
  | string => exact absurd rfl hs
  | integer =>
      refine Or.inl ⟨?_, rfl⟩
      cases name <;> revert hk <;> decide
  | filter =>
      refine Or.inr ⟨?_, rfl⟩
      cases name <;> revert hk <;> decide

/-- A number that does not fit is a whole digit run. -/
theorem Reached.outOfRange (h : Reached q c) (hn : c.readNumber = .error e) :
    e.Truthful q := by
  obtain ⟨ds, place, hds, hge, rfl⟩ := exists_of_readNumber_error hn
  obtain ⟨k, hrest, digits, -⟩ := exists_of_digits? hds
  obtain ⟨before, hq, hbefore⟩ := h.behind
  obtain ⟨⟨hne, hall⟩, hk⟩ := longest_isDigits_iff.1 digits
  show DigitRun q (String.ofList ds).toList ∧ wordLimit ≤ decimal (String.ofList ds).toList
  rw [String.toList_ofList]
  refine ⟨⟨before, k, by rw [hq, hrest], ⟨hne, hall⟩, fun d hd => ?_, hk⟩, hge⟩
  -- a digit in front would go on into the run
  cases hdigit : isDigit d with
  | false => rfl
  | true =>
      have hhead : (ds.head hne) ∈ c.rest.head? := by
        rw [hrest, List.head?_append_of_ne_nil _ hne]
        exact List.head?_eq_some_head hne
      have hfirst := hbefore d hd hdigit _ hhead
      rw [hall _ (List.head_mem hne)] at hfirst
      cases hfirst

/-- A text argument is its own text, which is plain. -/
theorem Argument.text {s : String} (h : Argument kind w k (.string s)) :
    Plain s ∧ s.toList = w := by
  cases h with
  | string inside trimmed blanks => exact ⟨plain_ofList inside trimmed, String.toList_ofList⟩

/-- A text among arguments is plain and a piece of their list. -/
theorem Arguments.text {mark : Char} {s : String} (h : Arguments mark kinds as k args)
    (hs : .string s ∈ args) : Plain s ∧ s.toList <:+: as := by
  induction args generalizing mark kinds as with
  | nil => cases hs
  | cons arg args ih =>
      cases h with
      | @next _ _ _ b a b' as _ _ _ lead head gap list =>
          rcases List.mem_cons.1 hs with rfl | hs
          · obtain ⟨hplain, rfl⟩ := head.text
            exact ⟨hplain, mark :: b, b' ++ as, by simp⟩
          · obtain ⟨hplain, hpiece⟩ := ih list hs
            have hback : as <:+ mark :: (b ++ (a ++ (b' ++ as))) :=
              ⟨mark :: (b ++ (a ++ b')), by simp⟩
            exact ⟨hplain, hpiece.trans hback.isInfix⟩

/-- An entry whose arguments were read is refused for a text among them
only. -/
theorem Reached.refused {fault : QueryError} (h : Reached q c)
    (hargs : c.readArguments name true name.params = .ok (args, c'))
    (hfault : name.construct args = .error fault) : Failure.Truthful q ⟨fault, c'⟩ := by
  by_cases hnone : name.params = []
  · rw [hnone, readArguments_none] at hargs
    cases hargs
    have hkinds : ([] : List Arg).map Arg.kind = name.params := by
      rw [hnone]
      rfl
    cases refused_of_construct hkinds hfault with
    | pattern only wrong => cases only
    | timestamp only wrong => cases only
  · obtain ⟨as, k, hrest, list, -⟩ := exists_arguments_of_readArguments
      (fun c _ => derived c) name.params true c args (Nat.le_refl _) (fun _ => hnone) hargs
    have hpiece : as <:+: q := h.piece hrest
    cases refused_of_construct list.kinds_eq hfault with
    | pattern only wrong =>
        obtain ⟨hplain, htext⟩ := list.text (by rw [only]; exact List.mem_singleton_self _)
        exact ⟨hplain, htext.trans hpiece, wrong⟩
    | timestamp only wrong =>
        obtain ⟨hplain, htext⟩ := list.text (by rw [only]; exact List.mem_singleton_self _)
        exact ⟨hplain, htext.trans hpiece, wrong⟩

-- ======================================================= whole readers

/-- Failures of an expression at `c` are truthful, if `c` is reached. -/
def TruthfulAt (q : List Char) (c : Cursor) : Prop :=
  Reached q c → ∀ e, c.readFilter = .error e → e.Truthful q

/-- An entry that takes a text takes nothing else. -/
theorem params_of_string_mem (h : .string ∈ name.params) : name.params = [.string] := by
  cases name <;> revert h <;> decide

/-- Failures of a list of arguments are truthful, if those of expressions
behind its first separator are.  A text can only be the first argument. -/
theorem truthful_of_readArguments {n : Nat} (hn : ∀ c : Cursor, c.size < n → TruthfulAt q c) :
    ∀ (kinds : List ArgKind) (first : Bool) (c : Cursor), c.size ≤ n → Reached q c →
      (∀ kind ∈ kinds, kind ∈ name.params) → (.string ∈ kinds → first = true ∧ kinds = [.string]) →
      c.readArguments name first kinds = .error e → e.Truthful q := by
  intro kinds
  induction kinds with
  | nil =>
      intro first c hle hc hkinds hstring h
      cases first with
      | true =>
          rw [readArguments_none] at h
          cases h
      | false =>
          obtain ⟨hsep, rfl⟩ := readArguments_close_error h
          exact hc.missed (by simp) hsep
  | cons kind kinds ih =>
      intro first c hle hc hkinds hstring h
      rcases cases_of_readArguments_error h with ⟨hsep, rfl⟩ | ⟨inside, hsep, harg⟩
      · exact hc.missed (by cases first <;> simp [mark]) hsep
      have hsize := size_of_separator? hsep
      have hinside : Reached q inside := hc.past_separator hsep
      rcases harg with harg | ⟨arg, place, harg, hrest⟩
      · rcases cases_of_readArgument_error harg with
          ⟨rfl, hclose, rfl⟩ | ⟨hne, rfl⟩ | hnumber | hfilter
        · obtain ⟨rfl, -⟩ := hstring (by simp)
          exact hc.unterminated hsep hclose
        · exact truthful_malformed q inside (hkinds kind (by simp)) hne
        · exact hinside.outOfRange hnumber
        · exact hn inside (by omega) hinside e hfilter
      · have hplace := size_of_readArgument harg
        refine ih false place (by omega) (hinside.past_argument harg)
          (fun kind hkind => hkinds kind (by simp [hkind])) (fun hmem => ?_) hrest
        -- a text among the later arguments would be the only one
        obtain ⟨-, hkinds⟩ := hstring (by simp [hmem])
        rw [(List.cons.inj hkinds).2] at hmem
        cases hmem

/-- Failures of an expression are truthful. -/
theorem truthful_of_readFilter (c : Cursor) : TruthfulAt q c := by
  induction c using induction_behind with
  | step c ih =>
      intro hc e h
      rcases cases_of_readFilter_error h with hnumber | ⟨word, place, hname, h⟩
      · exact hc.outOfRange hnumber
      have hsize := size_of_name? hname
      have hplace : Reached q place := hc.past_name hname
      rcases h with ⟨hword, rfl⟩ | ⟨name, hword, hargs | ⟨args, last, fault, hargs, hfault, rfl⟩⟩
      · exact hc.unknown hname hword
      · refine truthful_of_readArguments (fun c' hc' => ih c' (by omega)) name.params true place
          (Nat.le_refl _) hplace (fun kind hkind => hkind) (fun hmem => ⟨rfl, ?_⟩) hargs
        exact params_of_string_mem hmem
      · exact hplace.refused hargs hfault

/-- Failures of a query are truthful, from any reached place on. -/
theorem truthful_of_filters (c : Cursor) :
    Reached q c → ∀ e, c.filters = .error e → e.Truthful q := by
  induction c using induction_behind with
  | step c ih =>
      intro hc e h
      rw [Cursor.filters_eq] at h
      split at h
      · next e' hfilter =>
        cases h
        exact truthful_of_readFilter c hc e hfilter
      · cases h
      · next f place hfilter =>
        cases hr : place.filters with
        | ok r =>
            rw [hr] at h
            cases h
        | error e' =>
            rw [hr] at h
            cases h
            exact ih place (size_of_readFilter hfilter) (hc.past_filter hfilter) e hr

/-- Errors of queries tell the truth: a query that fails stops at some
place, and what its error says is true of the query and of that place. -/
theorem parse_error_truthful {q : String} {error : QueryError}
    (h : Query.parse q = .error error) :
    ∃ place, (Cursor.ofString q).filters = .error ⟨error, place⟩
      ∧ Failure.Truthful q.toList ⟨error, place⟩ := by
  unfold Query.parse at h
  split at h
  · cases h
  · next failure hfailure =>
    cases h
    exact ⟨failure.place, hfailure, truthful_of_filters _ (Reached.start q) failure hfailure⟩

/-- An unknown name, a missing end and a number too large, each inside of
other arguments. -/
theorem parse_error_truthful_nested :
    Query.parse "or(n(5), fo-o9-)" = .error (.unknownFilter "fo-o9")
      ∧ (IsName "fo-o9".toList ∧ "fo-o9".toList <:+: "or(n(5), fo-o9-)".toList
        ∧ FilterName.ofWord? "fo-o9" = none)
      ∧ Query.parse "pr not(label(x, (y" = .error .unterminatedString
      ∧ (∃ before behind, "pr not(label(x, (y".toList = before ++ '(' :: behind ∧ ')' ∉ behind)
      ∧ Query.parse "and(7,18446744073709551616 )"
        = .error (.integerOutOfRange "18446744073709551616")
      ∧ DigitRun "and(7,18446744073709551616 )".toList "18446744073709551616".toList := by
  have hname : Query.parse "or(n(5), fo-o9-)" = .error (.unknownFilter "fo-o9") := by cbv
  have hend : Query.parse "pr not(label(x, (y" = .error .unterminatedString := by cbv
  have hrange : Query.parse "and(7,18446744073709551616 )"
      = .error (.integerOutOfRange "18446744073709551616") := by cbv
  obtain ⟨place, -, hword⟩ := parse_error_truthful hname
  obtain ⟨place', -, hopen⟩ := parse_error_truthful hend
  obtain ⟨place'', -, hrun, hlimit⟩ := parse_error_truthful hrange
  exact ⟨hname, hword, hend, hopen, hrange, hrun⟩

end Docket
