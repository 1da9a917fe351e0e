/-
Openings: texts behind which an expression can start.  That is the start of
a query, the blanks behind a query that leaves nothing over, and the place of
each filter in the brackets of an entry that itself stands behind an opening.

What is read at an opening is all that counts of what stands there
(`Opens.parse_eq`): two texts that are read alike, up to the same place, may
be put for each other at every opening, and an error there is the error of
the whole query.  This goes entry by entry from the inside to the outside.

Main statement: a bare number and the entry for numbers, called with it, may
be put for each other at every opening.
-/
import Docket.Proofs.Query.Catalogue
import Docket.Proofs.Query.Failing

namespace Docket

open Cursor

variable {p d s : String} {b b' w w' x ds k : List Char} {name : FilterName}
  {kinds : List ArgKind} {f g : Filter}

-- ================================================ statement vocabulary

/-- Behind the text, in a query, an expression can start. -/
inductive Opens : String → Prop
  | start {w : String} (blanks : IsBlanks w.toList) : Opens w
  | beside {a w : String} {fs : List Filter} (reads : Query.parse a = .ok ⟨fs, ""⟩)
      (blanks : IsBlanks w.toList) (apart : w ≠ "") : Opens (a ++ w)
  | first {p b b' : String} {name : FilterName} {kinds : List ArgKind} (opens : Opens p)
      (takes : name.params = .filter :: kinds) (gap : IsBlanks b.toList)
      (blanks : IsBlanks b'.toList) : Opens (p ++ (name.word ++ b ++ "(" ++ b'))
  | second {p b a b' : String} {name : FilterName} {f : Filter} (opens : Opens p)
      (takes : name.params = [.filter, .filter]) (gap : IsBlanks b.toList)
      (reads : Query.parse a = .ok ⟨[f], ""⟩) (blanks : IsBlanks b'.toList) :
      Opens (p ++ (name.word ++ b ++ "(" ++ a ++ "," ++ b'))

-- ======================================================== what is read

/-- What is read at a place: a filter, or none, and where reading stops; or
an error. -/
abbrev Outcome := Except QueryError (Option Filter × Cursor)

/-- What is read where the text stands, behind the blanks in front of it. -/
def outcome (x : List Char) : Outcome :=
  match (⟨trimStart x⟩ : Cursor).readFilter with
  | .ok (some (f, place)) => .ok (some f, place)
  | .ok none => .ok (none, ⟨trimStart x⟩)
  | .error failure => .error failure.error

/-- The query that begins with what was read. -/
def Outcome.query : Outcome → Except QueryError Query
  | .ok (some f, place) =>
    (place.filters.map fun r => (⟨f :: r.1, r.2.remaining⟩ : Query)).mapError Failure.error
  | .ok (none, place) => .ok ⟨[], place.remaining⟩
  | .error e => .error e

/-- The entry that has what was read as a filter among its arguments: behind
the arguments `front` and in front of some of the given kinds. -/
def Outcome.entry (name : FilterName) (front : List Arg) (kinds : List ArgKind) :
    Outcome → Outcome
  | .ok (some f, place) =>
    match place.readArguments name false kinds with
    | .error e => .error e.error
    | .ok (args, last) =>
      match name.construct (front ++ .filter f :: args) with
      | .ok g => .ok (some g, last)
      | .error e => .error e
  | .ok (none, _) => .error (.malformedArgument name .filter)
  | .error e => .error e

/-- A query is told by what is read at its start. -/
theorem Query.parse_eq_outcome {q : String} {lead : List Char} (hq : q.toList = lead ++ x)
    (hlead : IsBlanks lead) : Query.parse q = (outcome x).query := by
  rw [Query.parse_eq hq hlead, filters_eq]
  unfold outcome Outcome.query
  rcases (⟨trimStart x⟩ : Cursor).readFilter with e | (_ | ⟨f, place⟩)
  · rfl
  · rfl
  · dsimp only
    cases place.filters <;> rfl

/-- An entry is told by what is read as its first filter. -/
theorem outcome_first (takes : name.params = .filter :: kinds) (hb : IsBlanks b)
    (hb' : IsBlanks b') (x : List Char) :
    outcome (name.word.toList ++ (b ++ '(' :: (b' ++ x)))
      = (outcome x).entry name [] kinds := by
  unfold outcome Outcome.entry
  rw [trimStart_word, readFilter_word_spaced name hb, takes, readArguments_open,
    trimStart_append_of_blank hb', readArgument_filter]
  rcases (⟨trimStart x⟩ : Cursor).readFilter with e | (_ | ⟨f, place⟩)
  · rfl
  · rfl
  · dsimp only
    cases place.readArguments name false kinds with
    | error e => rfl
    | ok r =>
        obtain ⟨args, last⟩ := r
        dsimp only [List.nil_append]
        cases name.construct (.filter f :: args) <;> rfl

/-- An entry is told by what is read as its second filter, behind a first one
that can be read. -/
theorem outcome_second {a : String} (takes : name.params = [.filter, .filter])
    (hb : IsBlanks b) (ha : Query.parse a = .ok ⟨[f], ""⟩) (hb' : IsBlanks b') (x : List Char) :
    outcome (name.word.toList ++ (b ++ '(' :: (a.toList ++ ',' :: (b' ++ x))))
      = (outcome x).entry name [.filter f] [] := by
  obtain ⟨lead, e, back, htext, hlead, hback, he⟩ := exists_expression_of_parse ha
  have hfirst : trimStart (a.toList ++ ',' :: (b' ++ x)) = e ++ (back ++ ',' :: (b' ++ x)) := by
    rw [htext, List.append_assoc, trimStart_append_of_blank hlead, List.append_assoc]
    refine trimStart_eq_self ?_
    rw [List.head?_append_of_ne_nil _ he.ne_nil]
    exact he.head?_not_blank
  have hread := (he.before (head?_blanks_append hback (d := ',') rfl (b' ++ x))).read
  have hcomma : trimStart (back ++ ',' :: (b' ++ x)) = ',' :: (b' ++ x) :=
    (longest_blanks_cons hback rfl _).trimStart_eq
  have hmark : Cursor.mark false = ',' := rfl
  unfold outcome Outcome.entry
  rw [trimStart_word, readFilter_word_spaced name hb, takes, readArguments_open, hfirst,
    readArgument_filter, hread, hcomma]
  dsimp only
  rewrite [readArguments_cons, hmark, separator?_cons, trimStart_append_of_blank hb']
  dsimp only
  rw [readArgument_filter]
  rcases (⟨trimStart x⟩ : Cursor).readFilter with e | (_ | ⟨g, place⟩)
  · rfl
  · rfl
  · dsimp only
    cases place.readArguments name false [] with
    | error e => rfl
    | ok r =>
        obtain ⟨args, last⟩ := r
        dsimp only [List.singleton_append]
        cases name.construct (.filter f :: .filter g :: args) <;> rfl

/-- A query is told by what is read at an opening in it: its result comes from
there, and an error there is its own. -/
theorem Opens.parse_eq (h : Opens p) :
    ∃ result : Outcome → Except QueryError Query, (∀ e, result (.error e) = .error e)
      ∧ ∀ x : String, Query.parse (p ++ x) = result (outcome x.toList) := by
  induction h with
  | start blanks =>
      refine ⟨Outcome.query, fun _ => rfl, fun x => ?_⟩
      exact Query.parse_eq_outcome String.toList_append blanks
  | @beside a w fs reads blanks apart =>
      refine ⟨fun o => o.query.map fun q => ⟨fs ++ q.filters, q.ignored⟩, fun _ => rfl, fun x => ?_⟩
      rw [Query.parse_append reads blanks apart,
        Query.parse_eq_outcome (q := x) (List.nil_append _).symm isBlanks_nil]
  | @first p b b' name kinds opens takes gap blanks ih =>
      obtain ⟨result, herror, hresult⟩ := ih
      refine ⟨fun o => result (o.entry name [] kinds), fun e => herror e, fun x => ?_⟩
      have htext : (name.word ++ b ++ "(" ++ b' ++ x).toList
          = name.word.toList ++ (b.toList ++ '(' :: (b'.toList ++ x.toList)) := by
        simp
      rw [String.append_assoc, hresult, htext, outcome_first takes gap blanks]
  | @second p b a b' name f opens takes gap reads blanks ih =>
      obtain ⟨result, herror, hresult⟩ := ih
      refine ⟨fun o => result (o.entry name [.filter f] []), fun e => herror e, fun x => ?_⟩
      have htext : (name.word ++ b ++ "(" ++ a ++ "," ++ b' ++ x).toList
          = name.word.toList
            ++ (b.toList ++ '(' :: (a.toList ++ ',' :: (b'.toList ++ x.toList))) := by
        simp
      rw [String.append_assoc, hresult, htext, outcome_second takes gap reads blanks]

-- ============================================================= numbers

/-- What a number in front of a text is read as. -/
def numberOutcome (ds k : List Char) : Outcome :=
  if decimal ds < wordLimit then
    .ok (some (.number (UInt64.ofNat (decimal ds))), ⟨trimStart k⟩)
  else .error (.integerOutOfRange (String.ofList ds))

theorem numberOutcome_of_le (h : wordLimit ≤ decimal ds) :
    numberOutcome ds k = .error (.integerOutOfRange (String.ofList ds)) :=
  if_neg (Nat.not_lt.2 h)

/-- Digits begin with no blank. -/
theorem trimStart_digits (hds : IsDigits ds) (k : List Char) :
    trimStart (ds ++ k) = ds ++ k := by
  refine trimStart_eq_self fun ch hch => ?_
  rw [List.head?_append_of_ne_nil _ hds.1] at hch
  exact isBlank_of_isDigit (hds.2 ch (List.mem_of_head? hch))

/-- A bare number is read up to the next character that is no digit. -/
theorem outcome_digits (hds : IsDigits ds) (hk : ∀ ch ∈ k.head?, isDigit ch = false) :
    outcome (ds ++ k) = numberOutcome ds k := by
  have hlongest : Longest IsDigits ds k := longest_isDigits_iff.2 ⟨hds, hk⟩
  unfold outcome numberOutcome
  rw [trimStart_digits hds, readFilter_eq, name?_of_digits hlongest]
  dsimp only
  rw [readNumber_eq, digits?_append hlongest]
  by_cases hfits : decimal ds < wordLimit
  · simp only [hfits, if_true]
    rfl
  · simp only [hfits, if_false]
    rfl

/-- The entry for numbers is read alike, and up to the same place. -/
theorem outcome_call_digits (hds : IsDigits ds) (hw : IsBlanks w) (hw' : IsBlanks w')
    (k : List Char) :
    outcome (FilterName.number.word.toList ++ '(' :: (w ++ (ds ++ (w' ++ ')' :: k))))
      = numberOutcome ds k := by
  have hlongest : Longest IsDigits ds (w' ++ ')' :: k) := by
    refine longest_isDigits_iff.2 ⟨hds, fun ch hch => ?_⟩
    have hpart := head?_blanks_append hw' (d := ')') rfl k ch hch
    cases hdigit : isDigit ch with
    | false => rfl
    | true =>
        rw [isNamePart_of_isNameEnd (isNameEnd_of_isDigit hdigit)] at hpart
        cases hpart
  have hclose : trimStart (w' ++ ')' :: k) = ')' :: k :=
    (longest_blanks_cons hw' rfl k).trimStart_eq
  have hparams : FilterName.number.params = [.integer] := rfl
  unfold outcome numberOutcome
  rw [trimStart_word, readFilter_word, hparams, readArguments_open,
    trimStart_append_of_blank hw, trimStart_digits hds, readArgument_integer, readNumber_eq,
    digits?_append hlongest]
  by_cases hfits : decimal ds < wordLimit
  · simp only [hfits, if_true]
    rw [hclose, readArguments_close, separator?_cons]
    rfl
  · simp only [hfits, if_false]

/-- A number that does not fit in a word is the error of every query that
reads it at an opening; and only such a number is. -/
theorem Opens.parse_outOfRange_iff {s : String} (h : Opens p) (hd : IsDigits d.toList)
    (hs : ∀ ch ∈ s.toList.head?, isDigit ch = false) :
    Query.parse (p ++ (d ++ s)) = .error (.integerOutOfRange d)
      ↔ wordLimit ≤ decimal d.toList := by
  constructor
  · intro herror
    obtain ⟨place, -, -, hlimit⟩ := parse_error_truthful herror
    exact hlimit
  · intro hlimit
    obtain ⟨result, herror, hresult⟩ := h.parse_eq
    rw [hresult, String.toList_append, outcome_digits hd hs, numberOutcome_of_le hlimit, herror,
      String.ofList_toList]

/-- A bare number is the entry for numbers called with it.  At every opening,
and whatever stands behind, if not another digit, `d` and `n(d)`, with blanks
in the brackets or without, give the same query, with the same filters and the
same text left over, or the same error; which is that `d` is out of range
exactly if its value is too large for a word. -/
theorem bare_number_is_call {s w w' : String} (h : Opens p) (hd : IsDigits d.toList)
    (hs : ∀ ch ∈ s.toList.head?, isDigit ch = false) (hw : IsBlanks w.toList)
    (hw' : IsBlanks w'.toList) :
    Query.parse (p ++ d ++ s) = Query.parse (p ++ FilterName.number.call (w ++ d ++ w') ++ s)
      ∧ (Query.parse (p ++ d ++ s) = .error (.integerOutOfRange d)
        ↔ wordLimit ≤ decimal d.toList) := by
  rw [String.append_assoc, String.append_assoc]
  refine ⟨?_, h.parse_outOfRange_iff hd hs⟩
  obtain ⟨result, -, hresult⟩ := h.parse_eq
  have hcall : (FilterName.number.call (w ++ d ++ w') ++ s).toList
      = FilterName.number.word.toList
        ++ '(' :: (w.toList ++ (d.toList ++ (w'.toList ++ ')' :: s.toList))) := by
    rw [String.toList_append, FilterName.toList_call]
    simp
  rw [hresult, hresult, hcall, String.toList_append, outcome_digits hd hs,
    outcome_call_digits hd hw hw']

/-- Leading zeros in the second filter of an entry behind another filter, and
the least number that is too large, deeper inside. -/
theorem bare_number_is_call_nested :
    Opens "open or( not(closed) , "
      ∧ Query.parse "open or( not(closed) , 007) !x"
        = Query.parse "open or( not(closed) , n( 007\t)) !x"
      ∧ Opens "open or( not(closed) , not("
      ∧ Query.parse "open or( not(closed) , not(18446744073709551616"
        = .error (.integerOutOfRange "18446744073709551616")
      ∧ Query.parse "open or( not(closed) , not(n(18446744073709551616)"
        = .error (.integerOutOfRange "18446744073709551616") := by
  have hspace : IsBlanks " ".toList := List.forall_mem_singleton.2 rfl
  have htab : IsBlanks "\t".toList := List.forall_mem_singleton.2 rfl
  have hnone : IsBlanks "".toList := isBlanks_nil
  have hopen : Query.parse "open" = .ok ⟨[.isOpen], ""⟩ := by cbv
  have hclosed : Query.parse " not(closed) " = .ok ⟨[.not .closed], ""⟩ := by cbv
  have hstart : Opens ("open" ++ " ") := .beside hopen hspace (by decide)
  have hpair : FilterName.or.params = [.filter, .filter] := rfl
  have hone : FilterName.not.params = [.filter] := rfl
  have hor : Opens "open or( not(closed) , " := .second hstart hpair hnone hclosed hspace
  have hnot : Opens "open or( not(closed) , not(" :=
    .first hor hone hnone hnone
  have hsmall : IsDigits "007".toList := ⟨by decide, by simp [isDigit]⟩
  have hlarge : IsDigits "18446744073709551616".toList := ⟨by decide, by simp [isDigit]⟩
  have hzeros := bare_number_is_call (s := ") !x") hor hsmall (outside_cons rfl _) hspace htab
  have hend : ∀ ch ∈ "".toList.head?, isDigit ch = false := by simp
  have hlimit := bare_number_is_call (s := "") hnot hlarge hend hnone hnone
  have herror := hlimit.2.2 (by decide)
  exact ⟨hor, hzeros.1, hnot, herror, hlimit.1.symm.trans herror⟩

end Docket
