/-
The parser follows the grammar.  Along a derivation every reader finds what
the grammar says and stops behind it and its blanks; and whatever a reader
finds has a derivation.  The second half goes by the number of characters
left, since an argument stands further behind than the name of its entry.

Main statements: reading an expression, an argument or a list of arguments
succeeds exactly along a derivation; a text is split into phrases in at
most one way; and a query is read exactly by its splitting.
-/
import Docket.Listing.Show
import Docket.Proofs.Query.Grammar
import Docket.Proofs.Query.Reading

namespace Docket

open Cursor

variable {e k rest : List Char} {f : Filter} {c c' : Cursor} {name : FilterName}
  {kind : ArgKind} {kinds : List ArgKind} {arg : Arg} {args : List Arg} {ps : List Phrase}

-- =================================================== derivations are read

/-- A digit run of a number that fits is read. -/
theorem readNumber_append (digits : Longest IsDigits e k) (fits : decimal e < wordLimit) :
    (⟨e ++ k⟩ : Cursor).readNumber
      = .ok (some (UInt64.ofNat (decimal e), ⟨trimStart k⟩)) := by
  rw [readNumber_eq, digits?_append digits]
  exact if_pos fits

/-- No name starts at a digit. -/
theorem name?_of_digits (digits : Longest IsDigits e k) : (⟨e ++ k⟩ : Cursor).name? = none := by
  obtain ⟨hne, hall⟩ := digits.1
  rw [name?_eq_none_iff]
  intro a ha
  rw [show (⟨e ++ k⟩ : Cursor).rest = e ++ k from rfl, List.head?_append_of_ne_nil _ hne] at ha
  exact isLetter_of_isDigit (hall a (List.mem_of_head? ha))

mutual

/-- An expression of the grammar is read up to the text behind it. -/
theorem Expression.read : ∀ {e k : List Char} {f : Filter}, Expression e k f →
    (⟨e ++ k⟩ : Cursor).readFilter = .ok (some (f, ⟨trimStart k⟩))
  | _, _, _, .number digits fits => by
      rw [readFilter_eq, name?_of_digits digits]
      show Except.map _ (Cursor.readNumber _) = _
      rw [readNumber_append digits fits]
      rfl
  | _, k, f, @Expression.bare name _ _ word takesNone means => by
      rw [readFilter_eq, name?_append word]
      dsimp only
      rw [String.ofList_toList, FilterName.ofWord?_word]
      dsimp only
      rw [takesNone, readArguments_none]
      dsimp only
      rw [means.construct]
  | _, k, f, @Expression.call name b as _ args _ word gap list means => by
      have hname : (⟨name.word.toList ++ (b ++ as) ++ k⟩ : Cursor).name?
          = some (name.word, ⟨as ++ k⟩) := by
        rw [List.append_assoc, List.append_assoc, name?_append word, gap.trimStart_eq,
          String.ofList_toList]
      rw [readFilter_eq, hname]
      dsimp only
      rw [FilterName.ofWord?_word]
      dsimp only
      rw [list.read name true rfl]
      dsimp only
      rw [means.construct]

/-- A list of arguments of the grammar is read up to the text behind it. -/
theorem Arguments.read (name : FilterName) : ∀ {mark : Char} {kinds : List ArgKind}
    {as k : List Char} {args : List Arg}, Arguments mark kinds as k args →
    ∀ first : Bool, mark = Cursor.mark first →
    (⟨as ++ k⟩ : Cursor).readArguments name first kinds = .ok (args, ⟨trimStart k⟩)
  | _, _, _, k, _, .close, first, hmark => by
      cases first with
      | true => cases hmark
      | false =>
          have hsep : (⟨[')'] ++ k⟩ : Cursor).separator? ')' = some ⟨trimStart k⟩ :=
            separator?_cons ')' k
          rw [readArguments_close, hsep]
  | _, _, _, _, _, @Arguments.next mark kind kinds b a b' as k arg args lead head gap list,
      first, hmark => by
      have hsep : (⟨mark :: (b ++ (a ++ (b' ++ as))) ++ k⟩ : Cursor).separator?
          (Cursor.mark first) = some ⟨a ++ (b' ++ (as ++ k))⟩ := by
        rw [← hmark, List.cons_append, separator?_cons]
        simp only [List.append_assoc]
        rw [lead.trimStart_eq]
      rw [readArguments_cons, hsep]
      dsimp only
      rw [head.read name, gap.trimStart_eq]
      dsimp only
      rw [list.read name false rfl]

/-- An argument of the grammar is read up to the text behind it. -/
theorem Argument.read (name : FilterName) : ∀ {kind : ArgKind} {a k : List Char} {arg : Arg},
    Argument kind a k arg →
    (⟨a ++ k⟩ : Cursor).readArgument name kind = .ok (arg, ⟨trimStart k⟩)
  | _, _, _, _, @Argument.string t b k inside trimmed blanks => by
      have hopen : ')' ∉ t ++ b := by
        intro hmem
        rcases List.mem_append.1 hmem with hmem | hmem
        · exact inside hmem
        · cases blanks ')' hmem
      have hclose : Longest IsBlanks b (')' :: k) := longest_blanks_cons blanks rfl k
      rw [readArgument_string, ← List.append_assoc, upToClose?_append hopen]
      dsimp only
      rw [trim_append_of_blank blanks, trimmed, hclose.trimStart_eq]
  | _, _, _, _, .integer digits fits => by
      rw [readArgument_integer, readNumber_append digits fits]
  | _, _, _, _, .filter expression => by
      rw [readArgument_filter, expression.read]

end

-- ============================================== what is read is derived

/-- What is read as an expression at `c` is one, and reading stops at the
text behind it. -/
def Derived (c : Cursor) : Prop :=
  ∀ f c', c.readFilter = .ok (some (f, c')) →
    ∃ e k, c.rest = e ++ k ∧ Expression e k f ∧ c' = ⟨trimStart k⟩

/-- A number that is read is a digit run that fits. -/
theorem exists_digits_of_readNumber {n : UInt64} (h : c.readNumber = .ok (some (n, c'))) :
    ∃ ds k, c.rest = ds ++ k ∧ Longest IsDigits ds k ∧ decimal ds < wordLimit
      ∧ n = UInt64.ofNat (decimal ds) ∧ c' = ⟨trimStart k⟩ := by
  obtain ⟨ds, hds, fits, hn⟩ := exists_of_readNumber h
  obtain ⟨k, hrest, digits, hc'⟩ := exists_of_digits? hds
  exact ⟨ds, k, hrest, digits, fits, hn, hc'⟩

/-- An argument that is read behind its blanks is one of the grammar, if
that holds of an expression there. -/
theorem exists_argument_of_readArgument (hc : Derived c)
    (hstart : ∀ ch ∈ c.rest.head?, isBlank ch = false)
    (h : c.readArgument name kind = .ok (arg, c')) :
    ∃ a k, c.rest = a ++ k ∧ Argument kind a k arg ∧ c' = ⟨trimStart k⟩ := by
  cases kind with
  | string =>
      rw [readArgument_string] at h
      split at h
      · next s place hs =>
        cases h
        obtain ⟨t, k, hrest, hopen, rfl, rfl⟩ := exists_of_upToClose? hs
        -- the text begins with no blank, so only its end is trimmed
        have hhead : ∀ ch ∈ t.head?, isBlank ch = false := by
          intro ch hch
          refine hstart ch ?_
          have hne : t ≠ [] := by rintro rfl; cases hch
          rw [hrest, List.head?_append_of_ne_nil _ hne]
          exact hch
        obtain ⟨b, blanks, hb⟩ := exists_trimEnd_append t
        have htrim : trim t = trimEnd t := trim_eq_trimEnd hhead
        have hself : trim (trimEnd t) = trimEnd t := by
          rw [← htrim]
          conv => rhs; rw [hb]
          rw [trim_append_of_blank blanks, htrim]
        have hclose : Longest IsBlanks b (')' :: k) := longest_blanks_cons blanks rfl k
        refine ⟨trimEnd t, b ++ ')' :: k, ?_, ?_, by rw [hclose.trimStart_eq]⟩
        · rw [hrest, ← List.append_assoc, ← hb]
        · rw [htrim]
          refine .string (fun hmem => hopen ?_) hself blanks
          rw [hb]
          exact List.mem_append_left _ hmem
      · cases h
  | integer =>
      rw [readArgument_integer] at h
      split at h
      · next n place hn =>
        cases h
        obtain ⟨ds, k, hrest, digits, fits, rfl, hc'⟩ := exists_digits_of_readNumber hn
        exact ⟨ds, k, hrest, .integer digits fits, hc'⟩
      · cases h
      · cases h
  | filter =>
      rw [readArgument_filter] at h
      split at h
      · next f place hf =>
        cases h
        obtain ⟨e, k, hrest, expression, hc'⟩ := hc f _ hf
        exact ⟨e, k, hrest, .filter expression, hc'⟩
      · cases h
      · cases h

/-- A list of arguments that is read is one of the grammar, if that holds
of the expressions behind its first separator. -/
theorem exists_arguments_of_readArguments {n : Nat} (hn : ∀ c : Cursor, c.size < n → Derived c) :
    ∀ (kinds : List ArgKind) (first : Bool) (c : Cursor) (args : List Arg), c.size ≤ n →
      (first = true → kinds ≠ []) → c.readArguments name first kinds = .ok (args, c') →
      ∃ as k, c.rest = as ++ k ∧ Arguments (Cursor.mark first) kinds as k args
        ∧ c' = ⟨trimStart k⟩ := by
  intro kinds
  induction kinds with
  | nil =>
      intro first c args hle hfirst h
      obtain rfl : first = false := by
        cases first with
        | true => exact absurd rfl (hfirst rfl)
        | false => rfl
      obtain ⟨rfl, hsep⟩ := exists_of_readArguments_close h
      obtain ⟨k, hrest, hc'⟩ := exists_of_separator? hsep
      exact ⟨[')'], k, hrest, .close, hc'⟩
  | cons kind kinds ih =>
      intro first c args hle hfirst h
      obtain ⟨inside, arg, place, rest, hsep, harg, hargs, rfl⟩ :=
        exists_of_readArguments_cons h
      have hinside := size_of_separator? hsep
      have hplace := size_of_readArgument harg
      obtain ⟨r, hrest, rfl⟩ := exists_of_separator? hsep
      obtain ⟨a, ka, ha, head, rfl⟩ := exists_argument_of_readArgument (c := ⟨trimStart r⟩)
        (hn _ (by omega)) (fun _ hd => head?_trimStart hd) harg
      obtain ⟨as, k, has, list, hc'⟩ := ih false _ rest (by omega) (by simp) hargs
      simp only at ha has
      obtain ⟨b, hr, lead⟩ := exists_longest_blanks r
      obtain ⟨b', hka, gap⟩ := exists_longest_blanks ka
      rw [ha] at hr lead
      rw [has] at hka gap
      rw [hka] at hr lead head
      refine ⟨_, k, ?_, .next lead head gap list, hc'⟩
      calc c.rest = Cursor.mark first :: (b ++ (a ++ (b' ++ (as ++ k)))) := by rw [hrest, hr]
        _ = _ := by simp

/-- An expression that is read is one of the grammar. -/
theorem derived (c : Cursor) : Derived c := by
  induction c using induction_behind with
  | step c ih =>
      intro f c' h
      rcases cases_of_readFilter h with
        ⟨-, n, hn, rfl⟩ | ⟨word, place, name, args, hname, hword, hargs, hf⟩
      · obtain ⟨ds, k, hrest, digits, fits, rfl, hc'⟩ := exists_digits_of_readNumber hn
        exact ⟨ds, k, hrest, .number digits fits, hc'⟩
      · have means := denotes_of_construct hf
        have hplace := size_of_name? hname
        obtain ⟨k, hrest, longest, rfl⟩ := exists_of_name? hname
        obtain rfl := FilterName.word_of_ofWord? hword
        by_cases hnone : name.params = []
        · rw [hnone, readArguments_none] at hargs
          cases hargs
          exact ⟨_, k, hrest, .bare longest hnone means, rfl⟩
        · obtain ⟨as, k', has, list, hc'⟩ := exists_arguments_of_readArguments
            (fun c' hc' => ih c' (by omega)) name.params true _ args (Nat.le_refl _)
            (fun _ => hnone) hargs
          simp only at has
          obtain ⟨b, hk, gap⟩ := exists_longest_blanks k
          rw [has] at hk gap
          rw [hk] at hrest longest
          refine ⟨_, k', ?_, .call longest gap list means, hc'⟩
          rw [hrest]
          simp

-- ================================================== queries and splittings

/-- No expression is read exactly where none can start. -/
theorem readFilter_eq_none_iff_startsNone :
    c.readFilter = .ok none ↔ StartsNone c.rest := by
  rw [readFilter_eq_none_iff, name?_eq_none_iff, digits?_eq_none_iff]
  constructor
  · exact fun h d hd => ⟨h.1 d hd, h.2 d hd⟩
  · exact fun h => ⟨fun d hd => (h d hd).1, fun d hd => (h d hd).2⟩

/-- Behind an expression, reading goes on at the text behind it. -/
theorem Expression.filters_eq (h : Expression e k f) :
    (⟨e ++ k⟩ : Cursor).filters
      = (⟨trimStart k⟩ : Cursor).filters.map fun r => (f :: r.1, r.2) := by
  rw [Cursor.filters_eq, h.read]

/-- Phrases are read one by one, up to the rest behind them. -/
theorem Phrases.read (h : Phrases rest ps) :
    (⟨Phrase.join ps rest⟩ : Cursor).filters = .ok (ps.map Phrase.filter, ⟨rest⟩) := by
  induction h with
  | nil ends =>
      have hnone : (⟨rest⟩ : Cursor).readFilter = .ok none :=
        readFilter_eq_none_iff_startsNone.2 ends
      show (⟨rest⟩ : Cursor).filters = _
      rw [Cursor.filters_eq, hnone]
      rfl
  | @cons p ps head gap tail ih =>
      show (⟨p.text ++ (p.gap ++ Phrase.join ps rest)⟩ : Cursor).filters = _
      rw [head.filters_eq, gap.trimStart_eq, ih]
      rfl

/-- What is read as a query is phrases and a rest. -/
theorem exists_phrases_of_filters (c : Cursor) :
    ∀ fs last, c.filters = .ok (fs, last) →
      ∃ ps, c.rest = Phrase.join ps last.rest ∧ Phrases last.rest ps
        ∧ ps.map Phrase.filter = fs := by
  induction c using induction_behind with
  | step c ih =>
      intro fs last h
      rw [Cursor.filters_eq] at h
      split at h
      · cases h
      · next hnone =>
        cases h
        exact ⟨[], rfl, .nil (readFilter_eq_none_iff_startsNone.1 hnone), rfl⟩
      · next f place hf =>
        have hplace := size_of_readFilter hf
        obtain ⟨e, k, hrest, head, rfl⟩ := derived c f place hf
        cases hr : (⟨trimStart k⟩ : Cursor).filters with
        | error e => rw [hr] at h; cases h
        | ok r =>
            rw [hr] at h
            cases h
            obtain ⟨ps, hps, tail, hfs⟩ := ih _ hplace r.1 r.2 hr
            simp only at hps
            obtain ⟨b, hk, gap⟩ := exists_longest_blanks k
            rw [hps] at hk gap
            rw [hk] at hrest head
            refine ⟨⟨e, b, f⟩ :: ps, hrest, .cons head gap tail, ?_⟩
            rw [List.map_cons, hfs]

/-- A text is made up of phrases and a rest in at most one way. -/
theorem Phrases.unique (h : Phrases rest ps) :
    ∀ {rest' : List Char} {ps' : List Phrase}, Phrases rest' ps' →
      Phrase.join ps rest = Phrase.join ps' rest' → ps = ps' ∧ rest = rest' := by
  -- an expression begins with what starts none
  have hstart : ∀ {e k r : List Char} {f : Filter}, Expression e k f → StartsNone r →
      r ≠ e ++ k := by
    rintro e k r f he hr rfl
    have h := he.read
    rw [readFilter_eq_none_iff_startsNone.2 hr] at h
    cases h
  induction h with
  | nil ends =>
      intro rest' ps' h' heq
      cases h' with
      | nil ends' => exact ⟨rfl, heq⟩
      | cons head' gap' tail' => exact absurd heq (hstart head' ends)
  | @cons p ps head gap tail ih =>
      intro rest' ps' h' heq
      cases h' with
      | nil ends' => exact absurd heq.symm (hstart head ends')
      | @cons p' ps' head' gap' tail' =>
          obtain ⟨text, b, f⟩ := p
          obtain ⟨text', b', f'⟩ := p'
          simp only [Phrase.join] at heq head gap head' gap'
          -- both are what the reader finds, so they agree on all but the blanks
          have hread := head.read
          rw [heq, head'.read, gap.trimStart_eq, gap'.trimStart_eq] at hread
          injection hread with hread
          injection hread with hread
          injection hread with hf hjoin
          obtain ⟨rfl, rfl⟩ := ih tail' (Cursor.mk.inj hjoin).symm
          rw [← List.append_assoc, ← List.append_assoc] at heq
          have htext := head.text_unique head' gap.1 gap'.1 (List.append_cancel_right heq)
          subst htext hf
          rw [List.append_assoc, List.append_assoc] at heq
          obtain ⟨rfl, -⟩ := gap.blanks_unique gap' (List.append_cancel_left heq)
          exact ⟨rfl, rfl⟩

/-- A text has at most one splitting. -/
theorem Split.unique {text : List Char} (s t : Split text) : s = t := by
  obtain ⟨lead, ps, rest, whole, blanks, derived⟩ := s
  obtain ⟨lead', ps', rest', whole', blanks', derived'⟩ := t
  obtain ⟨rfl, hjoin⟩ := blanks.blanks_unique blanks' (whole.symm.trans whole')
  obtain ⟨rfl, rfl⟩ := derived.unique derived' hjoin
  rfl

/-- A query that is made up of blanks, phrases and a rest is read as the
filters of the phrases and that rest. -/
theorem parse_of_phrases {q : String} {lead : List Char}
    (hq : q.toList = lead ++ Phrase.join ps rest)
    (blanks : Longest IsBlanks lead (Phrase.join ps rest)) (derived : Phrases rest ps) :
    Query.parse q = .ok ⟨ps.map Phrase.filter, String.ofList rest⟩ := by
  have hread := derived.read
  rw [← blanks.trimStart_eq, ← hq] at hread
  have hfilters : (Cursor.ofString q).filters = .ok (ps.map Phrase.filter, ⟨rest⟩) := hread
  unfold Query.parse
  rw [hfilters]
  rfl

/-- A query that is read is made up of blanks, phrases and a rest. -/
theorem exists_phrases_of_parse {q rest : String} {fs : List Filter}
    (h : Query.parse q = .ok ⟨fs, rest⟩) :
    ∃ lead ps, q.toList = lead ++ Phrase.join ps rest.toList
      ∧ Longest IsBlanks lead (Phrase.join ps rest.toList) ∧ Phrases rest.toList ps
      ∧ ps.map Phrase.filter = fs := by
  unfold Query.parse at h
  split at h
  · next fs' last hread =>
    cases h
    obtain ⟨ps, hjoin, derived, hfs⟩ := exists_phrases_of_filters _ _ _ hread
    have hjoin : trimStart q.toList = Phrase.join ps last.rest := hjoin
    rw [show last.remaining.toList = last.rest from String.toList_ofList]
    obtain ⟨lead, whole, blanks⟩ := exists_longest_blanks q.toList
    rw [hjoin] at whole blanks
    exact ⟨lead, ps, whole, blanks, derived, hfs⟩
  · cases h

/-- An expression with nothing behind it is read as its filter, with nothing
left over. -/
theorem Expression.parse (h : Expression e [] f) :
    Query.parse (String.ofList e) = .ok ⟨[f], ""⟩ := by
  have hgap : Longest IsBlanks [] (Phrase.join [] []) :=
    longest_isBlanks_iff.2 ⟨isBlanks_nil, nofun⟩
  have hps : Phrases [] [⟨e, [], f⟩] := .cons h hgap (.nil nofun)
  have hjoin : Phrase.join [⟨e, [], f⟩] [] = e := by simp [Phrase.join]
  have htext : (String.ofList e).toList = [] ++ Phrase.join [⟨e, [], f⟩] [] := by
    rw [String.toList_ofList, hjoin]
    rfl
  have hstart : Longest IsBlanks [] (Phrase.join [⟨e, [], f⟩] []) := by
    rw [hjoin]
    exact longest_isBlanks_iff.2 ⟨isBlanks_nil, h.head?_not_blank⟩
  exact parse_of_phrases htext hstart hps

/-- A query that is read as one filter, with nothing left over, is an
expression with blanks around it. -/
theorem exists_expression_of_parse {q : String} (h : Query.parse q = .ok ⟨[f], ""⟩) :
    ∃ lead e back, q.toList = lead ++ (e ++ back) ∧ IsBlanks lead ∧ IsBlanks back
      ∧ Expression e [] f := by
  obtain ⟨lead, ps, whole, blanks, derived, hfs⟩ := exists_phrases_of_parse h
  obtain ⟨p, rfl, rfl⟩ := List.map_eq_singleton_iff.1 hfs
  cases derived with
  | cons head gap tail =>
      refine ⟨lead, p.text, p.gap, ?_, blanks.1, gap.1, head.cut rfl⟩
      rw [whole]
      simp [Phrase.join]

/-- A splitting of a query is what is read from it. -/
theorem Split.parse {q : String} (s : Split q.toList) :
    Query.parse q = .ok ⟨s.filters, String.ofList s.rest⟩ :=
  parse_of_phrases s.whole s.blanks s.derived

/-- What is read from a query comes from a splitting. -/
theorem exists_split_of_parse {q : String} {fs : List Filter} {rest : String}
    (h : Query.parse q = .ok ⟨fs, rest⟩) :
    ∃ s : Split q.toList, s.filters = fs ∧ String.ofList s.rest = rest := by
  obtain ⟨lead, ps, whole, blanks, derived, hfs⟩ := exists_phrases_of_parse h
  exact ⟨⟨lead, ps, rest.toList, whole, blanks, derived⟩, hfs, String.ofList_toList⟩

/-- The parser is the grammar.  A query is read as filters and an ignored
rest exactly when it has a splitting into phrases for those filters and
that rest; it has at most one; and what is said about it is the rest, if
there is any, and the number of filters. -/
theorem parse_follows_grammar (q : String) :
    (∀ fs rest, Query.parse q = .ok ⟨fs, rest⟩
        ↔ ∃ s : Split q.toList, s.filters = fs ∧ String.ofList s.rest = rest)
      ∧ (∀ s t : Split q.toList, s = t)
      ∧ ∀ s : Split q.toList,
        (parseQuery q).events.map (fun e => (e.level, e.message, e.fields))
          = (if s.rest = [] then [] else
              [(.debug, "ignoring unparsed query input",
                [("rest", .text (String.ofList s.rest))])])
            ++ [(.debug, "parsed query", [("count", .count s.phrases.length)])] := by
  refine ⟨fun fs rest => ⟨exists_split_of_parse, ?_⟩, Split.unique, fun s => ?_⟩
  · rintro ⟨s, rfl, rfl⟩
    exact s.parse
  · have hevents : (parseQuery q).events = Query.events ⟨s.filters, String.ofList s.rest⟩ := by
      unfold parseQuery
      rw [s.parse]
      exact (Run.events_bind rfl _).trans ((List.append_nil _).trans (Run.events_tell _))
    have hlength : s.filters.length = s.phrases.length := List.length_map ..
    rw [hevents]
    unfold Query.events
    by_cases hrest : s.rest = []
    · simp [hrest, hlength, Event.level, Event.message, Event.fields]
    · simp [hrest, hlength, Event.level, Event.message, Event.fields]

end Docket
