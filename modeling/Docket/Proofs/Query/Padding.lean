/-
Blanks around a query.  Blanks in front are skipped before anything is
read.  Blanks behind change no step of a cursor: each step reads the same
and stops at the same place, which has the blanks behind it.  So reading
commutes with putting blanks behind a text, for good and bad results alike,
and by one induction on the text left for whole expressions.

Main statements: every reader gives the same with blanks behind its text; a
query with blanks around it has the same filters, or the same error, and so
has the trimmed query.
-/
import Docket.Proofs.Query.Parsing

namespace Docket

open Cursor

variable {b : List Char} {c c' : Cursor} {name : FilterName} {kind : ArgKind}
  {kinds : List ArgKind} {arg : Arg} {f : Filter}

-- ======================================================= padded places

/-- No blank is in front. -/
def Cursor.Settled (c : Cursor) : Prop := ∀ d ∈ c.rest.head?, isBlank d = false

/-- The place with more text behind it. -/
def Cursor.padded (b : List Char) (c : Cursor) : Cursor := ⟨trimStart (c.rest ++ b)⟩

/-- The failure with more text behind its place. -/
def Failure.padded (b : List Char) (e : Failure) : Failure := ⟨e.error, e.place.padded b⟩

/-- The same value, with more text behind the place. -/
def padPlace {α : Type} (b : List Char) (r : α × Cursor) : α × Cursor := (r.1, r.2.padded b)

/-- The same result, with more text behind the place where reading
stopped. -/
def padResult {α : Type} (b : List Char) (move : α → α) : Except Failure α → Except Failure α
  | .ok r => .ok (move r)
  | .error e => .error (e.padded b)

/-- Skipping leaves no blank in front. -/
theorem settled_trimStart (k : List Char) : Settled ⟨trimStart k⟩ :=
  fun _ hd => head?_trimStart hd

/-- Text is put behind a place before or after blanks are skipped there. -/
theorem padded_trimStart (b k : List Char) :
    (⟨trimStart k⟩ : Cursor).padded b = ⟨trimStart (k ++ b)⟩ := by
  have hk := takeWhile_append_trimStart k
  have hblank : ∀ d ∈ k.takeWhile isBlank, isBlank d = true :=
    fun d hd => List.mem_takeWhile_imp hd
  unfold padded
  conv => rhs; rw [← hk, List.append_assoc, trimStart_append_of_blank hblank]

/-- Where text is left, what is put behind stands behind it. -/
theorem padded_of_ne_nil (hc : c.Settled) (hne : c.rest ≠ []) :
    c.padded b = ⟨c.rest ++ b⟩ := by
  unfold padded
  rw [trimStart_eq_self]
  rwa [List.head?_append_of_ne_nil _ hne]

/-- Where no text is left, blanks put behind are skipped. -/
theorem padded_of_nil (hb : IsBlanks b) (hnil : c.rest = []) : c.padded b = ⟨[]⟩ := by
  unfold padded
  rw [hnil, List.nil_append, ← List.append_nil b, trimStart_append_of_blank hb]
  rfl

/-- Blanks put behind do not change the next character. -/
theorem peek_padded (hb : IsBlanks b) (hc : c.Settled) : (c.padded b).peek = c.peek := by
  by_cases hnil : c.rest = []
  · rw [padded_of_nil hb hnil]
    unfold peek
    rw [hnil]
  · rw [padded_of_ne_nil hc hnil]
    exact List.head?_append_of_ne_nil _ hnil

/-- A name is as long with blanks behind. -/
theorem Longest.name_pad {w k : List Char} (hb : IsBlanks b) (h : Longest IsName w k) :
    Longest IsName w (k ++ b) := by
  cases b with
  | nil => simpa using h
  | cons d b => exact h.name_extend (isNamePart_of_isBlank (hb d (by simp))) b

/-- A digit run is as long with blanks behind. -/
theorem Longest.digits_pad {w k : List Char} (hb : IsBlanks b) (h : Longest IsDigits w k) :
    Longest IsDigits w (k ++ b) := by
  cases b with
  | nil => simpa using h
  | cons d b => exact h.digits_extend (isNamePart_of_isBlank (hb d (by simp))) b

-- ======================================================== padded steps

/-- The name in front is the same with blanks behind. -/
theorem name?_padded (hb : IsBlanks b) (hc : c.Settled) :
    (c.padded b).name? = c.name?.map (padPlace b) := by
  cases hname : c.name? with
  | none =>
      rw [name?_eq_none_iff] at hname
      show (c.padded b).name? = none
      rw [name?_eq_none_iff]
      intro a ha
      have hpeek := peek_padded hb hc
      unfold peek at hpeek
      rw [hpeek] at ha
      exact hname a ha
  | some r =>
      obtain ⟨s, c'⟩ := r
      obtain ⟨k, hrest, longest, rfl⟩ := exists_of_name? hname
      have hne : c.rest ≠ [] := by
        rw [hrest]
        exact fun h => (longest_isName_iff.1 longest).1 (List.append_eq_nil_iff.1 h).1
      rw [padded_of_ne_nil hc hne, hrest, List.append_assoc, name?_append (longest.name_pad hb),
        String.ofList_toList]
      show _ = some (s, (⟨trimStart k⟩ : Cursor).padded b)
      rw [padded_trimStart]

/-- The digit run in front is the same with blanks behind. -/
theorem digits?_padded (hb : IsBlanks b) (hc : c.Settled) :
    (c.padded b).digits? = c.digits?.map (padPlace b) := by
  cases hdigits : c.digits? with
  | none =>
      rw [digits?_eq_none_iff] at hdigits
      show (c.padded b).digits? = none
      rw [digits?_eq_none_iff]
      intro d hd
      have hpeek := peek_padded hb hc
      unfold peek at hpeek
      rw [hpeek] at hd
      exact hdigits d hd
  | some r =>
      obtain ⟨ds, c'⟩ := r
      obtain ⟨k, hrest, longest, rfl⟩ := exists_of_digits? hdigits
      have hne : c.rest ≠ [] := by
        rw [hrest]
        exact fun h => longest.1.1 (List.append_eq_nil_iff.1 h).1
      rw [padded_of_ne_nil hc hne, hrest, List.append_assoc,
        digits?_append (longest.digits_pad hb)]
      show _ = some (ds, (⟨trimStart k⟩ : Cursor).padded b)
      rw [padded_trimStart]

/-- The text in front of the next `)` is the same with blanks behind. -/
theorem upToClose?_padded (hb : IsBlanks b) (hc : c.Settled) :
    (c.padded b).upToClose? = c.upToClose?.map (padPlace b) := by
  cases hclose : c.upToClose? with
  | none =>
      rw [upToClose?_eq_none_iff] at hclose
      show (c.padded b).upToClose? = none
      rw [upToClose?_eq_none_iff]
      intro hmem
      rcases List.mem_append.1 ((trimStart_suffix _).subset hmem) with hmem | hmem
      · exact hclose hmem
      · cases hb ')' hmem
  | some r =>
      obtain ⟨s, c'⟩ := r
      obtain ⟨t, k, hrest, hopen, rfl, rfl⟩ := exists_of_upToClose? hclose
      have hne : c.rest ≠ [] := by simp [hrest]
      have hsettled : Settled ⟨')' :: k⟩ := outside_cons rfl k
      have hplace : (⟨')' :: k⟩ : Cursor).padded b = ⟨')' :: (k ++ b)⟩ :=
        padded_of_ne_nil hsettled (by simp)
      rw [padded_of_ne_nil hc hne, hrest, List.append_assoc, List.cons_append,
        upToClose?_append hopen]
      show _ = some (String.ofList (trim t), (⟨')' :: k⟩ : Cursor).padded b)
      rw [hplace]

/-- The separator in front is the same with blanks behind. -/
theorem separator?_padded (hb : IsBlanks b) (hc : c.Settled) (ch : Char) :
    (c.padded b).separator? ch = (c.separator? ch).map (padded b) := by
  cases hsep : c.separator? ch with
  | none =>
      rw [separator?_eq_none_iff] at hsep
      show (c.padded b).separator? ch = none
      rw [separator?_eq_none_iff, peek_padded hb hc]
      exact hsep
  | some c' =>
      obtain ⟨k, hrest, rfl⟩ := exists_of_separator? hsep
      rw [padded_of_ne_nil hc (by simp [hrest]), hrest, List.cons_append, separator?_cons]
      show _ = some ((⟨trimStart k⟩ : Cursor).padded b)
      rw [padded_trimStart]

-- ====================================================== settled places

/-- Behind a name no blank is in front. -/
theorem settled_of_name? {s : String} (h : c.name? = some (s, c')) : c'.Settled := by
  obtain ⟨k, -, -, rfl⟩ := exists_of_name? h
  exact settled_trimStart k

/-- Behind a separator no blank is in front. -/
theorem settled_of_separator? {ch : Char} (h : c.separator? ch = some c') : c'.Settled := by
  obtain ⟨k, -, rfl⟩ := exists_of_separator? h
  exact settled_trimStart k

/-- Behind an expression no blank is in front. -/
theorem settled_of_readFilter (h : c.readFilter = .ok (some (f, c'))) : c'.Settled := by
  obtain ⟨-, k, -, -, rfl⟩ := derived c f c' h
  exact settled_trimStart k

/-- Behind an argument no blank is in front. -/
theorem settled_of_readArgument (hc : c.Settled) (h : c.readArgument name kind = .ok (arg, c')) :
    c'.Settled := by
  obtain ⟨-, k, -, -, rfl⟩ := exists_argument_of_readArgument (derived c) hc h
  exact settled_trimStart k

-- ====================================================== padded readers

/-- A number is the same with blanks behind. -/
theorem readNumber_padded (hb : IsBlanks b) (hc : c.Settled) :
    (c.padded b).readNumber = padResult b (Option.map (padPlace b)) c.readNumber := by
  rw [readNumber_eq, readNumber_eq, digits?_padded hb hc]
  cases c.digits? with
  | none => rfl
  | some r =>
      obtain ⟨ds, place⟩ := r
      show (if decimal ds < wordLimit then _ else _) = padResult b _ (if _ then _ else _)
      split <;> rfl

/-- An expression at `c` is the same with blanks behind. -/
def PaddedAt (b : List Char) (c : Cursor) : Prop :=
  c.Settled → (c.padded b).readFilter = padResult b (Option.map (padPlace b)) c.readFilter

/-- An argument is the same with blanks behind, if an expression there
is. -/
theorem readArgument_padded (hb : IsBlanks b) (hc : c.Settled) (hexpr : PaddedAt b c) :
    (c.padded b).readArgument name kind
      = padResult b (padPlace b) (c.readArgument name kind) := by
  cases kind with
  | string =>
      rw [readArgument_string, readArgument_string, upToClose?_padded hb hc]
      cases c.upToClose? <;> rfl
  | integer =>
      rw [readArgument_integer, readArgument_integer, readNumber_padded hb hc]
      rcases c.readNumber with e | (_ | r) <;> rfl
  | filter =>
      rw [readArgument_filter, readArgument_filter, hexpr hc]
      rcases c.readFilter with e | (_ | r) <;> rfl

/-- A list of arguments is the same with blanks behind, if the expressions
behind its first separator are. -/
theorem readArguments_padded (hb : IsBlanks b) {n : Nat}
    (hn : ∀ c : Cursor, c.size < n → PaddedAt b c) :
    ∀ (kinds : List ArgKind) (first : Bool) (c : Cursor), c.size ≤ n → c.Settled →
      (c.padded b).readArguments name first kinds
        = padResult b (padPlace b) (c.readArguments name first kinds) := by
  intro kinds
  induction kinds with
  | nil =>
      intro first c hle hc
      cases first with
      | true =>
          rw [readArguments_none, readArguments_none]
          rfl
      | false =>
          rw [readArguments_close, readArguments_close, separator?_padded hb hc,
            peek_padded hb hc]
          cases c.separator? ')' <;> rfl
  | cons kind kinds ih =>
      intro first c hle hc
      rw [readArguments_cons, readArguments_cons, separator?_padded hb hc, peek_padded hb hc]
      cases hsep : c.separator? (mark first) with
      | none => rfl
      | some inside =>
          have hsize := size_of_separator? hsep
          have hinside := settled_of_separator? hsep
          dsimp only [Option.map]
          rw [readArgument_padded hb hinside (hn inside (by omega))]
          cases harg : inside.readArgument name kind with
          | error e => rfl
          | ok r =>
              obtain ⟨arg, place⟩ := r
              have hplace := size_of_readArgument harg
              dsimp only [padResult, padPlace]
              rw [ih false place (by omega) (settled_of_readArgument hinside harg)]
              cases place.readArguments name false kinds <;> rfl

/-- An expression is the same with blanks behind. -/
theorem readFilter_padded (hb : IsBlanks b) (c : Cursor) : PaddedAt b c := by
  induction c using induction_behind with
  | step c ih =>
      intro hc
      rw [readFilter_eq, readFilter_eq, name?_padded hb hc]
      cases hname : c.name? with
      | none =>
          dsimp only [Option.map]
          rw [readNumber_padded hb hc]
          rcases c.readNumber with e | (_ | r) <;> rfl
      | some r =>
          obtain ⟨word, place⟩ := r
          have hsize := size_of_name? hname
          dsimp only [Option.map, padPlace]
          cases FilterName.ofWord? word with
          | none => rfl
          | some name =>
              dsimp only
              rw [readArguments_padded hb (fun c' hc' => ih c' (by omega)) name.params true place
                (Nat.le_refl _) (settled_of_name? hname)]
              cases place.readArguments name true name.params with
              | error e => rfl
              | ok r =>
                  obtain ⟨args, last⟩ := r
                  dsimp only [padResult, padPlace]
                  cases name.construct args <;> rfl

/-- A query is the same with blanks behind, from any place on. -/
theorem filters_padded (hb : IsBlanks b) (c : Cursor) :
    c.Settled → (c.padded b).filters = padResult b (padPlace b) c.filters := by
  induction c using induction_behind with
  | step c ih =>
      intro hc
      rw [filters_eq, filters_eq, readFilter_padded hb c hc]
      cases hfilter : c.readFilter with
      | error e => rfl
      | ok r =>
          cases r with
          | none => rfl
          | some r =>
              obtain ⟨f, place⟩ := r
              dsimp only [padResult, Option.map, padPlace]
              rw [ih place (size_of_readFilter hfilter) (settled_of_readFilter hfilter)]
              cases place.filters <;> rfl

/-- Behind a query no blank is in front, if there was none in front of it. -/
theorem settled_of_filters (c : Cursor) : c.Settled → ∀ fs last, c.filters = .ok (fs, last) →
    last.Settled := by
  induction c using induction_behind with
  | step c ih =>
      intro hc fs last h
      rw [filters_eq] at h
      split at h
      · cases h
      · cases h
        exact hc
      · next f place hfilter =>
        cases hrest : place.filters with
        | error e => rw [hrest] at h; cases h
        | ok r =>
            rw [hrest] at h
            cases h
            exact ih place (size_of_readFilter hfilter) (settled_of_readFilter hfilter) r.1 r.2 hrest

-- ============================================================= queries

/-- What a query leaves over, with blanks put behind it. -/
def Query.padded (b : List Char) (q : Query) : Query :=
  ⟨q.filters, String.ofList (trimStart (q.ignored.toList ++ b))⟩

/-- A query with blanks around it is read as without them: the filters are
the same, and so is the error; only what is left over has the blanks behind
it. -/
theorem Query.parse_between_blanks {lead back : List Char} (hlead : IsBlanks lead)
    (hback : IsBlanks back) (cs : List Char) :
    Query.parse (String.ofList (lead ++ (cs ++ back)))
      = (Query.parse (String.ofList cs)).map (Query.padded back) := by
  have hinner : Cursor.ofString (String.ofList cs) = ⟨trimStart cs⟩ := by
    unfold Cursor.ofString Cursor.ofList
    rw [String.toList_ofList]
  have houter : Cursor.ofString (String.ofList (lead ++ (cs ++ back)))
      = (⟨trimStart cs⟩ : Cursor).padded back := by
    unfold Cursor.ofString Cursor.ofList
    rw [String.toList_ofList, trimStart_append_of_blank hlead, padded_trimStart]
  unfold Query.parse
  rw [houter, hinner, filters_padded hback _ (settled_trimStart cs)]
  cases (⟨trimStart cs⟩ : Cursor).filters with
  | error e => rfl
  | ok r =>
      obtain ⟨fs, last⟩ := r
      show Except.ok (Query.mk fs (last.padded back).remaining)
        = .ok (Query.mk fs (String.ofList (trimStart (last.remaining.toList ++ back))))
      unfold remaining Cursor.padded
      rw [String.toList_ofList]

/-- A query is the trimmed one, but for blanks in what is left over. -/
theorem Query.exists_parse_trimText (line : String) :
    ∃ back, Query.parse line = (Query.parse (trimText line)).map (Query.padded back) := by
  obtain ⟨lead, back, hlead, hback, hline⟩ := exists_blanks_trim line.toList
  refine ⟨back, ?_⟩
  have hparse := Query.parse_between_blanks hlead hback (trim line.toList)
  rwa [← hline, String.ofList_toList] at hparse

/-- The same, for texts: putting blanks around a query changes only what it
leaves over. -/
theorem Query.parse_around {lead back : String} (hlead : IsBlanks lead.toList)
    (hback : IsBlanks back.toList) (q : String) :
    Query.parse (lead ++ q ++ back) = (Query.parse q).map (Query.padded back.toList) := by
  have htext : lead ++ q ++ back = String.ofList (lead.toList ++ (q.toList ++ back.toList)) := by
    rw [← String.toList_inj]
    simp
  rw [htext, Query.parse_between_blanks hlead hback, String.ofList_toList]

/-- Blanks behind what is left over change neither the filters of a query nor
its error. -/
theorem Query.filters_padded (b : List Char) (r : Except QueryError Query) :
    (r.map (Query.padded b)).map Query.filters = r.map Query.filters := by
  cases r <;> rfl

/-- What a query leaves over begins with no blank. -/
theorem Query.head?_ignored {text rest : String} {fs : List Filter}
    (h : Query.parse text = .ok ⟨fs, rest⟩) : ∀ ch ∈ rest.toList.head?, isBlank ch = false := by
  unfold Query.parse at h
  split at h
  · next fs' last hread =>
    cases h
    have hlast := settled_of_filters _ (settled_trimStart text.toList) _ _ hread
    unfold remaining
    rw [String.toList_ofList]
    exact hlast
  · cases h

/-- Blanks behind a query stand behind what it leaves over, if it leaves
something over. -/
theorem Query.padded_of_parse {text rest back : String} {fs : List Filter}
    (hback : IsBlanks back.toList) (h : Query.parse text = .ok ⟨fs, rest⟩) :
    Query.padded back.toList ⟨fs, rest⟩ = ⟨fs, if rest = "" then "" else rest ++ back⟩ := by
  have hstart := Query.head?_ignored h
  unfold Query.padded
  split
  · next hrest =>
    have hnone : trimStart (back.toList ++ []) = trimStart [] := trimStart_append_of_blank hback []
    rw [List.append_nil] at hnone
    subst hrest
    rw [String.toList_empty, List.nil_append, hnone]
    rfl
  · next hrest =>
    have hne : rest.toList ≠ [] := by simpa using hrest
    have hself : trimStart (rest.toList ++ back.toList) = rest.toList ++ back.toList := by
      refine trimStart_eq_self fun ch hch => ?_
      rw [List.head?_append_of_ne_nil _ hne] at hch
      exact hstart ch hch
    rw [hself, ← String.toList_append, String.ofList_toList]

/-- Blanks around a query do not count.  With them it has the same filters, or
fails with the same error and all that the error holds; what it leaves over,
if it leaves something over, begins at the same place and only ends in the
blanks behind it.  So a trimmed query is read as the whole one. -/
theorem blanks_around_query (q : String) :
    (∀ lead back : String, IsBlanks lead.toList → IsBlanks back.toList →
      (Query.parse (lead ++ q ++ back)).map Query.filters = (Query.parse q).map Query.filters
        ∧ (∀ error, Query.parse (lead ++ q ++ back) = .error error ↔ Query.parse q = .error error)
        ∧ ∀ fs rest, Query.parse q = .ok ⟨fs, rest⟩ →
          Query.parse (lead ++ q ++ back) = .ok ⟨fs, if rest = "" then "" else rest ++ back⟩)
      ∧ (Query.parse (trimText q)).map Query.filters = (Query.parse q).map Query.filters := by
  refine ⟨fun lead back hlead hback => ⟨?_, fun error => ?_, fun fs rest h => ?_⟩, ?_⟩
  · rw [Query.parse_around hlead hback, Query.filters_padded]
  · rw [Query.parse_around hlead hback]
    cases Query.parse q <;> simp [Except.map]
  · rw [Query.parse_around hlead hback, h, ← Query.padded_of_parse hback h]
    rfl
  · obtain ⟨back, hback⟩ := Query.exists_parse_trimText q
    rw [hback, Query.filters_padded]

/-- Blanks of several kinds, around a query with something left over, around
one that ends where a comma should stand and around one without the bracket
at its end. -/
theorem blanks_around_query_kinds :
    IsBlanks "\t\u00a0".toList ∧ IsBlanks "\u2003\n".toList
      ∧ Query.parse "not(label( a,(b )) !x" = .ok ⟨[.not (.label "a,(b")], "!x"⟩
      ∧ Query.parse ("\t\u00a0" ++ "not(label( a,(b )) !x" ++ "\u2003\n")
        = .ok ⟨[.not (.label "a,(b")], "!x\u2003\n"⟩
      ∧ Query.parse ("\t\u00a0" ++ "and(open" ++ "\u2003\n")
        = .error (.expectedSeparator ',' none)
      ∧ Query.parse ("\t\u00a0" ++ "label( x" ++ "\u2003\n") = .error .unterminatedString := by
  have hlead : IsBlanks "\t\u00a0".toList :=
    List.forall_mem_cons.2 ⟨rfl, List.forall_mem_singleton.2 rfl⟩
  have hback : IsBlanks "\u2003\n".toList :=
    List.forall_mem_cons.2 ⟨rfl, List.forall_mem_singleton.2 rfl⟩
  have hrest : Query.parse "not(label( a,(b )) !x" = .ok ⟨[.not (.label "a,(b")], "!x"⟩ := by cbv
  have hcomma : Query.parse "and(open" = .error (.expectedSeparator ',' none) := by cbv
  have hend : Query.parse "label( x" = .error .unterminatedString := by cbv
  refine ⟨hlead, hback, hrest, ?_, ?_, ?_⟩
  · exact ((blanks_around_query _).1 _ _ hlead hback).2.2 _ _ hrest
  · exact (((blanks_around_query _).1 _ _ hlead hback).2.1 _).2 hcomma
  · exact (((blanks_around_query _).1 _ _ hlead hback).2.1 _).2 hend

end Docket
