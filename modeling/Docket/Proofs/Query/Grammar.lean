/-
The grammar of queries.  An expression is a digit run, the name of an entry
that takes no arguments, or the name of an entry with a list of arguments
of its kinds; blanks may stand around every token.  What a token is depends
on the text behind it, since names and numbers are as long as they can be,
so each relation has that text beside the one it is about.

A query is split into blanks in front, phrases, which are expressions with
the blanks behind them, and a rest that can start no expression.

Main statements: an expression begins with a letter or a digit and ends
in no blank; it stays one when a text that begins with no part of a name
comes behind the text behind it, and when that text is cut short.
-/
import Docket.Proofs.Query.Building
import Docket.Proofs.Query.Token

namespace Docket

open Cursor

-- ============================================================= grammar

mutual

/-- `Expression e k f`: the text `e`, with `k` behind it, is an expression
that stands for `f`. -/
inductive Expression : List Char → List Char → Filter → Prop
  | number {ds k : List Char} (digits : Longest IsDigits ds k)
      (fits : decimal ds < wordLimit) :
      Expression ds k (.number (UInt64.ofNat (decimal ds)))
  | bare {name : FilterName} {k : List Char} {f : Filter}
      (word : Longest IsName name.word.toList k) (takesNone : name.params = [])
      (means : Denotes name [] f) : Expression name.word.toList k f
  | call {name : FilterName} {b as k : List Char} {args : List Arg} {f : Filter}
      (word : Longest IsName name.word.toList (b ++ (as ++ k)))
      (gap : Longest IsBlanks b (as ++ k)) (list : Arguments '(' name.params as k args)
      (means : Denotes name args f) : Expression (name.word.toList ++ (b ++ as)) k f

/-- `Arguments mark kinds as k args`: the text `as`, with `k` behind it, is
a list of arguments of the given kinds up to its `)`; `mark` stands in front
of the first argument and a comma in front of each further one. -/
inductive Arguments : Char → List ArgKind → List Char → List Char → List Arg → Prop
  | close {k : List Char} : Arguments ',' [] [')'] k []
  | next {mark : Char} {kind : ArgKind} {kinds : List ArgKind} {b a b' as k : List Char}
      {arg : Arg} {args : List Arg} (lead : Longest IsBlanks b (a ++ (b' ++ (as ++ k))))
      (head : Argument kind a (b' ++ (as ++ k)) arg) (gap : Longest IsBlanks b' (as ++ k))
      (list : Arguments ',' kinds as k args) :
      Arguments mark (kind :: kinds) (mark :: (b ++ (a ++ (b' ++ as)))) k (arg :: args)

/-- `Argument kind a k arg`: the text `a`, with `k` behind it, is an
argument of the kind.  A text argument goes up to the next `)`, less the
blanks around it. -/
inductive Argument : ArgKind → List Char → List Char → Arg → Prop
  | string {t b k : List Char} (inside : ')' ∉ t) (trimmed : trim t = t)
      (blanks : IsBlanks b) :
      Argument .string t (b ++ ')' :: k) (.string (String.ofList t))
  | integer {ds k : List Char} (digits : Longest IsDigits ds k)
      (fits : decimal ds < wordLimit) :
      Argument .integer ds k (.integer (UInt64.ofNat (decimal ds)))
  | filter {e k : List Char} {f : Filter} (expression : Expression e k f) :
      Argument .filter e k (.filter f)

end

/-- A text that a text argument holds as it is: it has no `)` and no blanks
around it. -/
def Plain (s : String) : Prop := ')' ∉ s.toList ∧ trim s.toList = s.toList

/-- An expression of a query, the blanks behind it and the filter that it
stands for. -/
structure Phrase where
  text : List Char
  gap : List Char
  filter : Filter

/-- The text of phrases with `rest` behind them. -/
def Phrase.join : List Phrase → List Char → List Char
  | [], rest => rest
  | p :: ps, rest => p.text ++ (p.gap ++ join ps rest)

/-- A text that can start no expression. -/
def StartsNone (rest : List Char) : Prop :=
  ∀ c ∈ rest.head?, isLetter c = false ∧ isDigit c = false

/-- Phrases with `rest` behind them: each one is an expression for its
filter with all the blanks behind it, and `rest` starts none. -/
inductive Phrases (rest : List Char) : List Phrase → Prop
  | nil (ends : StartsNone rest) : Phrases rest []
  | cons {p : Phrase} {ps : List Phrase}
      (head : Expression p.text (p.gap ++ Phrase.join ps rest) p.filter)
      (gap : Longest IsBlanks p.gap (Phrase.join ps rest)) (tail : Phrases rest ps) :
      Phrases rest (p :: ps)

/-- A splitting of a text into blanks, phrases and a rest. -/
structure Split (text : List Char) where
  lead : List Char
  phrases : List Phrase
  rest : List Char
  whole : text = lead ++ Phrase.join phrases rest
  blanks : Longest IsBlanks lead (Phrase.join phrases rest)
  derived : Phrases rest phrases

/-- The filters of a splitting, in order. -/
def Split.filters {text : List Char} (s : Split text) : List Filter :=
  s.phrases.map Phrase.filter

-- ====================================================== ends of a text

variable {e k r as : List Char} {f : Filter} {mark : Char} {kinds : List ArgKind}
  {args : List Arg}

/-- Every entry is called by a name. -/
theorem isName_word (name : FilterName) : IsName name.word.toList := by
  have hword : nameOf name.word.toList = name.word.toList := by
    cases name <;> rfl
  have hne : nameOf name.word.toList ≠ [] := by
    cases name <;> nofun
  exact hword ▸ isName_nameOf hne

/-- The text of an argument is plain. -/
theorem plain_ofList {t : List Char} (inside : ')' ∉ t) (trimmed : trim t = t) :
    Plain (String.ofList t) := by
  unfold Plain
  rw [String.toList_ofList]
  exact ⟨inside, trimmed⟩

/-- A list of arguments ends in `)`. -/
theorem Arguments.exists_concat (h : Arguments mark kinds as k args) :
    ∃ front, as = front ++ [')'] := by
  induction args generalizing mark kinds as with
  | nil => cases h with | close => exact ⟨[], rfl⟩
  | cons arg args ih =>
      cases h with
      | @next _ _ _ b a b' as _ _ _ lead head gap list =>
          obtain ⟨front, rfl⟩ := ih list
          exact ⟨mark :: (b ++ (a ++ (b' ++ front))), by simp⟩

/-- A list of arguments is not empty. -/
theorem Arguments.ne_nil (h : Arguments mark kinds as k args) : as ≠ [] := by
  obtain ⟨front, rfl⟩ := h.exists_concat
  simp

/-- An argument is of its kind. -/
theorem Argument.kind_eq {kind : ArgKind} {a : List Char} {arg : Arg}
    (h : Argument kind a k arg) : arg.kind = kind := by
  cases h <;> rfl

/-- The arguments of a list are of its kinds. -/
theorem Arguments.kinds_eq (h : Arguments mark kinds as k args) :
    args.map Arg.kind = kinds := by
  induction args generalizing mark kinds as with
  | nil => cases h with | close => rfl
  | cons arg args ih =>
      cases h with
      | next lead head gap list => rw [List.map_cons, head.kind_eq, ih list]

/-- What begins with a word begins with a letter. -/
theorem exists_head?_word (name : FilterName) (x : List Char) :
    ∃ c ∈ (name.word.toList ++ x).head?, isLetter c = true := by
  obtain ⟨⟨a, ha, hletter⟩, -⟩ := isName_iff.1 (isName_word name)
  have hne : name.word.toList ≠ [] := by
    intro hnil
    rw [hnil] at ha
    cases ha
  refine ⟨a, ?_, hletter⟩
  rw [List.head?_append_of_ne_nil _ hne]
  exact ha

/-- An expression begins with a letter or a digit. -/
theorem Expression.exists_head? (h : Expression e k f) :
    ∃ c ∈ e.head?, isNameEnd c = true := by
  cases h with
  | number digits fits =>
      obtain ⟨hne, hall⟩ := digits.1
      exact ⟨_, List.head?_eq_some_head hne, isNameEnd_of_isDigit (hall _ (List.head_mem hne))⟩
  | @bare name _ _ word takesNone means =>
      obtain ⟨c, hc, hletter⟩ := exists_head?_word name []
      rw [List.append_nil] at hc
      exact ⟨c, hc, isNameEnd_of_isLetter hletter⟩
  | @call name b as _ _ _ word gap list means =>
      obtain ⟨c, hc, hletter⟩ := exists_head?_word name (b ++ as)
      exact ⟨c, hc, isNameEnd_of_isLetter hletter⟩

/-- An expression begins with no blank. -/
theorem Expression.head?_not_blank (h : Expression e k f) :
    ∀ c ∈ e.head?, isBlank c = false := by
  intro c hc
  obtain ⟨d, hd, hend⟩ := h.exists_head?
  obtain rfl : d = c := Option.some.inj (hd.symm.trans hc)
  exact isBlank_of_isNamePart (isNamePart_of_isNameEnd hend)

/-- An expression is not empty. -/
theorem Expression.ne_nil (h : Expression e k f) : e ≠ [] := by
  rintro rfl
  obtain ⟨c, hc, -⟩ := h.exists_head?
  cases hc

/-- An expression ends in no blank. -/
theorem Expression.getLast?_not_blank (h : Expression e k f) :
    ∀ c ∈ e.getLast?, isBlank c = false := by
  intro c hc
  cases h with
  | number digits fits =>
      exact isBlank_of_isDigit (digits.1.2 c (List.mem_of_getLast? hc))
  | @bare name _ _ word takesNone means =>
      have hall := (isName_iff.1 (isName_word name)).2.1
      exact isBlank_of_isNamePart (hall c (List.mem_of_getLast? hc))
  | call word gap list means =>
      obtain ⟨front, rfl⟩ := list.exists_concat
      obtain rfl : ')' = c := by simpa using hc
      rfl

/-- Two expressions with blanks behind them that make up one text are
one. -/
theorem Expression.text_unique {e' b b' k' : List Char} {f' : Filter}
    (h : Expression e k f) (h' : Expression e' k' f') (hb : IsBlanks b)
    (hb' : IsBlanks b') (he : e ++ b = e' ++ b') : e = e' := by
  have htrim := congrArg trimEnd he
  rwa [trimEnd_append_of_blank hb, trimEnd_append_of_blank hb',
    trimEnd_eq_self h.getLast?_not_blank, trimEnd_eq_self h'.getLast?_not_blank] at htrim

-- ================================================ the text behind it

/-- Blanks in front of a text that is there are as long whatever stands
behind it. -/
theorem Longest.blanks_before {b x k' : List Char} (hx : x ≠ [])
    (h : Longest IsBlanks b (x ++ k)) : Longest IsBlanks b (x ++ k') := by
  rw [longest_isBlanks_iff, List.head?_append_of_ne_nil _ hx] at h ⊢
  exact h

/-- A digit run is as long when what is put behind begins with no part of a
name. -/
theorem Longest.digits_extend {c : Char} (hc : isNamePart c = false)
    (h : Longest IsDigits e k) (r : List Char) : Longest IsDigits e (k ++ c :: r) := by
  refine h.extend (fun v hv hmem => ?_) r
  rw [isNamePart_of_isNameEnd (isNameEnd_of_isDigit (hv.2 c hmem))] at hc
  cases hc

/-- A name is as long when what is put behind begins with no part of a
name. -/
theorem Longest.name_extend {c : Char} (hc : isNamePart c = false)
    (h : Longest IsName e k) (r : List Char) : Longest IsName e (k ++ c :: r) := by
  refine h.extend (fun v hv hmem => ?_) r
  rw [(isName_iff.1 hv).2.1 c hmem] at hc
  cases hc

mutual

/-- An expression stays one when a text is put behind that begins with no
part of a name, such as a blank or a separator. -/
theorem Expression.extend {c : Char} (hc : isNamePart c = false) (r : List Char) :
    ∀ {e k : List Char} {f : Filter}, Expression e k f → Expression e (k ++ c :: r) f
  | _, _, _, .number digits fits => .number (digits.digits_extend hc r) fits
  | _, _, _, .bare word takesNone means => .bare (word.name_extend hc r) takesNone means
  | _, k, _, .call word gap list means => by
      refine .call ?_ (gap.blanks_before list.ne_nil) (list.extend hc r) means
      simpa using word.name_extend hc r

/-- A list of arguments stays one when such a text is put behind. -/
theorem Arguments.extend {c : Char} (hc : isNamePart c = false) (r : List Char) :
    ∀ {mark : Char} {kinds : List ArgKind} {as k : List Char} {args : List Arg},
      Arguments mark kinds as k args → Arguments mark kinds as (k ++ c :: r) args
  | _, _, _, _, _, .close => .close
  | _, _, _, k, _, @Arguments.next _ _ _ b a b' as _ _ _ lead head gap list => by
      have hne : a ++ (b' ++ as) ≠ [] := by simp [list.ne_nil]
      refine .next ?_ ?_ (gap.blanks_before list.ne_nil) (list.extend hc r)
      · have h : Longest IsBlanks b ((a ++ (b' ++ as)) ++ k) := by simpa using lead
        have h' : Longest IsBlanks b ((a ++ (b' ++ as)) ++ (k ++ c :: r)) := h.blanks_before hne
        simpa using h'
      · simpa using head.extend hc r

/-- An argument stays one when such a text is put behind. -/
theorem Argument.extend {c : Char} (hc : isNamePart c = false) (r : List Char) :
    ∀ {kind : ArgKind} {a k : List Char} {arg : Arg},
      Argument kind a k arg → Argument kind a (k ++ c :: r) arg
  | _, _, _, _, @Argument.string t b k inside trimmed blanks => by
      simpa using Argument.string (k := k ++ c :: r) inside trimmed blanks
  | _, _, _, _, .integer digits fits => .integer (digits.digits_extend hc r) fits
  | _, _, _, _, .filter expression => .filter (expression.extend hc r)

end

mutual

/-- An expression stays one when the text behind it is cut short. -/
theorem Expression.cut : ∀ {e K : List Char} {f : Filter}, Expression e K f →
    ∀ {k r : List Char}, K = k ++ r → Expression e k f
  | _, _, _, .number digits fits, _, _, rfl => .number digits.cut fits
  | _, _, _, .bare word takesNone means, _, _, rfl => .bare word.cut takesNone means
  | _, _, _, .call word gap list means, k, r, hK => by
      have hlist := list.cut hK
      subst hK
      refine .call (Longest.cut (r := r) ?_) (gap.blanks_before list.ne_nil) hlist means
      simpa using word

/-- A list of arguments stays one when the text behind it is cut short. -/
theorem Arguments.cut : ∀ {mark : Char} {kinds : List ArgKind} {as K : List Char}
    {args : List Arg}, Arguments mark kinds as K args →
    ∀ {k r : List Char}, K = k ++ r → Arguments mark kinds as k args
  | _, _, _, _, _, .close, _, _, rfl => .close
  | _, _, _, K, _, @Arguments.next _ _ _ b a b' as _ _ _ lead head gap list, k, r, hK => by
      have hne : a ++ (b' ++ as) ≠ [] := by simp [list.ne_nil]
      -- the list goes on to its own `)`, which the cut leaves in place
      obtain ⟨front, hfront⟩ := list.exists_concat
      have hhead := head.cut (m := b' ++ front) (k := k) (r := r) (by rw [hK]; simp [hfront])
      refine .next ?_ (by simpa [hfront] using hhead) (gap.blanks_before list.ne_nil)
        (list.cut hK)
      have hlead : Longest IsBlanks b ((a ++ (b' ++ as)) ++ K) := by simpa using lead
      have hlead' : Longest IsBlanks b ((a ++ (b' ++ as)) ++ k) := hlead.blanks_before hne
      simpa using hlead'

/-- An argument stays one when the text behind it is cut short behind some
`)` in it. -/
theorem Argument.cut : ∀ {kind : ArgKind} {a K : List Char} {arg : Arg},
    Argument kind a K arg → ∀ {m k r : List Char}, K = m ++ ')' :: (k ++ r) →
    Argument kind a (m ++ ')' :: k) arg
  | _, _, _, _, @Argument.string t b k₀ inside trimmed blanks, m, k, r, hK => by
      -- the `)` that ends the text is the one named or stands before it
      rcases List.append_eq_append_iff.1 hK with ⟨u, rfl, hu⟩ | ⟨u, rfl, hu⟩
      · cases u with
        | nil => simpa using Argument.string (k := k) inside trimmed blanks
        | cons d u =>
            obtain rfl : ')' = d := (List.cons.inj hu).1
            simpa using Argument.string (k := u ++ ')' :: k) inside trimmed blanks
      · cases u with
        | nil => simpa using Argument.string (k := k) inside trimmed (by simpa using blanks)
        | cons d u =>
            obtain rfl : ')' = d := (List.cons.inj hu).1
            have h := blanks ')' (by simp)
            cases h
  | _, _, _, _, .integer digits fits, _, _, _, hK => by
      subst hK
      exact .integer (Longest.cut (by simpa using digits)) fits
  | _, _, _, _, .filter expression, _, _, _, hK => .filter (expression.cut (by simpa using hK))

end

end Docket
