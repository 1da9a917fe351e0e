/-
Writing filters.  A filter is written as its name, with its argument in
brackets where it has one: a number in decimal, a text as it is, other
filters by the same rule.  Only texts without `)` and without blanks around
them can be written so, and a time needs a text that reads as it; filters
that hold no others are called expressible.

Main statements: what is written for expressible filters is read back as
those filters; whatever is read is expressible; so reading what was written
for what was read gives it again.
-/
import Docket.Proofs.Query.Juxtaposition

namespace Docket

open Cursor

variable {k : List Char} {f : Filter} {s : String} {name : FilterName}

-- ====================================================== expressibility

/-- A time that some plain text reads as. -/
def Instant.Expressible (t : Instant) : Prop :=
  ∃ s, Plain s ∧ Timestamp.ofString? s = some t

/-- A filter that a query can ask for: its texts and the sources of its
patterns are plain and its times can be written.  A pattern always
compiles. -/
def Filter.Expressible : Filter → Prop
  | .assignedTo s | .label s => Plain s
  | .title p | .body p | .text p => Plain p.source
  | .closedSince t => t.Expressible
  | .or f g | .and f g => f.Expressible ∧ g.Expressible
  | .not f => f.Expressible
  | _ => True

/-- A way of writing times: each one that can be written has a plain text
that reads as it. -/
structure TimeWriter where
  text : Instant → String
  plain : ∀ t, t.Expressible → Plain (text t)
  reads : ∀ t, t.Expressible → Timestamp.ofString? (text t) = some t

/-- There is a way of writing times. -/
instance : Nonempty TimeWriter := by
  classical
  refine ⟨fun t => if h : t.Expressible then h.choose else "", fun t h => ?_, fun t h => ?_⟩
  · rw [dif_pos h]
    exact h.choose_spec.1
  · rw [dif_pos h]
    exact h.choose_spec.2

-- ============================================================= writing

/-- The text of an entry alone. -/
def writeWord (name : FilterName) : List Char := name.word.toList

/-- The text of an entry with what stands in its brackets. -/
def writeCall (name : FilterName) (inside : List Char) : List Char :=
  name.word.toList ++ '(' :: (inside ++ [')'])

/-- The canonical text of a filter. -/
def Filter.write (w : TimeWriter) : Filter → List Char
  | .assigned => writeWord .assigned
  | .closed => writeWord .closed
  | .isOpen => writeWord .isOpen
  | .labelled => writeWord .labelled
  | .pull => writeWord .pull
  | .issue => writeWord .issue
  | .merged => writeWord .merged
  | .assignedTo s => writeCall .assignedTo s.toList
  | .label s => writeCall .label s.toList
  | .title p => writeCall .title p.source.toList
  | .body p => writeCall .body p.source.toList
  | .text p => writeCall .text p.source.toList
  | .closedSince t => writeCall .closedSince (w.text t).toList
  | .number n => writeCall .number (numeral n.toNat)
  | .or f g => writeCall .or (f.write w ++ ',' :: g.write w)
  | .and f g => writeCall .and (f.write w ++ ',' :: g.write w)
  | .not f => writeCall .not (f.write w)

/-- The canonical text of filters: their texts with single blanks
between. -/
def writeQuery (w : TimeWriter) (fs : List Filter) : String :=
  " ".intercalate (fs.map fun f => String.ofList (f.write w))

-- ============================================== what is written is read

/-- What stands behind an argument begins with no blank. -/
theorem Arguments.head?_not_blank {kinds : List ArgKind} {args : List Arg} {as : List Char}
    (list : Arguments ',' kinds as k args) : ∀ c ∈ as.head?, isBlank c = false := by
  cases list with
  | close => exact outside_cons rfl _
  | next lead head gap list => exact outside_cons rfl _

/-- An argument may stand in front of others with blanks around it, if it
has none of its own in front. -/
theorem Arguments.spaced (mark : Char) {kind : ArgKind} {kinds : List ArgKind} {arg : Arg}
    {args : List Arg} {b a b' as : List Char} (hb : IsBlanks b) (hb' : IsBlanks b')
    (harg : Argument kind a (b' ++ (as ++ k)) arg)
    (ha : ∀ c ∈ (a ++ (b' ++ as)).head?, isBlank c = false)
    (list : Arguments ',' kinds as k args) :
    Arguments mark (kind :: kinds) (mark :: (b ++ (a ++ (b' ++ as)))) k (arg :: args) := by
  have hlead : Longest IsBlanks b (a ++ (b' ++ (as ++ k))) := by
    have h : Longest IsBlanks b ((a ++ (b' ++ as)) ++ []) := by
      rw [List.append_nil]
      exact longest_isBlanks_iff.2 ⟨hb, ha⟩
    have hne : a ++ (b' ++ as) ≠ [] := by simp [list.ne_nil]
    have h' : Longest IsBlanks b ((a ++ (b' ++ as)) ++ k) := h.blanks_before hne
    simpa using h'
  have hgap : Longest IsBlanks b' (as ++ k) := by
    have h : Longest IsBlanks b' (as ++ []) := by
      rw [List.append_nil]
      exact longest_isBlanks_iff.2 ⟨hb', list.head?_not_blank⟩
    exact h.blanks_before list.ne_nil
  exact .next hlead harg hgap list

/-- An argument may stand in front of others without blanks around it. -/
theorem Arguments.tight (mark : Char) {kind : ArgKind} {kinds : List ArgKind} {arg : Arg}
    {args : List Arg} {a as : List Char} (harg : Argument kind a (as ++ k) arg)
    (ha : ∀ c ∈ a.head?, isBlank c = false) (list : Arguments ',' kinds as k args) :
    Arguments mark (kind :: kinds) (mark :: (a ++ as)) k (arg :: args) := by
  refine .spaced mark isBlanks_nil isBlanks_nil harg (fun c hc => ?_) list
  cases a with
  | nil => exact list.head?_not_blank c hc
  | cons d a => exact ha c hc

/-- An entry with a list of arguments behind its name is an expression. -/
theorem Expression.of_list {as : List Char} {args : List Arg}
    (list : Arguments '(' name.params ('(' :: as) k args) (means : Denotes name args f) :
    Expression (name.word.toList ++ '(' :: as) k f := by
  exact .call (b := []) ((isName_word name).longest (outside_cons rfl _))
    (longest_blanks_cons isBlanks_nil rfl _) list means

/-- An entry with one argument is an expression, whatever stands behind. -/
theorem Expression.of_call {kind : ArgKind} {a : List Char} {arg : Arg}
    (hp : name.params = [kind]) (harg : Argument kind a (')' :: k) arg)
    (ha : ∀ c ∈ a.head?, isBlank c = false) (means : Denotes name [arg] f) :
    Expression (writeCall name a) k f :=
  .of_list (hp ▸ .tight '(' harg ha .close) means

/-- An entry with a plain text is an expression, whatever stands behind. -/
theorem Expression.of_text (hp : name.params = [.string]) (hs : Plain s)
    (means : Denotes name [.string s] f) : Expression (writeCall name s.toList) k f := by
  have harg : Argument .string s.toList ([] ++ ')' :: k) (.string (String.ofList s.toList)) :=
    .string hs.1 hs.2 isBlanks_nil
  rw [String.ofList_toList] at harg
  exact .of_call hp harg (head?_of_trim_eq hs.2) means

/-- An entry with two filters is an expression, whatever stands behind. -/
theorem Expression.of_pair {e e' : List Char} {g g' : Filter}
    (hp : name.params = [.filter, .filter])
    (he : Expression e (',' :: (e' ++ [')'] ++ k)) g) (he' : Expression e' (')' :: k) g')
    (means : Denotes name [.filter g, .filter g'] f) :
    Expression (writeCall name (e ++ ',' :: e')) k f := by
  have hlist : Arguments ',' [.filter] (',' :: (e' ++ [')'])) k [.filter g'] :=
    .tight ',' (.filter he') he'.head?_not_blank .close
  have h : Arguments '(' name.params ('(' :: (e ++ ',' :: (e' ++ [')']))) k
      [.filter g, .filter g'] := by
    rw [hp]
    exact .tight '(' (.filter he) he.head?_not_blank hlist
  have hwrite : writeCall name (e ++ ',' :: e')
      = name.word.toList ++ '(' :: (e ++ ',' :: (e' ++ [')'])) := by
    simp [writeCall]
  rw [hwrite]
  exact .of_list h means

/-- An entry without arguments is an expression, if what stands behind it
is part of no name. -/
theorem Expression.of_word (hp : name.params = []) (hk : ∀ c ∈ k.head?, isNamePart c = false)
    (means : Denotes name [] f) : Expression (writeWord name) k f :=
  .bare ((isName_word name).longest hk) hp means

/-- The text of an expressible filter is an expression for it, if what
stands behind is part of no name. -/
theorem Filter.Expressible.expression (w : TimeWriter) (hf : f.Expressible)
    (hk : ∀ c ∈ k.head?, isNamePart c = false) : Expression (f.write w) k f := by
  have hclose : ∀ x, ∀ c ∈ (')' :: x).head?, isNamePart c = false := outside_cons rfl
  have hcomma : ∀ x, ∀ c ∈ (',' :: x).head?, isNamePart c = false := outside_cons rfl
  induction f generalizing k with
  | assigned => exact .of_word rfl hk .assigned
  | closed => exact .of_word rfl hk .closed
  | isOpen => exact .of_word rfl hk .isOpen
  | labelled => exact .of_word rfl hk .labelled
  | pull => exact .of_word rfl hk .pull
  | issue => exact .of_word rfl hk .issue
  | merged => exact .of_word rfl hk .merged
  | assignedTo s => exact .of_text rfl hf (.assignedTo s)
  | label s => exact .of_text rfl hf (.label s)
  | title p => exact .of_text rfl hf (.title p)
  | body p => exact .of_text rfl hf (.body p)
  | text p => exact .of_text rfl hf (.text p)
  | closedSince t => exact .of_text rfl (w.plain t hf) (.closedSince (w.reads t hf))
  | number n =>
      have hdigits : Longest IsDigits (numeral n.toNat) (')' :: k) := longest_isDigits_iff.2
        ⟨⟨numeral_ne_nil _, isDigit_of_mem_numeral _⟩, outside_cons rfl k⟩
      have hvalue := decimal_numeral n.toNat
      have hfits : decimal (numeral n.toNat) < wordLimit := by
        rw [hvalue]
        exact n.toNat_lt
      have harg := Argument.integer hdigits hfits
      rw [hvalue, UInt64.ofNat_toNat] at harg
      refine .of_call rfl harg (fun c hc => ?_) (.number n)
      exact isBlank_of_isDigit (isDigit_of_mem_numeral _ c (List.mem_of_head? hc))
  | not f ih =>
      have h := ih hf (hclose k)
      exact .of_call rfl (.filter h) h.head?_not_blank (.not f)
  | or f g ihf ihg => exact .of_pair rfl (ihf hf.1 (hcomma _)) (ihg hf.2 (hclose k)) (.or f g)
  | and f g ihf ihg => exact .of_pair rfl (ihf hf.1 (hcomma _)) (ihg hf.2 (hclose k)) (.and f g)

/-- The text of an expressible filter is read as it, with nothing left
over. -/
theorem Filter.Expressible.parse (w : TimeWriter) (hf : f.Expressible) :
    Query.parse (String.ofList (f.write w)) = .ok ⟨[f], ""⟩ := by
  have he : Expression (f.write w) [] f := hf.expression w nofun
  exact he.parse

/-- What is written for expressible filters is read as them, with nothing
left over. -/
theorem parse_writeQuery (w : TimeWriter) {fs : List Filter} (h : ∀ f ∈ fs, f.Expressible) :
    Query.parse (writeQuery w fs) = .ok ⟨fs, ""⟩ := by
  have hwords : List.Forall₂ (fun word fs => Query.parse word = .ok ⟨fs, ""⟩)
      (fs.map fun f => String.ofList (f.write w)) (fs.map fun f => [f]) := by
    induction fs with
    | nil => exact .nil
    | cons f fs ih =>
        refine .cons ((h f (by simp)).parse w) (ih fun g hg => h g (by simp [hg]))
  have hread := Query.parse_intercalate hwords
  rwa [← List.flatMap_def, List.flatMap_singleton'] at hread

-- ========================================== what is read can be written

/-- An argument that a query can hold. -/
def Arg.Expressible : Arg → Prop
  | .string s => Plain s
  | .integer _ => True
  | .filter f => f.Expressible

/-- What an entry stands for is expressible, if its arguments are. -/
theorem Denotes.expressible {args : List Arg} (h : Denotes name args f)
    (ha : ∀ a ∈ args, a.Expressible) : f.Expressible := by
  cases h with
  | assigned | closed | isOpen | labelled | pull | issue | merged | number n => trivial
  | assignedTo s | label s => exact ha (.string s) (by simp)
  | title p | body p | text p => exact ha (.string p.source) (by simp)
  | @closedSince s t reads => exact ⟨s, ha (.string s) (by simp), reads⟩
  | not f => exact ha (.filter f) (by simp)
  | or f g | and f g => exact ⟨ha (.filter f) (by simp), ha (.filter g) (by simp)⟩

mutual

/-- An expression stands for an expressible filter. -/
theorem Expression.expressible : ∀ {e k : List Char} {f : Filter},
    Expression e k f → f.Expressible
  | _, _, _, .number _ _ => trivial
  | _, _, _, .bare _ _ means => means.expressible nofun
  | _, _, _, .call _ _ list means => means.expressible list.expressible

/-- The arguments of a list are expressible. -/
theorem Arguments.expressible : ∀ {mark : Char} {kinds : List ArgKind} {as k : List Char}
    {args : List Arg}, Arguments mark kinds as k args → ∀ a ∈ args, a.Expressible
  | _, _, _, _, _, .close => nofun
  | _, _, _, _, _, .next _ head _ list =>
      List.forall_mem_cons.2 ⟨head.expressible, list.expressible⟩

/-- An argument is expressible. -/
theorem Argument.expressible : ∀ {kind : ArgKind} {a k : List Char} {arg : Arg},
    Argument kind a k arg → arg.Expressible
  | _, _, _, _, .string inside trimmed _ => plain_ofList inside trimmed
  | _, _, _, _, .integer _ _ => trivial
  | _, _, _, _, .filter expression => expression.expressible

end

/-- Phrases stand for expressible filters. -/
theorem Phrases.expressible {rest : List Char} {ps : List Phrase} (h : Phrases rest ps) :
    ∀ f ∈ ps.map Phrase.filter, f.Expressible := by
  induction h with
  | nil ends => exact nofun
  | cons head gap tail ih => exact List.forall_mem_cons.2 ⟨head.expressible, ih⟩

/-- What is read from a query is expressible. -/
theorem expressible_of_parse {q rest : String} {fs : List Filter}
    (h : Query.parse q = .ok ⟨fs, rest⟩) : ∀ f ∈ fs, f.Expressible := by
  obtain ⟨lead, ps, whole, blanks, derived, rfl⟩ := exists_phrases_of_parse h
  exact derived.expressible

/-- Filters that can be asked for are written and read back, and they are
just those that are read: what is written for expressible filters is read
as them, and what is read from any query is expressible, so writing it and
reading that gives it again. -/
theorem parse_write (w : TimeWriter) :
    (∀ fs : List Filter, (∀ f ∈ fs, f.Expressible) →
        Query.parse (writeQuery w fs) = .ok ⟨fs, ""⟩)
      ∧ ∀ (q rest : String) (fs : List Filter), Query.parse q = .ok ⟨fs, rest⟩ →
        (∀ f ∈ fs, f.Expressible) ∧ Query.parse (writeQuery w fs) = .ok ⟨fs, ""⟩ := by
  refine ⟨fun fs => parse_writeQuery w, fun q rest fs h => ?_⟩
  have hfs := expressible_of_parse h
  exact ⟨hfs, parse_writeQuery w hfs⟩

/-- A label keeps its comma and its bracket; blanks inside a query are lost,
and what was read from it is read again without them. -/
theorem parse_write_nested : ∃ w : TimeWriter,
    (∀ f ∈ [Filter.label "a, (b", .isOpen], f.Expressible)
      ∧ writeQuery w [.label "a, (b", .isOpen] = "label(a, (b) open"
      ∧ Query.parse (writeQuery w [.label "a, (b", .isOpen])
        = .ok ⟨[.label "a, (b", .isOpen], ""⟩
      ∧ Query.parse "and ( label( a, (b ) ,not(n( 07)) ) !"
        = .ok ⟨[.and (.label "a, (b") (.not (.number 7))], "!"⟩
      ∧ Query.parse (writeQuery w [.and (.label "a, (b") (.not (.number 7))])
        = .ok ⟨[.and (.label "a, (b") (.not (.number 7))], ""⟩ := by
  have hread : Query.parse "and ( label( a, (b ) ,not(n( 07)) ) !"
      = .ok ⟨[.and (.label "a, (b") (.not (.number 7))], "!"⟩ := by cbv
  have hfilters : ∀ f ∈ [Filter.label "a, (b", .isOpen], f.Expressible := by
    have hplain : Plain "a, (b" := by
      unfold Plain
      decide
    simp [Filter.Expressible, hplain]
  obtain ⟨w⟩ : Nonempty TimeWriter := inferInstance
  exact ⟨w, hfilters, rfl, (parse_write w).1 _ hfilters, hread,
    ((parse_write w).2 _ _ _ hread).2⟩

end Docket
