/-
The algebra of query texts.  A text that is read as one filter may stand as
an argument of `not`, `and` and `or`, with blanks around it or without, and
stands for the same filter there: its last token ends at a blank, a comma or
a bracket just where it ends at the end of the text.  So what is built from
texts is read as what is built from their filters.

Which records such a text keeps is then told by the laws of `evaluate`: a
query keeps a record if all of its filters hold, so the order of the filters
does not count and neither does one that is there twice, `and` is standing
beside each other, and `not` keeps just what is left.
-/
import Docket.Proofs.Query.Padding
import Docket.Proofs.Query.Printing

namespace Docket

open Cursor

-- ================================================ statement vocabulary

/-- The text of the filter that fails where that of `a` holds. -/
def negation (a : String) : String := "not(" ++ a ++ ")"

/-- The text of the filter that holds where those of `a` and `b` both do. -/
def conjunction (a b : String) : String := "and(" ++ a ++ "," ++ b ++ ")"

/-- The text of the filter that holds where that of `a` or `b` does. -/
def disjunction (a b : String) : String := "or(" ++ a ++ "," ++ b ++ ")"

/-- `Around a x`: the text `x` is `a` with blanks around it, or without. -/
def Around (a x : String) : Prop :=
  ∃ lead back, IsBlanks lead.toList ∧ IsBlanks back.toList ∧ x = lead ++ a ++ back

/-- The records that the query of a text keeps, if it can be read. -/
def kept? (text : String) (records : List Record) : Option (List Record) :=
  (Query.parse text).toOption.map fun q => q.keep records

variable {a b x w : String} {f g : Filter} {e k back : List Char} {records : List Record}

-- ============================================================== parsing

/-- Blanks around a text that is read as one filter do not count. -/
theorem Around.parse (h : Around a x) (ha : Query.parse a = .ok ⟨[f], ""⟩) :
    Query.parse x = .ok ⟨[f], ""⟩ := by
  obtain ⟨lead, back, hlead, hback, rfl⟩ := h
  rw [Query.parse_around hlead hback, ha]
  show Except.ok (Query.padded back.toList ⟨[f], ""⟩) = _
  rw [Query.padded_of_parse hback ha, if_pos rfl]

/-- An expression may stand in front of anything that begins with no part of
a name. -/
theorem Expression.before (h : Expression e [] f) (hk : ∀ c ∈ k.head?, isNamePart c = false) :
    Expression e k f := by
  cases k with
  | nil => exact h
  | cons c r => exact h.extend (hk c rfl) r

/-- Blanks in front of a separator begin with no part of a name. -/
theorem head?_blanks_append {d : Char} (hback : IsBlanks back) (hd : isNamePart d = false)
    (k : List Char) : ∀ c ∈ (back ++ d :: k).head?, isNamePart c = false := by
  cases back with
  | nil => exact outside_cons hd k
  | cons c back => exact outside_cons (isNamePart_of_isBlank (hback c List.mem_cons_self)) _

/-- A text that is read as one filter may stand as an argument in front of
others. -/
theorem arguments_of_parse (mark : Char) {kinds : List ArgKind} {args : List Arg} {d : Char}
    {as : List Char} (ha : Query.parse a = .ok ⟨[f], ""⟩) (hd : isNamePart d = false)
    (list : Arguments ',' kinds (d :: as) [] args) :
    Arguments mark (.filter :: kinds) (mark :: (a.toList ++ d :: as)) [] (.filter f :: args) := by
  obtain ⟨lead, e, back, htext, hlead, hback, he⟩ := exists_expression_of_parse ha
  have harg : Argument .filter e (back ++ (d :: as ++ [])) (.filter f) := by
    rw [List.append_nil]
    exact .filter (he.before (head?_blanks_append hback hd as))
  have hhead : ∀ c ∈ (e ++ (back ++ d :: as)).head?, isBlank c = false := by
    rw [List.head?_append_of_ne_nil _ he.ne_nil]
    exact he.head?_not_blank
  have hlist := Arguments.spaced mark hlead hback harg hhead list
  rw [htext]
  simpa using hlist

/-- A call of an entry is read as the filter that it denotes. -/
theorem Expression.parse_list {name : FilterName} {as : List Char} {args : List Arg}
    (list : Arguments '(' name.params ('(' :: as) [] args) (means : Denotes name args f)
    {text : String} (htext : text.toList = name.word.toList ++ '(' :: as) :
    Query.parse text = .ok ⟨[f], ""⟩ := by
  have he := Expression.of_list list means
  rw [← htext] at he
  have hparse := he.parse
  rwa [String.ofList_toList] at hparse

theorem parse_negation (ha : Query.parse a = .ok ⟨[f], ""⟩) :
    Query.parse (negation a) = .ok ⟨[.not f], ""⟩ := by
  have hlist : Arguments '(' FilterName.not.params ('(' :: (a.toList ++ [')'])) [] [.filter f] :=
    arguments_of_parse '(' ha rfl .close
  have hword : "not(".toList = FilterName.not.word.toList ++ ['('] := rfl
  refine Expression.parse_list hlist (.not f) ?_
  simp [negation, hword]

/-- An entry with two filters is read as what it denotes, from any texts of
them. -/
theorem parse_pair {name : FilterName} {h : Filter} {text : String}
    (hp : name.params = [.filter, .filter]) (means : Denotes name [.filter f, .filter g] h)
    (ha : Query.parse a = .ok ⟨[f], ""⟩) (hb : Query.parse b = .ok ⟨[g], ""⟩)
    (htext : text.toList = name.word.toList ++ '(' :: (a.toList ++ ',' :: (b.toList ++ [')']))) :
    Query.parse text = .ok ⟨[h], ""⟩ := by
  have hsecond : Arguments ',' [.filter] (',' :: (b.toList ++ [')'])) [] [.filter g] :=
    arguments_of_parse ',' hb rfl .close
  refine Expression.parse_list ?_ means htext
  rw [hp]
  exact arguments_of_parse '(' ha rfl hsecond

theorem parse_conjunction (ha : Query.parse a = .ok ⟨[f], ""⟩)
    (hb : Query.parse b = .ok ⟨[g], ""⟩) :
    Query.parse (conjunction a b) = .ok ⟨[.and f g], ""⟩ := by
  have hword : "and(".toList = FilterName.and.word.toList ++ ['('] := rfl
  refine parse_pair rfl (.and f g) ha hb ?_
  simp [conjunction, hword]

theorem parse_disjunction (ha : Query.parse a = .ok ⟨[f], ""⟩)
    (hb : Query.parse b = .ok ⟨[g], ""⟩) :
    Query.parse (disjunction a b) = .ok ⟨[.or f g], ""⟩ := by
  have hword : "or(".toList = FilterName.or.word.toList ++ ['('] := rfl
  refine parse_pair rfl (.or f g) ha hb ?_
  simp [disjunction, hword]

theorem parse_side_by_side (ha : Query.parse a = .ok ⟨[f], ""⟩)
    (hb : Query.parse b = .ok ⟨[g], ""⟩) (hw : IsBlanks w.toList) (hne : w ≠ "") :
    Query.parse (a ++ w ++ b) = .ok ⟨[f, g], ""⟩ := by
  rw [Query.parse_append ha hw hne, hb]
  rfl

-- =========================================================== evaluating

/-- Queries that hold of the same records keep the same ones. -/
theorem evaluate_congr {fs gs : List Filter}
    (h : ∀ r : Record, (fs.all fun f => f.holds r) = gs.all fun f => f.holds r)
    (records : List Record) : evaluate fs records = evaluate gs records :=
  List.filter_congr fun r _ => h r

/-- The order of filters does not count. -/
theorem evaluate_perm {fs gs : List Filter} (h : fs.Perm gs) (records : List Record) :
    evaluate fs records = evaluate gs records :=
  evaluate_congr (fun _ => h.all_eq) records

/-- A filter that is there twice counts once. -/
theorem evaluate_twice (f : Filter) (records : List Record) :
    evaluate [f, f] records = evaluate [f] records :=
  evaluate_congr (fun r => by simp) records

/-- `and` is standing beside each other. -/
theorem evaluate_and (f g : Filter) (records : List Record) :
    evaluate [.and f g] records = evaluate [f, g] records :=
  evaluate_congr (fun r => by simp [Filter.holds]) records

theorem evaluate_not_not (f : Filter) (records : List Record) :
    evaluate [.not (.not f)] records = evaluate [f] records :=
  evaluate_congr (fun r => by simp [Filter.holds]) records

theorem evaluate_not_and (f g : Filter) (records : List Record) :
    evaluate [.not (.and f g)] records = evaluate [.or (.not f) (.not g)] records :=
  evaluate_congr (fun r => by simp [Filter.holds]) records

/-- `not` keeps just what is left. -/
theorem evaluate_append_not_perm (f : Filter) (records : List Record) :
    (evaluate [f] records ++ evaluate [.not f] records).Perm records := by
  have hnot : evaluate [.not f] records
      = records.filter fun r => !([f].all fun f => f.holds r) := by
    refine List.filter_congr fun r _ => ?_
    simp [Filter.holds]
  rw [hnot]
  exact List.filter_append_perm _ records

theorem not_mem_evaluate_not {r : Record} (h : r ∈ evaluate [f] records) :
    r ∉ evaluate [.not f] records := by
  intro hnot
  have hholds : f.holds r = true := by simpa using (List.mem_filter.1 h).2
  have hfails : f.holds r = false := by simpa [Filter.holds] using (List.mem_filter.1 hnot).2
  rw [hholds] at hfails
  cases hfails

theorem evaluate_sublist (fs : List Filter) (records : List Record) :
    (evaluate fs records).Sublist records :=
  List.filter_sublist

-- ============================================================== keeping

/-- A query that leaves nothing over keeps what its filters do. -/
theorem kept?_of_parse {fs : List Filter} (h : Query.parse a = .ok ⟨fs, ""⟩)
    (records : List Record) : kept? a records = some (evaluate fs records) := by
  unfold kept?
  rw [h]
  rfl

/-- The Boolean algebra of query texts.  Where `x` and `y` are texts that are
each read as one filter, blanks around them aside, `not`, `and` and `or` of
them are read as those of their filters, with nothing left over.  Of any
records, `x` beside `y` keeps those, in order, that `y` beside `x`, `and` of
both in either order, and `y` among those of `x` keep; two negations, and `x`
beside itself, keep what `x` keeps; what `x` and its negation keep makes up
all records, each once; and the negation of `and` keeps what `or` of the
negations keeps. -/
theorem query_text_algebra {y : String} (ha : Query.parse a = .ok ⟨[f], ""⟩)
    (hb : Query.parse b = .ok ⟨[g], ""⟩) (hx : Around a x) (hy : Around b y)
    (hw : IsBlanks w.toList) (hne : w ≠ "") :
    (Query.parse (negation x) = .ok ⟨[.not f], ""⟩
      ∧ Query.parse (conjunction x y) = .ok ⟨[.and f g], ""⟩
      ∧ Query.parse (disjunction x y) = .ok ⟨[.or f g], ""⟩)
      ∧ ∀ records,
        (∃ both, both.Sublist records
          ∧ kept? (x ++ w ++ y) records = some both
          ∧ kept? (y ++ w ++ x) records = some both
          ∧ kept? (conjunction x y) records = some both
          ∧ kept? (conjunction y x) records = some both
          ∧ (kept? x records).bind (kept? y) = some both)
        ∧ (∃ those others, those.Sublist records ∧ others.Sublist records
          ∧ kept? x records = some those
          ∧ kept? (negation (negation x)) records = some those
          ∧ kept? (x ++ w ++ x) records = some those
          ∧ kept? (negation x) records = some others
          ∧ (those ++ others).Perm records
          ∧ ∀ r ∈ those, r ∉ others)
        ∧ ∃ rest, rest.Sublist records
          ∧ kept? (negation (conjunction x y)) records = some rest
          ∧ kept? (disjunction (negation x) (negation y)) records = some rest := by
  have hf := hx.parse ha
  have hg := hy.parse hb
  refine ⟨⟨parse_negation hf, parse_conjunction hf hg, parse_disjunction hf hg⟩,
    fun records => ⟨⟨evaluate [f, g] records, evaluate_sublist _ _, ?_, ?_, ?_, ?_, ?_⟩,
      ⟨evaluate [f] records, evaluate [.not f] records, evaluate_sublist _ _,
        evaluate_sublist _ _, kept?_of_parse hf _, ?_, ?_, kept?_of_parse (parse_negation hf) _,
        evaluate_append_not_perm f records, fun r => not_mem_evaluate_not⟩,
      ⟨evaluate [.not (.and f g)] records, evaluate_sublist _ _,
        kept?_of_parse (parse_negation (parse_conjunction hf hg)) _, ?_⟩⟩⟩
  · exact kept?_of_parse (parse_side_by_side hf hg hw hne) _
  · rw [kept?_of_parse (parse_side_by_side hg hf hw hne), evaluate_perm (List.Perm.swap f g [])]
  · rw [kept?_of_parse (parse_conjunction hf hg), evaluate_and]
  · rw [kept?_of_parse (parse_conjunction hg hf), evaluate_and,
      evaluate_perm (List.Perm.swap f g [])]
  · rw [kept?_of_parse hf, Option.bind_some, kept?_of_parse hg, ← evaluate_append]
    rfl
  · rw [kept?_of_parse (parse_negation (parse_negation hf)), evaluate_not_not]
  · rw [kept?_of_parse (parse_side_by_side hf hf hw hne), evaluate_twice]
  · rw [kept?_of_parse (parse_disjunction (parse_negation hf) (parse_negation hg)),
      evaluate_not_and]

/-- A negated label with a comma and a bracket in it and a bare name, the
first with blanks around it. -/
theorem query_text_algebra_nested :
    Query.parse "not( label(a,(b ))" = .ok ⟨[.not (.label "a,(b")], ""⟩
      ∧ Query.parse "merged" = .ok ⟨[.merged], ""⟩
      ∧ Around "not( label(a,(b ))" "\tnot( label(a,(b )) "
      ∧ Query.parse (conjunction "\tnot( label(a,(b )) " "merged")
        = .ok ⟨[.and (.not (.label "a,(b")) .merged], ""⟩
      ∧ Query.parse (disjunction "\tnot( label(a,(b )) " "merged")
        = .ok ⟨[.or (.not (.label "a,(b")) .merged], ""⟩
      ∧ ∀ records,
        kept? ("\tnot( label(a,(b )) " ++ "\n" ++ "merged") records
            = kept? (conjunction "merged" "\tnot( label(a,(b )) ") records
          ∧ kept? (negation (conjunction "\tnot( label(a,(b )) " "merged")) records
            = kept? (disjunction (negation "\tnot( label(a,(b )) ") (negation "merged"))
              records := by
  have hlabel : Query.parse "not( label(a,(b ))" = .ok ⟨[.not (.label "a,(b")], ""⟩ := by cbv
  have hmerged : Query.parse "merged" = .ok ⟨[.merged], ""⟩ := by cbv
  have hblank : ∀ c, isBlank c = true → IsBlanks [c] := by
    intro c hc d hd
    rw [List.mem_singleton.1 hd]
    exact hc
  have haround : Around "not( label(a,(b ))" "\tnot( label(a,(b )) " :=
    ⟨"\t", " ", hblank '\t' rfl, hblank ' ' rfl, rfl⟩
  have hself : Around "merged" "merged" := ⟨"", "", isBlanks_nil, isBlanks_nil, rfl⟩
  have hline : IsBlanks "\n".toList := hblank '\n' rfl
  have hne : "\n" ≠ "" := by decide
  obtain ⟨⟨-, hand, hor⟩, hkept⟩ :=
    query_text_algebra hlabel hmerged haround hself hline hne
  refine ⟨hlabel, hmerged, haround, hand, hor, fun records => ?_⟩
  obtain ⟨⟨both, -, hbeside, -, -, hswapped, -⟩, -, rest, -, hnot, hnots⟩ := hkept records
  exact ⟨hbeside.trans hswapped.symm, hnot.trans hnots.symm⟩

end Docket
