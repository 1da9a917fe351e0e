/-
Queries beside each other.  Every token of a query ends at the same place
when a blank and any text are put behind the query, so two queries with
blanks between them are read one after the other.  Where the first one has
an ignored rest, the second one becomes a part of that rest.

Main statements: behind phrases without a rest, reading goes on at the
second query, with its failures too; phrases in front of a rest are the
same with more text behind the rest and with the rest cut off; and a query
that is joined from words is read word by word.
-/
import Docket.Proofs.Query.Parsing
import Mathlib.Data.List.Forall2

namespace Docket

open Cursor

variable {rest w b x : List Char} {ps : List Phrase}

-- ============================================================= phrases

/-- Text behind the rest is text behind the phrases. -/
theorem Phrase.join_append (ps : List Phrase) (rest x : List Char) :
    Phrase.join ps rest ++ x = Phrase.join ps (rest ++ x) := by
  induction ps with
  | nil => rfl
  | cons p ps ih =>
      show p.text ++ (p.gap ++ Phrase.join ps rest) ++ x = _
      rw [List.append_assoc, List.append_assoc, ih]
      rfl

/-- Phrases in front of a rest begin with no blank, if the rest does
not. -/
theorem Phrases.join_ne_nil (h : Phrases rest ps) (hne : rest ≠ []) :
    Phrase.join ps rest ≠ [] := by
  cases h with
  | nil ends => exact hne
  | cons head gap tail => simp [Phrase.join, head.ne_nil]

/-- Phrases stay what they are when a blank and any text are put behind
their rest, if there is a rest. -/
theorem Phrases.extend {c : Char} (hc : isBlank c = true) (hne : rest ≠ [])
    (h : Phrases rest ps) (x : List Char) : Phrases (rest ++ c :: x) ps := by
  induction h with
  | nil ends =>
      refine .nil ?_
      unfold StartsNone
      rw [List.head?_append_of_ne_nil _ hne]
      exact ends
  | @cons p ps head gap tail ih =>
      refine .cons ?_ ?_ ih
      · rw [← Phrase.join_append, ← List.append_assoc]
        exact head.extend (isNamePart_of_isBlank hc) x
      · rw [← Phrase.join_append]
        have h : Longest IsBlanks p.gap (Phrase.join ps rest ++ []) := by simpa using gap
        exact h.blanks_before (tail.join_ne_nil hne)

/-- Phrases stay what they are when their rest is cut off. -/
theorem Phrases.cut (h : Phrases rest ps) : Phrases [] ps := by
  have hjoin : ∀ ps, Phrase.join ps rest = Phrase.join ps [] ++ rest := fun ps => by
    rw [Phrase.join_append]
    rfl
  induction h with
  | nil ends => exact .nil nofun
  | @cons p ps head gap tail ih =>
      rw [hjoin] at head gap
      refine .cons (head.cut (r := rest) ?_) gap.cut ih
      rw [List.append_assoc]

/-- Behind phrases without a rest and blanks, reading goes on at what
follows. -/
theorem Phrases.filters_append (h : Phrases [] ps) (hw : IsBlanks w) (hne : w ≠ [])
    (b : List Char) :
    (⟨trimStart (Phrase.join ps (w ++ b))⟩ : Cursor).filters
      = (⟨trimStart b⟩ : Cursor).filters.map fun r => (ps.map Phrase.filter ++ r.1, r.2) := by
  induction h with
  | nil ends =>
      show (⟨trimStart (w ++ b)⟩ : Cursor).filters = _
      rw [trimStart_append_of_blank hw]
      cases (⟨trimStart b⟩ : Cursor).filters <;> rfl
  | @cons p ps head gap tail ih =>
      obtain ⟨c, w', rfl⟩ := List.exists_cons_of_ne_nil hne
      have hhead : Expression p.text (p.gap ++ Phrase.join ps (c :: w' ++ b)) p.filter := by
        have h := head.extend (isNamePart_of_isBlank (hw c (by simp))) (w' ++ b)
        rwa [List.append_assoc, Phrase.join_append] at h
      have hstart : trimStart (Phrase.join (p :: ps) (c :: w' ++ b))
          = p.text ++ (p.gap ++ Phrase.join ps (c :: w' ++ b)) := by
        refine trimStart_eq_self fun d hd => ?_
        rw [Phrase.join, List.head?_append_of_ne_nil _ head.ne_nil] at hd
        exact head.head?_not_blank d hd
      rw [hstart, hhead.filters_eq, trimStart_append_of_blank gap.1, ih]
      cases (⟨trimStart b⟩ : Cursor).filters <;> rfl

-- ============================================================= queries

/-- A query is what is read behind the blanks in front of its text. -/
theorem Query.parse_eq {q : String} {lead cs : List Char} (hq : q.toList = lead ++ cs)
    (hlead : IsBlanks lead) :
    Query.parse q = ((⟨trimStart cs⟩ : Cursor).filters.map fun r =>
      (⟨r.1, r.2.remaining⟩ : Query)).mapError Failure.error := by
  have hstart : Cursor.ofString q = ⟨trimStart cs⟩ := by
    show (⟨trimStart q.toList⟩ : Cursor) = _
    rw [hq, trimStart_append_of_blank hlead]
  unfold Query.parse
  rw [hstart]
  cases (⟨trimStart cs⟩ : Cursor).filters <;> rfl

/-- A query that leaves nothing over is read in front of any other. -/
theorem Query.parse_append {a w b : String} {fs : List Filter}
    (ha : Query.parse a = .ok ⟨fs, ""⟩) (hw : IsBlanks w.toList) (hne : w ≠ "") :
    Query.parse (a ++ w ++ b)
      = (Query.parse b).map fun q => ⟨fs ++ q.filters, q.ignored⟩ := by
  obtain ⟨lead, ps, whole, blanks, derived, rfl⟩ := exists_phrases_of_parse ha
  have htext : (a ++ w ++ b).toList = lead ++ Phrase.join ps (w.toList ++ b.toList) := by
    rw [String.toList_append, String.toList_append, whole, List.append_assoc,
      List.append_assoc, Phrase.join_append]
    rfl
  rw [parse_eq htext blanks.1, parse_eq (q := b) (List.nil_append _).symm isBlanks_nil,
    derived.filters_append hw (by simpa using hne)]
  cases (⟨trimStart b.toList⟩ : Cursor).filters <;> rfl

/-- A query that leaves something over leaves also over what is put
behind it. -/
theorem Query.parse_append_rest {a w b rest : String} {fs : List Filter}
    (ha : Query.parse a = .ok ⟨fs, rest⟩) (hrest : rest ≠ "") (hw : IsBlanks w.toList)
    (hne : w ≠ "") : Query.parse (a ++ w ++ b) = .ok ⟨fs, rest ++ w ++ b⟩ := by
  obtain ⟨lead, ps, whole, blanks, derived, rfl⟩ := exists_phrases_of_parse ha
  have hr : rest.toList ≠ [] := by simpa using hrest
  obtain ⟨c, w', hcw⟩ := List.exists_cons_of_ne_nil (l := w.toList) (by simpa using hne)
  have hback : (rest ++ w ++ b).toList = rest.toList ++ c :: (w' ++ b.toList) := by
    rw [String.toList_append, String.toList_append, hcw]
    simp
  have hderived := derived.extend (hw c (by simp [hcw])) hr (w' ++ b.toList)
  rw [← hback] at hderived
  have hjoin : Phrase.join ps (rest ++ w ++ b).toList
      = Phrase.join ps rest.toList ++ (w.toList ++ b.toList) := by
    rw [Phrase.join_append]
    simp
  have hblanks : Longest IsBlanks lead (Phrase.join ps (rest ++ w ++ b).toList) := by
    have h : Longest IsBlanks lead (Phrase.join ps rest.toList ++ []) := by simpa using blanks
    rw [hjoin]
    exact h.blanks_before (derived.join_ne_nil hr)
  have htext : (a ++ w ++ b).toList = lead ++ Phrase.join ps (rest ++ w ++ b).toList := by
    rw [hjoin, String.toList_append, String.toList_append, whole]
    simp
  have hparse := parse_of_phrases htext hblanks hderived
  rwa [String.ofList_toList] at hparse

/-- Without what it leaves over, a query is read as before. -/
theorem Query.parse_front {a rest : String} {fs : List Filter}
    (ha : Query.parse a = .ok ⟨fs, rest⟩) :
    ∃ front, a = front ++ rest ∧ Query.parse front = .ok ⟨fs, ""⟩ := by
  obtain ⟨lead, ps, whole, blanks, derived, rfl⟩ := exists_phrases_of_parse ha
  have hjoin : Phrase.join ps rest.toList = Phrase.join ps [] ++ rest.toList := by
    rw [Phrase.join_append]
    rfl
  rw [hjoin] at whole blanks
  refine ⟨String.ofList (lead ++ Phrase.join ps []), ?_, ?_⟩
  · rw [← String.toList_inj, whole]
    simp
  · exact parse_of_phrases String.toList_ofList blanks.cut derived.cut

/-- The empty query has no filters. -/
theorem Query.parse_empty : Query.parse "" = .ok ⟨[], ""⟩ := by
  have hnone : Phrases [] [] := .nil nofun
  have hblanks : Longest IsBlanks [] (Phrase.join [] []) :=
    longest_isBlanks_iff.2 ⟨isBlanks_nil, nofun⟩
  exact parse_of_phrases rfl hblanks hnone

/-- Words that leave nothing over are read one after the other. -/
theorem Query.parse_intercalate {words : List String} {fss : List (List Filter)}
    (h : List.Forall₂ (fun word fs => Query.parse word = .ok ⟨fs, ""⟩) words fss) :
    Query.parse (" ".intercalate words) = .ok ⟨fss.flatten, ""⟩ := by
  induction h with
  | nil => exact parse_empty
  | @cons word fs words fss hword hwords ih =>
      cases words with
      | nil =>
          cases hwords
          rw [String.intercalate_singleton, hword]
          simp
      | cons word' words =>
          have hspace : IsBlanks " ".toList := by
            intro c hc
            obtain rfl : c = ' ' := List.mem_singleton.1 hc
            rfl
          rw [String.intercalate_cons_cons, parse_append hword hspace (by decide), ih]
          rfl

/-- Queries compose by standing beside each other.  Behind a query that
leaves nothing over, another one is read as it is alone, with its failures
too; behind one that leaves something over, anything is left over as well,
and without what it leaves over the query is read as before; so words that
leave nothing over make up a query of all their filters, in order. -/
theorem parse_beside :
    (∀ a w b : String, w ≠ "" → IsBlanks w.toList →
      (∀ fs, Query.parse a = .ok ⟨fs, ""⟩ →
        Query.parse (a ++ w ++ b)
          = (Query.parse b).map fun q => ⟨fs ++ q.filters, q.ignored⟩)
      ∧ ∀ fs rest, Query.parse a = .ok ⟨fs, rest⟩ → rest ≠ "" →
        Query.parse (a ++ w ++ b) = .ok ⟨fs, rest ++ w ++ b⟩
          ∧ ∃ front, a = front ++ rest ∧ Query.parse front = .ok ⟨fs, ""⟩)
      ∧ ∀ words fss,
        List.Forall₂ (fun word fs => Query.parse word = .ok ⟨fs, ""⟩) words fss →
          Query.parse (" ".intercalate words) = .ok ⟨fss.flatten, ""⟩ := by
  refine ⟨fun a w b hne hw => ⟨fun fs ha => Query.parse_append ha hw hne, ?_⟩,
    fun words fss h => Query.parse_intercalate h⟩
  intro fs rest ha hrest
  exact ⟨Query.parse_append_rest ha hrest hw hne, Query.parse_front ha⟩

/-- An unknown name behind a good query is the failure that it is alone; an
ignored rest swallows it. -/
theorem parse_beside_bogus :
    Query.parse "open n(5)" = .ok ⟨[.isOpen, .number 5], ""⟩
      ∧ Query.parse ("open n(5)" ++ "\t" ++ "bogus") = .error (.unknownFilter "bogus")
      ∧ Query.parse "pr !x" = .ok ⟨[.pull], "!x"⟩
      ∧ Query.parse ("pr !x" ++ "\t" ++ "bogus") = .ok ⟨[.pull], "!x\tbogus"⟩
      ∧ Query.parse "pr " = .ok ⟨[.pull], ""⟩
      ∧ Query.parse (" ".intercalate ["open n(5)", "pr "])
        = .ok ⟨[.isOpen, .number 5, .pull], ""⟩ := by
  have hopen : Query.parse "open n(5)" = .ok ⟨[.isOpen, .number 5], ""⟩ := by cbv
  have hrest : Query.parse "pr !x" = .ok ⟨[.pull], "!x"⟩ := by cbv
  have hpull : Query.parse "pr " = .ok ⟨[.pull], ""⟩ := by cbv
  have hbogus : Query.parse "bogus" = .error (.unknownFilter "bogus") := by cbv
  have hblank : IsBlanks "\t".toList := by
    intro c hc
    obtain rfl : c = '\t' := List.mem_singleton.1 hc
    rfl
  have hfirst := (parse_beside.1 "open n(5)" "\t" "bogus" (by decide) hblank).1 _ hopen
  have hsecond := (parse_beside.1 "pr !x" "\t" "bogus" (by decide) hblank).2 _ _ hrest (by decide)
  rw [hbogus] at hfirst
  exact ⟨hopen, hfirst, hrest, hsecond.1, hpull,
    parse_beside.2 _ _ (.cons hopen (.cons hpull .nil))⟩

end Docket
