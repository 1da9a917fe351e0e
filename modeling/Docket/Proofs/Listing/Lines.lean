/-
The lines of a listing that is shown as text.  Title, state, label names and
logins stand in the line of a record as they are, with nothing between them
that ends a line; so the line ends within what is printed for a record are
those of these texts, and every line of the output is a piece of the line of
one record, or the status line.

Main statement: the lines of the output, in order and in number.  They are
one for each record and the status line exactly when no shown text holds a
line end; a title that holds one tears the line of its record.
-/
import Mathlib.Data.List.Basic
import Docket.Shell

namespace Docket

-- ============================================================ the output

/-- The lines of a text by itself, whose last line has no end. -/
def linesIn (s : String) : List String := (pieces '\n' s.toList).map String.ofList

theorem linesIn_of_not_mem {s : String} (h : '\n' ∉ s.toList) : linesIn s = [s] := by
  unfold linesIn
  rw [pieces_of_not_mem h, List.map_singleton, String.ofList_toList]

theorem length_linesIn (s : String) : (linesIn s).length = s.toList.count '\n' + 1 := by
  unfold linesIn
  rw [List.length_map, length_pieces]

/-- An output is cut where its printed texts are, and behind the last. -/
theorem pieces_output {α : Type} (run : Run α) :
    pieces '\n' run.output.toList
      = run.printed.flatMap (fun s => pieces '\n' s.toList) ++ [[]] := by
  have hended : run.output.toList
      = (run.printed.map String.toList).flatMap fun cs => cs ++ ['\n'] := by
    unfold Run.output
    rw [String.toList_join, List.flatMap_map, List.flatMap_map]
    simp
  rw [hended, pieces_flatMap_ended, List.flatMap_map]

/-- The lines of an output are those of the printed texts. -/
theorem inputLines_output {α : Type} (run : Run α) :
    inputLines run.output = run.printed.flatMap linesIn := by
  unfold inputLines
  rw [pieces_output]
  simp only [List.getLast?_concat, beq_self_eq_true, if_true, List.dropLast_concat,
    List.map_flatMap]
  rfl

/-- Every line of an output has its end. -/
theorem count_output {α : Type} (run : Run α) :
    run.output.toList.count '\n' = (inputLines run.output).length := by
  have hpieces := length_pieces '\n' run.output.toList
  rw [pieces_output, List.length_append, List.length_singleton] at hpieces
  rw [inputLines_output, ← Nat.succ.inj hpieces]
  unfold linesIn
  rw [← List.map_flatMap, List.length_map]

-- ====================================================== the line of a record

namespace Record

/-- The texts of a record that its line shows as they are. -/
def shown (r : Record) : List String :=
  r.title.toList ++ r.state.toList ++ r.labels.map Label.name ++ r.assignees.map User.login

/-- No shown text holds a line end. -/
def IsTidy (r : Record) : Prop := ∀ s ∈ r.shown, '\n' ∉ s.toList

end Record

/-- The line ends in texts. -/
def breaks (texts : List String) : Nat := (texts.flatMap String.toList).count '\n'

theorem breaks_append (texts texts' : List String) :
    breaks (texts ++ texts') = breaks texts + breaks texts' := by
  unfold breaks
  rw [List.flatMap_append, List.count_append]

theorem breaks_cons (s : String) (texts : List String) :
    breaks (s :: texts) = s.toList.count '\n' + breaks texts := by
  unfold breaks
  rw [List.flatMap_cons, List.count_append]

theorem breaks_eq_zero_iff {texts : List String} :
    breaks texts = 0 ↔ ∀ s ∈ texts, '\n' ∉ s.toList := by
  unfold breaks
  rw [List.count_eq_zero, List.mem_flatMap]
  constructor
  · intro h s hs hmem
    exact h ⟨s, hs, hmem⟩
  · rintro h ⟨s, hs, hmem⟩
    exact h s hs hmem

theorem count_numeralText (n : Nat) : (numeralText n).toList.count '\n' = 0 := by
  rw [List.count_eq_zero]
  unfold numeralText
  rw [String.toList_ofList]
  intro hmem
  exact absurd (isDigit_of_mem_numeral n _ hmem) (by decide)

theorem count_spaced (s : String) : (spaced s).toList.count '\n' = s.toList.count '\n' := by
  unfold spaced
  split
  · next h => rw [String.isEmpty_iff.1 h]
  · simp [String.toList_append]

theorem count_bracketed (s : String) :
    (bracketed s).toList.count '\n' = s.toList.count '\n' := by
  unfold bracketed
  split
  · next h => rw [String.isEmpty_iff.1 h]
  · simp [String.toList_append]

theorem Record.count_stateText (r : Record) :
    r.stateText.toList.count '\n' = breaks r.state.toList := by
  unfold stateText
  cases r.state with
  | none => cases r.pull <;> simp [breaks]
  | some state =>
      cases r.pull with
      | none => simp [breaks]
      | some pull => cases r.isMerged <;> simp [breaks]

theorem count_intercalate (texts : List String) :
    (", ".intercalate texts).toList.count '\n' = breaks texts := by
  induction texts with
  | nil => simp [breaks]
  | cons s texts ih =>
      rw [breaks_cons, ← ih]
      cases texts with
      | nil => simp
      | cons s' texts =>
          rw [String.intercalate_cons_cons, String.toList_append, String.toList_append,
            List.count_append, List.count_append]
          simp

theorem count_logins (users : List User) :
    (String.join (users.map fun user => " @" ++ user.login)).toList.count '\n'
      = breaks (users.map User.login) := by
  induction users with
  | nil => simp [breaks]
  | cons user users ih =>
      rw [List.map_cons, List.map_cons, breaks_cons, ← ih, String.join_cons, String.toList_append,
        List.count_append]
      simp

/-- The line ends in the line of a record are those of the shown texts. -/
theorem Record.count_line (r : Record) : r.line.toList.count '\n' = breaks r.shown := by
  have htitle : (r.title.getD "").toList.count '\n' = breaks r.title.toList := by
    cases r.title <;> simp [breaks]
  have hlabels : (if r.labels.isEmpty then ""
      else " \x7b" ++ ", ".intercalate (r.labels.map Label.name) ++ "\x7d").toList.count '\n'
      = breaks (r.labels.map Label.name) := by
    split
    · next h => rw [List.isEmpty_iff.1 h]; simp [breaks]
    · rw [String.toList_append, String.toList_append, List.count_append, List.count_append,
        count_intercalate]
      simp
  unfold line shown
  simp only [String.toList_append, List.count_append, breaks_append, count_numeralText,
    count_spaced, count_bracketed, htitle, r.count_stateText, hlabels, count_logins]
  simp

/-- The line of a record without line ends in it is one line. -/
theorem Record.IsTidy.linesIn_line {r : Record} (h : r.IsTidy) : linesIn r.line = [r.line] := by
  apply linesIn_of_not_mem
  rw [← List.count_eq_zero, r.count_line]
  exact breaks_eq_zero_iff.2 h

/-- A text is empty or starts with a blank. -/
def StartsApart (s : String) : Prop := ∀ c ∈ s.toList.head?, c = ' '

theorem StartsApart.append {s t : String} (hs : StartsApart s) (ht : StartsApart t) :
    StartsApart (s ++ t) := by
  intro c hc
  rw [String.toList_append, List.head?_append] at hc
  cases hhead : s.toList.head? with
  | none =>
      rw [hhead, Option.none_or] at hc
      exact ht c hc
  | some d =>
      rw [hhead, Option.some_or] at hc
      exact hs c (hhead ▸ hc)

theorem startsApart_of_blank {s : String} (h : s.toList.head? = some ' ') (t : String) :
    StartsApart (s ++ t) := by
  intro c hc
  rw [String.toList_append, List.head?_append, h, Option.some_or] at hc
  exact (Option.some.inj hc).symm

theorem startsApart_empty : StartsApart "" := fun c hc => by simp at hc

theorem startsApart_spaced (s : String) : StartsApart (spaced s) := by
  unfold spaced
  split
  · exact startsApart_empty
  · exact startsApart_of_blank rfl s

theorem startsApart_bracketed (s : String) : StartsApart (bracketed s) := by
  unfold bracketed
  split
  · exact startsApart_empty
  · rw [String.append_assoc]
    exact startsApart_of_blank rfl _

/-- The line of a record starts with its number, and what follows is set off
by a blank. -/
theorem Record.exists_line_eq (r : Record) :
    ∃ rest, r.line = "#" ++ numeralText r.number.toNat ++ rest ∧ StartsApart rest := by
  have hlabels : StartsApart (if r.labels.isEmpty then ""
      else " \x7b" ++ ", ".intercalate (r.labels.map Label.name) ++ "\x7d") := by
    split
    · exact startsApart_empty
    · rw [String.append_assoc]
      exact startsApart_of_blank rfl _
  have hlogins : StartsApart (String.join (r.assignees.map fun user => " @" ++ user.login)) := by
    cases r.assignees with
    | nil => exact startsApart_empty
    | cons user users =>
        rw [List.map_cons, String.join_cons, String.append_assoc]
        exact startsApart_of_blank rfl _
  refine ⟨_, ?_, (startsApart_spaced (r.title.getD "")).append
    ((startsApart_bracketed r.stateText).append (hlabels.append hlogins))⟩
  unfold line
  simp only [String.append_assoc]

-- ======================================================== the whole report

theorem count_statusLine (shown matched : Nat) :
    (statusLine shown matched).toList.count '\n' = 0 := by
  unfold statusLine
  split
  · simp [String.toList_append, count_numeralText]
  · simp [String.toList_append, count_numeralText]

theorem linesIn_statusLine (shown matched : Nat) :
    linesIn (statusLine shown matched) = [statusLine shown matched] :=
  linesIn_of_not_mem (List.count_eq_zero.1 (count_statusLine shown matched))

theorem length_flatMap_linesIn (records : List Record) :
    (records.flatMap fun r => linesIn r.line).length
      = records.length + breaks (records.flatMap Record.shown) := by
  induction records with
  | nil => rfl
  | cons r records ih =>
      rw [List.flatMap_cons, List.flatMap_cons, List.length_append, ih, length_linesIn,
        r.count_line, breaks_append, List.length_cons]
      omega

theorem breaks_shown_eq_zero_iff {records : List Record} :
    breaks (records.flatMap Record.shown) = 0 ↔ ∀ r ∈ records, r.IsTidy := by
  rw [breaks_eq_zero_iff]
  constructor
  · intro h r hr s hs
    exact h s (List.mem_flatMap.2 ⟨r, hr, hs⟩)
  · intro h s hs
    obtain ⟨r, hr, hs⟩ := List.mem_flatMap.1 hs
    exact h r hr s hs

/-- A listing shown as text consists of the lines of each record's line, in
order, and the status line, all of them ended.  They are as many as the
records and one, and one more for every line end in a shown text.  So they
are one for each record and the status line exactly when no shown text holds
a line end; the line of a record starts with its number in any case. -/
theorem report_lines (records : List Record) (matched : Nat) :
    let output := (Run.print (report .text records matched)).output
    let status := statusLine records.length matched
    inputLines output = (records.flatMap fun r => linesIn r.line) ++ [status]
      ∧ output.toList.count '\n' = (inputLines output).length
      ∧ (inputLines output).length
        = records.length + 1 + breaks (records.flatMap Record.shown)
      ∧ ((inputLines output).length = records.length + 1 ↔ ∀ r ∈ records, r.IsTidy)
      ∧ (inputLines output = records.map Record.line ++ [status] ↔ ∀ r ∈ records, r.IsTidy)
      ∧ ∀ r ∈ records, ∃ rest, r.line = "#" ++ numeralText r.number.toNat ++ rest
        ∧ StartsApart rest := by
  intro output status
  have hlines : inputLines output = (records.flatMap fun r => linesIn r.line) ++ [status] := by
    calc inputLines output
        = (records.map Record.line ++ [status]).flatMap linesIn := by
          rw [inputLines_output, Run.printed_print]
          rfl
      _ = (records.flatMap fun r => linesIn r.line) ++ linesIn status := by
          rw [List.flatMap_append, List.flatMap_map, List.flatMap_singleton]
      _ = (records.flatMap fun r => linesIn r.line) ++ [status] := by
          rw [linesIn_statusLine]
  have hlength : (inputLines output).length
      = records.length + 1 + breaks (records.flatMap Record.shown) := by
    rw [hlines, List.length_append, length_flatMap_linesIn, List.length_singleton]
    omega
  have htidy : (inputLines output).length = records.length + 1 ↔ ∀ r ∈ records, r.IsTidy := by
    rw [hlength, ← breaks_shown_eq_zero_iff]
    omega
  refine ⟨hlines, count_output _, hlength, htidy, ?_, fun r _ => r.exists_line_eq⟩
  constructor
  · intro h
    rw [← htidy, h, List.length_append, List.length_map, List.length_singleton]
  · intro h
    have heach : (records.flatMap fun r => linesIn r.line) = records.map Record.line := by
      rw [← List.flatMap_singleton' (records.map Record.line), List.flatMap_map]
      exact List.flatMap_congr fun r hr => (h r hr).linesIn_line
    rw [hlines, heach]

/-- A title with a line end in it. -/
def Record.torn : Record := { Record.ofNumber 1 with title := some "a\nb" }

/-- A torn title takes two lines, though the record is one and can be read
from a listing. -/
theorem torn_title_takes_two_lines :
    readRecords? "[\x7b\"number\":1,\"title\":\"a\\nb\"\x7d]" = some [.torn]
      ∧ inputLines (Run.print (report .text [.torn] 1)).output
        = ["#1 a", "b", "1 records shown"] := by
  constructor <;> decide +kernel

/-- Records with control characters and a line separator in their texts, but
no line end: one line for each, and the status line. -/
theorem report_lines_tidy :
    let first : Record := { Record.ofNumber 7 with title := some "a\x0b\r\u2028b" }
    let second : Record :=
      { Record.ofNumber 7 with state := some "\x1b", labels := [.ofName "\t"] }
    inputLines (Run.print (report .text [first, second] 3)).output
        = ["#7 a\x0b\r\u2028b", "#7 [\x1b] \x7b\t\x7d", "2 records shown (3 matched)"]
      ∧ ∃ rest, second.line = "#" ++ numeralText 7 ++ rest ∧ StartsApart rest := by
  intro first second
  have htidy : ∀ r ∈ [first, second], r.IsTidy := by
    intro r hr
    rcases List.mem_pair.1 hr with rfl | rfl
    · simp [first, Record.IsTidy, Record.shown, Record.ofNumber]
    · intro s hs
      have hs : s = "\x1b" ∨ s = "\t" := List.mem_pair.1 hs
      rcases hs with rfl | rfl
      · simp
      · simp
  obtain ⟨-, -, -, -, hlines, hstart⟩ := report_lines [first, second] 3
  refine ⟨?_, hstart second (by simp)⟩
  rw [hlines.2 htidy]
  decide +kernel

end Docket
