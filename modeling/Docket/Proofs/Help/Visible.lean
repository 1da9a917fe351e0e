/-
What is seen of a colored block of examples.  An escape sequence goes from
an escape character to the next `m` and is not seen; all else is.

A colored text shows a plain one when the plain one is what is seen of it
whatever stands behind, so that showing composes: a painted text shows the
text, a painted command the command, a painted line the line.  The lines of
a block are joined by what has been painted before, and there coloring and
plain joining agree step by step, because a painted line is empty exactly
when the line is.

Main statement: of a block without escape characters every line is seen as
it is, in order, except for empty lines in front, which are lost.
-/
import Docket.Help.Examples

namespace Docket

-- ============================================================== what is seen

/-- What is seen of a text that starts inside of an escape sequence, or
outside of one. -/
def visibleFrom : Bool → List Char → List Char
  | _, [] => []
  | true, c :: cs => visibleFrom (c != 'm') cs
  | false, c :: cs =>
    if c = '\x1b' then visibleFrom true cs else c :: visibleFrom false cs

/-- A text without its escape sequences. -/
def visible (cs : List Char) : List Char := visibleFrom false cs

/-- The plain text is what is seen of the colored one, whatever stands
behind. -/
def Shows (colored plain : List Char) : Prop :=
  ∀ rest, visible (colored ++ rest) = plain ++ visible rest

namespace Shows

variable {colored colored' plain plain' : List Char}

theorem visible_eq (h : Shows colored plain) : visible colored = plain := by
  have hrest := h []
  rwa [List.append_nil, show visible [] = [] from rfl, List.append_nil] at hrest

theorem append (h : Shows colored plain) (h' : Shows colored' plain') :
    Shows (colored ++ colored') (plain ++ plain') := by
  intro rest
  rw [List.append_assoc, h, h', List.append_assoc]

/-- A text without escape characters shows itself. -/
theorem self (h : '\x1b' ∉ plain) : Shows plain plain := by
  intro rest
  induction plain with
  | nil => rfl
  | cons c cs ih =>
      rw [List.mem_cons, not_or] at h
      have hcs := ih h.2
      unfold visible at hcs ⊢
      rw [List.cons_append, List.cons_append, visibleFrom, if_neg (Ne.symm h.1), hcs]

/-- Pieces show what each of them shows. -/
theorem flatMap {α : Type} {items : List α} {f g : α → List Char}
    (h : ∀ a ∈ items, Shows (f a) (g a)) : Shows (items.flatMap f) (items.flatMap g) := by
  induction items with
  | nil => exact self List.not_mem_nil
  | cons a items ih =>
      rw [List.flatMap_cons, List.flatMap_cons]
      exact (h a List.mem_cons_self).append (ih fun b hb => h b (List.mem_cons_of_mem _ hb))

end Shows

-- ================================================================= painting

/-- An escape sequence is not seen. -/
theorem shows_sequence {cs : List Char} (h : 'm' ∉ cs) : Shows ('\x1b' :: cs ++ ['m']) [] := by
  intro rest
  show visibleFrom true (cs ++ ['m'] ++ rest) = visible rest
  induction cs with
  | nil => rfl
  | cons c cs ih =>
      rw [List.mem_cons, not_or] at h
      rw [List.cons_append, List.cons_append, visibleFrom, bne_iff_ne.2 (Ne.symm h.1), ih h.2]

theorem shows_switchOn (tint : Tint) : Shows tint.switchOn [] := by
  unfold Tint.switchOn
  rw [List.cons_append]
  apply shows_sequence
  intro hmem
  rcases List.mem_append.1 hmem with hmem | hmem
  · simp at hmem
  · exact absurd (isDigit_of_mem_numeral _ _ hmem) (by decide)

theorem shows_switchOff : Shows Tint.switchOff [] := by
  have hcode : 'm' ∉ ['[', '0'] := by simp
  exact shows_sequence hcode

/-- A painted text shows the text. -/
theorem shows_paint (tint : Tint) {cs : List Char} (h : '\x1b' ∉ cs) :
    Shows (tint.paint cs) cs := by
  have hpaint := ((shows_switchOn tint).append (.self h)).append shows_switchOff
  rwa [List.nil_append, List.append_nil] at hpaint

theorem shows_segment {segment : Segment} (h : '\x1b' ∉ segment.text) :
    Shows segment.paint segment.text := by
  cases segment with
  | literal cs => exact shows_paint .literal h
  | context cs => exact shows_paint .context h

/-- A painted command shows the command. -/
theorem shows_paintCommand {cs : List Char} (h : '\x1b' ∉ cs) : Shows (paintCommand cs) cs := by
  have hsegments : Shows (paintCommand cs) ((segments cs).flatMap Segment.text) := by
    apply Shows.flatMap
    intro segment hmem
    apply shows_segment
    intro hesc
    rw [← flatMap_text_segments cs] at h
    exact h (List.mem_flatMap.2 ⟨segment, hmem, hesc⟩)
  rwa [flatMap_text_segments] at hsegments

/-- A line is cut into two parts of it. -/
theorem append_of_cutAtGap {cs before behind : List Char}
    (h : cutAtGap cs = some (before, behind)) : before ++ behind = cs := by
  fun_induction cutAtGap cs generalizing before behind with
  | case1 rest =>
      cases h
      rfl
  | case2 c rest _ ih =>
      obtain ⟨⟨a, b⟩, hcut, heq⟩ := Option.map_eq_some_iff.1 h
      cases heq
      rw [List.cons_append, ih hcut]
  | case3 => cases h

theorem append_of_cutDescription {cs command description : List Char}
    (h : cutDescription cs = some (command, description)) : command ++ description = cs :=
  append_of_cutAtGap (Option.filter_eq_some_iff.1 h).1

/-- A painted line shows the line. -/
theorem shows_paintLine {line : List Char} (h : '\x1b' ∉ line) : Shows (paintLine line) line := by
  have hsplit := takeWhile_append_trimStart line
  rw [← hsplit, List.mem_append, not_or] at h
  obtain ⟨hindent, hbody⟩ := h
  unfold paintLine
  dsimp only
  split
  · have hheader := (Shows.self hindent).append (shows_paint .header hbody)
    rwa [hsplit] at hheader
  · split
    · next command description hcut =>
      have hcut := append_of_cutDescription hcut
      rw [← hcut, List.mem_append, not_or] at hbody
      have hline := (Shows.self hindent).append
        ((shows_paintCommand hbody.1).append (.self hbody.2))
      rwa [hcut, hsplit, ← List.append_assoc] at hline
    · rw [← hsplit]
      exact (Shows.self hindent).append (.self hbody)

-- ================================================================== joining

/-- A line behind what there is before it, with a line end between the two
if there is anything. -/
def joinTo (before line : List Char) : List Char :=
  (if before.isEmpty then [] else before ++ ['\n']) ++ line

theorem joinTo_nil (line : List Char) : joinTo [] line = line := rfl

theorem joinTo_of_ne_nil {before : List Char} (h : before ≠ []) (line : List Char) :
    joinTo before line = before ++ '\n' :: line := by
  unfold joinTo
  rw [if_neg (by simpa using h), List.append_assoc, List.singleton_append]

theorem joinTo_eq_nil_iff {before line : List Char} :
    joinTo before line = [] ↔ before = [] ∧ line = [] := by
  by_cases h : before = []
  · rw [h, joinTo_nil]
    simp
  · rw [joinTo_of_ne_nil h]
    simp [h]

/-- Behind a text, every line comes with a line end in front. -/
theorem foldl_joinTo_of_ne_nil {before : List Char} (h : before ≠ [])
    (lines : List (List Char)) :
    lines.foldl joinTo before = before ++ lines.flatMap ('\n' :: ·) := by
  induction lines generalizing before with
  | nil => simp
  | cons line lines ih =>
      rw [List.foldl_cons, joinTo_of_ne_nil h, ih (by simp), List.flatMap_cons, List.append_assoc]

/-- Joining loses the empty lines in front. -/
theorem foldl_joinTo (lines : List (List Char)) :
    lines.foldl joinTo [] = glue '\n' (lines.dropWhile List.isEmpty) := by
  induction lines with
  | nil => rfl
  | cons line lines ih =>
      rw [List.foldl_cons, joinTo_nil]
      cases line with
      | nil => exact ih
      | cons c cs => rw [foldl_joinTo_of_ne_nil (by simp), ← glue_cons]; rfl

/-- Painting the lines while they are joined shows the lines joined, if that
is so of what stands before them. -/
theorem shows_foldl {lines : List (List Char)} (hlines : ∀ line ∈ lines, '\x1b' ∉ line)
    {colored plain : List Char} (h : Shows colored plain) (hnil : plain = [] → colored = []) :
    Shows (lines.foldl (fun before line => joinTo before (paintLine line)) colored)
      (lines.foldl joinTo plain) := by
  induction lines generalizing colored plain with
  | nil => exact h
  | cons line lines ih =>
      have hline := shows_paintLine (hlines line List.mem_cons_self)
      rw [List.foldl_cons, List.foldl_cons]
      apply ih fun line hmem => hlines line (List.mem_cons_of_mem _ hmem)
      · by_cases hplain : plain = []
        · rw [hplain, hnil hplain]
          exact hline
        · have hcolored : colored ≠ [] := by
            rintro rfl
            exact hplain h.visible_eq.symm
          rw [joinTo_of_ne_nil hplain, joinTo_of_ne_nil hcolored]
          have hend : Shows ['\n'] ['\n'] := .self (by simp)
          exact h.append (hend.append hline)
      · intro hjoined
        obtain ⟨hplain, rfl⟩ := joinTo_eq_nil_iff.1 hjoined
        rw [hnil hplain]
        rfl

-- =================================================================== blocks

/-- The lines of a text hold no other characters than the text. -/
theorem mem_of_mem_linesOf {c : Char} {cs line : List Char} (hline : line ∈ linesOf cs)
    (hc : c ∈ line) : c ∈ cs := by
  unfold linesOf at hline
  rcases List.mem_append.1 hline with hline | hline
  · obtain ⟨part, hpart, rfl⟩ := List.mem_map.1 hline
    apply mem_of_mem_pieces ((List.dropLast_sublist _).subset hpart)
    unfold dropReturn at hc
    split at hc
    · exact (List.dropLast_sublist _).subset hc
    · exact hc
  · have hlast := (Option.filter_eq_some_iff.1 (Option.mem_toList.1 hline)).1
    exact mem_of_mem_pieces (List.mem_of_getLast? hlast) hc

/-- Of a colored block the lines of the text are seen, joined by line ends,
without the empty ones in front. -/
theorem visible_colorizeExamples {text : String} (h : '\x1b' ∉ text.toList) :
    visible (colorizeExamples text).toList
      = glue '\n' ((linesOf text.toList).dropWhile List.isEmpty) := by
  have hlines : ∀ line ∈ linesOf text.toList, '\x1b' ∉ line :=
    fun line hline hesc => h (mem_of_mem_linesOf hline hesc)
  have hshows := shows_foldl hlines (.self List.not_mem_nil) fun hnil => hnil
  rw [← foldl_joinTo]
  unfold colorizeExamples
  rw [String.toList_ofList]
  exact hshows.visible_eq

/-- Without its empty lines in front, a block is the end of what it was. -/
theorem glue_dropWhile_suffix (sep : Char) (lines : List (List Char)) :
    glue sep (lines.dropWhile List.isEmpty) <:+ glue sep lines := by
  induction lines with
  | nil => exact List.suffix_rfl
  | cons line lines ih =>
      cases line with
      | cons c cs => exact List.suffix_rfl
      | nil =>
          apply ih.trans
          rw [glue_cons, List.nil_append]
          cases lines with
          | nil => exact List.suffix_rfl
          | cons next lines =>
              rw [glue_cons, List.flatMap_cons, List.cons_append]
              exact List.suffix_cons sep _

/-- Nothing is lost of a block unless an empty line has another one behind
it at the front. -/
theorem glue_dropWhile_eq_iff {sep : Char} {lines : List (List Char)} :
    glue sep (lines.dropWhile List.isEmpty) = glue sep lines
      ↔ ¬∃ next more, lines = [] :: next :: more := by
  rcases lines with _ | ⟨_ | ⟨c, cs⟩, _ | ⟨next, more⟩⟩
  · simp
  · simp [glue]
  · -- what is left cannot make up for the line end that is gone
    have hlength := (glue_dropWhile_suffix sep (next :: more)).length_le
    constructor
    · intro heq
      have hsame := congrArg List.length heq
      rw [List.dropWhile_cons_of_pos rfl, glue, List.nil_append, List.length_cons] at hsame
      · omega
      · intro hnil
        cases hnil
    · intro hnone
      exact absurd ⟨next, more, rfl⟩ hnone
  · simp
  · simp

/-- Coloring a block of examples without escape characters shows its lines as
they are, blanks and brackets and all, in their order and joined by line
ends; only empty lines in front are lost.  So nothing at all is lost, unless
the block begins with an empty line and goes on behind it. -/
theorem coloring_shows_lines (text : String) (h : '\x1b' ∉ text.toList) :
    visible (colorizeExamples text).toList
        = glue '\n' ((linesOf text.toList).dropWhile List.isEmpty)
      ∧ (visible (colorizeExamples text).toList = glue '\n' (linesOf text.toList)
        ↔ ¬∃ next more, linesOf text.toList = [] :: next :: more) := by
  have hvisible := visible_colorizeExamples h
  refine ⟨hvisible, ?_⟩
  rw [hvisible]
  exact glue_dropWhile_eq_iff

/-- A header, an empty line in the middle and one at the end, a wide blank in
front, placeholders one in another and one without an end, and a description
with the letter that ends escape sequences. -/
theorem coloring_shows_lines_nested :
    let text := "Examples:\n\n\u3000do <a <b> c  m < n\r\n\n"
    '\x1b' ∉ text.toList
      ∧ visible (colorizeExamples text).toList
        = "Examples:\n\n\u3000do <a <b> c  m < n\n".toList := by
  intro text
  have hplain : '\x1b' ∉ text.toList := by decide
  obtain ⟨-, hall⟩ := coloring_shows_lines text hplain
  have hlines : linesOf text.toList
      = ["Examples:".toList, [], "\u3000do <a <b> c  m < n".toList, []] := by decide
  have hfirst : ¬∃ next more, linesOf text.toList = [] :: next :: more := by
    rw [hlines]
    simp
  refine ⟨hplain, ?_⟩
  rw [hall.2 hfirst, hlines]
  decide

/-- An empty line in front of a line is lost. -/
theorem empty_line_in_front_is_lost :
    visible (colorizeExamples "\nabc").toList = "abc".toList
      ∧ glue '\n' (linesOf "\nabc".toList) = "\nabc".toList := by
  constructor <;> decide +kernel

end Docket
