/-
Whole sessions, side by side.  A session is its first load and then one
line after another, each from the state that those before it left; so two
sessions are the same from where their states are.  An idle line leaves the
state alone, and a load leaves nothing of it but what the configuration
started with.

Main statements: a session prints what its lines print, up to the first
one that quits; a session without one of its idle lines lacks what that
line prints and nothing else; behind a line that loads from a directory, a
session is one that starts there; the ends of its lines do not count; and
of the files, a session only sees what records its directories come to.
-/
import Docket.Proofs.Shell.State

namespace Docket

-- ====================================================== lines of a text

/-- The ways to end a line. -/
inductive LineEnd where
  | plain
  | returned
deriving DecidableEq, Repr

/-- What stands in front of the line feed of a line end. -/
def LineEnd.lead : LineEnd → List Char
  | plain => []
  | returned => ['\r']

/-- The text of lines with their ends, and of a last one without. -/
def endedText (ended : List (String × LineEnd)) (last : String) : String :=
  String.ofList (ended.flatMap (fun l => l.1.toList ++ l.2.lead ++ ['\n']) ++ last.toList)

/-- A line end begins with blanks, if with anything. -/
theorem LineEnd.isBlanks_lead (e : LineEnd) : IsBlanks e.lead := by
  cases e with
  | plain => exact isBlanks_nil
  | returned =>
      intro c hc
      rw [List.mem_singleton.1 hc]
      rfl

/-- A text of ended lines is cut at their ends. -/
theorem pieces_endedText {ended : List (String × LineEnd)} {last : String}
    (hended : ∀ l ∈ ended, '\n' ∉ l.1.toList) (hlast : '\n' ∉ last.toList) :
    pieces '\n' (endedText ended last).toList
      = ended.map (fun l => l.1.toList ++ l.2.lead) ++ [last.toList] := by
  unfold endedText
  rw [String.toList_ofList]
  induction ended with
  | nil => exact pieces_of_not_mem hlast
  | cons l ended ih =>
      have hline : '\n' ∉ l.1.toList ++ l.2.lead := by
        intro hmem
        rcases List.mem_append.1 hmem with hmem | hmem
        · exact hended l List.mem_cons_self hmem
        · cases hend : l.2 <;> simp [hend, LineEnd.lead] at hmem
      rw [List.flatMap_cons, List.append_assoc, List.append_assoc (l.1.toList ++ l.2.lead),
        List.singleton_append, pieces_append_cons hline,
        ih fun l hl => hended l (List.mem_cons_of_mem _ hl)]
      rfl

/-- The lines of a text of ended lines are those lines, blanks aside, and
the last one, if there is any of it. -/
theorem map_trimText_inputLines {ended : List (String × LineEnd)} {last : String}
    (hended : ∀ l ∈ ended, '\n' ∉ l.1.toList) (hlast : '\n' ∉ last.toList) :
    (inputLines (endedText ended last)).map trimText
      = (ended.map Prod.fst ++ if last = "" then [] else [last]).map trimText := by
  have hline : ∀ (line : String) (e : LineEnd),
      trimText (line ++ String.ofList e.lead) = trimText line := by
    intro line e
    unfold trimText
    rw [String.toList_append, String.toList_ofList, trim_append_of_blank e.isBlanks_lead]
  unfold inputLines
  rw [pieces_endedText hended hlast]
  by_cases hnil : last = ""
  · subst hnil
    simp [Function.comp_def, hline]
  · simp [Function.comp_def, hline, hnil]

-- ========================================================= other files

/-- The records that files come to are the same in other files, in the
directory of a configuration and in further ones. -/
def SameRecords (files files' : Files) (config : Config) (dirs : List String) : Prop :=
  ∀ dir ∈ config.dataDir :: dirs, (loadRecords files' (config.withDataDir dir)).result
    = (loadRecords files (config.withDataDir dir)).result

theorem SameRecords.here {files files' : Files} {config : Config} {dirs : List String}
    (h : SameRecords files files' config dirs) :
    (loadRecords files' config).result = (loadRecords files config).result :=
  h config.dataDir List.mem_cons_self

namespace Shell

variable {files files' : Files} {config : Config} {shell shell' next : Shell}
  {input : List String}
  {line dir : String}

-- =================================================== lines of a session

/-- What lines print, each at the state that those before it left. -/
def answers (files : Files) : Shell → List String → List String
  | _, [] => []
  | shell, line :: rest =>
    (handle files shell (.ofString line)).output ::
      match (handle files shell (.ofString line)).result with
      | .ok (some next) => answers files next rest
      | _ => []

/-- The lines in front of the first one that quits. -/
def heard (input : List String) : List String := input.takeWhile fun line => !quits line

/-- No line that is heard quits. -/
theorem quits_of_mem_heard (h : line ∈ heard input) : quits line = false := by
  simpa using List.mem_takeWhile_imp h

/-- Blanks around lines do not count. -/
theorem lines_congr {input' : List String} (h : input.map trimText = input'.map trimText) :
    lines files shell input = lines files shell input' := by
  induction input generalizing shell input' with
  | nil =>
      obtain rfl : input' = [] := by simpa using h.symm
      rfl
  | cons line rest ih =>
      cases input' with
      | nil => cases h
      | cons line' rest' =>
          obtain ⟨hline, hrest⟩ := List.cons.inj h
          show (handle files shell (.ofString line) >>= _)
            = (handle files shell (.ofString line') >>= _)
          rw [ofString_congr hline]
          refine Run.bind_congr (result_handle_eq files shell _) ?_
          cases left? files shell (.ofString line') with
          | none => rfl
          | some next => exact ih hrest

/-- Nothing is read behind a line that quits. -/
theorem lines_of_quits (h : quits line = true) (rest : List String) :
    lines files shell (line :: rest) = Run.done () := by
  show (handle files shell (.ofString line) >>= _) = _
  rw [ofString_of_quits h]
  exact Run.done_bind none _

/-- Behind a line that leaves a state, the others are handled there. -/
theorem lines_of_left? (h : left? files shell (.ofString line) = some next)
    (rest : List String) :
    lines files shell (line :: rest)
      = handle files shell (.ofString line) >>= fun _ => lines files next rest :=
  Run.bind_congr (result_handle_of_left? h) rfl

/-- Lines that do not quit print their answers. -/
theorem output_lines (h : ∀ line ∈ input, quits line = false) :
    (lines files shell input).output = String.join (answers files shell input) := by
  induction input generalizing shell with
  | nil => rfl
  | cons line rest ih =>
      obtain ⟨next, hnext⟩ := exists_left? files shell (h line List.mem_cons_self)
      have hresult := result_handle_of_left? hnext
      rw [lines_of_left? hnext, Run.output_bind hresult,
        ih fun l hl => h l (List.mem_cons_of_mem _ hl), answers, hresult, String.join_cons]

-- ======================================================= whole sessions

/-- Blanks around the lines of a session do not count. -/
theorem session_congr {input' : List String} (h : input.map trimText = input'.map trimText) :
    session files config input = session files config input' := by
  show (reload files (start config) >>= _) = (reload files (start config) >>= _)
  exact Run.bind_congr (result_reload_eq files (start config)) (lines_congr h)

/-- A session is one of the lines in front of the first one that quits. -/
theorem session_heard (files : Files) (config : Config) (input : List String) :
    session files config input = session files config (heard input) := by
  obtain ⟨shell, hshell⟩ :=
    (exists_reaches_iff files config (heard input)).2 fun l hl => quits_of_mem_heard hl
  have hsplit : heard input ++ input.dropWhile (fun line => !quits line) = input :=
    List.takeWhile_append_dropWhile
  have hhead := List.head?_dropWhile_not (fun line => !quits line) input
  have hnil := hshell.session_append []
  conv => lhs; rw [← hsplit, hshell.session_append]
  rw [List.append_nil] at hnil
  cases hback : input.dropWhile (fun line => !quits line) with
  | nil => exact hnil.symm
  | cons line rest =>
      have hquits : quits line = true := by simpa [hback] using hhead
      rw [lines_of_quits hquits]
      exact hnil.symm

/-- Behind a line that quits, nothing counts. -/
theorem session_of_quits (h : ∃ line ∈ input, quits line = true) (rest : List String) :
    session files config (input ++ rest) = session files config input := by
  obtain ⟨line, hmem, hquits⟩ := h
  have hheard : heard (input ++ rest) = heard input := by
    unfold heard
    rw [List.takeWhile_append, if_neg]
    intro hlength
    have hall := List.takeWhile_eq_self_iff.1
      ((List.takeWhile_prefix _).eq_of_length hlength) line hmem
    rw [hquits] at hall
    cases hall
  rw [session_heard, hheard, ← session_heard]

/-- A line that quits ends the session in front of it. -/
theorem session_quit (h : quits line = true) (front rest : List String) :
    session files config (front ++ line :: rest) = session files config front := by
  rcases quits_or_reaches files config front with hfront | ⟨shell, hshell⟩
  · exact session_of_quits hfront (line :: rest)
  · rw [hshell.session_append, lines_of_quits h]
    exact Run.bind_done _

/-- A session prints its first load and the answers to the lines in front of
the first one that quits. -/
theorem output_session (h : (reload files (start config)).result = .ok shell)
    (input : List String) :
    (session files config input).output = (reload files (start config)).output
      ++ String.join (answers files shell (heard input)) := by
  rw [session_heard]
  show (reload files (start config) >>= _).output = _
  rw [Run.output_bind h, output_lines fun l hl => quits_of_mem_heard hl]

/-- Behind an idle line, a session goes on from where it was. -/
theorem Reaches.session_idle (h : Reaches files config input shell) (hidle : Idle line)
    (rest : List String) :
    session files config (input ++ line :: rest)
      = session files config input >>= fun _ =>
        handle files shell (.ofString line) >>= fun _ => lines files shell rest := by
  rw [h.session_append, lines_of_left? (left?_of_idle hidle)]

/-- Loading anew does not look at the records that were there. -/
theorem reload_congr (h : shell.config = shell'.config) :
    reload files shell = reload files shell' := by
  obtain ⟨config, records⟩ := shell
  obtain ⟨config', records'⟩ := shell'
  obtain rfl : config = config' := h
  rfl

/-- Behind a line that loads from a directory, a session is one that starts
there. -/
theorem Reaches.session_turn (h : Reaches files config input shell)
    (hdir : namedDir? line = some dir) (rest : List String) :
    session files config (input ++ line :: rest)
      = session files config input >>= fun _ =>
        session files (config.withDataDir dir) rest := by
  have hline := ofString_of_local (local_of_namedDir? hdir)
  rw [hdir] at hline
  have hconfig : (shell.turnTo (some dir)).config = (start (config.withDataDir dir)).config := by
    show shell.config.withDataDir dir = config.withDataDir dir
    rw [h.sound.config_eq]
    rfl
  have hlines : lines files shell (line :: rest)
      = session files (config.withDataDir dir) rest := by
    show (handle files shell (.ofString line) >>= _)
      = (reload files (start (config.withDataDir dir)) >>= _)
    rw [hline]
    show (reload files (shell.turnTo (some dir)) >>= _) >>= _ = _
    rw [reload_congr hconfig, Run.bind_assoc]
    exact Run.bind_congr (result_reload_eq files _) (Run.done_bind _ _)
  rw [h.session_append, hlines]

-- ========================================= sessions and other files

/-- Of the files, a load only leaves what records they come to. -/
theorem loaded_congr (h : (loadRecords files' shell.config).result
    = (loadRecords files shell.config).result) : shell.loaded files' = shell.loaded files := by
  unfold loaded
  rw [h]

/-- Of the files, a load only tells what records they come to. -/
theorem printed_reload_congr (h : (loadRecords files' shell.config).result
    = (loadRecords files shell.config).result) :
    (reload files' shell).printed = (reload files shell).printed := by
  rw [printed_reload, printed_reload, h]

/-- A line leaves a session in its directory, or in the one that it names. -/
theorem config_of_left? (h : left? files shell (.ofString line) = some next) :
    next.config = shell.config
      ∨ ∃ dir, namedDir? line = some dir ∧ next.config = shell.config.withDataDir dir := by
  rcases quits_or_local_or_idle line with hquits | hlocal | hidle
  · rw [left?_of_quits hquits] at h
    cases h
  · rw [left?_of_local hlocal] at h
    cases h
    cases hdir : namedDir? line with
    | none => exact Or.inl rfl
    | some dir => exact Or.inr ⟨dir, rfl, rfl⟩
  · rw [left?_of_idle hidle] at h
    cases h
    exact Or.inl rfl

/-- Where the directory of a session and the one that a line names come to
the same records, the line does the same and is answered the same. -/
theorem handle_congr (h : SameRecords files files' shell.config (namedDir? line).toList) :
    (handle files' shell (.ofString line)).result = (handle files shell (.ofString line)).result
      ∧ (handle files' shell (.ofString line)).printed
        = (handle files shell (.ofString line)).printed := by
  rcases quits_or_local_or_idle line with hquits | hlocal | hidle
  · rw [ofString_of_quits hquits]
    exact ⟨rfl, rfl⟩
  · have hload : (loadRecords files' (shell.turnTo (namedDir? line)).config).result
        = (loadRecords files (shell.turnTo (namedDir? line)).config).result := by
      cases hdir : namedDir? line with
      | none => exact h.here
      | some dir => exact h dir (by simp [hdir])
    rw [result_handle_eq, result_handle_eq, left?_of_local hlocal, left?_of_local hlocal,
      loaded_congr hload, ofString_of_local hlocal]
    refine ⟨rfl, ?_⟩
    show (reload files' _ >>= _).printed = (reload files _ >>= _).printed
    rw [Run.printed_bind (result_reload_eq files' _), Run.printed_bind (result_reload_eq files _),
      printed_reload_congr hload]
    rfl
  · rcases ofString_of_idle hidle with ⟨text, hline⟩ | hline | ⟨command, hline⟩
    all_goals
      rw [hline]
      exact ⟨rfl, rfl⟩

/-- What a line leaves sees no directory but those that it and the lines
behind it name. -/
theorem sameRecords_of_left?
    (h : SameRecords files files' shell.config ((line :: input).filterMap namedDir?))
    (hleft : left? files shell (.ofString line) = some next) :
    SameRecords files files' next.config (input.filterMap namedDir?) := by
  have hrest : ∀ dir ∈ input.filterMap namedDir?, dir ∈ (line :: input).filterMap namedDir? :=
    fun dir hdir => ((List.sublist_cons_self line input).filterMap _).subset hdir
  intro dir hdir
  rcases config_of_left? hleft with hconfig | ⟨named, hnamed, hconfig⟩
  · rw [hconfig] at hdir ⊢
    rcases List.mem_cons.1 hdir with rfl | hdir
    · exact h.here
    · exact h dir (List.mem_cons_of_mem _ (hrest dir hdir))
  · rw [hconfig] at hdir ⊢
    rcases List.mem_cons.1 hdir with rfl | hdir
    · exact h _ (List.mem_cons_of_mem _ (List.mem_filterMap.2 ⟨line, List.mem_cons_self, hnamed⟩))
    · exact h dir (List.mem_cons_of_mem _ (hrest dir hdir))

/-- Where the directories that lines name come to the same records, all
lines are answered the same. -/
theorem answers_congr (h : SameRecords files files' shell.config (input.filterMap namedDir?)) :
    answers files' shell input = answers files shell input := by
  induction input generalizing shell with
  | nil => rfl
  | cons line rest ih =>
      have hline : SameRecords files files' shell.config (namedDir? line).toList := by
        intro dir hdir
        rcases List.mem_cons.1 hdir with rfl | hdir
        · exact h.here
        · have hnamed := Option.mem_toList.1 hdir
          exact h dir (List.mem_cons_of_mem _
            (List.mem_filterMap.2 ⟨line, List.mem_cons_self, hnamed⟩))
      obtain ⟨hresult, hprinted⟩ := handle_congr hline
      unfold answers
      rw [hresult, Run.output_congr hprinted, result_handle_eq]
      cases hleft : left? files shell (.ofString line) with
      | none => rfl
      | some next => exact congrArg _ (ih (sameRecords_of_left? h hleft))

/-- Where the directories that a session sees come to the same records, the
session prints the same. -/
theorem output_session_congr
    (h : SameRecords files files' config ((heard input).filterMap namedDir?)) :
    (session files' config input).output = (session files config input).output := by
  have hfirst : (loadRecords files' (start config).config).result
      = (loadRecords files (start config).config).result := h.here
  have hanswers : answers files' ((start config).loaded files) (heard input)
      = answers files ((start config).loaded files) (heard input) := answers_congr h
  rw [output_session (result_reload_eq files' _), output_session (result_reload_eq files _),
    Run.output_congr (printed_reload_congr hfirst), loaded_congr hfirst, hanswers]

/-- Sessions, line by line.  A session ends well and prints its first load
and the answers to the lines in front of the first one that quits; nothing
behind that one counts, and neither do the ends of the lines.  Without one
of its idle lines it lacks the answer to that line and nothing else.  And
from a line that loads from a directory on, it prints what a session prints
that starts there. -/
theorem session_line_by_line (files : Files) (config : Config) :
    ((∀ input, (session files config input).result = .ok ())
      ∧ (∀ shell, (reload files (start config)).result = .ok shell → ∀ input,
        (session files config input).output = (reload files (start config)).output
          ++ String.join (answers files shell (heard input)))
      ∧ (∀ front line rest, quits line = true →
        session files config (front ++ line :: rest) = session files config front)
      ∧ ∀ (ended : List (String × LineEnd)) (last : String),
        (∀ l ∈ ended, '\n' ∉ l.1.toList) → '\n' ∉ last.toList →
        session files config (inputLines (endedText ended last))
          = session files config (ended.map Prod.fst ++ if last = "" then [] else [last]))
      ∧ (∀ front line back, Idle line →
        ((∃ l ∈ front, quits l = true)
          ∧ session files config (front ++ line :: back) = session files config (front ++ back))
        ∨ ∃ shell behind, Reaches files config front shell
          ∧ (session files config (front ++ line :: back)).output
            = (session files config front).output
              ++ (handle files shell (.ofString line)).output ++ behind
          ∧ (session files config (front ++ back)).output
            = (session files config front).output ++ behind)
      ∧ (∀ dir, dir ≠ "" → (∀ c ∈ dir.toList, isBlank c = false) →
        namedDir? ("/local " ++ dir) = some dir)
      ∧ ∀ front line dir back, (∀ l ∈ front, quits l = false) → namedDir? line = some dir →
        (session files config (front ++ line :: back)).output
          = (session files config front).output
            ++ (session files (config.withDataDir dir) back).output := by
  refine ⟨⟨result_session files config, fun shell h => output_session h,
    fun front line rest h => session_quit h front rest, fun ended last hended hlast => ?_⟩,
    fun front line back hidle => ?_, fun dir => namedDir?_local,
    fun front line dir back hfront hdir => ?_⟩
  · exact session_congr (map_trimText_inputLines hended hlast)
  · rcases quits_or_reaches files config front with hfront | ⟨shell, h⟩
    · refine Or.inl ⟨hfront, ?_⟩
      rw [session_of_quits hfront, session_of_quits hfront]
    · have hend := result_session files config front
      have hline : (handle files shell (.ofString line)).result = .ok (some shell) :=
        result_handle_of_left? (left?_of_idle hidle)
      refine Or.inr ⟨shell, (lines files shell back).output, h, ?_, ?_⟩
      · rw [h.session_idle hidle, Run.output_bind hend, Run.output_bind hline,
          String.append_assoc]
      · rw [h.session_append, Run.output_bind hend]
  · obtain ⟨shell, h⟩ := (exists_reaches_iff files config front).2 hfront
    rw [h.session_turn hdir, Run.output_bind (result_session files config front)]

/-- A session with a query that is wrong, two directories, and lines behind
the one that quits, in a text with line ends of both kinds. -/
theorem session_line_by_line_turned :
    (reload oneListing (start .standard)).result
        = .ok ((start .standard).loaded oneListing)
      ∧ quits " /Exit now" = true
      ∧ session oneListing .standard (["pr(", "/LOCAL  b c"] ++ " /Exit now" :: ["n(7)"])
        = session oneListing .standard ["pr(", "/LOCAL  b c"]
      ∧ session oneListing .standard
          (inputLines (endedText [("pr(", .returned), ("/LOCAL  b c", .plain)] "n(7)"))
        = session oneListing .standard ["pr(", "/LOCAL  b c", "n(7)"]
      ∧ Idle "pr("
      ∧ (∃ shell behind, Reaches oneListing .standard [] shell
        ∧ (session oneListing .standard ([] ++ "pr(" :: ["/LOCAL  b c"])).output
          = (session oneListing .standard []).output
            ++ (handle oneListing shell (.ofString "pr(")).output ++ behind
        ∧ (session oneListing .standard ([] ++ ["/LOCAL  b c"])).output
          = (session oneListing .standard []).output ++ behind)
      ∧ namedDir? "/LOCAL  b c" = some "b"
      ∧ (session oneListing .standard (["pr("] ++ "/LOCAL  b c" :: ["n(7)"])).output
        = (session oneListing .standard ["pr("]).output
          ++ (session oneListing (Config.standard.withDataDir "b") ["n(7)"]).output := by
  have hload : commandWords? "/LOCAL  b c" = some ["LOCAL", "b", "c"] := by cbv
  have hexit : commandWords? " /Exit now" = some ["Exit", "now"] := by cbv
  have hquery : commandWords? "pr(" = none := by cbv
  have hquits : quits " /Exit now" = true := by
    simp only [quits, commandName?, hexit]
    decide
  have hidle : Idle "pr(" := by
    simp only [Idle, quits, commandName?, hquery]
    decide
  have hdir : namedDir? "/LOCAL  b c" = some "b" := by
    simp only [namedDir?, commandName?, hload]
    decide
  obtain ⟨⟨-, -, hquit, htext⟩, hdelete, -, hturn⟩ := session_line_by_line oneListing .standard
  refine ⟨result_reload_eq _ _, hquits, hquit _ _ _ hquits,
    htext [("pr(", .returned), ("/LOCAL  b c", .plain)] "n(7)" (by decide) (by decide), hidle,
    ?_, hdir, hturn ["pr("] _ _ _ ?_ hdir⟩
  · rcases hdelete [] "pr(" ["/LOCAL  b c"] hidle with ⟨⟨l, hl, -⟩, -⟩ | h
    · cases hl
    · exact h
  · intro l hl
    rw [List.mem_singleton.1 hl]
    exact hidle.1

end Shell

end Docket
