/-
The state of a session.  What a line does to the state is one of three
things: it is left alone, the records are loaded anew, maybe from another
directory, or the session ends.  Everything that holds of the state in a
session comes from that, by induction on the lines.

Main statements: what a load leaves and tells, and what a line leaves; the
state reached behind some lines has the configuration that it started with
but for the directory that was named last, and the records of that
configuration, which are none exactly where they cannot be loaded.
-/
import Docket.Proofs.Listing.Showing
import Docket.Proofs.Shell.Line

namespace Docket.Shell

variable {files : Files} {config : Config} {shell next : Shell} {input : List String}
  {line : String}

-- ========================================================= single steps

/-- The session with the records of its configuration, as far as they can
be loaded. -/
def loaded (files : Files) (shell : Shell) : Shell :=
  { shell with records := (loadRecords files shell.config).result.toOption }

/-- What a line leaves of a session. -/
def left? (files : Files) (shell : Shell) : ShellLine → Option Shell
  | .load dir => some ((shell.turnTo dir).loaded files)
  | .quit => none
  | _ => some shell

/-- Loading anew leaves the records that can be loaded. -/
theorem result_reload_eq (files : Files) (shell : Shell) :
    (reload files shell).result = .ok (shell.loaded files) := by
  unfold reload
  rw [Run.result_bind (a := (loadRecords files shell.config).result) rfl]
  unfold loaded
  cases (loadRecords files shell.config).result <;> rfl

/-- Loading tells how many records came from where, or the problem that it
met. -/
theorem printed_reload (files : Files) (shell : Shell) :
    (reload files shell).printed = [match (loadRecords files shell.config).result with
      | .ok records =>
        "loaded " ++ numeralText records.length ++ " records from " ++ shell.config.dataDir
      | .error problem => "Error: " ++ problem.message] := by
  have hsilent : (loadRecords files shell.config).attempt.printed = [] :=
    printed_loadRecords files shell.config
  have hattempt : (loadRecords files shell.config).attempt.result
      = .ok (loadRecords files shell.config).result := rfl
  unfold reload
  rw [Run.printed_bind hattempt, hsilent, List.nil_append]
  cases (loadRecords files shell.config).result with
  | ok records => exact (Run.printed_bind rfl _).trans (List.append_nil _)
  | error problem => exact (Run.printed_bind rfl _).trans (List.append_nil _)

/-- A line leaves what it asks for. -/
theorem result_handle_eq (files : Files) (shell : Shell) (line : ShellLine) :
    (handle files shell line).result = .ok (left? files shell line) := by
  cases line with
  | query text => exact Run.result_bind (result_query shell text) _
  | help => rfl
  | load dir => exact Run.result_bind (result_reload_eq files (shell.turnTo dir)) _
  | quit => rfl
  | unknown command => rfl

/-- Handling a line comes to what the line leaves. -/
theorem result_handle_of_left? (h : left? files shell (.ofString line) = some next) :
    (handle files shell (.ofString line)).result = .ok (some next) := by
  rw [result_handle_eq, h]

/-- A line that quits leaves nothing. -/
theorem left?_of_quits (h : quits line = true) : left? files shell (.ofString line) = none := by
  rw [ofString_of_quits h]
  rfl

/-- An idle line leaves the session as it was. -/
theorem left?_of_idle (h : Idle line) : left? files shell (.ofString line) = some shell := by
  rcases ofString_of_idle h with ⟨text, h⟩ | h | ⟨command, h⟩ <;> rw [h] <;> rfl

/-- A line that loads leaves the session turned to the directory that it
names, with its records. -/
theorem left?_of_local (h : commandName? line = some "local") :
    left? files shell (.ofString line) = some ((shell.turnTo (namedDir? line)).loaded files) := by
  rw [ofString_of_local h]
  rfl

/-- Something is left behind every line that does not quit. -/
theorem exists_left? (files : Files) (shell : Shell) (h : quits line = false) :
    ∃ next, left? files shell (.ofString line) = some next := by
  rcases quits_or_local_or_idle line with hquits | hlocal | hidle
  · rw [h] at hquits
    cases hquits
  · exact ⟨_, left?_of_local hlocal⟩
  · exact ⟨_, left?_of_idle hidle⟩

-- ====================================================== reached sessions

/-- `Reaches files config input shell`: a session that starts with `config`
is at `shell` behind the lines of `input`. -/
inductive Reaches (files : Files) (config : Config) : List String → Shell → Prop
  | opened {shell : Shell} (load : (reload files (start config)).result = .ok shell) :
      Reaches files config [] shell
  | line {input : List String} {line : String} {shell next : Shell}
      (before : Reaches files config input shell)
      (handled : (handle files shell (.ofString line)).result = .ok (some next)) :
      Reaches files config (input ++ [line]) next

/-- Behind a reached session, a line leads to what it leaves. -/
theorem Reaches.concat (h : Reaches files config input shell)
    (hleft : left? files shell (.ofString line) = some next) :
    Reaches files config (input ++ [line]) next :=
  .line h (result_handle_of_left? hleft)

/-- A session that is reached behind one more line is what that line left
of one reached before. -/
theorem Reaches.cases_concat (h : Reaches files config (input ++ [line]) next) :
    ∃ shell, Reaches files config input shell
      ∧ left? files shell (.ofString line) = some next := by
  generalize hinput : input ++ [line] = lines at h
  cases h with
  | opened load => simp at hinput
  | @line input' line' shell _ before handled =>
      obtain ⟨rfl, hline⟩ := List.append_inj' hinput rfl
      obtain rfl : line = line' := by simpa using hline
      rw [result_handle_eq] at handled
      exact ⟨shell, before, Except.ok.inj handled⟩

/-- At most one session is reached behind some lines. -/
theorem Reaches.unique (h : Reaches files config input shell) :
    ∀ {shell' : Shell}, Reaches files config input shell' → shell = shell' := by
  induction h with
  | opened load =>
      intro shell' h'
      generalize hinput : [] = lines at h'
      cases h' with
      | opened load' => exact Except.ok.inj (load.symm.trans load')
      | line before handled => simp at hinput
  | line before handled ih =>
      intro shell' h'
      obtain ⟨shell, before', hleft⟩ := h'.cases_concat
      rw [result_handle_eq, ih before', hleft] at handled
      exact (Option.some.inj (Except.ok.inj handled)).symm

/-- A session is reached behind some lines exactly when none of them
quits. -/
theorem exists_reaches_iff (files : Files) (config : Config) (input : List String) :
    (∃ shell, Reaches files config input shell) ↔ ∀ line ∈ input, quits line = false := by
  constructor
  · rintro ⟨shell, h⟩
    induction h with
    | opened load => simp
    | @line input line shell next before handled ih =>
        intro l hl
        rcases List.mem_append.1 hl with hl | hl
        · exact ih l hl
        · obtain rfl := List.mem_singleton.1 hl
          cases hquits : quits l with
          | false => rfl
          | true =>
              rw [result_handle_eq, left?_of_quits hquits] at handled
              cases handled
  · intro h
    induction input using List.reverseRecOn with
    | nil => exact ⟨_, .opened (result_reload_eq files (start config))⟩
    | append_singleton input line ih =>
        obtain ⟨shell, hshell⟩ := ih fun l hl => h l (List.mem_append_left _ hl)
        obtain ⟨next, hnext⟩ := exists_left? files shell (h line (by simp))
        exact ⟨next, hshell.concat hnext⟩

/-- Either one of some lines quits, or a session is reached behind them. -/
theorem quits_or_reaches (files : Files) (config : Config) (input : List String) :
    (∃ line ∈ input, quits line = true) ∨ ∃ shell, Reaches files config input shell := by
  rw [exists_reaches_iff]
  by_cases h : ∃ line ∈ input, quits line = true
  · exact Or.inl h
  · refine Or.inr fun line hline => ?_
    cases hquits : quits line with
    | false => rfl
    | true => exact absurd ⟨line, hline, hquits⟩ h

-- ============================================================ invariant

/-- The directory that some lines turn a session to: the one that is named
last, or the one that it started with. -/
def lastDir (config : Config) (input : List String) : String :=
  ((input.filterMap namedDir?).getLast?).getD config.dataDir

/-- What holds of a session behind some lines: all of its configuration but
the directory is as it was, the directory is the one named last, and the
records are those that can be loaded now. -/
structure Sound (files : Files) (config : Config) (input : List String) (shell : Shell) :
    Prop where
  config_eq : shell.config = config.withDataDir (lastDir config input)
  records_eq : shell.records = (loadRecords files shell.config).result.toOption

/-- An idle line names no directory. -/
theorem lastDir_of_none (h : namedDir? line = none) :
    lastDir config (input ++ [line]) = lastDir config input := by
  unfold lastDir
  rw [List.filterMap_append]
  simp [h]

/-- The directory that the last line names is the one named last. -/
theorem lastDir_of_some {dir : String} (h : namedDir? line = some dir) :
    lastDir config (input ++ [line]) = dir := by
  unfold lastDir
  rw [List.filterMap_append]
  simp [h]

/-- The first load makes a session sound. -/
theorem sound_start (files : Files) (config : Config) :
    Sound files config [] ((start config).loaded files) := ⟨rfl, rfl⟩

/-- What a line leaves of a sound session is sound. -/
theorem Sound.step (h : Sound files config input shell)
    (hleft : left? files shell (.ofString line) = some next) :
    Sound files config (input ++ [line]) next := by
  rcases quits_or_local_or_idle line with hquits | hlocal | hidle
  · rw [left?_of_quits hquits] at hleft
    cases hleft
  · rw [left?_of_local hlocal] at hleft
    cases hleft
    cases hdir : namedDir? line with
    | none =>
        refine ⟨?_, rfl⟩
        rw [lastDir_of_none hdir]
        exact h.config_eq
    | some dir =>
        refine ⟨?_, rfl⟩
        rw [lastDir_of_some hdir]
        show shell.config.withDataDir dir = _
        rw [h.config_eq]
        rfl
  · rw [left?_of_idle hidle] at hleft
    cases hleft
    refine ⟨?_, h.records_eq⟩
    rw [lastDir_of_none hidle.namedDir?_eq_none]
    exact h.config_eq

/-- Every session that is reached is sound. -/
theorem Reaches.sound (h : Reaches files config input shell) :
    Sound files config input shell := by
  induction h with
  | opened load =>
      rw [result_reload_eq] at load
      cases load
      exact sound_start files config
  | line before handled ih =>
      rw [result_handle_eq] at handled
      exact ih.step (Except.ok.inj handled)

-- ============================================================= sessions

/-- Behind the lines that reach a session, the others are handled there. -/
theorem Reaches.session_append (h : Reaches files config input shell) (rest : List String) :
    session files config (input ++ rest)
      = session files config input >>= fun _ => lines files shell rest := by
  induction h generalizing rest with
  | @opened shell load =>
      have hnil : lines files shell rest
          = lines files shell [] >>= fun _ => lines files shell rest :=
        (Run.done_bind () fun _ => lines files shell rest).symm
      show reload files (start config) >>= (fun s => lines files s rest)
        = reload files (start config) >>= (fun s => lines files s []) >>= _
      rw [Run.bind_assoc]
      exact Run.bind_congr load hnil
  | @line input line shell next before handled ih =>
      have hstep : lines files shell (line :: rest)
          = lines files shell [line] >>= fun _ => lines files next rest := by
        show handle files shell (.ofString line) >>= _ = handle files shell (.ofString line) >>= _
          >>= _
        rw [Run.bind_assoc]
        exact Run.bind_congr handled (Run.done_bind () fun _ => lines files next rest).symm
      rw [List.append_assoc, List.singleton_append, ih, ih, Run.bind_assoc, hstep]

/-- The state of a session.  Behind lines none of which quits there is
exactly one, from which the session goes on.  Its files and its limit are
those it started with, its directory is the one that was named last, and
its records are there exactly where that configuration can be loaded, as
what is loaded; an idle line leaves it as it is. -/
theorem session_state (files : Files) (config : Config) (input : List String) :
    ((∃ shell, Reaches files config input shell) ↔ ∀ line ∈ input, quits line = false)
      ∧ ∀ shell, Reaches files config input shell →
        (∀ rest, session files config (input ++ rest)
          = session files config input >>= fun _ => lines files shell rest)
        ∧ shell.config.issuesFile = config.issuesFile
        ∧ shell.config.pullsFile = config.pullsFile
        ∧ shell.config.limit = config.limit
        ∧ shell.config.dataDir = ((input.filterMap namedDir?).getLast?).getD config.dataDir
        ∧ (∀ records, shell.records = some records
          ↔ (loadRecords files shell.config).result = .ok records)
        ∧ (shell.records = none
          ↔ ∃ problem, (loadRecords files shell.config).result = .error problem)
        ∧ ∀ line next, Idle line →
          (Reaches files config (input ++ [line]) next ↔ next = shell) := by
  refine ⟨exists_reaches_iff files config input, fun shell h => ?_⟩
  obtain ⟨hconfig, hrecords⟩ := h.sound
  refine ⟨h.session_append, by rw [hconfig]; rfl, by rw [hconfig]; rfl, by rw [hconfig]; rfl,
    by rw [hconfig]; rfl, fun records => ?_, ?_, fun line next hidle => ?_⟩
  · rw [hrecords]
    cases (loadRecords files shell.config).result <;> simp [Except.toOption]
  · rw [hrecords]
    cases (loadRecords files shell.config).result <;> simp [Except.toOption]
  · have hline : Reaches files config (input ++ [line]) shell := h.concat (left?_of_idle hidle)
    constructor
    · exact fun hnext => hnext.unique hline
    · rintro rfl
      exact hline

/-- Files with one listing, of one issue, in the directory `a`. -/
def oneListing : Files where
  entry path := if path = "a/issues.json" then .text "[\x7b\"number\":7\x7d]" else .missing

/-- The issue is loaded from its directory. -/
theorem loadRecords_oneListing :
    (loadRecords oneListing ⟨"a", "issues.json", "pulls.json", none⟩).result
      = .ok [Record.ofNumber 7] := by
  have hread : readRecords? "[\x7b\"number\":7\x7d]" = some [Record.ofNumber 7] := by
    decide +kernel
  have hlisting : readListing readRecords? oneListing "a/issues.json"
      = .ok [Record.ofNumber 7] := readListing_eq_ok_iff.2 ⟨_, rfl, hread⟩
  exact loadRecords_eq_ok_iff.2 ⟨by decide, [Record.ofNumber 7], [], hlisting, rfl, by cbv⟩

/-- A load that fails leaves none of the records that were there, and the
next query does not bring them back. -/
theorem session_state_stale :
    (∀ line ∈ ["/local a", "n(7)", "/LOCAL  b c", "pr"], quits line = false)
      ∧ (∃ shell, Reaches oneListing .standard ["/local a", "n(7)"] shell
        ∧ shell.records = some [Record.ofNumber 7])
      ∧ ∃ shell, Reaches oneListing .standard ["/local a", "n(7)", "/LOCAL  b c", "pr"] shell
        ∧ shell.config = Config.standard.withDataDir "b" ∧ shell.records = none := by
  have hfirst : commandWords? "/local a" = some ["local", "a"] := by cbv
  have hsecond : commandWords? "/LOCAL  b c" = some ["LOCAL", "b", "c"] := by cbv
  have hquery : commandWords? "n(7)" = none ∧ commandWords? "pr" = none := ⟨by cbv, by cbv⟩
  have hquits : ∀ line ∈ ["/local a", "n(7)", "/LOCAL  b c", "pr"], quits line = false := by
    simp only [List.forall_mem_cons, List.not_mem_nil, false_imp_iff, implies_true, and_true,
      quits, commandName?, hfirst, hsecond, hquery]
    decide
  have hdir : (["/local a", "n(7)"].filterMap namedDir?).getLast? = some "a"
      ∧ (["/local a", "n(7)", "/LOCAL  b c", "pr"].filterMap namedDir?).getLast?
        = some "b" := by
    simp only [List.filterMap_cons, List.filterMap_nil, namedDir?, commandName?, hfirst, hsecond,
      hquery]
    decide
  refine ⟨hquits, ?_, ?_⟩
  · obtain ⟨⟨⟨dir, issues, pulls, limit⟩, records⟩, hshell⟩ :=
      (session_state oneListing .standard ["/local a", "n(7)"]).1.2
        fun line hline => hquits line (List.mem_append_left ["/LOCAL  b c", "pr"] hline)
    obtain ⟨-, rfl, rfl, rfl, rfl, hsome, -⟩ := (session_state _ _ _).2 _ hshell
    refine ⟨_, hshell, (hsome _).2 ?_⟩
    rw [hdir.1]
    exact loadRecords_oneListing
  · obtain ⟨⟨⟨dir, issues, pulls, limit⟩, records⟩, hshell⟩ :=
      (session_state oneListing .standard _).1.2 hquits
    obtain ⟨-, rfl, rfl, rfl, rfl, -, hnone, -⟩ := (session_state _ _ _).2 _ hshell
    refine ⟨_, hshell, by rw [hdir.2]; rfl, hnone.2 ⟨.noRecords "b/issues.json", ?_⟩⟩
    have hmissing : oneListing.isFile
        (Config.issuesPath ⟨"b", "issues.json", "pulls.json", none⟩) = false := by decide
    rw [hdir.2]
    exact congrArg Run.result (loadRecords_of_missing hmissing)

end Docket.Shell
