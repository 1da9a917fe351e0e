/-
Lines of a session, by their text.  A line is a command when a slash is in
front of it, blanks aside; the first word behind the slash, without the
case of its letters, is the name of the command, and the second one may
name a directory.  What a line asks for is read off these.

Main statements: the words of a text with a word in front; a line quits,
loads or is idle by its name alone; and blanks around a line do not count.
-/
import Docket.Proofs.Text.Longest
import Docket.Shell

namespace Docket

variable {w k cs : List Char} {line line' : String}

-- =============================================================== words

/-- A text that trimming leaves empty has no words. -/
theorem words_of_nil (h : trimStart cs = []) : words cs = [] := by
  rw [words]
  split
  · rfl
  · next h' =>
    rw [h] at h'
    cases h'

/-- The first word of a text is the run of other characters behind its
blanks. -/
theorem words_of_cons {c : Char} (h : trimStart cs = c :: k) :
    words cs = (c :: k).takeWhile (fun d => !isBlank d)
      :: words ((c :: k).dropWhile fun d => !isBlank d) := by
  rw [words]
  split
  · next h' =>
    rw [h] at h'
    cases h'
  · next h' =>
    rw [h] at h'
    cases h'
    rfl

/-- Blanks in front do not change the words of a text. -/
theorem words_trimStart (cs : List Char) : words (trimStart cs) = words cs := by
  cases h : trimStart cs with
  | nil => rw [words_of_nil h, words_of_nil rfl]
  | cons c k =>
      have hself : trimStart (c :: k) = c :: k := by rw [← h, trimStart_trimStart]
      rw [words_of_cons h, words_of_cons hself]

/-- A run of characters that are no blanks, with none of them behind it, is
the first word of a text. -/
theorem words_append (hne : w ≠ []) (hw : ∀ c ∈ w, isBlank c = false)
    (hk : ∀ c ∈ k.head?, isBlank c = true) : words (w ++ k) = w :: words k := by
  obtain ⟨c, w', rfl⟩ := List.exists_cons_of_ne_nil hne
  have hstart : trimStart (c :: w' ++ k) = c :: w' ++ k :=
    trimStart_eq_self (outside_cons (hw c (by simp)) (w' ++ k))
  have hword : ∀ d ∈ c :: w', (!isBlank d) = true := by
    intro d hd
    rw [hw d hd]
    rfl
  have hbehind : ∀ d ∈ k.head?, (!isBlank d) = false := by
    intro d hd
    rw [hk d hd]
    rfl
  have hdrop : (c :: w' ++ k).dropWhile (fun d => !isBlank d) = k := by
    have hsplit := List.takeWhile_append_dropWhile (p := fun d => !isBlank d) (l := c :: w' ++ k)
    rw [takeWhile_run hword hbehind] at hsplit
    exact List.append_cancel_left hsplit
  rw [words_of_cons hstart]
  show (c :: w' ++ k).takeWhile _ :: words ((c :: w' ++ k).dropWhile _) = _
  rw [takeWhile_run hword hbehind, hdrop]

-- ============================================================ commands

/-- The words of the command on a line: those behind a slash in front of
it. -/
def commandWords? (line : String) : Option (List String) :=
  match trim line.toList with
  | '/' :: command => some ((words command).map String.ofList)
  | _ => none

/-- The name of the command on a line, without the case of its letters. -/
def commandName? (line : String) : Option String :=
  (commandWords? line).bind fun ws => ws.head?.map lowerWord

/-- The line quits. -/
def quits (line : String) : Bool :=
  commandName? line == some "quit" || commandName? line == some "exit"

/-- The directory that a line loads from, if it loads and names one. -/
def namedDir? (line : String) : Option String :=
  if commandName? line = some "local" then (commandWords? line).bind fun ws => ws[1]? else none

/-- The line neither quits nor loads: it is a query, maybe a blank one, the
command for help, or a command that is not known. -/
def Idle (line : String) : Prop := quits line = false ∧ commandName? line ≠ some "local"

/-- What the line asks for, by the words of its command. -/
theorem ofString_eq (line : String) :
    ShellLine.ofString line = match commandWords? line with
      | some ws => ShellLine.ofWords ws
      | none => .query (trimText line) := by
  unfold ShellLine.ofString ShellLine.ofList commandWords? trimText
  cases trim line.toList with
  | nil => rfl
  | cons c command =>
      by_cases hc : c = '/'
      · subst hc
        rfl
      · simp [hc]

/-- A line that is no command is a query. -/
theorem ofString_of_query (h : (trim line.toList).head? ≠ some '/') :
    ShellLine.ofString line = .query (trimText line) := by
  have hnone : commandWords? line = none := by
    unfold commandWords?
    split
    · next heq => simp [heq] at h
    · rfl
  rw [ofString_eq, hnone]

/-- A line that quits asks for that. -/
theorem ofString_of_quits (h : quits line = true) : ShellLine.ofString line = .quit := by
  rw [ofString_eq]
  unfold quits commandName? at h
  match hwords : commandWords? line with
  | none => simp [hwords] at h
  | some [] => simp [hwords] at h
  | some (name :: args) =>
      have hname : lowerWord name = "quit" ∨ lowerWord name = "exit" := by
        simpa [hwords] using h
      rcases hname with hname | hname <;> simp [ShellLine.ofWords, hname]

/-- A line that loads asks for that, from the directory that it names. -/
theorem ofString_of_local (h : commandName? line = some "local") :
    ShellLine.ofString line = .load (namedDir? line) := by
  rw [ofString_eq]
  unfold namedDir?
  rw [if_pos h]
  unfold commandName? at h
  match hwords : commandWords? line with
  | none => simp [hwords] at h
  | some [] => simp [hwords] at h
  | some (name :: args) =>
      have hname : lowerWord name = "local" := by simpa [hwords] using h
      simp [ShellLine.ofWords, hname, List.head?_eq_getElem?]

/-- An idle line asks for a query, for help or for something unknown. -/
theorem ofString_of_idle (h : Idle line) :
    (∃ text, ShellLine.ofString line = .query text) ∨ ShellLine.ofString line = .help
      ∨ ∃ command, ShellLine.ofString line = .unknown command := by
  obtain ⟨hquits, hlocal⟩ := h
  rw [ofString_eq]
  unfold quits commandName? at hquits
  unfold commandName? at hlocal
  match hwords : commandWords? line with
  | none => exact Or.inl ⟨_, rfl⟩
  | some [] => exact Or.inr (Or.inr ⟨_, rfl⟩)
  | some (name :: args) =>
      have hname : lowerWord name ≠ "quit" ∧ lowerWord name ≠ "exit" := by
        simpa [hwords] using hquits
      have hname' : lowerWord name ≠ "local" := by simpa [hwords] using hlocal
      by_cases hhelp : lowerWord name = "help"
      · exact Or.inr (Or.inl (by simp [ShellLine.ofWords, hhelp]))
      · refine Or.inr (Or.inr ⟨" ".intercalate (name :: args), ?_⟩)
        simp [ShellLine.ofWords, hhelp, hname', hname]

/-- Every line quits, loads or is idle. -/
theorem quits_or_local_or_idle (line : String) :
    quits line = true ∨ commandName? line = some "local" ∨ Idle line := by
  cases hquits : quits line with
  | true => exact Or.inl rfl
  | false =>
      by_cases hlocal : commandName? line = some "local"
      · exact Or.inr (Or.inl hlocal)
      · exact Or.inr (Or.inr ⟨hquits, hlocal⟩)

/-- A line that names a directory loads. -/
theorem local_of_namedDir? {dir : String} (h : namedDir? line = some dir) :
    commandName? line = some "local" := by
  unfold namedDir? at h
  split at h
  · assumption
  · cases h

/-- An idle line names no directory. -/
theorem Idle.namedDir?_eq_none (h : Idle line) : namedDir? line = none := by
  unfold namedDir?
  rw [if_neg h.2]

/-- A word behind the command to load is the directory that is named. -/
theorem namedDir?_local {dir : String} (hne : dir ≠ "")
    (hdir : ∀ c ∈ dir.toList, isBlank c = false) :
    namedDir? ("/local " ++ dir) = some dir := by
  have hlist : dir.toList ≠ [] := by simpa using hne
  have hfront : words (' ' :: dir.toList) = [dir.toList] := by
    rw [← words_trimStart]
    have htrim : trimStart (' ' :: dir.toList) = dir.toList := by
      have hblank : ∀ c ∈ [' '], isBlank c = true := List.forall_mem_singleton.2 rfl
      rw [← List.singleton_append, trimStart_append_of_blank hblank, trimStart_eq_self]
      exact fun c hc => hdir c (List.mem_of_head? hc)
    rw [htrim, ← List.append_nil dir.toList, words_append hlist hdir (by simp),
      words_of_nil rfl, List.append_nil]
  have hname : ∀ c ∈ "local".toList, isBlank c = false := by
    have hnone : ("local".toList.all fun c => !isBlank c) = true := by decide
    simpa only [List.all_eq_true, Bool.not_eq_true'] using hnone
  have hwords : words ("local".toList ++ ' ' :: dir.toList) = ["local".toList, dir.toList] := by
    rw [words_append (by decide) hname (by simp [isBlank]), hfront]
  have htext : ("/local " ++ dir).toList = '/' :: ("local".toList ++ ' ' :: dir.toList) := by
    rw [String.toList_append]
    rfl
  have htrim : trim ("/local " ++ dir).toList = ("/local " ++ dir).toList := by
    have hend : ∀ c ∈ ("/local " ++ dir).toList.getLast?, isBlank c = false := by
      intro c hc
      rw [String.toList_append, List.getLast?_append_of_ne_nil _ hlist] at hc
      exact hdir c (List.mem_of_getLast? hc)
    rw [trim_eq_trimEnd, trimEnd_eq_self hend]
    rw [htext]
    exact outside_cons rfl _
  have hcommand : commandWords? ("/local " ++ dir) = some ["local", dir] := by
    unfold commandWords?
    rw [htrim, htext]
    show some ((words ("local".toList ++ ' ' :: dir.toList)).map String.ofList) = _
    rw [hwords]
    simp
  unfold namedDir? commandName?
  rw [hcommand]
  rfl

-- ================================================== blanks around lines

/-- Blanks around a line do not count. -/
theorem ofString_congr (h : trimText line = trimText line') :
    ShellLine.ofString line = ShellLine.ofString line' := by
  have htrim : trim line.toList = trim line'.toList := by
    have hlist := congrArg String.toList h
    unfold trimText at hlist
    rwa [String.toList_ofList, String.toList_ofList] at hlist
  unfold ShellLine.ofString ShellLine.ofList
  rw [htrim]

end Docket
