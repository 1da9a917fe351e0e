/-
What a listing comes to.  Loading says things but prints nothing, and it
comes to linked records exactly when both listings can be read; a listing
prints what its records come to, and all at its end.

Main statements: what loading comes to; what is printed for a query that
can be read, and that one that cannot be read touches no file; and that a
listing sees no more of the files than the records that they come to.
-/
import Docket.Listing.Show

namespace Docket

variable {files : Files} {config : Config} {text : String} {format : OutputFormat}
  {limit : Option Nat} {q : Query} {records : List Record} {pulls : List Pull}

-- ============================================================= loading

/-- A listing is read where its file holds a text that can be decoded. -/
theorem readListing_eq_ok_iff {α : Type} {decode : String → Option (List α)} {path : String}
    {items : List α} :
    readListing decode files path = .ok items
      ↔ ∃ text, files.read? path = some text ∧ decode text = some items := by
  unfold readListing
  cases files.read? path with
  | none => simp
  | some text => cases h : decode text <;> simp [h]

/-- A listing that is read is a file. -/
theorem isFile_of_readListing {α : Type} {decode : String → Option (List α)} {path : String}
    {items : List α} (h : readListing decode files path = .ok items) :
    files.isFile path = true := by
  obtain ⟨text, htext, -⟩ := readListing_eq_ok_iff.1 h
  exact Files.isFile_of_read? htext

/-- The pull requests of a configuration are those of their listing, and
none where that is no file. -/
theorem result_loadPulls (files : Files) (config : Config) :
    (loadPulls files config).result
      = if files.isFile config.pullsPath then readListing readPulls? files config.pullsPath
        else .ok [] := by
  unfold loadPulls
  split <;> rfl

/-- Loading pull requests prints nothing. -/
theorem printed_loadPulls (files : Files) (config : Config) :
    (loadPulls files config).printed = [] := by
  unfold loadPulls
  split <;> rfl

/-- A listing is read from the entry at its path. -/
theorem readListing_congr {α : Type} {decode : String → Option (List α)} {files' : Files}
    {path : String} (h : files'.entry path = files.entry path) :
    readListing decode files' path = readListing decode files path := by
  unfold readListing
  rw [Files.read?_congr h]

/-- Records come to those of the issues listing, which has to be there,
linked to the pull requests. -/
theorem result_loadRecords (files : Files) (config : Config) :
    (loadRecords files config).result
      = if files.isFile config.issuesPath then
          (readListing readRecords? files config.issuesPath).bind fun issues =>
            (loadPulls files config).result.map (linkPulls issues)
        else .error (.noRecords config.issuesPath) := by
  unfold loadRecords
  split
  · rw [Run.result_bind_eq]
    refine congrArg (Except.bind _) (funext fun issues => ?_)
    rw [Run.result_bind_eq]
    cases (loadPulls files config).result <;> rfl
  · rfl

/-- Records are loaded where the issues listing is a file that can be read
and the pull requests are loaded; they are linked. -/
theorem loadRecords_eq_ok_iff :
    (loadRecords files config).result = .ok records
      ↔ files.isFile config.issuesPath = true
        ∧ ∃ issues pulls, readListing readRecords? files config.issuesPath = .ok issues
          ∧ (loadPulls files config).result = .ok pulls
          ∧ records = linkPulls issues pulls := by
  rw [result_loadRecords]
  by_cases hfile : files.isFile config.issuesPath = true
  · rw [if_pos hfile]
    cases readListing readRecords? files config.issuesPath with
    | error problem => simp [Except.bind]
    | ok issues =>
        cases (loadPulls files config).result with
        | error problem => simp [Except.bind, Except.map]
        | ok pulls => simp [Except.bind, Except.map, hfile, eq_comm]
  · simp [hfile]

/-- Without an issues listing nothing is loaded, and its path is told. -/
theorem loadRecords_of_missing (h : files.isFile config.issuesPath = false) :
    loadRecords files config = Run.fail (.noRecords config.issuesPath) := by
  unfold loadRecords
  rw [h]
  rfl

/-- Loading records prints nothing. -/
theorem printed_loadRecords (files : Files) (config : Config) :
    (loadRecords files config).printed = [] := by
  unfold loadRecords
  split
  · refine Run.printed_bind_of_silent rfl fun issues => ?_
    exact Run.printed_bind_of_silent (printed_loadPulls files config) fun pulls => rfl
  · rfl

-- ============================================================= listing

/-- A query that cannot be read is all that a listing comes to. -/
theorem showList_of_error {error : QueryError} (h : Query.parse text = .error error) :
    showList files config text format limit = Run.fail (.query error) := by
  unfold showList parseQuery
  rw [h]
  rfl

/-- A query that can be read is read. -/
theorem result_parseQuery (h : Query.parse text = .ok q) :
    (parseQuery text).result = .ok q := by
  unfold parseQuery
  rw [h]
  rfl

/-- Reading a query prints nothing. -/
theorem printed_parseQuery (text : String) : (parseQuery text).printed = [] := by
  unfold parseQuery
  split
  · exact Run.printed_bind_of_silent (Run.printed_tell _) fun _ => rfl
  · rfl

/-- Records are printed as their report. -/
theorem printed_printRecords (format : OutputFormat) (records : List Record) (matched : Nat) :
    (printRecords format records matched).printed = report format records matched :=
  Run.printed_put ..

/-- With its query read and its records loaded, a listing ends well. -/
theorem result_showList (hq : Query.parse text = .ok q)
    (hl : (loadRecords files config).result = .ok records) :
    (showList files config text format limit).result = .ok () := by
  unfold showList
  rw [Run.result_bind (result_parseQuery hq), Run.result_bind hl]
  rfl

/-- With its query read and its records loaded, a listing prints the report
on the records that the query keeps. -/
theorem printed_showList (hq : Query.parse text = .ok q)
    (hl : (loadRecords files config).result = .ok records) :
    (showList files config text format limit).printed
      = report format (cutTo limit (q.keep records)) (q.keep records).length := by
  unfold showList
  rw [Run.printed_bind (result_parseQuery hq), printed_parseQuery, Run.printed_bind hl,
    printed_loadRecords]
  exact (Run.printed_bind rfl _).trans (printed_printRecords ..)

/-- A listing that ends well has read its query and loaded its records. -/
theorem exists_of_showList (h : (showList files config text format limit).result = .ok ()) :
    ∃ q records, Query.parse text = .ok q
      ∧ (loadRecords files config).result = .ok records := by
  cases hq : Query.parse text with
  | error error =>
      rw [showList_of_error hq] at h
      cases h
  | ok q =>
      unfold showList at h
      rw [Run.result_bind (result_parseQuery hq)] at h
      obtain ⟨records, hl, -⟩ := Run.result_bind_eq_ok_iff.1 h
      exact ⟨q, records, rfl, hl⟩

/-- A listing ends as its query and then its records do. -/
theorem result_showList_eq (files : Files) (config : Config) (text : String)
    (format : OutputFormat) (limit : Option Nat) :
    (showList files config text format limit).result
      = ((Query.parse text).mapError Problem.query).bind fun _ =>
        (loadRecords files config).result.map fun _ => () := by
  cases hq : Query.parse text with
  | error error =>
      rw [showList_of_error hq]
      rfl
  | ok q =>
      unfold showList
      rw [Run.result_bind (result_parseQuery hq), Run.result_bind_eq]
      cases (loadRecords files config).result <;> rfl

/-- A listing that meets a problem prints nothing. -/
theorem printed_showList_of_problem {problem : Problem}
    (h : (showList files config text format limit).result = .error problem) :
    (showList files config text format limit).printed = [] := by
  cases hq : Query.parse text with
  | error error =>
      rw [showList_of_error hq]
      rfl
  | ok q =>
      cases hl : (loadRecords files config).result with
      | ok records =>
          rw [result_showList hq hl] at h
          cases h
      | error problem =>
          unfold showList
          rw [Run.printed_bind (result_parseQuery hq), Run.printed_bind_of_error hl,
            printed_parseQuery, printed_loadRecords, List.append_nil]

/-- Of the files, a listing only sees what records they come to. -/
theorem showList_congr {files' : Files}
    (h : (loadRecords files' config).result = (loadRecords files config).result) :
    (showList files' config text format limit).result
        = (showList files config text format limit).result
      ∧ (showList files' config text format limit).printed
        = (showList files config text format limit).printed := by
  have hresult : (showList files' config text format limit).result
      = (showList files config text format limit).result := by
    rw [result_showList_eq, result_showList_eq, h]
  refine ⟨hresult, ?_⟩
  cases hend : (showList files config text format limit).result with
  | error problem =>
      rw [printed_showList_of_problem hend, printed_showList_of_problem (hresult.trans hend)]
  | ok _ =>
      obtain ⟨q, records, hq, hl⟩ := exists_of_showList hend
      rw [printed_showList hq hl, printed_showList hq (h.trans hl)]

end Docket
