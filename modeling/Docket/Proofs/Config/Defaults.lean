/-
What a configuration file leaves out.  A file that is loaded holds a
document, and each field of the configuration comes from one key of it: from
what the key says, or from the standard configuration where the document
does not have the key.  The data directory is then placed: a relative one
starts at the directory of the file.

Main statement: the listings and the limit that a document leaves out are
the standard ones, and so is the data directory when the path of the file
names no directory.  Placing does not tell a data directory that was left
out from one that was written, so the standard one, which is relative, moves
to the directory of any other file, and records are looked for there.
-/
import Docket.Proofs.Config.Layers

namespace Docket.Config

variable {files : Files} {path key otherwise text dir own : String} {config : Config}
  {entries : Toml.Entries}

-- ================================================================ the keys

/-- A text is what the key says, or the given one where the key is absent. -/
theorem textAt_eq_some_iff :
    textAt key otherwise entries = some text
      ↔ entries.lookup key = none ∧ text = otherwise
        ∨ entries.lookup key = some (.string text) := by
  unfold textAt
  split
  · next h => simp [h, eq_comm]
  · next h => simp [h]
  · next value htext h =>
    rw [h]
    constructor
    · intro hnone
      cases hnone
    · rintro (⟨hnone, -⟩ | hsome)
      · cases hnone
      · exact absurd (Option.some.inj hsome) (htext text)

theorem textAt_of_absent (h : entries.lookup key = none) :
    textAt key otherwise entries = some otherwise := textAt_eq_some_iff.2 (.inl ⟨h, rfl⟩)

theorem textAt_of_string (h : entries.lookup key = some (.string text)) :
    textAt key otherwise entries = some text := textAt_eq_some_iff.2 (.inr h)

theorem countAt_of_absent (h : entries.lookup key = none) : countAt key entries = some none := by
  unfold countAt
  rw [h]

/-- Every field comes from its key. -/
theorem ofEntries?_eq_some_iff :
    ofEntries? entries = some config
      ↔ textAt "data_dir" standard.dataDir entries = some config.dataDir
        ∧ textAt "issues_file" standard.issuesFile entries = some config.issuesFile
        ∧ textAt "pulls_file" standard.pullsFile entries = some config.pullsFile
        ∧ countAt "limit" entries = some config.limit := by
  obtain ⟨dataDir, issuesFile, pullsFile, limit⟩ := config
  unfold ofEntries?
  simp only [Option.bind_eq_bind, Option.bind_eq_some_iff, Option.some.injEq, Config.mk.injEq]
  constructor
  · rintro ⟨_, hdir, _, hissues, _, hpulls, _, hlimit, rfl, rfl, rfl, rfl⟩
    exact ⟨hdir, hissues, hpulls, hlimit⟩
  · rintro ⟨hdir, hissues, hpulls, hlimit⟩
    exact ⟨_, hdir, _, hissues, _, hpulls, _, hlimit, rfl, rfl, rfl, rfl⟩

-- ========================================================= the data directory

/-- A data directory as the file at a path places it: a relative one starts
at the directory of the file, if that is in any. -/
def placedAt (path dir : String) : String :=
  if Path.isRelative dir then (Path.parent? path).elim dir (Path.join · dir) else dir

/-- A file places the data directory and nothing else. -/
theorem locatedAt_eq (config : Config) (path : String) :
    config.locatedAt path = { config with dataDir := placedAt path config.dataDir } := by
  unfold locatedAt placedAt
  split
  · cases Path.parent? path with
    | none => rfl
    | some own => rfl
  · rfl

theorem placedAt_of_absolute (h : Path.isAbsolute dir = true) : placedAt path dir = dir := by
  unfold placedAt Path.isRelative
  rw [h]
  rfl

theorem placedAt_of_relative (h : Path.isAbsolute dir = false) :
    placedAt path dir = (Path.parent? path).elim dir (Path.join · dir) := by
  unfold placedAt Path.isRelative
  rw [h]
  rfl

/-- The standard data directory is relative. -/
theorem placedAt_standard (path : String) :
    placedAt path standard.dataDir
      = (Path.parent? path).elim standard.dataDir (Path.join · standard.dataDir) :=
  placedAt_of_relative rfl

/-- The dot stays where it is inside of no directory only. -/
theorem join_dot_eq_iff : Path.join own "." = "." ↔ own = "" := by
  constructor
  · intro h
    have hlength := congrArg String.length h
    unfold Path.join at hlength
    rw [if_neg (by decide)] at hlength
    split at hlength
    · simp at hlength
    · simpa using hlength
  · rintro rfl
    rfl

/-- The standard data directory stays where it is for a file whose path names
no directory only. -/
theorem placedAt_standard_eq_iff :
    placedAt path standard.dataDir = standard.dataDir ↔ (Path.parent? path).getD "" = "" := by
  rw [placedAt_standard]
  cases Path.parent? path with
  | none => simp
  | some own => exact join_dot_eq_iff

/-- A file that is loaded holds a document, whose configuration it places. -/
theorem exists_document_of_ofFile (h : ofFile files path = .ok config) :
    ∃ entries written, document? files path = some entries ∧ ofEntries? entries = some written
      ∧ config = { written with dataDir := placedAt path written.dataDir } := by
  unfold ofFile at h
  cases hread : files.read? path with
  | none =>
      rw [hread] at h
      cases h
  | some text =>
      rw [hread] at h
      cases hwritten : ofText? text with
      | none =>
          simp only [hwritten] at h
          cases h
      | some written =>
          simp only [hwritten] at h
          obtain ⟨entries, hentries, hwritten⟩ := Option.bind_eq_some_iff.1 hwritten
          refine ⟨entries, written, ?_, hwritten, ?_⟩
          · unfold document?
            rw [hread]
            exact hentries
          · rw [← locatedAt_eq]
            exact (Except.ok.inj h).symm

-- ============================================================= the theorem

/-- In a configuration that is loaded from a file, listings and limit that
its document leaves out are the standard ones.  A data directory that it
gives is kept if it is absolute, and starts at the directory of the file if
it is relative; so does the standard one if the document gives none, and it
is the standard one still exactly when the path of the file names no
directory.  The standard configuration is what is loaded where no file is
offered, as long as the working directory is there. -/
theorem absent_keys_mean_defaults (files : Files) (path : String) (config : Config)
    (h : ofFile files path = .ok config) :
    ∃ entries, document? files path = some entries
      ∧ (entries.lookup "issues_file" = none → config.issuesFile = standard.issuesFile)
      ∧ (entries.lookup "pulls_file" = none → config.pullsFile = standard.pullsFile)
      ∧ (entries.lookup "limit" = none → config.limit = standard.limit)
      ∧ (entries.lookup "data_dir" = none →
          config.dataDir
              = (Path.parent? path).elim standard.dataDir (Path.join · standard.dataDir)
            ∧ (config.dataDir = standard.dataDir ↔ (Path.parent? path).getD "" = ""))
      ∧ (∀ dir, entries.lookup "data_dir" = some (.string dir) →
          (Path.isAbsolute dir = true → config.dataDir = dir)
            ∧ (Path.isAbsolute dir = false →
              config.dataDir = (Path.parent? path).elim dir (Path.join · dir)))
      ∧ ∀ (world : World) (explicit : Option String), world.here.isSome = true →
          Undecided world explicit → (load world explicit).result = .ok standard := by
  obtain ⟨entries, written, hdocument, hwritten, rfl⟩ := exists_document_of_ofFile h
  obtain ⟨hdir, hissues, hpulls, hlimit⟩ := ofEntries?_eq_some_iff.1 hwritten
  refine ⟨entries, hdocument, ?_, ?_, ?_, ?_, ?_, ?_⟩
  · intro habsent
    rw [textAt_of_absent habsent] at hissues
    exact (Option.some.inj hissues).symm
  · intro habsent
    rw [textAt_of_absent habsent] at hpulls
    exact (Option.some.inj hpulls).symm
  · intro habsent
    rw [countAt_of_absent habsent] at hlimit
    exact (Option.some.inj hlimit).symm
  · intro habsent
    rw [textAt_of_absent habsent] at hdir
    rw [← Option.some.inj hdir]
    exact ⟨placedAt_standard path, placedAt_standard_eq_iff⟩
  · intro dir hgiven
    rw [textAt_of_string hgiven] at hdir
    rw [← Option.some.inj hdir]
    exact ⟨placedAt_of_absolute, placedAt_of_relative⟩
  · intro world explicit hhere hnone
    rw [load_of_undecided hhere hnone]

/-- A file in a directory places its own data directory there, and leaves the
rest as it is without a file. -/
theorem absent_keys_mean_defaults_in_directory :
    let files : Files := ⟨fun _ => .text "data_dir = \"data\"\npulls_file = \"p.json\"\n"⟩
    ∃ config, ofFile files "conf/triage.toml" = .ok config
      ∧ config.dataDir = "conf/data"
      ∧ config.issuesFile = standard.issuesFile
      ∧ config.limit = standard.limit := by
  intro files
  have hload : ofFile files "conf/triage.toml"
      = .ok ⟨"conf/data", "issues.json", "p.json", none⟩ := by decide +kernel
  obtain ⟨entries, hdocument, hissues, -, hlimit, -, hgiven, -⟩ :=
    absent_keys_mean_defaults files "conf/triage.toml" _ hload
  have hentries : entries = [("data_dir", .string "data"), ("pulls_file", .string "p.json")] := by
    have hknown : document? files "conf/triage.toml"
        = some [("data_dir", .string "data"), ("pulls_file", .string "p.json")] := by
      with_unfolding_all rfl
    exact Option.some.inj (hdocument.symm.trans hknown)
  subst hentries
  refine ⟨_, hload, ?_, hissues (by simp), hlimit (by simp)⟩
  rw [(hgiven "data" rfl).2 rfl]
  decide

/-- The user's file, which sets nothing but the limit, moves the data
directory from the working directory to its own. -/
theorem users_file_moves_records :
    let world := atWork "/w" .missing (.text "limit = 5\n")
    Toml.ofString? "limit = 5\n" = some [("limit", .integer 5)]
      ∧ (load world none).result
        = .ok ⟨"/home/u/.config/triage/.", "issues.json", "pulls.json", some 5⟩
      ∧ standard.dataDir = "." := by
  intro world
  refine ⟨by with_unfolding_all rfl, ?_, rfl⟩
  decide +kernel

end Docket.Config
