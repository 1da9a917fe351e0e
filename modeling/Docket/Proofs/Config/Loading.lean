/-
What loading a configuration comes to, and what it looks at.  Loading says
things but prints nothing; it comes to the configuration of the file that is
chosen, or to the standard one where no file is.

The choice and what becomes of it are decided by the candidates: the file
that was asked for alone, or else the one in the working directory and the
user's; without a working directory there are none.  No other file of the
machine counts, so two machines on which the environment, the directories
and the candidates are the same load the same configuration, with the same
problem if there is one.
-/
import Docket.Config.Lookup

namespace Docket.Config

variable {files files' : Files} {world world' : World} {here path : String}
  {explicit : Option String}

-- ============================================================= the choice

/-- Looking for a configuration file finds the same in two worlds. -/
structure SameLookup (world world' : World) (explicit : Option String) : Prop where
  env : world'.env = world.env
  here : world'.here = world.here
  userDir : world'.userDir = world.userDir
  entries : ∀ path ∈ candidates world explicit,
    world'.files.entry path = world.files.entry path

/-- Without a working directory no file is looked for. -/
theorem lookup_of_lost (h : world.here = none) :
    lookup world explicit = .error .lostDirectory := by
  unfold lookup
  rw [h]

theorem lookup_of_here (h : world.here = some here) :
    lookup world explicit
      = choose world.files (explicit <|> world.env.configPath) here world.userDir := by
  unfold lookup
  rw [h]

/-- The file that is chosen is a candidate. -/
theorem mem_candidates (h : lookup world explicit = .ok (some path)) :
    path ∈ candidates world explicit := by
  unfold candidates
  cases hhere : world.here with
  | none =>
      rw [lookup_of_lost hhere] at h
      cases h
  | some here =>
      rw [lookup_of_here hhere] at h
      unfold choose at h
      cases hasked : explicit <|> world.env.configPath with
      | some asked =>
          simp only [hasked] at h
          split at h
          · cases h
            exact List.mem_singleton_self _
          · cases h
      | none =>
          simp only [hasked] at h
          split at h
          · cases h
            exact List.mem_cons_self
          · rw [Except.ok.injEq, Option.filter_eq_some_iff] at h
            exact List.mem_cons_of_mem _ (Option.mem_toList.2 h.1)

/-- The candidates decide which file is chosen. -/
theorem lookup_congr (h : SameLookup world world' explicit) :
    lookup world' explicit = lookup world explicit := by
  have hentries := h.entries
  unfold candidates at hentries
  unfold lookup choose
  rw [h.env, h.here, h.userDir]
  cases hhere : world.here with
  | none => rfl
  | some here =>
      cases hasked : explicit <|> world.env.configPath with
      | some asked =>
          rw [hhere, hasked] at hentries
          have hfile := Files.isFile_congr (hentries asked (List.mem_singleton_self _))
          simp only [hfile]
      | none =>
          rw [hhere, hasked] at hentries
          have hlocal := Files.isFile_congr (hentries (localPath here) List.mem_cons_self)
          have huser : (world.userDir.map userPath).filter world'.files.isFile
              = (world.userDir.map userPath).filter world.files.isFile := by
            cases hdir : world.userDir with
            | none => rfl
            | some dir =>
                have hfile := Files.isFile_congr (hentries (userPath dir) (by simp [hdir]))
                simp [Option.filter, hfile]
          simp only [hlocal, huser]

-- ====================================================== what becomes of it

/-- The configuration of the file that was chosen, or the standard one. -/
def ofChoice (files : Files) : Option String → Except Problem Config
  | none => .ok standard
  | some path => ofFile files path

theorem ofFile_congr (h : files'.entry path = files.entry path) :
    ofFile files' path = ofFile files path := by
  unfold ofFile
  rw [Files.read?_congr h]

/-- Loading comes to what becomes of the choice. -/
theorem result_load (world : World) (explicit : Option String) :
    (load world explicit).result = (lookup world explicit).bind (ofChoice world.files) := by
  unfold load
  rw [Run.result_bind_eq]
  refine congrArg (Except.bind _) (funext fun file => ?_)
  cases file with
  | none => rfl
  | some path =>
      refine (Run.result_bind_eq _ _).trans ?_
      show (ofFile world.files path).bind _ = ofFile world.files path
      cases ofFile world.files path <;> rfl

theorem printed_load (world : World) (explicit : Option String) :
    (load world explicit).printed = [] := by
  refine Run.printed_bind_of_silent rfl fun file => ?_
  cases file with
  | none => rfl
  | some path => exact Run.printed_bind_of_silent rfl fun config => rfl

/-- The candidates decide what becomes of the choice. -/
theorem ofChoice_congr (h : SameLookup world world' explicit) :
    (lookup world explicit).bind (ofChoice world'.files)
      = (lookup world explicit).bind (ofChoice world.files) := by
  cases hchoice : lookup world explicit with
  | error problem => rfl
  | ok file =>
      cases file with
      | none => rfl
      | some path => exact ofFile_congr (h.entries path (mem_candidates hchoice))

end Docket.Config
