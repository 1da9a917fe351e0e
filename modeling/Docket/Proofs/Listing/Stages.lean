/-
The stages of a request: look for a configuration file, read it, read the
query, look for the issues listing, read it, read the listing of pull
requests, write the report.  Nothing is written before the last of them.

# What is wrong at a stage

`Stage.problem?` says what is wrong at one stage, whatever is wrong at the
others, so a command line may have several faults at once: a query that
cannot be read, say, and an issues listing that is not there.  `FailsAt` is
the first of them.  A listing ends with a problem exactly if it fails at
some stage, with the problem that is wrong there.  If that is not the last
one, nothing has been written; where the output is too short for the report,
all that it had room for has.  If nothing is wrong at any stage, the listing
ends well.

# What a stage looks at

`Alike` says of two requests, on other machines, that all that the stages up
to a given one look at is the same: the candidates for the configuration
file, from the query on the text of the query, then the directory and whether
the issues listing is there, the issues listing, the listing of pull requests,
and at last the format, the limit and the output.  What is wrong at these
stages is then the same, and so is the problem of a listing that fails at one
of them.  The standard input is seen by no stage.
-/
import Docket.Proofs.Listing.Request
import Mathlib.Data.List.Basic

namespace Docket

-- ================================================ statement vocabulary

/-- The stages of a listing. -/
inductive Stage where
  | lookup
  | reading
  | query
  | presence
  | issues
  | pulls
  | output
deriving DecidableEq, Repr

/-- The stages in front of the output, in their order. -/
def Stage.front : List Stage := [lookup, reading, query, presence, issues, pulls]

/-- The stages in their order. -/
def Stage.all : List Stage := front ++ [output]

/-- The number of stages in front of a stage. -/
def Stage.rank : Stage → Nat
  | lookup => 0
  | reading => 1
  | query => 2
  | presence => 3
  | issues => 4
  | pulls => 5
  | output => 6

/-- The problem that a result is, if it is one. -/
def problemOf? {α : Type} : Except Problem α → Option Problem
  | .ok _ => none
  | .error problem => some problem

/-- What is wrong at a stage, whatever is wrong at others.  Where there is
no configuration, nothing can be wrong with its listings, and where there is
no report, nothing with its output. -/
def Stage.problem? (world : World) (r : Request) : Stage → Option Problem
  | lookup => problemOf? (world.configFile r)
  | reading =>
    (world.configFile r).toOption.bind fun file => problemOf? (Config.ofChoice world.files file)
  | query => problemOf? ((Query.parse r.query).mapError Problem.query)
  | presence => (world.configured? r).bind fun config =>
    if world.files.isFile config.issuesPath then none else some (.noRecords config.issuesPath)
  | issues => (world.configured? r).bind fun config =>
    problemOf? (readListing readRecords? world.files config.issuesPath)
  | pulls => (world.configured? r).bind fun config =>
    if world.files.isFile config.pullsPath then
      problemOf? (readListing readPulls? world.files config.pullsPath)
    else none
  | output => (world.report? r).bind (world.output.problem? r.format)

/-- A listing fails at a stage: something is wrong there, and at no stage in
front of it. -/
structure FailsAt (world : World) (r : Request) (stage : Stage) (problem : Problem) : Prop where
  wrong : stage.problem? world r = some problem
  first : ∀ earlier : Stage, earlier.rank < stage.rank → earlier.problem? world r = none

/-- All that the stages of a listing up to `stage` look at is the same in
another one. -/
structure Alike (stage : Stage) (world : World) (r : Request) (world' : World) (r' : Request) :
    Prop where
  config : r'.config = r.config
  lookup : Config.SameLookup world world' r.config
  query : Stage.query.rank ≤ stage.rank → r'.query = r.query
  directory : Stage.presence.rank ≤ stage.rank → r'.directory = r.directory
  presence : Stage.presence.rank ≤ stage.rank → ∀ config, world.configured? r = some config →
    world'.files.isFile config.issuesPath = world.files.isFile config.issuesPath
  issues : Stage.issues.rank ≤ stage.rank → ∀ config, world.configured? r = some config →
    world'.files.entry config.issuesPath = world.files.entry config.issuesPath
  pulls : Stage.pulls.rank ≤ stage.rank → ∀ config, world.configured? r = some config →
    world'.files.entry config.pullsPath = world.files.entry config.pullsPath
  format : Stage.output.rank ≤ stage.rank → r'.format = r.format
  limit : Stage.output.rank ≤ stage.rank → r'.limit = r.limit
  output : Stage.output.rank ≤ stage.rank → world'.output = world.output

variable {world world' : World} {r r' : Request} {stage stage' : Stage}
  {problem problem' : Problem} {config : Config}

-- ================================================== the first problem

theorem Stage.mem_front (h : stage ≠ output) : stage ∈ front := by
  cases stage <;> first | decide | exact absurd rfl h

theorem Stage.mem_all (stage : Stage) : stage ∈ all := by
  cases stage <;> decide

theorem Stage.pairwise_all : all.Pairwise fun s t => s.rank < t.rank := by
  decide

theorem Stage.rank_injective (h : stage.rank = stage'.rank) : stage = stage' := by
  cases stage <;> cases stage' <;> first | rfl | cases h

/-- A listing fails at some stage with the problem that is met first when
the stages are gone through in order. -/
theorem exists_failsAt_iff : (∃ stage, FailsAt world r stage problem)
    ↔ (Stage.all.findSome? fun stage => stage.problem? world r) = some problem := by
  rw [List.findSome?_eq_some_iff]
  constructor
  · rintro ⟨stage, hwrong, hfirst⟩
    obtain ⟨front, back, hall⟩ := List.append_of_mem stage.mem_all
    refine ⟨front, stage, back, hall, hwrong, ?_⟩
    intro earlier hmem
    have hsorted := Stage.pairwise_all
    rw [hall, List.pairwise_append] at hsorted
    exact hfirst earlier (hsorted.2.2 earlier hmem stage List.mem_cons_self)
  · rintro ⟨front, stage, back, hall, hwrong, hfirst⟩
    refine ⟨stage, hwrong, ?_⟩
    intro earlier hlt
    -- the stage stands in the list of all, and not at `stage` or behind it
    have hsorted := Stage.pairwise_all
    rw [hall, List.pairwise_append, List.pairwise_cons] at hsorted
    have hmem := earlier.mem_all
    rw [hall, List.mem_append, List.mem_cons] at hmem
    rcases hmem with hfront | rfl | hback
    · exact hfirst earlier hfront
    · omega
    · have hgt := hsorted.2.1.1 earlier hback
      omega

/-- A listing fails at one stage at most. -/
theorem FailsAt.unique (h : FailsAt world r stage problem)
    (h' : FailsAt world r stage' problem') : stage = stage' := by
  have hnot : ∀ {s t : Stage} {p q : Problem}, FailsAt world r s p → FailsAt world r t q →
      ¬ s.rank < t.rank := by
    intro s t p q hs ht hlt
    have hnone := ht.first s hlt
    rw [hs.wrong] at hnone
    cases hnone
  have hle := hnot h h'
  have hge := hnot h' h
  exact Stage.rank_injective (by omega)

-- ======================================================= configuration

/-- Either there is a configuration and nothing is wrong at the first two
stages, or there is none and the first of them at which something is wrong
says why. -/
theorem World.configured_or_wrong (world : World) (r : Request) :
    (∃ config, (world.config r.invocation).result = .ok config
        ∧ Stage.lookup.problem? world r = none ∧ Stage.reading.problem? world r = none)
      ∨ ∃ problem, (world.config r.invocation).result = .error problem
        ∧ (Stage.lookup.problem? world r = some problem
          ∨ Stage.lookup.problem? world r = none
            ∧ Stage.reading.problem? world r = some problem) := by
  rw [World.result_config]
  unfold Stage.problem?
  cases world.configFile r with
  | error problem => exact Or.inr ⟨problem, rfl, Or.inl rfl⟩
  | ok file =>
      simp only [Except.bind, Except.toOption, Option.bind_some]
      cases Config.ofChoice world.files file with
      | error problem => exact Or.inr ⟨problem, rfl, Or.inr ⟨rfl, rfl⟩⟩
      | ok config => exact Or.inl ⟨_, rfl, rfl, rfl⟩

/-- What is wrong with the listings of a configuration is what its records
come to. -/
theorem problemOf?_loadRecords (h : world.configured? r = some config) :
    problemOf? (loadRecords world.files config).result
      = [Stage.presence, .issues, .pulls].findSome? fun stage => stage.problem? world r := by
  simp only [List.findSome?_cons, List.findSome?_nil, Stage.problem?, h, Option.bind_some]
  rw [result_loadRecords, result_loadPulls]
  by_cases hissues : world.files.isFile config.issuesPath = true
  · simp only [if_pos hissues]
    cases readListing readRecords? world.files config.issuesPath with
    | error problem => rfl
    | ok issues =>
        by_cases hpulls : world.files.isFile config.pullsPath = true
        · simp only [if_pos hpulls]
          cases readListing readPulls? world.files config.pullsPath <;> rfl
        · simp only [if_neg hpulls]
          rfl
  · simp only [if_neg hissues]
    rfl

-- ===================================================== how listings end

/-- Where the output takes everything, a listing ends with the problem that is
met first in front of the output, and well if there is none. -/
theorem problemOf?_run (world : World) (r : Request) :
    problemOf? (world.run r.invocation).result
      = Stage.front.findSome? fun stage => stage.problem? world r := by
  unfold Stage.front
  rcases world.configured_or_wrong r with
    ⟨config, hconfig, hlookup, hreading⟩ | ⟨problem, hconfig, hwrong⟩
  · have hrecords := problemOf?_loadRecords (World.configured?_eq_some_iff.2 hconfig)
    rw [(run_of_config hconfig).1, result_showList_eq, List.findSome?_cons, hlookup,
      List.findSome?_cons, hreading, List.findSome?_cons, ← hrecords]
    simp only [Stage.problem?]
    cases Query.parse r.query with
    | error error => rfl
    | ok q => cases (loadRecords world.files config).result <;> rfl
  · rw [(run_of_config_error hconfig).1]
    rcases hwrong with hlookup | ⟨hlookup, hreading⟩
    · rw [List.findSome?_cons, hlookup]
      rfl
    · rw [List.findSome?_cons, hlookup, List.findSome?_cons, hreading]
      rfl

/-- So nothing is wrong in front of the output when it ends well. -/
theorem problem?_eq_none_of_run (h : (world.run r.invocation).result = .ok ())
    (hstage : stage ≠ .output) : stage.problem? world r = none := by
  have hfront := problemOf?_run world r
  rw [h] at hfront
  exact List.findSome?_eq_none_iff.1 hfront.symm stage (Stage.mem_front hstage)

/-- A listing ends as it does where the output takes everything, and then as
the output does with its report. -/
theorem result_carryOut_eq (world : World) (r : Request) :
    (world.carryOut r.invocation).result
      = (world.run r.invocation).result.bind fun _ =>
        (Stage.output.problem? world r).elim (.ok ()) .error := by
  unfold World.carryOut
  rcases run_cases world r with ⟨problem, hresult, hprinted, -⟩ | ⟨texts, hresult, -, hreport, honto⟩
  · rw [Run.onto_of_silent hprinted, hresult]
    rfl
  · rw [honto, hresult]
    simp only [Stage.problem?, hreport, Option.bind_some]
    rfl

/-- A listing ends with the problem that is met first, and well if there is
none. -/
theorem result_carryOut (world : World) (r : Request) :
    (world.carryOut r.invocation).result
      = (Stage.all.findSome? fun stage => stage.problem? world r).elim (.ok ()) .error := by
  unfold Stage.all
  rw [List.findSome?_append, ← problemOf?_run, List.findSome?_singleton, result_carryOut_eq]
  cases (world.run r.invocation).result <;> rfl

/-- A listing ends with a problem exactly if it fails with it at some
stage. -/
theorem result_carryOut_eq_error_iff :
    (world.carryOut r.invocation).result = .error problem
      ↔ ∃ stage, FailsAt world r stage problem := by
  rw [exists_failsAt_iff, result_carryOut]
  cases Stage.all.findSome? fun stage => stage.problem? world r <;> simp

/-- A listing ends well exactly if nothing is wrong at any stage. -/
theorem result_carryOut_eq_ok_iff :
    (world.carryOut r.invocation).result = .ok ()
      ↔ ∀ stage : Stage, stage.problem? world r = none := by
  have hnone : (Stage.all.findSome? fun stage => stage.problem? world r) = none
      ↔ ∀ stage : Stage, stage.problem? world r = none := by
    rw [List.findSome?_eq_none_iff]
    exact ⟨fun h stage => h stage stage.mem_all, fun h stage _ => h stage⟩
  rw [← hnone, result_carryOut]
  cases Stage.all.findSome? fun stage => stage.problem? world r <;> simp

-- ====================================================== where listings fail

/-- A listing that fails in front of the output comes to no report. -/
theorem FailsAt.report?_eq_none (h : FailsAt world r stage problem) (hstage : stage ≠ .output) :
    world.report? r = none := by
  rcases run_cases world r with ⟨_, -, -, hnone⟩ | ⟨texts, hresult, -⟩
  · exact hnone
  · have hwrong := h.wrong
    rw [problem?_eq_none_of_run hresult hstage] at hwrong
    cases hwrong

/-- Such a listing writes nothing. -/
theorem FailsAt.written_eq_nil (h : FailsAt world r stage problem) (hstage : stage ≠ .output) :
    (world.carryOut r.invocation).written = [] := by
  rw [written_carryOut, h.report?_eq_none hstage]
  exact Output.front_of_takes world.output.takes_nil

/-- A listing that fails at the output has come to a report that is too long,
and as much of it is written as there is room for. -/
theorem FailsAt.exists_room (h : FailsAt world r .output problem) :
    ∃ texts room, world.report? r = some texts ∧ world.output = .upTo room
      ∧ room < (texts.flatMap ended).length
      ∧ (world.carryOut r.invocation).written = (texts.flatMap ended).take room := by
  obtain ⟨texts, hreport, hproblem⟩ := Option.bind_eq_some_iff.1 h.wrong
  have hfull : world.output.takes (texts.flatMap ended).length = false := by
    cases htakes : world.output.takes (texts.flatMap ended).length with
    | false => rfl
    | true =>
        rw [Output.problem?_eq_none_iff.2 htakes] at hproblem
        cases hproblem
  obtain ⟨room, hroom, hlt, hfront⟩ := Output.exists_room hfull
  refine ⟨texts, room, hreport, hroom, hlt, ?_⟩
  rw [written_carryOut, hreport]
  exact hfront

/-- A listing that ends well has come to a report and written all of it. -/
theorem written_of_ok (h : (world.carryOut r.invocation).result = .ok ()) :
    ∃ texts, world.report? r = some texts
      ∧ (world.carryOut r.invocation).written = texts.flatMap ended := by
  rcases run_cases world r with ⟨problem, hresult, -⟩ | ⟨texts, -, -, hreport, -⟩
  · rw [result_carryOut_eq, hresult] at h
    cases h
  · have hnone := result_carryOut_eq_ok_iff.1 h .output
    simp only [Stage.problem?, hreport, Option.bind_some] at hnone
    refine ⟨texts, hreport, ?_⟩
    rw [written_carryOut, hreport]
    exact Output.front_of_takes (Output.problem?_eq_none_iff.1 hnone)

-- ================================================= what a stage looks at

theorem Alike.configFile_eq (h : Alike stage world r world' r') :
    world'.configFile r' = world.configFile r := by
  unfold World.configFile
  rw [h.config]
  exact Config.lookup_congr h.lookup

theorem Alike.ofChoice_eq (h : Alike stage world r world' r') :
    (world'.configFile r').bind (Config.ofChoice world'.files)
      = (world.configFile r).bind (Config.ofChoice world.files) := by
  rw [h.configFile_eq]
  exact Config.ofChoice_congr h.lookup

theorem Alike.config_eq (h : Alike stage world r world' r')
    (hstage : Stage.presence.rank ≤ stage.rank) :
    (world'.config r'.invocation).result = (world.config r.invocation).result := by
  rw [World.result_config, World.result_config, h.ofChoice_eq, h.directory hstage]

theorem Alike.configured?_eq (h : Alike stage world r world' r')
    (hstage : Stage.presence.rank ≤ stage.rank) :
    world'.configured? r' = world.configured? r :=
  congrArg Except.toOption (h.config_eq hstage)

theorem Alike.report?_eq (h : Alike stage world r world' r')
    (hstage : Stage.output.rank ≤ stage.rank) : world'.report? r' = world.report? r := by
  have hpulls : Stage.pulls.rank ≤ stage.rank := Nat.le_trans (by decide) hstage
  have hpresence : Stage.presence.rank ≤ stage.rank := Nat.le_trans (by decide) hstage
  refine World.report?_congr (h.configured?_eq hpresence)
    (h.query (Nat.le_trans (by decide) hstage)) (h.format hstage) (h.limit hstage) ?_
  intro config hconfig
  have hissues := h.issues (Nat.le_trans (by decide) hstage) config hconfig
  have hentry := h.pulls hpulls config hconfig
  rw [result_loadRecords, result_loadRecords, Files.isFile_congr hissues,
    readListing_congr hissues, result_loadPulls, result_loadPulls, Files.isFile_congr hentry,
    readListing_congr hentry]

/-- What is wrong at a stage up to which two listings are alike is wrong in
both. -/
theorem Alike.problem?_eq (h : Alike stage' world r world' r')
    (hle : stage.rank ≤ stage'.rank) : stage.problem? world' r' = stage.problem? world r := by
  unfold Stage.problem?
  cases stage with
  | lookup => exact congrArg problemOf? h.configFile_eq
  | reading =>
      have hchoice := h.ofChoice_eq
      rw [h.configFile_eq] at hchoice
      dsimp only
      rw [h.configFile_eq]
      cases hfile : world.configFile r with
      | error problem => rfl
      | ok file =>
          rw [hfile] at hchoice
          exact congrArg problemOf? hchoice
  | query =>
      dsimp only
      rw [h.query hle]
  | presence =>
      dsimp only
      rw [h.configured?_eq hle]
      refine Option.bind_congr fun config hconfig => ?_
      rw [h.presence hle config hconfig]
  | issues =>
      have hpresence : Stage.presence.rank ≤ stage'.rank := Nat.le_trans (by decide) hle
      dsimp only
      rw [h.configured?_eq hpresence]
      refine Option.bind_congr fun config hconfig => ?_
      rw [readListing_congr (h.issues hle config hconfig)]
  | pulls =>
      have hpresence : Stage.presence.rank ≤ stage'.rank := Nat.le_trans (by decide) hle
      dsimp only
      rw [h.configured?_eq hpresence]
      refine Option.bind_congr fun config hconfig => ?_
      have hentry := h.pulls hle config hconfig
      rw [Files.isFile_congr hentry, readListing_congr hentry]
  | output =>
      dsimp only
      rw [h.report?_eq hle, h.format hle, h.output hle]

/-- Two listings that are alike up to a stage fail alike up to it. -/
theorem FailsAt.of_alike (h : FailsAt world r stage problem)
    (hle : stage.rank ≤ stage'.rank) (halike : Alike stage' world r world' r') :
    FailsAt world' r' stage problem := by
  refine ⟨?_, ?_⟩
  · rw [halike.problem?_eq hle]
    exact h.wrong
  · intro earlier hlt
    rw [halike.problem?_eq (by omega)]
    exact h.first earlier hlt

/-- A listing of pull requests that is not there counts as an empty one. -/
theorem Alike.carryOut_eq_of_noPulls (halike : Alike .issues world r world' r)
    (houtput : world'.output = world.output)
    (hpulls : ∀ config, world.configured? r = some config →
      world.files.isFile config.pullsPath = false
        ∧ world'.files.entry config.pullsPath = .text "[]") :
    (world'.carryOut r.invocation).result = (world.carryOut r.invocation).result
      ∧ (world'.carryOut r.invocation).written = (world.carryOut r.invocation).written := by
  have hpresence : Stage.presence.rank ≤ Stage.issues.rank := by decide
  have hload : ∀ config, world.configured? r = some config →
      (loadRecords world'.files config).result = (loadRecords world.files config).result := by
    intro config hconfig
    obtain ⟨hgone, hempty⟩ := hpulls config hconfig
    have hentry := halike.issues (Nat.le_refl _) config hconfig
    obtain ⟨hfile, htext⟩ := Files.isFile_and_read?_of_text hempty
    have hnone : readPulls? "[]" = some [] := by decide +kernel
    rw [result_loadRecords, result_loadRecords, Files.isFile_congr hentry,
      readListing_congr hentry, result_loadPulls, result_loadPulls, hfile, hgone,
      readListing_eq_ok_iff.2 ⟨_, htext, hnone⟩]
    rfl
  have hrun := (run_congr (halike.config_eq hpresence) hload).1
  have hreport := World.report?_congr (halike.configured?_eq hpresence) rfl rfl rfl hload
  constructor
  · rw [result_carryOut_eq, result_carryOut_eq, hrun]
    simp only [Stage.problem?, hreport, houtput]
  · rw [written_carryOut, written_carryOut, hreport, houtput]

/-- A listing that only an output can stop fails at it. -/
theorem FailsAt.of_output (hrun : (world.run r.invocation).result = .ok ())
    (h : Stage.output.problem? world r = some problem) : FailsAt world r .output problem := by
  refine ⟨h, fun earlier hlt => problem?_eq_none_of_run hrun ?_⟩
  rintro rfl
  exact Nat.lt_irrefl _ hlt

-- ============================================================= the theorem

/-- A listing fails at its first stage at which something is wrong.  It ends
with a problem exactly if it fails with it at some stage, which is one only.
If that is not the output, nothing is written; if it is, then the output has
less room than the report takes, and what there is room for is written.  If
nothing is wrong at any stage, the listing ends well, and the report on the
records that its query keeps is written.  A problem that is met depends on
nothing that a later stage looks at: a listing that is alike up to the stage
of the failure, or up to a later one, fails with it too.  And where all else
is the same, a listing of pull requests that is no file counts as one that
holds an empty array. -/
theorem listing_fails_at_first_stage :
    (∀ (world : World) (r : Request),
      (∀ problem, (world.carryOut r.invocation).result = .error problem
          ↔ ∃ stage, FailsAt world r stage problem)
        ∧ (∀ stage stage' problem problem', FailsAt world r stage problem →
          FailsAt world r stage' problem' → stage = stage')
        ∧ (∀ stage problem, FailsAt world r stage problem → stage ≠ .output →
          (world.carryOut r.invocation).written = [])
        ∧ (∀ problem, FailsAt world r .output problem →
          ∃ texts room, world.report? r = some texts ∧ world.output = .upTo room
            ∧ room < (texts.flatMap ended).length
            ∧ (world.carryOut r.invocation).written = (texts.flatMap ended).take room)
        ∧ ((world.carryOut r.invocation).result = .ok ()
          ↔ ∀ stage : Stage, stage.problem? world r = none)
        ∧ ((world.carryOut r.invocation).result = .ok () →
          ∃ texts, world.report? r = some texts
            ∧ (world.carryOut r.invocation).written = texts.flatMap ended))
      ∧ (∀ stage stage' problem world r world' r', FailsAt world r stage problem →
        stage.rank ≤ stage'.rank → Alike stage' world r world' r' →
        (world'.carryOut r'.invocation).result = .error problem
          ∧ (world'.carryOut r'.invocation).written = (world.carryOut r.invocation).written)
      ∧ ∀ world r world', Alike .issues world r world' r → world'.output = world.output →
        (∀ config, world.configured? r = some config →
          world.files.isFile config.pullsPath = false
            ∧ world'.files.entry config.pullsPath = .text "[]") →
        (world'.carryOut r.invocation).result = (world.carryOut r.invocation).result
          ∧ (world'.carryOut r.invocation).written = (world.carryOut r.invocation).written := by
  refine ⟨fun world r => ⟨fun problem => result_carryOut_eq_error_iff,
    fun _ _ _ _ h h' => h.unique h', fun _ _ h => h.written_eq_nil, fun _ h => h.exists_room,
    result_carryOut_eq_ok_iff, written_of_ok⟩, ?_, ?_⟩
  · intro stage stage' problem world r world' r' h hle halike
    have h' := h.of_alike hle halike
    refine ⟨result_carryOut_eq_error_iff.2 ⟨stage, h'⟩, ?_⟩
    by_cases hstage : stage = .output
    · subst hstage
      rw [written_carryOut, written_carryOut, halike.report?_eq hle, halike.output hle]
    · rw [h.written_eq_nil hstage, h'.written_eq_nil hstage]
  · intro world r world' halike houtput hpulls
    exact halike.carryOut_eq_of_noPulls houtput hpulls

/-- A machine with an issues listing and a listing of pull requests, and
without any configuration file. -/
def twoListings (issues pulls : Entry) : World where
  files := ⟨fun path =>
    if path = "./issues.json" then issues
    else if path = "./pulls.json" then pulls
    else .missing⟩
  env := .ofLookup fun _ => .unset
  here := some "/work"
  userDir := none
  input := []
  output := .boundless

/-- The request for what a word keeps. -/
def Request.ofWord (word : String) (format : OutputFormat) : Request :=
  ⟨none, none, [word], format, ⟨none, false⟩⟩

theorem entry_twoListings (issues pulls : Entry) {path : String}
    (h : path ∈ Config.candidates (twoListings issues pulls) none) :
    (twoListings issues pulls).files.entry path = .missing := by
  have hpath : Config.localPath "/work" = "/work/triage.toml" := by decide
  obtain rfl : path = "/work/triage.toml" := (List.mem_singleton.1 h).trans hpath
  simp [twoListings]

/-- No configuration file is there. -/
theorem configFile_twoListings (issues pulls : Entry) (word : String) (format : OutputFormat) :
    (twoListings issues pulls).configFile (.ofWord word format) = .ok none := by
  have hlocal : (twoListings issues pulls).files.isFile (Config.localPath "/work") = false := by
    unfold Files.isFile
    rw [entry_twoListings issues pulls List.mem_cons_self]
    rfl
  unfold World.configFile
  rw [Config.lookup_of_here (show (twoListings issues pulls).here = some "/work" from rfl)]
  show Config.choose _ none "/work" none = _
  simp [Config.choose, hlocal]

/-- So the standard configuration holds. -/
theorem configured?_twoListings (issues pulls : Entry) (word : String) (format : OutputFormat) :
    (twoListings issues pulls).configured? (.ofWord word format) = some .standard := by
  rw [World.configured?_eq_some_iff, World.result_config, configFile_twoListings]
  rfl

theorem eq_standard_of_twoListings {issues pulls : Entry} {word : String} {format : OutputFormat}
    (h : (twoListings issues pulls).configured? (.ofWord word format) = some config) :
    config = .standard :=
  Option.some.inj (h.symm.trans (configured?_twoListings issues pulls word format))

theorem alike_twoListings {issues pulls issues' pulls' : Entry} {word : String}
    {format format' : OutputFormat}
    (hissues : Stage.presence.rank ≤ stage.rank → issues' = issues)
    (hpulls : Stage.pulls.rank ≤ stage.rank → pulls' = pulls)
    (hformat : Stage.output.rank ≤ stage.rank → format' = format) :
    Alike stage (twoListings issues pulls) (.ofWord word format) (twoListings issues' pulls')
      (.ofWord word format') where
  config := rfl
  lookup := ⟨rfl, rfl, rfl, fun _ hpath =>
    (entry_twoListings issues' pulls' hpath).trans (entry_twoListings issues pulls hpath).symm⟩
  query _ := rfl
  directory _ := rfl
  presence hle config hconfig := by
    have hpath := Config.standard_paths.1
    obtain rfl := eq_standard_of_twoListings hconfig
    rw [hpath]
    exact congrArg Entry.isFile (hissues hle)
  issues hle config hconfig := by
    have hpath := Config.standard_paths.1
    obtain rfl := eq_standard_of_twoListings hconfig
    rw [hpath, hissues (Nat.le_trans (by decide) hle)]
    rfl
  pulls hle config hconfig := by
    have hpath := Config.standard_paths.2
    obtain rfl := eq_standard_of_twoListings hconfig
    rw [hpath, hpulls hle]
    rfl
  format := hformat
  limit _ := rfl
  output _ := rfl

/-- Nothing is wrong with the configuration of such a machine. -/
theorem problem?_twoListings (issues pulls : Entry) (word : String) (format : OutputFormat) :
    Stage.lookup.problem? (twoListings issues pulls) (.ofWord word format) = none
      ∧ Stage.reading.problem? (twoListings issues pulls) (.ofWord word format) = none := by
  unfold Stage.problem?
  rw [configFile_twoListings]
  exact ⟨rfl, rfl⟩

/-- There, a query that cannot be read is the first thing wrong. -/
theorem failsAt_query_twoListings (issues pulls : Entry) {word : String} (format : OutputFormat)
    {error : QueryError} (h : Query.parse (Request.ofWord word format).query = .error error) :
    FailsAt (twoListings issues pulls) (.ofWord word format) .query (.query error) := by
  constructor
  · unfold Stage.problem?
    dsimp only
    rw [h]
    rfl
  · intro earlier hlt
    cases earlier with
    | lookup => exact (problem?_twoListings ..).1
    | reading => exact (problem?_twoListings ..).2
    | _ => exact absurd hlt (by decide)

/-- There, behind a query that can be read, an issues listing that cannot be
decoded is. -/
theorem failsAt_issues_twoListings (pulls : Entry) {text word : String} (format : OutputFormat)
    {q : Query} (hq : Query.parse (Request.ofWord word format).query = .ok q)
    (h : readRecords? text = none) :
    FailsAt (twoListings (.text text) pulls) (.ofWord word format) .issues .malformedListing := by
  have hpath := Config.standard_paths.1
  have hbroken : readListing readRecords? (twoListings (.text text) pulls).files "./issues.json"
      = .error .malformedListing := by
    have htext : (twoListings (.text text) pulls).files.read? "./issues.json" = some text := rfl
    unfold readListing
    rw [htext]
    simp only [h]
  constructor
  · unfold Stage.problem?
    dsimp only
    rw [configured?_twoListings, Option.bind_some, hpath, hbroken]
    rfl
  · intro earlier hlt
    cases earlier with
    | lookup => exact (problem?_twoListings ..).1
    | reading => exact (problem?_twoListings ..).2
    | query =>
        unfold Stage.problem?
        dsimp only
        rw [hq]
        rfl
    | presence =>
        unfold Stage.problem?
        dsimp only
        rw [configured?_twoListings, Option.bind_some, hpath]
        rfl
    | _ => exact absurd hlt (by decide)

/-- Where there are no issues, the report is about no records. -/
theorem run_of_no_issues {q : Query} {pulls : List Pull}
    (hconfig : (world.config r.invocation).result = .ok config)
    (hq : Query.parse r.query = .ok q)
    (hissues : readListing readRecords? world.files config.issuesPath = .ok [])
    (hpulls : (loadPulls world.files config).result = .ok pulls) :
    (world.run r.invocation).result = .ok () ∧ world.report? r = some (report r.format [] 0) := by
  have hl : (loadRecords world.files config).result = .ok [] :=
    loadRecords_eq_ok_iff.2 ⟨isFile_of_readListing hissues, [], pulls, hissues, hpulls, by
      simp [linkPulls, sortRecords]⟩
  refine ⟨(run_of_config hconfig).1.trans (result_showList hq hl), ?_⟩
  rw [World.report?_of_config hconfig, hq, hl]
  have hcut : cutTo (r.limit.resolve config.limit) [] = [] := by
    cases r.limit.resolve config.limit <;> simp [cutTo]
  exact congrArg some (congrArg (report r.format · 0) hcut)

/-- The machine without issues, with an output that is too short to say so. -/
def cramped : World := { twoListings (.text "[]") .missing with output := .upTo 5 }

theorem run_cramped {q : Query} (hq : Query.parse (Request.ofWord "n(7)" .text).query = .ok q) :
    (cramped.run (Request.ofWord "n(7)" .text).invocation).result = .ok ()
      ∧ cramped.report? (.ofWord "n(7)" .text) = some ["0 records shown"] := by
  have hstatus : report .text [] 0 = ["0 records shown"] := by decide +kernel
  have hissues : readListing readRecords? cramped.files Config.standard.issuesPath = .ok [] := by
    decide +kernel
  have hpulls : (loadPulls cramped.files .standard).result = .ok [] := by decide +kernel
  rw [← hstatus]
  exact run_of_no_issues (World.configured?_eq_some_iff.1 (configured?_twoListings ..)) hq hissues
    hpulls

/-- So that listing fails at the output. -/
theorem failsAt_output_cramped {q : Query}
    (hq : Query.parse (Request.ofWord "n(7)" .text).query = .ok q) :
    FailsAt cramped (.ofWord "n(7)" .text) .output .unwritableLine := by
  obtain ⟨hrun, hreport⟩ := run_cramped hq
  refine .of_output hrun ?_
  unfold Stage.problem?
  dsimp only
  rw [hreport, Option.bind_some]
  decide +kernel

/-- A query that cannot be read fails as well where the issues listing is
broken, and a broken listing fails without any pull requests.  A machine
without pull requests lists the same as one that has an empty array of them,
and an output of five bytes takes five bytes of the report. -/
theorem listing_fails_at_first_stage_broken :
    FailsAt (twoListings .missing .missing) (.ofWord "label(bug" .text) .query
        (.query .unterminatedString)
      ∧ Alike .query (twoListings .missing .missing) (.ofWord "label(bug" .text)
        (twoListings (.text "[") .binary) (.ofWord "label(bug" .json)
      ∧ ((twoListings (.text "[") .binary).carryOut
          (Request.ofWord "label(bug" .json).invocation).result
        = .error (.query .unterminatedString)
      ∧ FailsAt (twoListings (.text "[") .binary) (.ofWord "n(7)" .text) .issues .malformedListing
      ∧ Alike .issues (twoListings (.text "[") .binary) (.ofWord "n(7)" .text)
        (twoListings (.text "[") .missing) (.ofWord "n(7)" .id)
      ∧ ((twoListings (.text "[") .missing).carryOut (Request.ofWord "n(7)" .id).invocation).result
        = .error .malformedListing
      ∧ ((twoListings (.text "[]") (.text "[]")).carryOut
          (Request.ofWord "n(7)" .text).invocation).written
        = ((twoListings (.text "[]") .directory).carryOut
          (Request.ofWord "n(7)" .text).invocation).written
      ∧ FailsAt cramped (.ofWord "n(7)" .text) .output .unwritableLine
      ∧ (cramped.carryOut (Request.ofWord "n(7)" .text).invocation).written.length = 5 := by
  have hbad : Query.parse (Request.ofWord "label(bug" .text).query = .error .unterminatedString := by
    cbv
  have hgood : Query.parse (Request.ofWord "n(7)" .text).query = .ok ⟨[.number 7], ""⟩ := by cbv
  have hquery := failsAt_query_twoListings .missing .missing .text hbad
  have hissues := failsAt_issues_twoListings .binary .text hgood
    (show readRecords? "[" = none by decide +kernel)
  have houtput := failsAt_output_cramped hgood
  have halike : Alike .query (twoListings .missing .missing) (.ofWord "label(bug" .text)
      (twoListings (.text "[") .binary) (.ofWord "label(bug" .json) :=
    alike_twoListings (fun h => absurd h (by decide)) (fun h => absurd h (by decide))
      fun h => absurd h (by decide)
  have halike' : Alike .issues (twoListings (.text "[") .binary) (.ofWord "n(7)" .text)
      (twoListings (.text "[") .missing) (.ofWord "n(7)" .id) :=
    alike_twoListings (fun _ => rfl) (fun h => absurd h (by decide)) fun h => absurd h (by decide)
  have hempty := listing_fails_at_first_stage.2.2 (twoListings (.text "[]") .directory)
    (.ofWord "n(7)" .text) (twoListings (.text "[]") (.text "[]"))
    (alike_twoListings (fun _ => rfl) (fun h => absurd h (by decide)) fun h => absurd h (by decide))
    rfl fun config hconfig => by
      obtain rfl := eq_standard_of_twoListings hconfig
      exact ⟨by decide, by decide⟩
  obtain ⟨-, -, -, hcut, -⟩ := listing_fails_at_first_stage.1 cramped (.ofWord "n(7)" .text)
  obtain ⟨texts, room, -, hroom, hlt, hwritten⟩ := hcut _ houtput
  obtain rfl : 5 = room := Output.upTo.inj hroom
  refine ⟨hquery, halike,
    (listing_fails_at_first_stage.2.1 _ _ _ _ _ _ _ hquery (Nat.le_refl _) halike).1, hissues,
    halike', (listing_fails_at_first_stage.2.1 _ _ _ _ _ _ _ hissues (Nat.le_refl _) halike').1,
    hempty.2, houtput, ?_⟩
  rw [hwritten, List.length_take]
  omega

/-- A machine whose configuration takes the pull requests from the issues
listing. -/
def sharedListing (listing : Entry) : World :=
  { twoListings .missing .missing with
    files := ⟨fun path =>
      if path = "/work/triage.toml" then .text "pulls_file = \"issues.json\"\n"
      else if path = "/work/./issues.json" then listing
      else .missing⟩ }

/-- A listing that fails may have written something, where the output has
become too short.  And a listing of pull requests that is no file does not
count as an empty one where it is the issues listing as well: the empty one is
shown, and nothing is shown of the other. -/
theorem report_cut_short_or_listing_shared :
    let r := Request.ofWord "n(7)" .text
    let gone := sharedListing .missing
    let empty := sharedListing (.text "[]")
    let config : Config := ⟨"/work/.", "issues.json", "issues.json", none⟩
    ((cramped.carryOut r.invocation).result = .error .unwritableLine
        ∧ (cramped.carryOut r.invocation).written = bytesOf "0 rec")
      ∧ gone.configured? r = some config ∧ empty.configured? r = some config
      ∧ gone.files.isFile config.pullsPath = false
      ∧ empty.files.entry config.pullsPath = .text "[]"
      ∧ (∀ path, path ≠ config.pullsPath → empty.files.entry path = gone.files.entry path)
      ∧ (gone.carryOut r.invocation).result = .error (.noRecords config.pullsPath)
      ∧ (empty.carryOut r.invocation).result = .ok () := by
  intro r gone empty config
  have hq : Query.parse r.query = .ok ⟨[.number 7], ""⟩ := by cbv
  have hpath : config.pullsPath = "/work/./issues.json" := by decide
  have hgone : (gone.config r.invocation).result = .ok config := by decide +kernel
  have hempty : (empty.config r.invocation).result = .ok config := by decide +kernel
  refine ⟨⟨?_, ?_⟩, World.configured?_eq_some_iff.2 hgone, World.configured?_eq_some_iff.2 hempty,
    by decide +kernel, by decide +kernel, ?_, ?_, ?_⟩
  · exact result_carryOut_eq_error_iff.2 ⟨_, failsAt_output_cramped hq⟩
  · rw [written_carryOut, (run_cramped hq).2]
    decide +kernel
  · intro path hne
    rw [hpath] at hne
    simp [empty, gone, sharedListing, hne]
  · have hmissing : gone.files.isFile config.issuesPath = false := by decide +kernel
    rw [result_carryOut_eq, (run_of_config hgone).1, result_showList_eq, hq,
      loadRecords_of_missing hmissing]
    rfl
  · have hissues : readListing readRecords? empty.files config.issuesPath = .ok [] := by
      decide +kernel
    have hpulls : (loadPulls empty.files config).result = .ok [] := by decide +kernel
    obtain ⟨hrun, hreport⟩ := run_of_no_issues hempty hq hissues hpulls
    rw [result_carryOut_eq, hrun]
    unfold Stage.problem?
    dsimp only
    rw [hreport, Option.bind_some, Output.problem?_eq_none_iff.2 rfl]
    rfl

end Docket
