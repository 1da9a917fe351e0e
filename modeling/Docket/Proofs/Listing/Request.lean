/-
Requests: listings that are asked for on the command line.  A request has a
configuration or none, and a report or none; without a report it has met a
problem on the way.

Main statements: what the configuration of a request comes to; that a listing
either meets a problem and has printed nothing, or comes to its report and
then to what is wrong with the output for it; that what is written is the
front of the report; and that of the files only the records count.
-/
import Docket.Program
import Docket.Proofs.Config.Loading
import Docket.Proofs.Listing.Delivery

namespace Docket

/-- A listing that is asked for on the command line. -/
structure Request where
  directory : Option String
  config : Option String
  words : List String
  format : OutputFormat
  limit : LimitChoice
deriving DecidableEq, Repr

/-- The command line of a request. -/
def Request.invocation (r : Request) : Invocation :=
  ⟨r.directory, r.config, .list r.words r.format r.limit⟩

/-- The text of the query that a request asks for. -/
def Request.query (r : Request) : String := " ".intercalate r.words

/-- The file that configures a request. -/
def World.configFile (world : World) (r : Request) : Except Problem (Option String) :=
  Config.lookup world r.config

/-- The configuration of a request, if there is one. -/
def World.configured? (world : World) (r : Request) : Option Config :=
  (world.config r.invocation).result.toOption

/-- The lines that a request asks for, if it comes to any. -/
def World.report? (world : World) (r : Request) : Option (List String) := do
  let config ← world.configured? r
  let q ← (Query.parse r.query).toOption
  let records ← (loadRecords world.files config).result.toOption
  return report r.format (cutTo (r.limit.resolve config.limit) (q.keep records))
    (q.keep records).length

variable {world world' : World} {r r' : Request} {config : Config}

-- ======================================================= configuration

theorem World.printed_config (world : World) (invocation : Invocation) :
    (world.config invocation).printed = [] := by
  refine Run.printed_bind_of_silent (Config.printed_load ..) fun config => ?_
  cases invocation.directory <;> rfl

/-- A directory that is asked for replaces the one of the configuration that
was loaded. -/
theorem World.result_config (world : World) (r : Request) :
    (world.config r.invocation).result
      = ((world.configFile r).bind (Config.ofChoice world.files)).map fun config =>
        r.directory.elim config config.withDataDir := by
  unfold config
  rw [Run.result_bind_eq, Config.result_load]
  show ((world.configFile r).bind _).bind _ = ((world.configFile r).bind _).map _
  cases (world.configFile r).bind (Config.ofChoice world.files) with
  | error problem => rfl
  | ok config =>
      obtain ⟨directory, asked, words, format, limit⟩ := r
      cases directory <;> rfl

theorem World.configured?_eq_some_iff :
    world.configured? r = some config ↔ (world.config r.invocation).result = .ok config := by
  unfold configured?
  cases (world.config r.invocation).result <;> simp [Except.toOption]

-- ===================================================== how listings end

/-- With a configuration, the report is that of the records that the query
keeps. -/
theorem World.report?_of_config (h : (world.config r.invocation).result = .ok config) :
    world.report? r = (Query.parse r.query).toOption.bind fun q =>
      (loadRecords world.files config).result.toOption.bind fun records =>
        some (report r.format (cutTo (r.limit.resolve config.limit) (q.keep records))
          (q.keep records).length) := by
  unfold World.report?
  rw [World.configured?_eq_some_iff.2 h]
  rfl

/-- With a configuration, the listing says how the run ends and prints. -/
theorem run_of_config (h : (world.config r.invocation).result = .ok config) :
    (world.run r.invocation).result
        = (showList world.files config r.query r.format (r.limit.resolve config.limit)).result
      ∧ (world.run r.invocation).printed
        = (showList world.files config r.query r.format
          (r.limit.resolve config.limit)).printed := by
  refine ⟨Run.result_bind h _, (Run.printed_bind h _).trans ?_⟩
  rw [World.printed_config, List.nil_append]
  rfl

/-- Without a configuration, its problem is all that the run comes to. -/
theorem run_of_config_error (h : (world.config r.invocation).result = .error problem) :
    (world.run r.invocation).result = .error problem
      ∧ (world.run r.invocation).printed = [] := by
  refine ⟨(Run.result_bind_eq _ _).trans ?_, (Run.printed_bind_of_error h _).trans ?_⟩
  · rw [h]
    rfl
  · exact World.printed_config world r.invocation

/-- A listing meets a problem and has printed nothing, or it comes to a
report, prints it, and then meets what is wrong with the output for it. -/
theorem run_cases (world : World) (r : Request) :
    (∃ problem, (world.run r.invocation).result = .error problem
        ∧ (world.run r.invocation).printed = [] ∧ world.report? r = none)
      ∨ ∃ texts, (world.run r.invocation).result = .ok ()
        ∧ (world.run r.invocation).printed = texts ∧ world.report? r = some texts
        ∧ ∀ output : Output, ((world.run r.invocation).onto output).result
          = (output.problem? r.format texts).elim (.ok ()) .error := by
  cases hconfig : (world.config r.invocation).result with
  | error problem =>
      obtain ⟨hresult, hprinted⟩ := run_of_config_error hconfig
      refine .inl ⟨problem, hresult, hprinted, ?_⟩
      unfold World.report? World.configured?
      rw [hconfig]
      rfl
  | ok config =>
      obtain ⟨hresult, hprinted⟩ := run_of_config hconfig
      rw [hresult, hprinted, World.report?_of_config hconfig]
      cases hq : Query.parse r.query with
      | error error =>
          rw [showList_of_error hq]
          exact .inl ⟨_, rfl, rfl, rfl⟩
      | ok q =>
          cases hl : (loadRecords world.files config).result with
          | error problem =>
              have hend : (showList world.files config r.query r.format
                  (r.limit.resolve config.limit)).result = .error problem := by
                rw [result_showList_eq, hq, hl]
                rfl
              exact .inl ⟨problem, hend, printed_showList_of_problem hend, rfl⟩
          | ok records =>
              refine .inr ⟨_, result_showList hq hl, printed_showList hq hl, rfl, fun output => ?_⟩
              refine (Run.result_onto_bind hconfig (world.printed_config _) _ output).trans ?_
              exact result_onto_showList hq hl ..

/-- A listing prints its report, if it comes to one. -/
theorem printed_run (world : World) (r : Request) :
    (world.run r.invocation).printed = (world.report? r).getD [] := by
  rcases run_cases world r with ⟨_, -, hprinted, hreport⟩ | ⟨_, -, hprinted, hreport, -⟩
  · rw [hprinted, hreport, Option.getD_none]
  · rw [hprinted, hreport, Option.getD_some]

/-- The output takes the front of the report, if a listing comes to one. -/
theorem written_carryOut (world : World) (r : Request) :
    (world.carryOut r.invocation).written
      = world.output.front (((world.report? r).getD []).flatMap ended) := by
  rw [← printed_run]
  exact Run.written_onto ..

-- ================================================= what listings look at

/-- Of the files, a listing with a configuration only sees what records they
come to. -/
theorem run_congr (hconfig : (world'.config r.invocation).result
      = (world.config r.invocation).result)
    (hload : ∀ config, world.configured? r = some config →
      (loadRecords world'.files config).result = (loadRecords world.files config).result) :
    (world'.run r.invocation).result = (world.run r.invocation).result
      ∧ (world'.run r.invocation).printed = (world.run r.invocation).printed := by
  cases hresult : (world.config r.invocation).result with
  | error problem =>
      rw [hresult] at hconfig
      obtain ⟨h, hprinted⟩ := run_of_config_error hresult
      obtain ⟨h', hprinted'⟩ := run_of_config_error hconfig
      exact ⟨h'.trans h.symm, hprinted'.trans hprinted.symm⟩
  | ok config =>
      rw [hresult] at hconfig
      obtain ⟨h, hprinted⟩ := run_of_config hresult
      obtain ⟨h', hprinted'⟩ := run_of_config hconfig
      have hsame := hload config (World.configured?_eq_some_iff.2 hresult)
      rw [h, h', hprinted, hprinted']
      exact showList_congr hsame

/-- So does its report. -/
theorem World.report?_congr (hconfig : world'.configured? r' = world.configured? r)
    (hquery : r'.query = r.query) (hformat : r'.format = r.format) (hlimit : r'.limit = r.limit)
    (hload : ∀ config, world.configured? r = some config →
      (loadRecords world'.files config).result = (loadRecords world.files config).result) :
    world'.report? r' = world.report? r := by
  unfold World.report?
  rw [hconfig, hquery, hformat, hlimit]
  refine Option.bind_congr fun config hthere => ?_
  rw [hload config hthere]

end Docket
