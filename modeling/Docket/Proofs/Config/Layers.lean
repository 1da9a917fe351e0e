/-
The layers of a configuration.  Four layers may each offer a file: the
option, the variable of the environment, the working directory and the
user's directory.  The first two offer whatever path they name; the other
two offer their file only where there is one.  The first layer that offers
anything decides, alone: what it offers is loaded or refused, and no layer
after it is looked at.

So loading cannot be influenced from below.  Two machines on which nothing
above the deciding layer is offered, and on which the path it decides on
leads to the same, load the same configuration in the same run, whatever
stands in the files of the layers after it.  A data directory that is asked
for comes last of all and replaces that field alone, so what the document
says about it no longer matters, as long as it can be read.

All this holds of a run that is `Informed`: its working directory is there,
without which every load fails, and the variable does not hold something
that is no text.
-/
import Mathlib.Data.Nat.Find
import Docket.Program
import Docket.Proofs.Config.Loading

namespace Docket.Config

-- ============================================================== the layers

/-- The places a configuration may come from. -/
inductive Layer where
  | option
  | environment
  | directory
  | user
deriving DecidableEq, Repr

namespace Layer

/-- How many layers come before this one. -/
def rank : Layer → Nat
  | option => 0
  | environment => 1
  | directory => 2
  | user => 3

/-- The layer is a request: its path is taken as it is. -/
def isAsked : Layer → Bool
  | option => true
  | environment => true
  | directory => false
  | user => false

/-- The path that a layer names, if it names one. -/
def path? (world : World) (explicit : Option String) : Layer → Option String
  | option => explicit
  | environment => world.env.configPath
  | directory => world.here.map localPath
  | user => world.userDir.map userPath

/-- The path that a layer offers: the one that was asked for, or that of
the layer's own file where there is one. -/
def offer? (world : World) (explicit : Option String) (layer : Layer) : Option String :=
  (layer.path? world explicit).filter fun path => layer.isAsked || world.files.isFile path

variable {world : World} {explicit : Option String} {layer : Layer} {path : String}

theorem rank_injective {layer layer' : Layer} (h : layer.rank = layer'.rank) :
    layer = layer' := by
  cases layer <;> cases layer' <;> first | rfl | cases h

/-- A request is offered as it is. -/
theorem offer?_of_isAsked (h : layer.isAsked = true) :
    layer.offer? world explicit = layer.path? world explicit := by
  unfold offer?
  cases layer.path? world explicit with
  | none => rfl
  | some path => exact Option.filter_some_pos (by rw [h, Bool.true_or])

theorem offer?_eq_some_iff :
    layer.offer? world explicit = some path
      ↔ layer.path? world explicit = some path
        ∧ (layer.isAsked = true ∨ world.files.isFile path = true) := by
  unfold offer?
  rw [Option.filter_eq_some_iff, Bool.or_eq_true]

end Layer

/-- What a run is told before it looks at files can be read: its working
directory is there, and the variable holds a text if it is set, unless the
option makes up for it. -/
structure Informed (world : World) (explicit : Option String) : Prop where
  here : world.here.isSome = true
  asked : explicit = none → world.env.config ≠ .binary

/-- A layer decides on a path: it offers the path, and no layer before it
offers anything. -/
structure Decides (world : World) (explicit : Option String) (layer : Layer)
    (path : String) : Prop where
  offers : layer.offer? world explicit = some path
  first : ∀ higher : Layer, higher.rank < layer.rank → higher.offer? world explicit = none

/-- No layer offers anything. -/
def Undecided (world : World) (explicit : Option String) : Prop :=
  ∀ layer : Layer, layer.offer? world explicit = none

variable {world world' : World} {explicit explicit' : Option String} {layer layer' : Layer}
  {path path' dir : String} {files files' : Files}

namespace Decides

/-- Only a path that was asked for may lead to no file. -/
theorem isAsked_or_isFile (h : Decides world explicit layer path) :
    layer.isAsked = true ∨ world.files.isFile path = true :=
  (Layer.offer?_eq_some_iff.1 h.offers).2

/-- One layer decides, and on one path. -/
theorem unique (h : Decides world explicit layer path)
    (h' : Decides world explicit layer' path') : layer' = layer ∧ path' = path := by
  have hlayer : layer' = layer := by
    rcases Nat.lt_trichotomy layer'.rank layer.rank with hlt | heq | hgt
    · exact absurd h'.offers (by rw [h.first layer' hlt]; exact nofun)
    · exact Layer.rank_injective heq
    · exact absurd h.offers (by rw [h'.first layer hgt]; exact nofun)
  subst hlayer
  exact ⟨rfl, Option.some.inj (h'.offers.symm.trans h.offers)⟩

/-- A layer goes on deciding when files change, as long as its path leads
to the same and no layer before it comes up. -/
theorem with_files (h : Decides world explicit layer path)
    (hentry : files'.entry path = world.files.entry path)
    (hfirst : ∀ higher : Layer, higher.rank < layer.rank →
      higher.offer? { world with files := files' } explicit = none) :
    Decides { world with files := files' } explicit layer path := by
  refine ⟨Layer.offer?_eq_some_iff.2 ?_, hfirst⟩
  obtain ⟨hpath, hthere⟩ := Layer.offer?_eq_some_iff.1 h.offers
  rw [← Files.isFile_congr hentry] at hthere
  exact ⟨hpath, hthere⟩

/-- The option decides wherever it is given. -/
theorem by_option (world : World) (path : String) : Decides world (some path) .option path :=
  ⟨rfl, fun _ hlt => absurd hlt (Nat.not_lt_zero _)⟩

end Decides

/-- If any layer offers something, then some layer decides. -/
theorem undecided_or_decides (world : World) (explicit : Option String) :
    Undecided world explicit ∨ ∃ layer path, Decides world explicit layer path := by
  classical
  by_cases hany : ∃ n, ∃ layer : Layer, layer.rank = n ∧ layer.offer? world explicit ≠ none
  · -- the layer of the least rank at which something is offered
    right
    obtain ⟨layer, hrank, hoffer⟩ := Nat.find_spec hany
    obtain ⟨path, hpath⟩ := Option.ne_none_iff_exists'.1 hoffer
    refine ⟨layer, path, hpath, fun higher hlt => ?_⟩
    by_contra hhigher
    exact Nat.find_min hany (hrank ▸ hlt) ⟨higher, rfl, hhigher⟩
  · left
    intro layer
    by_contra hoffer
    exact hany ⟨layer.rank, layer, rfl, hoffer⟩

-- ============================================================= the choice

/-- Where nothing is asked for, the file of the working directory is chosen
if it is there, and otherwise what the user's layer offers. -/
theorem lookup_of_unasked (hhere : world.here.isSome = true)
    (hoption : Layer.option.offer? world explicit = none)
    (hvariable : Layer.environment.offer? world explicit = none) :
    lookup world explicit
      = .ok ((Layer.directory.offer? world explicit).or (Layer.user.offer? world explicit)) := by
  obtain ⟨here, hhere⟩ := Option.isSome_iff_exists.1 hhere
  rw [Layer.offer?_of_isAsked rfl] at hoption hvariable
  have hexplicit : explicit = none := hoption
  have hconfig : world.env.configPath = none := hvariable
  rw [lookup_of_here hhere, hexplicit, hconfig]
  unfold choose Layer.offer?
  cases hlocal : world.files.isFile (localPath here) with
  | true => simp [Layer.path?, Layer.isAsked, Option.filter_some, hhere, hlocal]
  | false => simp [Layer.path?, Layer.isAsked, Option.filter_some, hhere, hlocal]

/-- The path that is decided on is chosen if it leads to a file, and
refused by name if it does not. -/
theorem lookup_of_decides (hhere : world.here.isSome = true)
    (h : Decides world explicit layer path) :
    lookup world explicit
      = if world.files.isFile path then .ok (some path) else .error (.configNotFound path) := by
  have hoffers := h.offers
  cases layer with
  | option =>
      obtain ⟨here, hhere⟩ := Option.isSome_iff_exists.1 hhere
      rw [Layer.offer?_of_isAsked rfl] at hoffers
      have hexplicit : explicit = some path := hoffers
      rw [lookup_of_here hhere, hexplicit]
      rfl
  | environment =>
      obtain ⟨here, hhere⟩ := Option.isSome_iff_exists.1 hhere
      rw [Layer.offer?_of_isAsked rfl] at hoffers
      have hexplicit : explicit = none :=
        (Layer.offer?_of_isAsked rfl).symm.trans (h.first .option (by decide))
      have hconfig : world.env.configPath = some path := hoffers
      rw [lookup_of_here hhere, hexplicit, hconfig]
      rfl
  | directory =>
      have hisFile := h.isAsked_or_isFile.resolve_left nofun
      rw [lookup_of_unasked hhere (h.first .option (by decide)) (h.first .environment (by decide)),
        hoffers, if_pos hisFile, Option.some_or]
  | user =>
      have hisFile := h.isAsked_or_isFile.resolve_left nofun
      rw [lookup_of_unasked hhere (h.first .option (by decide)) (h.first .environment (by decide)),
        h.first .directory (by decide), hoffers, if_pos hisFile, Option.none_or]

/-- Where nothing is offered, no file is chosen. -/
theorem lookup_of_undecided (hhere : world.here.isSome = true) (h : Undecided world explicit) :
    lookup world explicit = .ok none := by
  rw [lookup_of_unasked hhere (h .option) (h .environment), h .directory, h .user, Option.none_or]

-- ============================================================ the loading

/-- Load the file at a path, which has to be there. -/
def loadAt (files : Files) (path : String) : Run Config :=
  if files.isFile path then do
    let config ← Run.ofExcept (ofFile files path)
    Run.say (.loadedConfig path)
    return config
  else Run.fail (.configNotFound path)

/-- Loading from a path looks at nothing but what the path leads to. -/
theorem loadAt_congr (h : files'.entry path = files.entry path) :
    loadAt files' path = loadAt files path := by
  unfold loadAt
  rw [Files.isFile_congr h, ofFile_congr h]

theorem result_loadAt (files : Files) (path : String) :
    (loadAt files path).result
      = if files.isFile path then ofFile files path else .error (.configNotFound path) := by
  unfold loadAt
  split
  · refine (Run.result_bind_eq _ _).trans ?_
    show (ofFile files path).bind _ = ofFile files path
    cases ofFile files path <;> rfl
  · rfl

/-- Without a working directory nothing is loaded. -/
theorem load_of_lost (h : world.here = none) : load world explicit = Run.fail .lostDirectory := by
  unfold load
  rw [lookup_of_lost h]
  rfl

/-- Loading is loading from the path that is decided on. -/
theorem load_of_decides (hhere : world.here.isSome = true)
    (h : Decides world explicit layer path) :
    load world explicit = loadAt world.files path := by
  unfold load loadAt
  rw [lookup_of_decides hhere h]
  split
  · exact Run.done_bind _ _
  · exact Run.fail_bind _ _

/-- Where nothing is offered, the standard configuration is loaded. -/
theorem load_of_undecided (hhere : world.here.isSome = true) (h : Undecided world explicit) :
    load world explicit = ⟨[.say .noConfigFile], .ok standard⟩ := by
  unfold load
  rw [lookup_of_undecided hhere h]
  rfl

/-- The deciding path and what it leads to are all that loading depends
on. -/
theorem load_eq_of_decides (hhere : world.here.isSome = true)
    (h : Decides world explicit layer path) (hhere' : world'.here.isSome = true)
    (h' : Decides world' explicit' layer' path)
    (hentry : world'.files.entry path = world.files.entry path) :
    load world' explicit' = load world explicit := by
  rw [load_of_decides hhere h, load_of_decides hhere' h', loadAt_congr hentry]

/-- With the option, loading does not look at the environment. -/
theorem load_of_option (world : World) (path : String) (env' : Environment) :
    load { world with env := env' } (some path) = load world (some path) := rfl

-- ==================================== a data directory that is asked for

/-- The configuration behind a data directory that was asked for. -/
theorem config_of_directory {invocation : Invocation} (h : invocation.directory = some dir) :
    (world.config invocation).events
        = (load world invocation.config).events
      ∧ (world.config invocation).result
        = (load world invocation.config).result.map
            (·.withDataDir dir) := by
  unfold World.config
  rw [h]
  cases hresult : (load world invocation.config).result with
  | error problem => simp [bind, Run.andThen, hresult, Run.events, Except.map]
  | ok config => simp [bind, Run.andThen, hresult, Run.events, Except.map, pure, Run.done]

theorem config_of_no_directory {invocation : Invocation} (h : invocation.directory = none) :
    world.config invocation = load world invocation.config := by
  unfold World.config
  rw [h]
  exact Run.bind_done _

/-- Where the file is no longer matters. -/
theorem withDataDir_locatedAt (config : Config) (path dir : String) :
    (config.locatedAt path).withDataDir dir = config.withDataDir dir := by
  unfold locatedAt
  split
  · split <;> rfl
  · rfl

/-- What the file at a path says, if it is a document. -/
def document? (files : Files) (path : String) : Option Toml.Entries :=
  (files.read? path).bind Toml.ofString?

theorem isFile_of_document? {entries : Toml.Entries} (h : document? files path = some entries) :
    files.isFile path = true := by
  obtain ⟨text, hread, -⟩ := Option.bind_eq_some_iff.1 h
  exact Files.isFile_of_read? hread

/-- Two documents say the same under every key but that of the data
directory, under which each says nothing or gives a text. -/
structure SameButDataDir (entries entries' : Toml.Entries) : Prop where
  others : ∀ key, key ≠ "data_dir" → entries'.lookup key = entries.lookup key
  placed : (textAt "data_dir" standard.dataDir entries).isSome = true
  placed' : (textAt "data_dir" standard.dataDir entries').isSome = true

/-- Documents that say the same but for the data directory give the same
configuration with another one. -/
theorem SameButDataDir.ofEntries? {entries entries' : Toml.Entries}
    (h : SameButDataDir entries entries') (dir : String) :
    (Config.ofEntries? entries').map (·.withDataDir dir)
      = (Config.ofEntries? entries).map (·.withDataDir dir) := by
  obtain ⟨place, hplace⟩ := Option.isSome_iff_exists.1 h.placed
  obtain ⟨place', hplace'⟩ := Option.isSome_iff_exists.1 h.placed'
  have hissues := h.others "issues_file" (by decide)
  have hpulls := h.others "pulls_file" (by decide)
  have hlimit := h.others "limit" (by decide)
  have htext : ∀ {key otherwise}, entries'.lookup key = entries.lookup key →
      textAt key otherwise entries' = textAt key otherwise entries := by
    intro key otherwise hkey
    unfold textAt
    rw [hkey]
  have hcount : countAt "limit" entries' = countAt "limit" entries := by
    unfold countAt
    rw [hlimit]
  unfold Config.ofEntries?
  rw [hplace, hplace', htext hissues, htext hpulls, hcount]
  cases textAt "issues_file" standard.issuesFile entries with
  | none => rfl
  | some issuesFile =>
      cases textAt "pulls_file" standard.pullsFile entries with
      | none => rfl
      | some pullsFile =>
          cases countAt "limit" entries with
          | none => rfl
          | some limit => rfl

/-- Files that say the same but for the data directory come to the same
with another one, wherever they are. -/
theorem SameButDataDir.ofFile {entries entries' : Toml.Entries}
    (h : SameButDataDir entries entries') (hdocument : document? files path = some entries)
    (hdocument' : document? files' path' = some entries') (dir : String) :
    (Config.ofFile files' path').map (·.withDataDir dir)
      = (Config.ofFile files path).map (·.withDataDir dir) := by
  obtain ⟨text, hread, hparse⟩ := Option.bind_eq_some_iff.1 hdocument
  obtain ⟨text', hread', hparse'⟩ := Option.bind_eq_some_iff.1 hdocument'
  have hsame := h.ofEntries? dir
  unfold Config.ofFile ofText?
  rw [hread, hread']
  simp only [hparse, hparse', Option.bind_eq_bind, Option.bind_some]
  cases hfirst : Config.ofEntries? entries with
  | none =>
      rw [hfirst, Option.map_none, Option.map_eq_none_iff] at hsame
      rw [hsame]
  | some config =>
      rw [hfirst, Option.map_some, Option.map_eq_some_iff] at hsame
      obtain ⟨config', hconfig', hplaced⟩ := hsame
      rw [hconfig']
      have hlocated := withDataDir_locatedAt config path dir
      have hlocated' := withDataDir_locatedAt config' path' dir
      exact congrArg Except.ok (hlocated'.trans (hplaced.trans hlocated.symm))

-- ============================================================ the theorem

/-- A document configures a run: the file of the path that is decided on
holds it. -/
def ConfiguredBy (world : World) (explicit : Option String) (entries : Toml.Entries) : Prop :=
  Informed world explicit
    ∧ ∃ layer path, Decides world explicit layer path ∧ document? world.files path = some entries

/-- A configuration comes from the first layer that offers a file, and from
nothing else.

A run whose working directory is gone loads nothing, whatever it is asked
for.  At most one layer decides, on one path.  For a run that is informed,
the standard configuration is loaded where none does.  Only a path that was
asked for may lead to no file, and then it is refused by name; a path that
leads to a file is read, and what comes of that is final, a problem as well.
Other files load the same in the same run as long as the path leads to the
same and no layer before it comes up, and so does any other run that is
informed and decides on a path with the same behind it.  With the option the
environment does not matter.  A data directory that was asked for replaces
that field alone, so that two documents that differ in it only, by another
text or by none, come to the same, wherever they are. -/
theorem config_from_first_layer (world : World) (explicit : Option String) :
    (world.here = none → load world explicit = Run.fail .lostDirectory)
      ∧ (Undecided world explicit
        ∨ ∃ layer path, Decides world explicit layer path
          ∧ ∀ layer' path', Decides world explicit layer' path' →
            layer' = layer ∧ path' = path)
      ∧ (Informed world explicit → Undecided world explicit →
          load world explicit = ⟨[.say .noConfigFile], .ok standard⟩)
      ∧ (Informed world explicit → ∀ layer path, Decides world explicit layer path →
          (layer.isAsked = true ∨ world.files.isFile path = true)
            ∧ (load world explicit).result
              = (if world.files.isFile path then ofFile world.files path
                else .error (.configNotFound path))
            ∧ (∀ files' : Files, files'.entry path = world.files.entry path →
                (∀ higher : Layer, higher.rank < layer.rank →
                  higher.offer? { world with files := files' } explicit = none) →
                load { world with files := files' } explicit = load world explicit)
            ∧ ∀ (world' : World) (explicit' : Option String) (layer' : Layer),
                Informed world' explicit' → Decides world' explicit' layer' path →
                world'.files.entry path = world.files.entry path →
                load world' explicit' = load world explicit)
      ∧ (∀ (path : String) (env' : Environment), explicit = some path →
          load { world with env := env' } explicit = load world explicit)
      ∧ (∀ invocation : Invocation, invocation.config = explicit →
          (invocation.directory = none → world.config invocation = load world explicit)
            ∧ ∀ dir, invocation.directory = some dir →
              (world.config invocation).events = (load world explicit).events
                ∧ (world.config invocation).result
                  = (load world explicit).result.map fun config => { config with dataDir := dir })
      ∧ ∀ (world' : World) (invocation invocation' : Invocation) (dir : String)
          (entries entries' : Toml.Entries), invocation.config = explicit →
          ConfiguredBy world explicit entries →
          ConfiguredBy world' invocation'.config entries' →
          SameButDataDir entries entries' →
          invocation.directory = some dir → invocation'.directory = some dir →
          (world'.config invocation').result = (world.config invocation).result := by
  refine ⟨load_of_lost, ?_, fun hinformed => load_of_undecided hinformed.here, ?_, ?_, ?_, ?_⟩
  · rcases undecided_or_decides world explicit with hnone | ⟨layer, path, hdecides⟩
    · exact .inl hnone
    · exact .inr ⟨layer, path, hdecides, fun layer' path' => hdecides.unique⟩
  · intro hinformed layer path hdecides
    refine ⟨hdecides.isAsked_or_isFile, ?_, ?_, ?_⟩
    · rw [load_of_decides hinformed.here hdecides, result_loadAt]
    · intro files' hentry hfirst
      exact load_eq_of_decides hinformed.here hdecides hinformed.here
        (hdecides.with_files hentry hfirst) hentry
    · intro world' explicit' layer' hinformed' hdecides' hentry
      exact load_eq_of_decides hinformed.here hdecides hinformed'.here hdecides' hentry
  · intro path env' hexplicit
    subst hexplicit
    exact load_of_option world path env'
  · intro invocation hconfig
    subst hconfig
    exact ⟨config_of_no_directory, fun dir hdir => config_of_directory hdir⟩
  · rintro world' invocation invocation' dir entries entries' rfl
      ⟨hinformed, layer, path, hdecides, hdocument⟩
      ⟨hinformed', layer', path', hdecides', hdocument'⟩ hsame hdir hdir'
    have hthere := isFile_of_document? hdocument
    have hthere' := isFile_of_document? hdocument'
    rw [(config_of_directory hdir).2, (config_of_directory hdir').2,
      load_of_decides hinformed.here hdecides, load_of_decides hinformed'.here hdecides',
      result_loadAt, result_loadAt, if_pos hthere, if_pos hthere']
    exact hsame.ofFile hdocument hdocument' dir

/-- A user at work in a directory, with what stands for the configuration
file there and for the user's own. -/
def atWork (here : String) (project own : Entry) : World where
  files :=
    { entry := fun path =>
        if path = localPath here then project
        else if path = "/home/u/.config/triage/config.toml" then own
        else .missing }
  env := Environment.ofLookup fun _ => .unset
  here := some here
  userDir := some "/home/u/.config"
  input := []
  output := .boundless

theorem entry_atWork (here : String) (project own : Entry) :
    (atWork here project own).files.entry (localPath here) = project := if_pos rfl

theorem document?_atWork (here text : String) (own : Entry) :
    document? (atWork here (.text text) own).files (localPath here) = Toml.ofString? text := by
  unfold document?
  rw [(Files.isFile_and_read?_of_text (entry_atWork _ _ _)).2, Option.bind_some]

theorem informed_atWork (here : String) (project own : Entry) (explicit : Option String) :
    Informed (atWork here project own) explicit where
  here := rfl
  asked _ := by
    show Variable.unset ≠ .binary
    decide

/-- The file of the directory decides. -/
theorem decides_atWork (here text : String) (own : Entry) :
    Decides (atWork here (.text text) own) none .directory (localPath here) := by
  have hisFile : (atWork here (.text text) own).files.isFile (localPath here) = true :=
    (Files.isFile_and_read?_of_text (entry_atWork _ _ _)).1
  refine ⟨Layer.offer?_eq_some_iff.2 ⟨rfl, .inr hisFile⟩, fun higher hlt => ?_⟩
  cases higher with
  | option => rfl
  | environment => rfl
  | directory => exact absurd hlt (Nat.lt_irrefl _)
  | user => exact absurd hlt (by decide)

/-- The file of the directory decides over a malformed one of the user, which
may as well be missing, and comes to the same when it is asked for by name.
A file that is asked for is missed by name, whatever the environment asks
for; where no file is, the standard configuration is loaded, and without a
working directory nothing is.  And two directories whose files place their
data elsewhere give the same configuration for a data directory that is asked
for. -/
theorem config_from_first_layer_at_work :
    let world := atWork "/w" (.text "data_dir = \"a\"\nlimit = 5\n") (.text "limit = [")
    let cleared := atWork "/w" (.text "data_dir = \"a\"\nlimit = 5\n") .missing
    let other := atWork "/v" (.text "limit = 5\ndata_dir = \"/b\"\n") .missing
    let bare := atWork "/w" .missing .missing
    let asked : Invocation := ⟨some "/d", none, .shell⟩
    (load world none).result = .ok ⟨"/w/a", "issues.json", "pulls.json", some 5⟩
      ∧ load { world with files := cleared.files } none = load world none
      ∧ load world (some "/w/triage.toml") = load world none
      ∧ (load world (some "/w/none.toml")).result = .error (.configNotFound "/w/none.toml")
      ∧ load { world with env := { world.env with config := .binary } } (some "/w/none.toml")
        = load world (some "/w/none.toml")
      ∧ (load bare none).result = .ok standard
      ∧ load { bare with here := none } none = Run.fail .lostDirectory
      ∧ (world.config asked).result = .ok ⟨"/d", "issues.json", "pulls.json", some 5⟩
      ∧ (other.config asked).result = (world.config asked).result := by
  intro world cleared other bare asked
  have hinformed : ∀ explicit, Informed world explicit := informed_atWork _ _ _
  have hdecides : Decides world none .directory (localPath "/w") := decides_atWork _ _ _
  have hdecides' : Decides other none .directory (localPath "/v") := decides_atWork _ _ _
  obtain ⟨-, -, -, hdecided, -, hdirectory, hsame⟩ := config_from_first_layer world none
  obtain ⟨-, hresult, hfiles, hworld⟩ := hdecided (hinformed none) _ _ hdecides
  obtain ⟨-, -, -, hoption, henv, -⟩ := config_from_first_layer world (some "/w/none.toml")
  have hloaded : (load world none).result
      = .ok ⟨"/w/a", "issues.json", "pulls.json", some 5⟩ := by
    rw [hresult]
    decide +kernel
  refine ⟨hloaded, hfiles _ rfl (decides_atWork _ _ _).first, ?_, ?_, henv _ _ rfl, ?_, ?_, ?_, ?_⟩
  · exact hworld world _ _ (hinformed _) (Decides.by_option world "/w/triage.toml") rfl
  · rw [(hoption (hinformed _) _ _ (Decides.by_option _ _)).2.1]
    decide +kernel
  · have hnone : Undecided bare none := by
      intro layer
      cases layer <;> decide +kernel
    rw [(config_from_first_layer bare none).2.2.1 (informed_atWork _ _ _ _) hnone]
  · exact (config_from_first_layer { bare with here := none } none).1 rfl
  · rw [((hdirectory asked rfl).2 "/d" rfl).2, hloaded]
    rfl
  · refine hsame other asked asked "/d" [("data_dir", .string "a"), ("limit", .integer 5)]
      [("limit", .integer 5), ("data_dir", .string "/b")] rfl ⟨hinformed none, _, _, hdecides, ?_⟩
      ⟨informed_atWork _ _ _ _, _, _, hdecides', ?_⟩ ⟨?_, rfl, rfl⟩ rfl rfl
    · rw [document?_atWork]
      with_unfolding_all rfl
    · rw [document?_atWork]
      with_unfolding_all rfl
    · intro key hkey
      simp [List.lookup_cons, beq_false_of_ne hkey]

/-- The layers do not tell everything.  A variable that is set, though not to
a text, is passed over, and the next layer decides.  A file that is asked for
by name is not loaded where the working directory is gone.  And two documents
that only differ in the data directory do not come to the same with another
one when one of them gives something that is no text. -/
theorem layers_do_not_tell_all :
    let world := atWork "/w" (.text "data_dir = \"a\"\n") .missing
    let garbled := { world with env := { world.env with config := .binary } }
    let lost := { world with here := none }
    let other := atWork "/w" (.text "data_dir = 5\n") .missing
    let asked : Invocation := ⟨some "/d", none, .shell⟩
    (load garbled none).result = .ok ⟨"/w/a", "issues.json", "pulls.json", none⟩
      ∧ lost.files.isFile "/w/triage.toml" = true
      ∧ (load lost (some "/w/triage.toml")).result = .error .lostDirectory
      ∧ document? world.files "/w/triage.toml" = some [("data_dir", .string "a")]
      ∧ document? other.files "/w/triage.toml" = some [("data_dir", .integer 5)]
      ∧ (world.config asked).result = .ok ⟨"/d", "issues.json", "pulls.json", none⟩
      ∧ (other.config asked).result = .error .malformedConfig := by
  intro world garbled lost other asked
  refine ⟨?_, ?_, ?_, ?_, ?_, ?_, ?_⟩
  · decide +kernel
  · decide +kernel
  · decide +kernel
  · exact (document?_atWork "/w" _ _).trans (by with_unfolding_all rfl)
  · exact (document?_atWork "/w" _ _).trans (by with_unfolding_all rfl)
  · decide +kernel
  · decide +kernel

end Docket.Config
