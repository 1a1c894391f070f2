import RecordSynthesis.Proofs.Arguments
import RecordSynthesis.Proofs.Merging

/-!
# Calls

What a call of the program does, for arguments that spell what it names (`CommandLine.Spell`). It
loads the settings, if it names any, and then the schema files in order. If one of these files does
not load, the call refuses: it reports the first such file and leaves the file tree alone
(`CommandLine.Refused`). Otherwise the tree becomes what one pass into the source root makes of it,
and the call reports the pass (`CommandLine.Finished`). The main statement is
`CommandLine.run_outcome`.
-/

set_option autoImplicit false

namespace RecordSynthesis

variable {t : FileTree} {settings : Settings} {path : String} {b : Batch}

/-! ## Files -/

/-- The file at a path can be read and holds a document with settings that pass the check. -/
def SettingsAt (t : FileTree) (path : String) (settings : Settings) : Prop :=
  ∃ text entries, t.readText path = .ok text ∧ Document.read text = some entries ∧
    Settings.ofEntries entries = some settings ∧ settings.check = .ok ()

/-- The file at a path can be read and holds a document with a schema, whose models make up the
batch. -/
def SchemaAt (t : FileTree) (settings : Settings) (path : String) (b : Batch) : Prop :=
  ∃ text entries file, t.readText path = .ok text ∧ Document.read text = some entries ∧
    SchemaFile.ofEntries entries = some file ∧ file.elaborate settings = .ok b

theorem Settings.read_eq_ok {text : String} :
    Settings.read text = .ok settings ↔ ∃ entries, Document.read text = some entries ∧
      Settings.ofEntries entries = some settings ∧ settings.check = .ok () := by
  have decoded (s : Settings) : (Document.read text).bind Settings.ofEntries = some s ↔
      ∃ entries, Document.read text = some entries ∧ Settings.ofEntries entries = some s :=
    Option.bind_eq_some_iff
  simp only [← and_assoc, exists_and_right, ← decoded]
  rw [read]
  cases (Document.read text).bind Settings.ofEntries with
  | none => exact ⟨nofun, fun ⟨found, _⟩ => nomatch found⟩
  | some found =>
      dsimp only
      cases checked : found.check with
      | ok _ =>
          constructor
          · rintro ⟨⟩
            exact ⟨rfl, checked⟩
          · rintro ⟨⟨⟩, _⟩
            rfl
      | error problem =>
          refine ⟨nofun, ?_⟩
          rintro ⟨⟨⟩, passed⟩
          rw [checked] at passed
          cases passed

theorem Settings.load_eq_ok : Settings.load t path = .ok settings ↔ SettingsAt t path settings := by
  simp only [SettingsAt, exists_and_left, ← read_eq_ok]
  rw [load]
  cases t.readText path with
  | error e => simp
  | ok text => simp

theorem SchemaFile.read_eq_ok {text : String} {file : SchemaFile} :
    SchemaFile.read text = .ok file ↔ ∃ entries, Document.read text = some entries ∧
      SchemaFile.ofEntries entries = some file := by
  rw [read, ← Option.bind_eq_some_iff]
  cases (Document.read text).bind SchemaFile.ofEntries with
  | none => exact ⟨nofun, nofun⟩
  | some found => simp

theorem SchemaFile.load_eq_ok {file : SchemaFile} :
    SchemaFile.load t path = .ok file ↔
      ∃ text, t.readText path = .ok text ∧ SchemaFile.read text = .ok file := by
  rw [load]
  cases t.readText path with
  | error e => simp
  | ok text =>
      dsimp only
      cases parsed : SchemaFile.read text with
      | ok found => simp [parsed]
      | error e => simp [parsed]

theorem schemaAt_iff : SchemaAt t settings path b ↔ Batch.loadFile t settings path = .ok b := by
  simp only [Batch.loadFile_eq_ok, SchemaFile.load_eq_ok, SchemaFile.read_eq_ok, SchemaAt]
  constructor
  · rintro ⟨text, entries, file, read, document, schema, elaborated⟩
    exact ⟨file, ⟨text, read, entries, document, schema⟩, elaborated⟩
  · rintro ⟨file, ⟨text, read, entries, document, schema⟩, elaborated⟩
    exact ⟨text, entries, file, read, document, schema, elaborated⟩

namespace CommandLine

/-! ## Loading -/

/-- The settings of a call: those in the named file, or else the default ones. -/
def SettingsFor (t : FileTree) (settings : Settings) : Option String → Prop
  | none => settings = {}
  | some path => SettingsAt t path settings

/-- Everything that a call names loads, to the given settings and to the batch that merges what the
schema files hold. -/
structure Loads (t : FileTree) (a : Arguments) (settings : Settings) (b : Batch) : Prop where
  given : SettingsFor t settings a.config
  loaded : ∃ parts, List.Forall₂ (SchemaAt t settings) a.schemas parts ∧
    b = parts.foldl Batch.merge {}

variable {a : Arguments}

theorem settingsOf_eq_ok {config : Option String} :
    settingsOf t config = .ok settings ↔ SettingsFor t settings config := by
  cases config with
  | none =>
      rw [settingsOf, SettingsFor, Except.ok.injEq, eq_comm]
  | some path =>
      rw [settingsOf, SettingsFor, ← Settings.load_eq_ok]
      cases Settings.load t path with
      | ok found => simp
      | error f => simp

theorem loads_iff : Loads t a settings b ↔
    settingsOf t a.config = .ok settings ∧ Batch.load t settings a.schemas = .ok b := by
  have files (parts : List Batch) :
      a.schemas.mapM (Batch.loadFile t settings) = .ok parts ↔
        List.Forall₂ (SchemaAt t settings) a.schemas parts := by
    simp only [mapM_eq_ok, ← schemaAt_iff]
  rw [settingsOf_eq_ok, Batch.load_eq_ok]
  simp only [files]
  exact ⟨fun ⟨given, loaded⟩ => ⟨given, loaded⟩, fun ⟨given, loaded⟩ => ⟨given, loaded⟩⟩

/-! ## Outcomes -/

/-- The call reports an error and does nothing else. -/
structure Refused (t : FileTree) (text : String) (o : Outcome) : Prop where
  code : o.code = 1
  stdout : o.stdout = ""
  stderr : o.stderr = text
  tree : o.tree = t

/-- The call reports a pass and leaves the tree of the pass. -/
structure Finished (out : String) (p : Progress FileTree) (o : Outcome) : Prop where
  tree : o.tree = p.state
  code : o.code = 0 ↔ p.report.failures = []
  /-- Without failures it counts the generated classes. -/
  success : p.report.failures = [] →
    o.stdout = "Generated " ++ toString p.report.generated.length ++ " classes into " ++ out ++
      "\n" ∧ o.stderr = ""
  /-- Otherwise it has a line for every failure, in the order of the report, and counts them. -/
  failure : p.report.failures ≠ [] →
    o.code = 1 ∧ o.stdout = "" ∧
      o.stderr = String.join (p.report.failures.map fun d =>
          "error: " ++ d.owner ++ ": " ++ d.failure.message ++ "\n") ++
        "Error: " ++ toString p.report.failures.length ++ " of " ++
          toString (p.report.failures.length + p.report.generated.length) ++ " classes failed\n"

theorem finished_outcomeOf (out : String) (p : Progress FileTree) :
    Finished out p (outcomeOf out p) := by
  have success : p.report.isSuccess = true ↔ p.report.failures = [] := List.isEmpty_iff
  have lines : failureText =
      fun d => "error: " ++ d.owner ++ ": " ++ d.failure.message ++ "\n" := by
    funext d
    rw [failureText, Diagnostic.message]
    simp only [String.append_assoc]
  rw [outcomeOf]
  split
  next passed =>
    have none := success.1 passed
    exact ⟨rfl, iff_of_true rfl none, fun _ => ⟨rfl, rfl⟩, fun some => (some none).elim⟩
  next failed =>
    rw [success] at failed
    refine ⟨rfl, iff_of_false nofun failed, fun none => (failed none).elim, fun _ => ⟨rfl, rfl, ?_⟩⟩
    dsimp only
    rw [lines, summaryText]
    simp only [String.append_assoc]

/-- A call that names files that load finishes with the pass. -/
theorem generate_of_loads (loads : Loads t a settings b) :
    Finished a.out (RecordSynthesis.run settings b (DirectorySink.sink ⟨a.out⟩) t)
      (generate t a) := by
  obtain ⟨given, loaded⟩ := loads_iff.1 loads
  rw [generate, given]
  dsimp only
  rw [loaded]
  obtain ⟨tree, code, success, failure⟩ := finished_outcomeOf a.out
    { RecordSynthesis.run settings b (DirectorySink.sink ⟨a.out⟩) t with
      log := loadingLog t settings a.schemas ++
        (RecordSynthesis.run settings b (DirectorySink.sink ⟨a.out⟩) t).log }
  exact ⟨tree, code, success, failure⟩

theorem refused_of_settings {text : String} (failed : settingsOf t a.config = .error text) :
    Refused t text (generate t a) := by
  rw [generate, failed]
  exact ⟨rfl, rfl, rfl, rfl⟩

theorem refused_of_schemas {f : Failure} (given : settingsOf t a.config = .ok settings)
    (failed : Batch.load t settings a.schemas = .error f) :
    Refused t (causedBy "Failed to load schemas" f.message) (generate t a) := by
  rw [generate, given]
  dsimp only
  rw [failed]
  exact ⟨rfl, rfl, rfl, rfl⟩

/-- What is not a result is an error. -/
theorem exists_eq_error {ε α : Type} {x : Except ε α} (none : ∀ y, x ≠ .ok y) :
    ∃ e, x = .error e := by
  cases x with
  | ok y => exact (none y rfl).elim
  | error e => exact ⟨e, rfl⟩

/-- **The outcome of a call** whose arguments spell what it names. Settings that do not load are
reported, and nothing else is done; so is the first schema file that does not load, when the
settings do. In every case in which not everything loads the call refuses. When everything loads,
the call makes one pass into the source root and reports it. -/
theorem run_outcome {args : List String} (spelled : Spell args a) (t : FileTree) :
    (∀ path, a.config = some path → (∀ settings, ¬ SettingsAt t path settings) →
      ∃ f, Settings.load t path = .error f ∧
        Refused t (causedBy ("Failed to load config '" ++ path ++ "'") f.message) (run args t)) ∧
    (∀ settings before path after, SettingsFor t settings a.config →
      a.schemas = before ++ path :: after →
      (∀ earlier ∈ before, ∃ part, SchemaAt t settings earlier part) →
      (∀ part, ¬ SchemaAt t settings path part) →
      ∃ f, Batch.loadFile t settings path = .error f ∧
        Refused t (causedBy "Failed to load schemas" f.message) (run args t)) ∧
    ((∀ settings b, ¬ Loads t a settings b) → ∃ text, Refused t text (run args t)) ∧
    ∀ settings b, Loads t a settings b →
      Finished a.out (RecordSynthesis.run settings b (DirectorySink.sink ⟨a.out⟩) t)
        (run args t) := by
  have same : run args t = generate t a := by rw [run, parse_eq_generate.2 spelled]
  rw [same]
  refine ⟨?settings, ?schema, ?refused, fun settings b => generate_of_loads⟩
  case settings =>
    intro path named failed
    obtain ⟨f, failure⟩ := exists_eq_error fun s done => failed s (Settings.load_eq_ok.1 done)
    refine ⟨f, failure, refused_of_settings ?_⟩
    rw [named, settingsOf, failure]
  case schema =>
    intro settings before path after given listed passed failed
    obtain ⟨f, failure⟩ := exists_eq_error fun b done => failed b (schemaAt_iff.2 done)
    refine ⟨f, failure, refused_of_schemas (settingsOf_eq_ok.2 given) ?_⟩
    rw [listed, Batch.load_eq_error]
    refine ⟨before, path, after, rfl, fun earlier member => ?_, failure⟩
    obtain ⟨part, holds⟩ := passed earlier member
    exact ⟨part, schemaAt_iff.1 holds⟩
  case refused =>
    intro failed
    cases given : settingsOf t a.config with
    | error text => exact ⟨text, refused_of_settings given⟩
    | ok settings =>
        obtain ⟨f, failure⟩ := exists_eq_error fun b done =>
          failed settings b (loads_iff.2 ⟨given, done⟩)
        exact ⟨_, refused_of_schemas given failure⟩

/-! ## A call with a failed class -/

/-- A schema file with two models of one name behind another one. -/
def taskSchema : String :=
  "package = \"shop\"\n[[model]]\nname = \"Order\"\ntrigger = \"toRealmObject\"\n" ++
    "[[model]]\nname = \"Task\"\n[[model]]\nname = \"Task\"\n"

/-- A working directory with this file. -/
def taskTree : FileTree :=
  (FileTree.ofWorkingDirectory ["work"]).withFile "shop.toml" (some taskSchema.toUTF8)

/-- What the file holds. -/
def taskFile : SchemaFile where
  package := "shop"
  models := [{ name := "Order", trigger := some "toRealmObject" }, { name := "Task" },
    { name := "Task" }]

/-- The batch of this file. -/
def taskBatch : Batch :=
  .ofClasses [{ package := "shop", simpleName := "Order", trigger := some "toRealmObject" },
    { package := "shop", simpleName := "Task" }, { package := "shop", simpleName := "Task" }]

theorem loads_taskTree : Loads taskTree ⟨none, "gen", ["shop.toml"]⟩ {} taskBatch where
  given := rfl
  loaded := by
    have parsed : SchemaFile.load taskTree "shop.toml" = .ok taskFile := by decide +kernel
    have elaborated : taskFile.elaborate {} = .ok taskBatch := by rfl
    have loaded : Batch.loadFile taskTree {} "shop.toml" = .ok taskBatch :=
      Batch.loadFile_eq_ok.2 ⟨_, parsed, elaborated⟩
    exact ⟨[taskBatch], .cons (schemaAt_iff.2 loaded) .nil, rfl⟩

/-- The other class has its files, and the call reports the failed one. -/
theorem taskTree_outcome :
    Spell ["--out=gen", "shop.toml"] ⟨none, "gen", ["shop.toml"]⟩ ∧
      let o := run ["--out=gen", "shop.toml"] taskTree
      o.code = 1 ∧ o.stdout = "" ∧
        o.stderr = "error: shop.Task: Configuration error: shop.Task is declared by more than " ++
          "one schema\nError: 1 of 2 classes failed\n" ∧
        (o.tree.lookup ["work", "gen", "shop", "$RealmOrder.java"]).isSome := by
  have spelled : Spell ["--out=gen", "shop.toml"] ⟨none, "gen", ["shop.toml"]⟩ :=
    parse_eq_generate.1 (by decide +kernel)
  obtain ⟨_, _, _, finishes⟩ := run_outcome spelled taskTree
  obtain ⟨tree, _, _, failure⟩ := finishes {} taskBatch loads_taskTree
  have report : (RecordSynthesis.run {} taskBatch (DirectorySink.sink ⟨"gen"⟩) taskTree).report =
      ⟨["shop.Order"], [], [⟨"shop.Task", .configuration (.declaredTwice "shop.Task")⟩]⟩ := by
    decide +kernel
  obtain ⟨code, stdout, stderr⟩ := failure (by rw [report]; exact List.cons_ne_nil _ _)
  refine ⟨spelled, code, stdout, ?_, ?_⟩
  · rw [stderr, report]
    decide +kernel
  · rw [tree]
    decide +kernel

end CommandLine
end RecordSynthesis
