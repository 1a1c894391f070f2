import RecordSynthesis.Journal
import RecordSynthesis.Schema.Elaboration
import RecordSynthesis.Schema.SettingsFile
import RecordSynthesis.Store.FileTree

/-!
# Loading files

Settings and schemas are read from a file tree. Schema files are loaded in order and merged into
one batch; the first file in error is the error of the whole.
-/

set_option autoImplicit false

namespace RecordSynthesis

/-- The settings in a file. -/
def Settings.load (t : FileTree) (path : String) : Except Failure Settings :=
  match t.readText path with
  | .ok text => Settings.read text
  | .error e => .error (.system e)

/-- The schema file at a path. -/
def SchemaFile.load (t : FileTree) (path : String) : Except Failure SchemaFile :=
  match t.readText path with
  | .error e => .error (.configuration (.unreadableSchema path e))
  | .ok text =>
    match SchemaFile.read text with
    | .ok file => .ok file
    | .error _ => .error (.configuration (.malformedSchema path))

/-- The batch of the schema file at a path. -/
def Batch.loadFile (t : FileTree) (settings : Settings) (path : String) : Except Failure Batch := do
  let file ← SchemaFile.load t path
  match file.elaborate settings with
  | .ok b => return b
  | .error cause => throw (.inSchemaFile path cause)

/-- The batches of several schema files merged behind a batch. -/
def Batch.loadBehind (t : FileTree) (settings : Settings) (b : Batch) :
    List String → Except Failure Batch
  | [] => .ok b
  | path :: rest => do (b.merge (← loadFile t settings path)).loadBehind t settings rest

/-- The batch of several schema files. -/
def Batch.load (t : FileTree) (settings : Settings) (paths : List String) :
    Except Failure Batch :=
  Batch.loadBehind t settings {} paths

/-- The line for a loaded file. -/
def loadedLine (path : String) (b : Batch) : LogLine :=
  ⟨.debug, "Loaded " ++ toString b.classes.length ++ " models from " ++ path⟩

/-- The lines of loading several schema files, up to the first one in error. -/
def loadingLog (t : FileTree) (settings : Settings) : List String → List LogLine
  | [] => []
  | path :: rest =>
    match Batch.loadFile t settings path with
    | .ok b => loadedLine path b :: loadingLog t settings rest
    | .error _ => []

end RecordSynthesis
