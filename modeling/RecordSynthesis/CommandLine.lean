import RecordSynthesis.Loading
import RecordSynthesis.Pass.Run
import RecordSynthesis.Store.Directory
import RecordSynthesis.Store.Memory

/-!
# The command line

One call names an optional settings file, a source root and the schema files. The settings are
loaded first and then all schemas; only when everything is loaded does the pass run into the
source root. The whole call is a function of the file tree.
-/

set_option autoImplicit false

namespace RecordSynthesis.CommandLine

open RecordSynthesis.Text

/-! ## Arguments -/

/-- What a call names. -/
structure Arguments where
  config : Option String
  out : String
  schemas : List String
  deriving DecidableEq, Inhabited

/-- What a list of arguments asks for. -/
inductive Request where
  | generate (arguments : Arguments)
  | help
  /-- The arguments make no sense. -/
  | misuse
  deriving DecidableEq, Inhabited

/-- The arguments read so far. -/
structure Partly where
  config : Option String := none
  out : Option String := none
  schemas : List String := []

/-- The options that take a value. -/
inductive ValueOption where
  | config
  | out

/-- The option of a name. -/
def ValueOption.ofName? (name : String) : Option ValueOption :=
  if name = "config" then some .config else if name = "out" then some .out else none

/-- Whether an argument can be the value of the option before it. One that begins with a hyphen
cannot, except the hyphen alone. -/
def isValue (arg : String) : Bool := arg = "-" || arg.toList.head? ≠ some '-'

namespace Partly

/-- Takes the value of an option. No option may come twice, and no value may be empty. -/
def withOption (p : Partly) (o : ValueOption) (value : String) : Option Partly :=
  if value = "" then none
  else
    match o with
    | .config => if p.config.isSome then none else some { p with config := some value }
    | .out => if p.out.isSome then none else some { p with out := some value }

/-- Takes a schema file. -/
def withSchema (p : Partly) (path : String) : Option Partly :=
  if path = "" then none else some { p with schemas := p.schemas ++ [path] }

/-- Takes the end of the arguments. The source root and one schema file must be there. -/
def finish (p : Partly) : Request :=
  match p.out, p.schemas with
  | some out, first :: more => .generate ⟨p.config, out, first :: more⟩
  | _, _ => .misuse

end Partly

/-- The name of a long option and the value that is attached to it by an equals sign. -/
def splitLong (letters : List Char) : String × Option String :=
  match letters.dropWhile (· ≠ '=') with
  | [] => (String.ofList letters, none)
  | _ :: value => (String.ofList (letters.takeWhile (· ≠ '=')), some (String.ofList value))

/-- Takes arguments that all are schema files. -/
def parseSchemas (p : Partly) : List String → Request
  | [] => p.finish
  | path :: rest =>
    match p.withSchema path with
    | some p => parseSchemas p rest
    | none => .misuse

/-- Takes arguments one after the other. -/
def parseFrom (p : Partly) : List String → Request
  | [] => p.finish
  | arg :: rest =>
    match arg.toList with
    | ['-', '-'] => parseSchemas p rest
    | '-' :: '-' :: letters =>
      match splitLong letters with
      | ("help", none) => .help
      | (name, value) =>
        match ValueOption.ofName? name, value, rest with
        | none, _, _ => .misuse
        | some o, some value, rest =>
          match p.withOption o value with
          | some p => parseFrom p rest
          | none => .misuse
        | some _, none, [] => .misuse
        | some o, none, value :: rest =>
          if isValue value then
            match p.withOption o value with
            | some p => parseFrom p rest
            | none => .misuse
          else .misuse
    | '-' :: 'h' :: _ => .help
    | '-' :: _ :: _ => .misuse
    | _ =>
      match p.withSchema arg with
      | some p => parseFrom p rest
      | none => .misuse

/-- What the arguments ask for. -/
def parse (args : List String) : Request := parseFrom {} args

/-! ## Outcomes -/

/-- What a call leaves behind. -/
structure Outcome where
  code : Nat
  stdout : String := ""
  stderr : String := ""
  tree : FileTree
  log : List LogLine := []
  deriving Inhabited

/-- The text of an error with its cause, of which every line is indented. -/
def causedBy (context cause : String) : String :=
  "Error: " ++ context ++ "\n\nCaused by:\n    " ++ joined "\n    " (segments '\n' cause) ++ "\n"

/-- The settings that a call uses. -/
def settingsOf (t : FileTree) : Option String → Except String Settings
  | none => .ok {}
  | some path =>
    match Settings.load t path with
    | .ok settings => .ok settings
    | .error f => .error (causedBy ("Failed to load config '" ++ path ++ "'") f.message)

/-- The line for a failed class. -/
def failureText (d : Diagnostic) : String := "error: " ++ d.message ++ "\n"

/-- The summary of a pass with failures. -/
def summaryText (r : Report) : String :=
  "Error: " ++ toString r.failures.length ++ " of " ++
    toString (r.failures.length + r.generated.length) ++ " classes failed\n"

/-- The summary of a pass without failures. -/
def successText (r : Report) (out : String) : String :=
  "Generated " ++ toString r.generated.length ++ " classes into " ++ out ++ "\n"

/-- The outcome of a finished pass. -/
def outcomeOf (out : String) (p : Progress FileTree) : Outcome :=
  if p.report.isSuccess then
    { code := 0, stdout := successText p.report out, tree := p.state, log := p.log }
  else
    { code := 1
      stderr := String.join (p.report.failures.map failureText) ++ summaryText p.report
      tree := p.state
      log := p.log }

/-- Loads everything that a call names and runs the pass. -/
def generate (t : FileTree) (a : Arguments) : Outcome :=
  match settingsOf t a.config with
  | .error text => { code := 1, stderr := text, tree := t }
  | .ok settings =>
    let loading := loadingLog t settings a.schemas
    match Batch.load t settings a.schemas with
    | .error f =>
      { code := 1, stderr := causedBy "Failed to load schemas" f.message, tree := t, log := loading }
    | .ok b =>
      let p := RecordSynthesis.run settings b (DirectorySink.sink ⟨a.out⟩) t
      outcomeOf a.out { p with log := loading ++ p.log }

/-! ## Footprint -/

/-- The paths that a call reads. -/
def Arguments.pathsRead (a : Arguments) : List String := a.config.toList ++ a.schemas

/-- The paths that a call may write, by a tree that holds all that it reads. -/
def pathsWritten (t : FileTree) (a : Arguments) : List String :=
  match settingsOf t a.config with
  | .error _ => []
  | .ok settings =>
    match Batch.load t settings a.schemas with
    | .error _ => []
    | .ok b =>
      (RecordSynthesis.run settings b MemoryStore.sink .empty).state.paths.map (Path.push a.out)

/-! ## Calls -/

/-- How to call the program. -/
def usage : String :=
  "Usage: avrealm [OPTIONS] --out <OUT> <SCHEMAS>...\n"

/-- What the program says about itself. -/
def helpText : String :=
  "Generate Realm storage records for AutoValue models\n\n" ++ usage ++
    "\nArguments:\n  <SCHEMAS>...  Schema files, merged into one generation pass\n" ++
    "\nOptions:\n      --config <CONFIG>  Generator configuration (TOML)\n" ++
    "      --out <OUT>        Source root the generated files are written below\n" ++
    "  -h, --help             Print help\n"

/-- Runs a call on a file tree. -/
def run (args : List String) (t : FileTree) : Outcome :=
  match parse args with
  | .help => { code := 0, stdout := helpText, tree := t }
  | .misuse => { code := 2, stderr := usage, tree := t }
  | .generate a => generate t a

end RecordSynthesis.CommandLine
