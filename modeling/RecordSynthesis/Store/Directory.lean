import RecordSynthesis.Store.FileTree
import RecordSynthesis.Store.Sink

/-!
# The directory sink

Artifacts are written below a source root in two rounds. The first makes the directories of all
artifacts of the call and keeps their contents aside in them; if that fails, no file is touched.
The second moves the contents into place one after the other; when one cannot be moved, the files
that the call has already put in place are removed again.
-/

set_option autoImplicit false

namespace RecordSynthesis

/-- A source root. -/
structure DirectorySink where
  root : String
  deriving DecidableEq, Inhabited

namespace DirectorySink

/-- An artifact whose directory stands ready. -/
structure Staged where
  path : String
  target : Location
  content : ByteArray

/-- The full path of an artifact. -/
def fullPath (d : DirectorySink) (a : Artifact) : String := Path.push d.root a.relativePath

/-- A name under which content is kept aside in a directory until it is moved. All such names are
equally long. -/
def nameAside : String := ".tmp000000"

/-- Makes the directory of one artifact and keeps its content aside there. Content aside is held by
its absolute path, so this path must not be too long either. Irreducible, so that a match on the
result does not compute the path. -/
@[irreducible]
def stage (d : DirectorySink) (t : FileTree) (a : Artifact) :
    FileTree × Except SystemError Staged :=
  let path := d.fullPath a
  let directory := Path.parent path
  let made := t.createDirectories directory
  let staged : Except SystemError Staged := do
    let l ← made.outcome
    t.checkAbsolute (Path.push directory nameAside)
    match (Path.components path).getLast? with
    | some (.name n) => return ⟨path, l ++ [n], a.source.toUTF8⟩
    | _ => throw .isADirectory
  (made.tree, staged)

/-- Stages all artifacts, up to the first failure. -/
def stageAll (d : DirectorySink) (t : FileTree) :
    List Artifact → FileTree × Except SystemError (List Staged)
  | [] => (t, .ok [])
  | a :: rest =>
    match d.stage t a with
    | (t, .error e) => (t, .error e)
    | (t, .ok staged) =>
      match d.stageAll t rest with
      | (t, .error e) => (t, .error e)
      | (t, .ok more) => (t, .ok (staged :: more))

/-- Removes the files of a call that is given up. A file that cannot be removed is logged. -/
def rollBack (t : FileTree) : List Staged → FileTree × List LogLine
  | [] => (t, [])
  | f :: rest =>
    match t.removeFile f.target with
    | .ok t => rollBack t rest
    | .error e =>
      let (t, log) := rollBack t rest
      (t, ⟨.warn, "Failed to remove " ++ f.path ++ ": " ++ e.message⟩ :: log)

/-- Moves staged files into place, given those of the call that are in place already. -/
def place (t : FileTree) (placed : List Staged) : List Staged → WriteResult FileTree
  | [] => { state := t, outcome := .ok () }
  | f :: rest =>
    match t.moveInto f.path f.target f.content with
    | .error e =>
      let (t, log) := rollBack t placed
      { state := t, log, outcome := .error (.system e) }
    | .ok t =>
      let result := place t (placed ++ [f]) rest
      { result with log := ⟨.debug, "Wrote " ++ f.path⟩ :: result.log }

/-- The sink that writes below the root. -/
def sink (d : DirectorySink) : Sink FileTree where
  write artifacts t :=
    match d.stageAll t artifacts with
    | (t, .error e) => { state := t, outcome := .error (.system e) }
    | (t, .ok staged) => place t [] staged

end DirectorySink

end RecordSynthesis
