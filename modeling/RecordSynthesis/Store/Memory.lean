import RecordSynthesis.Dictionary
import RecordSynthesis.Store.Sink

/-!
# The memory store

Files kept in memory under their paths. Equal paths may be spelled differently; the store keeps
the spelling under which a file first came and the source that came last.
-/

set_option autoImplicit false

namespace RecordSynthesis

open RecordSynthesis.Text

/-- A file under the first spelling of its path. -/
structure StoredFile where
  path : String
  source : String
  deriving DecidableEq, Inhabited

/-- Files by the components of their paths. -/
structure MemoryStore where
  files : Dictionary (List PathComponent) StoredFile
  deriving Inhabited

namespace MemoryStore

/-- The store without files. -/
def empty : MemoryStore := ⟨.empty⟩

/-- The number of files. -/
def size (m : MemoryStore) : Nat := m.files.size

/-- The paths of all files in path order. -/
def paths (m : MemoryStore) : List String := m.files.values.map (·.path)

/-- The source of the file at a path. -/
def get? (m : MemoryStore) (path : String) : Option String :=
  (m.files.find? (Path.components path)).map (·.source)

/-- Puts a source at a path. -/
def put (m : MemoryStore) (path source : String) : MemoryStore :=
  let key := Path.components path
  let spelling := ((m.files.find? key).map (·.path)).getD path
  ⟨m.files.insert key ⟨spelling, source⟩⟩

/-- Puts an artifact at its path. -/
def add (m : MemoryStore) (a : Artifact) : MemoryStore := m.put a.relativePath a.source

/-- The package and the simple name of a qualified type name, cut at the last dot. -/
def splitQualified (name : String) : String × String :=
  let parts := segments '.' name
  (joined "." parts.dropLast, parts.getLast?.getD "")

/-- The source of a type by its qualified name. -/
def source? (m : MemoryStore) (name : String) : Option String :=
  let (package, typeName) := splitQualified name
  m.get? (Artifact.relativePath ⟨package, typeName, ""⟩)

/-- The sink that adds all artifacts of a call. It never fails. -/
def sink : Sink MemoryStore where
  write artifacts m := { state := artifacts.foldl add m, outcome := .ok () }

end MemoryStore

end RecordSynthesis
