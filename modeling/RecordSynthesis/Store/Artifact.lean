import RecordSynthesis.Declaration.Source
import RecordSynthesis.Store.Path

/-!
# Artifacts

A rendered source file. Its path below a source root has one directory for each segment of the
package that is not empty.
-/

set_option autoImplicit false

namespace RecordSynthesis

open RecordSynthesis.Text

/-- A source file as text. -/
structure Artifact where
  package : String
  typeName : String
  source : String
  deriving DecidableEq, Inhabited

namespace Artifact

/-- The path below a source root. -/
def relativePath (a : Artifact) : String :=
  let directory := ((segments '.' a.package).filter (· ≠ "")).foldl Path.push ""
  Path.push directory (a.typeName ++ ".java")

/-- The name of the declared type with its package. -/
def qualifiedName (a : Artifact) : String :=
  if a.package = "" then a.typeName else a.package ++ "." ++ a.typeName

end Artifact

/-- A source file as an artifact. -/
def SourceFile.artifact (f : SourceFile) : Artifact := ⟨f.package, f.declaration.name, f.render⟩

end RecordSynthesis
