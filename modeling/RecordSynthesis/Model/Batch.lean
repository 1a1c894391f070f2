import RecordSynthesis.Model.Class

/-!
# Batches

The classes of one generation pass, and the names of models that are described elsewhere.
Merging keeps all classes in order and adds each external name once.
-/

set_option autoImplicit false

namespace RecordSynthesis

/-- Everything that one generation pass works on. -/
structure Batch where
  classes : List ModelClass := []
  externalModels : List String := []
  deriving Inhabited

namespace Batch

/-- A batch of classes without external models. -/
def ofClasses (classes : List ModelClass) : Batch := ⟨classes, []⟩

/-- Adds external names behind the present ones, repetitions included. -/
def withExternalModels (b : Batch) (names : List String) : Batch :=
  { b with externalModels := b.externalModels ++ names }

/-- A list of names with one more, unless it is there already. -/
def addName (names : List String) (name : String) : List String :=
  if name ∈ names then names else names ++ [name]

/-- Another batch behind this one. -/
def merge (b other : Batch) : Batch where
  classes := b.classes ++ other.classes
  externalModels := other.externalModels.foldl addName b.externalModels

end Batch

end RecordSynthesis
