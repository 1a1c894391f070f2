import RecordSynthesis.Journal
import RecordSynthesis.Pass.Generation

/-!
# The log of discovery and generation

The lines that discovering a batch and generating a class write, as functions of the same input
as the results.
-/

set_option autoImplicit false

namespace RecordSynthesis

/-! ## Discovery -/

/-- The line for a class that joins the snapshot. -/
def discoveredLine (c : ModelClass) : LogLine :=
  let record := if c.isApplicable then c.names.record.canonicalName else "none"
  ⟨.debug, "Discovered model " ++ c.qualifiedName ++ " (storage record: " ++ record ++ ")"⟩

/-- The line for a class whose name an earlier class has. -/
def repeatedLine (c : ModelClass) : LogLine :=
  ⟨.warn, "Model " ++ c.qualifiedName ++ " is declared by more than one schema"⟩

/-- The lines of discovering classes behind classes of the given names. -/
def discoveryLogFrom (seen : List String) : List ModelClass → List LogLine
  | [] => []
  | c :: rest =>
    discoveredLine c ::
      ((if c.qualifiedName ∈ seen then [repeatedLine c] else []) ++
        discoveryLogFrom (c.qualifiedName :: seen) rest)

/-- The lines of discovering a batch. -/
def discoveryLog (b : Batch) : List LogLine := discoveryLogFrom [] b.classes

/-! ## Validation and generation -/

/-- The line for a property with a supported type. -/
def classifiedLine (s : Snapshot) (c : ModelClass) (p : Property) : LogLine :=
  ⟨.debug, c.simpleName ++ "." ++ p.name ++ " classified as " ++ (s.classify p.type).message⟩

/-- The lines of validating a class: one for each property before the first unsupported one. -/
def validationLog (s : Snapshot) (c : ModelClass) : List LogLine :=
  (c.generatedProperties.takeWhile fun p => (s.classify p.type).isSupported).map
    (classifiedLine s c)

/-- The line for a generated class. -/
def synthesizedLine (c : ModelClass) : LogLine :=
  ⟨.debug, "Synthesized " ++ c.names.record.simple ++ " and " ++ c.implementationName ++ " for " ++
    c.qualifiedName⟩

/-- The lines of generating a class. -/
def generationLog (settings : Settings) (s : Snapshot) (c : ModelClass) : List LogLine :=
  match checkTrigger settings c, checkUnambiguous s c with
  | .ok _, .ok _ =>
    validationLog s c ++
      (match generate settings s c with
        | .ok _ => [synthesizedLine c]
        | .error _ => [])
  | _, _ => []

end RecordSynthesis
