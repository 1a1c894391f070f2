import RecordSynthesis.Snapshot.Cycle
import RecordSynthesis.Store.Artifact
import RecordSynthesis.Synthesis.Conversion
import RecordSynthesis.Synthesis.Implementation
import RecordSynthesis.Synthesis.Record

/-!
# Generating one class

A class must meet six conditions, in this order: it has a trigger, the trigger is the configured
method, no other class has its qualified name, its properties have supported types, it reaches no
cycle of references, and every model that it refers to has a record. The first condition that
fails is the failure of the class. A class that meets all of them yields its record and its
implementation.
-/

set_option autoImplicit false

namespace RecordSynthesis

/-- The two files of one class. -/
structure GeneratedClass where
  model : String
  record : SourceFile
  implementation : SourceFile
  deriving Inhabited

/-- The two files as artifacts, the record first. -/
def GeneratedClass.artifacts (g : GeneratedClass) : List Artifact :=
  [g.record.artifact, g.implementation.artifact]

/-! ## The conditions -/

/-- That the class has the configured trigger. -/
def checkTrigger (settings : Settings) (c : ModelClass) : Except Failure Unit :=
  match c.trigger with
  | none => .error (.configuration (.noTrigger c.qualifiedName settings.toStorageMethod))
  | some trigger =>
    if trigger = settings.toStorageMethod then .ok ()
    else .error (.configuration
      (.foreignTrigger c.qualifiedName trigger settings.toStorageMethod))

/-- That no other class has the qualified name. -/
def checkUnambiguous (s : Snapshot) (c : ModelClass) : Except Failure Unit :=
  if s.isAmbiguous c.qualifiedName then
    .error (.configuration (.declaredTwice c.qualifiedName))
  else .ok ()

/-- That the class reaches no cycle. -/
def checkAcyclic (s : Snapshot) (c : ModelClass) : Except Failure Unit :=
  match s.findCycle? c.qualifiedName with
  | some cycle => .error (.cyclicReference c.qualifiedName cycle)
  | none => .ok ()

/-! ## Generation -/

/-- The two files of a class whose properties are resolved. -/
def assembled (settings : Settings) (s : Snapshot) (v : ValidatedClass)
    (stored : List StoredProperty) : GeneratedClass :=
  let c := v.source
  let names := c.names
  { model := c.qualifiedName
    record :=
      { package := c.package
        declaration :=
          recordDeclaration settings names stored (toModelMethod settings names v)
        indent := settings.indent }
    implementation :=
      { package := c.package
        declaration := implementationDeclaration s v (toStorageMethod settings names v)
        indent := settings.indent } }

/-- The two files of a class, or the first condition that it fails. -/
def generate (settings : Settings) (s : Snapshot) (c : ModelClass) :
    Except Failure GeneratedClass := do
  checkTrigger settings c
  checkUnambiguous s c
  let v ← s.validate c
  checkAcyclic s c
  return assembled settings s v (← storedProperties settings s v)

end RecordSynthesis
