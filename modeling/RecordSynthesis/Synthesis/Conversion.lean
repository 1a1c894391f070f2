import RecordSynthesis.Declaration.Basic
import RecordSynthesis.Settings
import RecordSynthesis.Validation

/-!
# Conversions between models and records

The implementation of a model copies its properties into a fresh record; the record builds the
implementation again from its fields, in the order of the constructor. A nested model converts
itself, and a list is converted by one call of the list helper.
-/

set_option autoImplicit false

namespace RecordSynthesis

/-- The local variable that holds the fresh record. -/
def recordLocal : String := "realmObject"

/-- The annotation of both conversion methods. -/
def overridingMark : ClassName := .topLevel "java.lang" "Override"

/-! ## From model to record -/

/-- The value of a property as the record takes it, read through the accessor. -/
def storedValue (settings : Settings) (p : ClassifiedProperty) : Expression :=
  let value := Expression.call p.property.accessor []
  match p.classification with
  | .nested _ => .invoke value settings.toStorageMethod []
  | .modelList _ => .invokeStatic settings.listHelperClass settings.modelsToRecords [value]
  | _ => value

/-- The statement that hands a property to its setter. -/
def storeStatement (settings : Settings) (p : ClassifiedProperty) : Statement :=
  .evaluate (.invoke (.named recordLocal) (setterName p.property.name)
    [storedValue settings p])

/-- The method from model to record. -/
def toStorageMethod (settings : Settings) (names : ResolvedNames) (v : ValidatedClass) :
    MethodDeclaration where
  annotations := [overridingMark]
  modifiers := [.publicAccess, .sealed]
  kind := .method settings.toStorageMethod (some (.ofClass names.record))
  body :=
    .declareLocal (.ofClass names.record) recordLocal (.construct names.record []) ::
      v.properties.map (storeStatement settings) ++ [.giveBack (.named recordLocal)]

/-! ## From record to model -/

/-- The value of a property as the model takes it, read from the field. -/
def restoredValue (settings : Settings) (p : ClassifiedProperty) : Expression :=
  let field := Expression.named p.property.name
  match p.classification with
  | .nested _ => .invoke field settings.toModelMethod []
  | .modelList _ => .invokeStatic settings.listHelperClass settings.recordsToModels [field]
  | _ => field

/-- The method from record to model. -/
def toModelMethod (settings : Settings) (names : ResolvedNames) (v : ValidatedClass) :
    MethodDeclaration where
  annotations := [overridingMark]
  modifiers := [.publicAccess, .sealed]
  kind := .method settings.toModelMethod (some (.ofClass names.model))
  body :=
    [.giveBack (.construct names.implementation (v.properties.map (restoredValue settings)))]

end RecordSynthesis
