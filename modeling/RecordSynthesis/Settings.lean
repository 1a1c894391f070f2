import RecordSynthesis.Declaration.ClassName
import RecordSynthesis.Failure

/-!
# Settings

Every setting names something on the storage side of the generated code, apart from the
indentation. Settings from outside pass a check; the defaults pass it too (`check_default`).
-/

set_option autoImplicit false

namespace RecordSynthesis

/-- The settings of a generation pass. -/
structure Settings where
  /-- The trigger, and the method from model to record. -/
  toStorageMethod : String := "toRealmObject"
  /-- The method from record to model. -/
  toModelMethod : String := "toModel"
  /-- The superclass of every record. -/
  recordBase : String := "io.realm.RealmObject"
  /-- The list type that holds records. -/
  recordList : String := "io.realm.RealmList"
  primaryKeyAnnotation : String := "io.realm.annotations.PrimaryKey"
  indexAnnotation : String := "io.realm.annotations.Index"
  /-- The interface of every record, with the model type as its argument. -/
  conversionInterface : String := "com.remind101.auto.value.realm.AvRealmModel"
  /-- The owner of the two list conversions. -/
  listHelper : String := "com.remind101.auto.value.realm.AvRealmHelper"
  modelsToRecords : String := "toRealmModels"
  recordsToModels : String := "fromRealmModels"
  /-- One level of indentation. -/
  indent : String := "  "
  deriving DecidableEq, Inhabited

namespace Settings

/-! ## The check -/

/-- A method name must not be empty and must hold no dot. -/
def checkMethodName (key value : String) : Except ConfigurationProblem Unit :=
  if value = "" ∨ '.' ∈ value.toList then .error (.notBareMethodName key value) else .ok ()

/-- The first problem of the settings, in a fixed order: the method names, that the two
conversions differ, and the indentation. -/
def check (s : Settings) : Except ConfigurationProblem Unit := do
  checkMethodName "to_storage_method" s.toStorageMethod
  checkMethodName "to_model_method" s.toModelMethod
  checkMethodName "models_to_records" s.modelsToRecords
  checkMethodName "records_to_models" s.recordsToModels
  if s.toStorageMethod = s.toModelMethod then throw .sameConversionMethods
  if !s.indent.toList.all (fun c => c = ' ' || c = '\t') then throw .badIndent

/-- The default settings are in order. -/
theorem check_default : check {} = .ok () := by rfl

/-! ## Classes -/

/-- The superclass of every record. -/
def recordBaseClass (s : Settings) : ClassName := .ofDotted s.recordBase

/-- The list class that holds records. -/
def recordListClass (s : Settings) : ClassName := .ofDotted s.recordList

/-- The annotation of a primary key. -/
def primaryKeyClass (s : Settings) : ClassName := .ofDotted s.primaryKeyAnnotation

/-- The annotation of an indexed field. -/
def indexClass (s : Settings) : ClassName := .ofDotted s.indexAnnotation

/-- The interface of every record. -/
def conversionInterfaceClass (s : Settings) : ClassName := .ofDotted s.conversionInterface

/-- The owner of the two list conversions. -/
def listHelperClass (s : Settings) : ClassName := .ofDotted s.listHelper

end Settings

end RecordSynthesis
