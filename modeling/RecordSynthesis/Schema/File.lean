import RecordSynthesis.Document.Decoding
import RecordSynthesis.Document.Reader
import RecordSynthesis.Failure
import RecordSynthesis.Model.Class

/-!
# Schema files

A schema file is a document with the models of one package. Unknown keys are refused, except among
the wishes for an implementation. Instead of a table with named fields, a model, an implementation
or a property may also be an array with the fields in a fixed order; fields with a default may be
missing at its end, and what stands behind the last field does not count.
-/

set_option autoImplicit false

namespace RecordSynthesis

open RecordSynthesis.Document RecordSynthesis.Document.Entries

/-- A property as a schema file writes it. -/
structure PropertyEntry where
  accessor : String
  type : String
  primaryKey : Bool := false
  indexed : Bool := false
  deriving DecidableEq, Inhabited

/-- A model as a schema file writes it. -/
structure ModelEntry where
  name : String
  trigger : Option String := none
  implementation : ImplementationTarget := {}
  properties : List PropertyEntry := []
  deriving DecidableEq, Inhabited

/-- A schema file. -/
structure SchemaFile where
  package : String := ""
  externalModels : List String := []
  models : List ModelEntry := []
  deriving DecidableEq, Inhabited

/-- A property from its table or array. -/
def PropertyEntry.ofValue : Value → Option PropertyEntry
  | .table _ entries => do
    guard (onlyKeys entries ["accessor", "type", "primary_key", "indexed"])
    return {
      accessor := ← required entries "accessor" Value.text?
      type := ← required entries "type" Value.text?
      primaryKey := ← withDefault entries "primary_key" false Value.boolean?
      indexed := ← withDefault entries "indexed" false Value.boolean? }
  | .array _ (accessor :: type :: more) => do
    return {
      accessor := ← accessor.text?
      type := ← type.text?
      primaryKey := ← elementOr more 0 false Value.boolean?
      indexed := ← elementOr more 1 false Value.boolean? }
  | _ => none

/-- The wishes for an implementation from their table or array. A moment counts as a table without
wishes. -/
def ImplementationTarget.ofValue : Value → Option ImplementationTarget
  | .table _ entries => do
    return {
      className := ← possible entries "class_name" Value.text?
      superclass := ← possible entries "extends" Value.text?
      isSealed := ← possible entries "final" Value.boolean? }
  | .array _ (className :: superclass :: isSealed :: _) => do
    return {
      className := some (← className.text?)
      superclass := some (← superclass.text?)
      isSealed := some (← isSealed.boolean?) }
  | .moment _ => some {}
  | _ => none

/-- A model from its table or array. -/
def ModelEntry.ofValue : Value → Option ModelEntry
  | .table _ entries => do
    guard (onlyKeys entries ["name", "trigger", "implementation", "property"])
    return {
      name := ← required entries "name" Value.text?
      trigger := ← possible entries "trigger" Value.text?
      implementation := ← withDefault entries "implementation" {} ImplementationTarget.ofValue
      properties := ← withDefault entries "property" [] (Value.elements? PropertyEntry.ofValue) }
  | .array _ (name :: trigger :: more) => do
    return {
      name := ← name.text?
      trigger := some (← trigger.text?)
      implementation := ← elementOr more 0 {} ImplementationTarget.ofValue
      properties := ← elementOr more 1 [] (Value.elements? PropertyEntry.ofValue) }
  | _ => none

/-- A schema file from the root table of a document. -/
def SchemaFile.ofEntries (entries : Entries) : Option SchemaFile := do
  guard (onlyKeys entries ["package", "external_models", "model"])
  return {
    package := ← withDefault entries "package" "" Value.text?
    externalModels := ← withDefault entries "external_models" [] (Value.elements? Value.text?)
    models := ← withDefault entries "model" [] (Value.elements? ModelEntry.ofValue) }

/-- The schema file that a text holds. -/
def SchemaFile.read (text : String) : Except Failure SchemaFile :=
  match (Document.read text).bind SchemaFile.ofEntries with
  | some file => .ok file
  | none => .error .malformedDocument

end RecordSynthesis
