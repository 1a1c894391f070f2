import RecordSynthesis.Document.Decoding
import RecordSynthesis.Document.Reader
import RecordSynthesis.Settings

/-!
# Settings files

A settings file is a document with one text for each setting that is not to keep its default.
-/

set_option autoImplicit false

namespace RecordSynthesis

open RecordSynthesis.Document RecordSynthesis.Document.Entries

/-- The keys of a settings file. -/
def Settings.keys : List String :=
  ["to_storage_method", "to_model_method", "record_base", "record_list",
    "primary_key_annotation", "index_annotation", "conversion_interface", "list_helper",
    "models_to_records", "records_to_models", "indent"]

/-- Settings from the root table of a document, not yet checked. -/
def Settings.ofEntries (entries : Entries) : Option Settings := do
  guard (onlyKeys entries keys)
  let s : Settings := {}
  let setting (key default : String) := withDefault entries key default Value.text?
  return {
    toStorageMethod := ← setting "to_storage_method" s.toStorageMethod
    toModelMethod := ← setting "to_model_method" s.toModelMethod
    recordBase := ← setting "record_base" s.recordBase
    recordList := ← setting "record_list" s.recordList
    primaryKeyAnnotation := ← setting "primary_key_annotation" s.primaryKeyAnnotation
    indexAnnotation := ← setting "index_annotation" s.indexAnnotation
    conversionInterface := ← setting "conversion_interface" s.conversionInterface
    listHelper := ← setting "list_helper" s.listHelper
    modelsToRecords := ← setting "models_to_records" s.modelsToRecords
    recordsToModels := ← setting "records_to_models" s.recordsToModels
    indent := ← setting "indent" s.indent }

/-- The settings that a text holds, checked. -/
def Settings.read (text : String) : Except Failure Settings :=
  match (Document.read text).bind Settings.ofEntries with
  | none => .error .malformedDocument
  | some settings =>
    match settings.check with
    | .ok _ => .ok settings
    | .error problem => .error (.configuration problem)

end RecordSynthesis
