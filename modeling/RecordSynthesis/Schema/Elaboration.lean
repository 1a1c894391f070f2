import RecordSynthesis.Descriptor.Reader
import RecordSynthesis.Failure
import RecordSynthesis.Model.Batch
import RecordSynthesis.Schema.File
import RecordSynthesis.Settings

/-!
# From schema files to batches

A model entry becomes a model class: its dotted name is cut into the chain, its property types are
read, and no two of its accessors may give the same property name. A model without explicit
trigger is triggered by the configured method if it declares that accessor.
-/

set_option autoImplicit false

namespace RecordSynthesis

open RecordSynthesis.Text

/-- The property of an entry. -/
def PropertyEntry.elaborate (e : PropertyEntry) : Except Failure Property :=
  match Descriptor.read e.type with
  | .ok type =>
    .ok { Property.ofAccessor e.accessor type with
      primaryKey := e.primaryKey
      indexed := e.indexed }
  | .error fault => .error (.invalidType e.type fault.reason)

/-- The properties of the named model behind properties of the given names. -/
def elaborateProperties (model : String) (seen : List String) :
    List PropertyEntry → Except Failure (List Property)
  | [] => .ok []
  | e :: rest => do
    let p ← e.elaborate
    if p.name ∈ seen then
      throw (.configuration (.repeatedProperty model p.name))
    return p :: (← elaborateProperties model (p.name :: seen) rest)

namespace ModelEntry

/-- The trigger: the explicit one, else the method if the model has such an accessor. -/
def triggerFor (e : ModelEntry) (method : String) : Option String :=
  match e.trigger with
  | some trigger => some trigger
  | none => if e.properties.any fun p => p.accessor = method then some method else none

/-- The model class of an entry. -/
def elaborate (e : ModelEntry) (package : String) (settings : Settings) :
    Except Failure ModelClass := do
  let chain := segments '.' e.name
  if "" ∈ chain then throw (.configuration (.badModelName e.name))
  let properties ← elaborateProperties e.name [] e.properties
  return {
    package
    enclosing := chain.dropLast
    simpleName := chain.getLast?.getD ""
    trigger := e.triggerFor settings.toStorageMethod
    properties
    implementation := e.implementation }

end ModelEntry

/-- The batch of a schema file. -/
def SchemaFile.elaborate (f : SchemaFile) (settings : Settings) : Except Failure Batch := do
  return ⟨← f.models.mapM (·.elaborate f.package settings), f.externalModels⟩

end RecordSynthesis
