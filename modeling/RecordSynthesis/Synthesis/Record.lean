import RecordSynthesis.Declaration.Basic
import RecordSynthesis.Settings
import RecordSynthesis.Validation

/-!
# Storage records

A record has one private field and one public setter for each property, in order, and ends with
the method that turns it into the model. Primitives and scalars keep their types; a model is
stored as its record, whose class the snapshot names.
-/

set_option autoImplicit false

namespace RecordSynthesis

/-- A property with the type of its field on the record. -/
structure StoredProperty where
  property : Property
  classification : Classification
  recordType : TypeName
  deriving Inhabited

/-- The record that a property of a class refers to. -/
def Snapshot.resolvedRecord (s : Snapshot) (c : ModelClass) (p : Property) (model : String) :
    Except Failure ClassName :=
  match s.record? model with
  | some record => .ok record
  | none => .error (.unresolvedReference c.simpleName p.name model)

/-- The type of a property's field on the record. -/
def recordFieldType (settings : Settings) (s : Snapshot) (c : ModelClass)
    (p : ClassifiedProperty) : Except Failure TypeName :=
  match p.classification with
  | .nested model => do return .ofClass (← s.resolvedRecord c p.property model)
  | .modelList model => do
    let record ← s.resolvedRecord c p.property model
    return .parameterized settings.recordListClass [.ofClass record]
  | _ => .ok (s.typeName p.property.type)

/-- The properties of a class with their field types, up to the first unresolved one. -/
def storedProperties (settings : Settings) (s : Snapshot) (v : ValidatedClass) :
    Except Failure (List StoredProperty) :=
  v.properties.mapM fun p => do
    return ⟨p.property, p.classification, ← recordFieldType settings s v.source p⟩

/-- The annotations that a property's markers ask for. -/
def markerAnnotations (settings : Settings) (p : Property) : List ClassName :=
  (if p.primaryKey then [settings.primaryKeyClass] else []) ++
    (if p.indexed then [settings.indexClass] else [])

/-- The field of a property. -/
def recordField (settings : Settings) (p : StoredProperty) : FieldDeclaration where
  annotations := markerAnnotations settings p.property
  modifiers := [.privateAccess]
  type := p.recordType
  name := p.property.name

/-- The setter of a property. -/
def recordSetter (p : StoredProperty) : MethodDeclaration where
  modifiers := [.publicAccess]
  kind := .method (setterName p.property.name) none
  parameters := [⟨p.recordType, p.property.name⟩]
  body := [.assign (.field .this p.property.name) (.named p.property.name)]

/-- The record of a class with the given conversion back to the model. -/
def recordDeclaration (settings : Settings) (names : ResolvedNames) (stored : List StoredProperty)
    (toModel : MethodDeclaration) : TypeDeclaration where
  modifiers := [.publicAccess]
  name := names.record.simple
  superclass := some (.ofClass settings.recordBaseClass)
  interfaces := [.parameterized settings.conversionInterfaceClass [.ofClass names.model]]
  fields := stored.map (recordField settings)
  methods := stored.map recordSetter ++ [toModel]

end RecordSynthesis
