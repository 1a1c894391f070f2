import RecordSynthesis.Classification
import RecordSynthesis.Declaration.TypeName
import RecordSynthesis.Dictionary
import RecordSynthesis.Model.Batch

/-!
# Snapshots of known models

Before any class is generated, all names of the batch are collected: the external names and the
qualified names of the classes. What the snapshot says about a name depends only on the classes
declared by that name, the last of them when there are several, and on the set of all names.

A name that several classes declare is ambiguous and has no record, so that references to it stay
unresolved.
-/

set_option autoImplicit false

namespace RecordSynthesis

/-- What is known about one model. -/
structure KnownModel where
  /-- The class of the model. -/
  model : ClassName
  /-- The class of its storage record, if this pass generates one. -/
  record : Option ClassName
  /-- The models that its properties refer to, in order and with repetitions. -/
  references : List String
  /-- Whether more than one class of the batch declares the name. -/
  isAmbiguous : Bool
  deriving DecidableEq, Inhabited

/-- The models of a pass by qualified name. -/
structure Snapshot where
  models : Dictionary String KnownModel
  deriving Inhabited

namespace Snapshot

/-! ## Discovery -/

/-- The classes that declare a name. -/
def declarations (classes : List ModelClass) (name : String) : List ModelClass :=
  classes.filter fun c => c.qualifiedName = name

/-- The models that the class's generated properties refer to. -/
def referencesOf (isModel : String → Bool) (c : ModelClass) : List String :=
  c.generatedProperties.filterMap fun p => (classify isModel p.type).referencedModel?

/-- What the classes of a batch say about a name, given which names belong to models. -/
def describe (classes : List ModelClass) (isModel : String → Bool) (name : String) : KnownModel :=
  let declared := declarations classes name
  match declared.getLast? with
  | none => ⟨.ofDotted name, none, [], false⟩
  | some c =>
    { model := c.names.model
      record := if declared.length = 1 && c.isApplicable then some c.names.record else none
      references := referencesOf isModel c
      isAmbiguous := 2 ≤ declared.length }

/-- All names of a batch. -/
def namesOf (b : Batch) : List String := b.externalModels ++ b.classes.map (·.qualifiedName)

/-- The snapshot of a batch. -/
def discover (b : Batch) : Snapshot :=
  let names := namesOf b
  ⟨.ofKeys names (describe b.classes fun name => name ∈ names)⟩

/-! ## Questions -/

/-- The number of known models. -/
def size (s : Snapshot) : Nat := s.models.size

/-- What is known about a name. -/
def find? (s : Snapshot) (name : String) : Option KnownModel := s.models.find? name

/-- Whether the name belongs to a model. -/
def isModel (s : Snapshot) (name : String) : Bool := (s.find? name).isSome

/-- Whether several classes of the batch declare the name. -/
def isAmbiguous (s : Snapshot) (name : String) : Bool :=
  match s.find? name with
  | some known => known.isAmbiguous
  | none => false

/-- The storage record of a model. -/
def record? (s : Snapshot) (name : String) : Option ClassName :=
  match s.find? name with
  | some known => known.record
  | none => none

/-- The models that a model refers to. An unknown name refers to none. -/
def references (s : Snapshot) (name : String) : List String :=
  match s.find? name with
  | some known => known.references
  | none => []

/-- The classification of a type by the models of the snapshot. -/
def classify (s : Snapshot) (t : Descriptor) : Classification :=
  RecordSynthesis.classify s.isModel t

/-- The class of a declared name: as recorded for a model, else split by the letters. -/
def className (s : Snapshot) (name : String) : ClassName :=
  match s.find? name with
  | some known => known.model
  | none => .ofDotted name

mutual

/-- A declared type as declarations mention it. -/
def typeName (s : Snapshot) : Descriptor → TypeName
  | .primitive kind => .primitive kind
  | .array component => .array (s.typeName component)
  | .declared name [] => .ofClass (s.className name)
  | .declared name (first :: more) =>
    .parameterized (s.className name) (s.typeName first :: s.typeNames more)

/-- The types of a list as declarations mention them. -/
def typeNames (s : Snapshot) : List Descriptor → List TypeName
  | [] => []
  | t :: more => s.typeName t :: s.typeNames more

end

end Snapshot

end RecordSynthesis
