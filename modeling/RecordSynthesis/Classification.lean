import RecordSynthesis.Descriptor.Scalar

/-!
# Classification of declared types

How a record stores a declared type depends on the type and on which names belong to models.
Primitives and scalars are stored as they are, whatever is known; a model is stored as its record,
a list of models as a list of records; nothing else is supported.
-/

set_option autoImplicit false

namespace RecordSynthesis

/-- How a declared type is stored. -/
inductive Classification where
  | primitive (kind : Primitive)
  | scalar (kind : Scalar)
  /-- One model, by its qualified name. -/
  | nested (model : String)
  /-- A list of models, by the qualified name of the elements. -/
  | modelList (model : String)
  | unsupported
  deriving DecidableEq, Inhabited

namespace Classification

/-- Whether a record can hold the type. -/
def isSupported : Classification → Bool
  | unsupported => false
  | _ => true

/-- The model that the type refers to. -/
def referencedModel? : Classification → Option String
  | nested model => some model
  | modelList model => some model
  | _ => none

/-- The classification in words. -/
def message : Classification → String
  | primitive kind => "primitive " ++ kind.name
  | scalar kind => "scalar " ++ kind.typeText
  | nested model => "nested model " ++ model
  | modelList model => "list of model " ++ model
  | unsupported => "unsupported"

end Classification

/-- The type of an ordered sequence. Lists of models must be declared with it. -/
def listTypeName : String := "java.util.List"

/-- The classification of a type that is neither primitive nor scalar. -/
def classifyReference (isModel : String → Bool) : Descriptor → Classification
  | .declared name [] => if isModel name then .nested name else .unsupported
  | .declared name [.declared element []] =>
    if name = listTypeName && isModel element then .modelList element else .unsupported
  | _ => .unsupported

/-- The classification of a type, given which names belong to models. -/
def classify (isModel : String → Bool) : Descriptor → Classification
  | .primitive kind => .primitive kind
  | t =>
    match t.scalar? with
    | some kind => .scalar kind
    | none => classifyReference isModel t

end RecordSynthesis
