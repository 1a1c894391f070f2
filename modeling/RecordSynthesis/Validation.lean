import RecordSynthesis.Failure
import RecordSynthesis.Snapshot.Basic

/-!
# Validated classes

A class is valid when every property that takes part in generation has a supported type. Each
property is classified here once, and everything synthesized later follows these classifications.
-/

set_option autoImplicit false

namespace RecordSynthesis

/-- A property with the way it is stored. -/
structure ClassifiedProperty where
  property : Property
  classification : Classification
  deriving Inhabited

/-- A class and its generated properties in order, all supported. -/
structure ValidatedClass where
  source : ModelClass
  properties : List ClassifiedProperty
  deriving Inhabited

/-- The models that the class refers to, in order and with repetitions. -/
def ValidatedClass.references (v : ValidatedClass) : List String :=
  v.properties.filterMap (·.classification.referencedModel?)

/-- A property of a class with its classification, which must be a supported one. -/
def Snapshot.classified (s : Snapshot) (c : ModelClass) (p : Property) :
    Except Failure ClassifiedProperty :=
  match s.classify p.type with
  | .unsupported => .error (.unsupportedProperty c.simpleName p.name p.type.print)
  | classification => .ok ⟨p, classification⟩

/-- Classifies the generated properties of a class, up to the first unsupported one. -/
def Snapshot.validate (s : Snapshot) (c : ModelClass) : Except Failure ValidatedClass := do
  return ⟨c, ← c.generatedProperties.mapM (s.classified c)⟩

end RecordSynthesis
