import RecordSynthesis.Declaration.Basic
import RecordSynthesis.Validation

/-!
# Model implementations

The generated class that extends the model's implementation chain. Its constructor hands all
properties on in order of declaration; a class without properties has no constructor. The author
may choose the name of the class, the name of the class that it extends, and whether it is final.
-/

set_option autoImplicit false

namespace RecordSynthesis

/-- A property as a constructor parameter. -/
def constructorParameter (s : Snapshot) (p : ClassifiedProperty) : Parameter :=
  ⟨s.typeName p.property.type, p.property.name⟩

/-- The constructors of the implementation, at most one. -/
def implementationConstructors (s : Snapshot) (v : ValidatedClass) : List MethodDeclaration :=
  match v.properties with
  | [] => []
  | properties =>
    [{ kind := .constructor
       parameters := properties.map (constructorParameter s)
       body := [.superCall (properties.map fun p => .named p.property.name)] }]

/-- The implementation of a class with the given conversion to the record. -/
def implementationDeclaration (s : Snapshot) (v : ValidatedClass)
    (toStorage : MethodDeclaration) : TypeDeclaration where
  modifiers := [if v.source.implementation.isSealed.getD true then .sealed else .abstractClass]
  name := v.source.implementationName
  superclass := some (.ofClass (.topLevel v.source.package v.source.superclassName))
  methods := implementationConstructors s v ++ [toStorage]

end RecordSynthesis
