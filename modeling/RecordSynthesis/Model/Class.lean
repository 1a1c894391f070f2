import RecordSynthesis.Descriptor.Basic
import RecordSynthesis.Naming

/-!
# Model classes

A model class is read-only input of a generation pass: its place, its trigger, its properties in
order of declaration, and the author's wishes for the implementation. The trigger is the accessor
that asks for generation. A property whose accessor is the trigger takes no part in it.
-/

set_option autoImplicit false

namespace RecordSynthesis

/-- A property of a model, identified by its accessor. -/
structure Property where
  name : String
  accessor : String
  type : Descriptor
  primaryKey : Bool := false
  indexed : Bool := false
  deriving Inhabited

/-- The property of an accessor, without markers. -/
def Property.ofAccessor (accessor : String) (type : Descriptor) : Property where
  name := propertyName accessor type.isPrimitiveBoolean
  accessor := accessor
  type := type

/-- Wishes for the generated implementation. What is left open follows the naming rules. -/
structure ImplementationTarget where
  className : Option String := none
  superclass : Option String := none
  isSealed : Option Bool := none
  deriving DecidableEq, Inhabited

/-- A class marked as a model. -/
structure ModelClass where
  package : String
  enclosing : List String := []
  simpleName : String
  trigger : Option String := none
  properties : List Property := []
  implementation : ImplementationTarget := {}
  deriving Inhabited

namespace ModelClass

/-- The enclosing classes, outermost first, and the class itself. -/
def chain (c : ModelClass) : List String := c.enclosing ++ [c.simpleName]

/-- The name by which other models refer to the class. -/
def qualifiedName (c : ModelClass) : String :=
  if c.package = "" then modelTypeName c.chain else c.package ++ "." ++ modelTypeName c.chain

/-- Whether the class asks for generation. -/
def isApplicable (c : ModelClass) : Bool := c.trigger.isSome

/-- Whether the property is the trigger. -/
def isTrigger (c : ModelClass) (p : Property) : Bool := c.trigger = some p.accessor

/-- The properties that take part in generation. -/
def generatedProperties (c : ModelClass) : List Property :=
  c.properties.filter fun p => !c.isTrigger p

/-- The class's names. -/
def names (c : ModelClass) : ResolvedNames := .resolve c.package c.enclosing c.simpleName

/-- The simple name of the generated implementation. -/
def implementationName (c : ModelClass) : String :=
  c.implementation.className.getD (implementationTypeName c.chain)

/-- The simple name of the class that the generated implementation extends. -/
def superclassName (c : ModelClass) : String :=
  c.implementation.superclass.getD (extendedTypeName c.chain)

end ModelClass

end RecordSynthesis
