import RecordSynthesis.Declaration.ClassName
import RecordSynthesis.Descriptor.Basic

/-!
# Type names

Types as declarations mention them. Unlike a descriptor, a type name knows for every class where
its package ends.
-/

set_option autoImplicit false

namespace RecordSynthesis

/-- A type in a declaration. -/
inductive TypeName where
  | primitive (kind : Primitive)
  | ofClass (name : ClassName)
  | parameterized (raw : ClassName) (args : List TypeName)
  | array (component : TypeName)
  deriving Inhabited

namespace TypeName

mutual

/-- The text of a type with all classes in full. -/
def print : TypeName → String
  | .primitive kind => kind.name
  | .ofClass name => name.canonicalName
  | .parameterized raw args => raw.canonicalName ++ "<" ++ printAll args ++ ">"
  | .array component => component.print ++ "[]"

/-- The texts of type arguments, separated by a comma and a space. -/
def printAll : List TypeName → String
  | [] => ""
  | [arg] => arg.print
  | arg :: more => arg.print ++ ", " ++ printAll more

end

mutual

/-- The classes that a type mentions, outermost first. -/
def classes : TypeName → List ClassName
  | .primitive _ => []
  | .ofClass name => [name]
  | .parameterized raw args => raw :: classesOfAll args
  | .array component => component.classes

/-- The classes that type arguments mention. -/
def classesOfAll : List TypeName → List ClassName
  | [] => []
  | arg :: more => arg.classes ++ classesOfAll more

end

end TypeName

end RecordSynthesis
