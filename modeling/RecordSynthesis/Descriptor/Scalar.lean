import RecordSynthesis.Descriptor.Basic

/-!
# Scalars

The closed set of types other than primitives that a record keeps as they are. A scalar is known
by the text of its type, so a descriptor is a scalar exactly when it is no primitive and its
printed text is that of a scalar.
-/

set_option autoImplicit false

namespace RecordSynthesis

/-- The types that a record stores unchanged besides the primitives. -/
inductive Scalar where
  | text
  | timestamp
  | blob
  | boolean
  | byte
  | short
  | integer
  | float
  | long
  | double
  deriving DecidableEq

namespace Scalar

/-- All scalars. -/
def all : List Scalar :=
  [text, timestamp, blob, boolean, byte, short, integer, float, long, double]

/-- The text of the scalar's type. -/
def typeText : Scalar → String
  | text => "java.lang.String"
  | timestamp => "java.util.Date"
  | blob => "byte[]"
  | boolean => "java.lang.Boolean"
  | byte => "java.lang.Byte"
  | short => "java.lang.Short"
  | integer => "java.lang.Integer"
  | float => "java.lang.Float"
  | long => "java.lang.Long"
  | double => "java.lang.Double"

/-- The scalar whose type text is exactly the given one. -/
def ofTypeText? (s : String) : Option Scalar := all.find? fun k => k.typeText = s

@[simp]
theorem ofTypeText?_typeText (k : Scalar) : ofTypeText? k.typeText = some k := by
  cases k <;> decide

end Scalar

/-- The scalar that a descriptor prints as. A primitive is none. -/
def Descriptor.scalar? : Descriptor → Option Scalar
  | .primitive _ => none
  | t => Scalar.ofTypeText? t.print

end RecordSynthesis
