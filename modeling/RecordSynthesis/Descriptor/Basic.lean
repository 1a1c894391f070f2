/-!
# Declared types

The type of a model property as its author declared it: a primitive, an array, or a named type
with type arguments. `Descriptor.print` writes a descriptor the way the host compiler prints
types, without white space; diagnostics quote this text.
-/

set_option autoImplicit false

namespace RecordSynthesis

/-! ## Primitives -/

/-- The primitive types of the generated language. -/
inductive Primitive where
  | boolean
  | byte
  | short
  | int
  | long
  | char
  | float
  | double
  deriving DecidableEq

namespace Primitive

/-- All primitives. -/
def all : List Primitive := [boolean, byte, short, int, long, char, float, double]

/-- The reserved word of a primitive. -/
def name : Primitive → String
  | boolean => "boolean"
  | byte => "byte"
  | short => "short"
  | int => "int"
  | long => "long"
  | char => "char"
  | float => "float"
  | double => "double"

/-- The primitive whose reserved word is exactly the text. -/
def ofName? (s : String) : Option Primitive := all.find? fun p => p.name = s

@[simp]
theorem ofName?_name (p : Primitive) : ofName? p.name = some p := by cases p <;> decide

theorem eq_name_of_ofName? {s : String} {p : Primitive} (h : ofName? s = some p) : s = p.name := by
  have := List.find?_some h
  simpa using (of_decide_eq_true this).symm

end Primitive

/-! ## Descriptors -/

/-- A declared type. -/
inductive Descriptor where
  | primitive (kind : Primitive)
  | array (component : Descriptor)
  | declared (name : String) (args : List Descriptor)
  deriving Inhabited

namespace Descriptor

/-- The type that a bare name stands for: its primitive if it is a reserved word. -/
def ofName (name : String) : Descriptor :=
  match Primitive.ofName? name with
  | some kind => .primitive kind
  | none => .declared name []

/-- The one descriptor whose accessors may begin with `is`. -/
def isPrimitiveBoolean : Descriptor → Bool
  | .primitive .boolean => true
  | _ => false

mutual

/-- The text of a descriptor. Type arguments are separated by a comma alone. -/
def print : Descriptor → String
  | .primitive kind => kind.name
  | .array component => component.print ++ "[]"
  | .declared name [] => name
  | .declared name (first :: more) => name ++ "<" ++ first.print ++ printMore more ++ ">"

/-- The type arguments after the first, each behind a comma. -/
def printMore : List Descriptor → String
  | [] => ""
  | arg :: more => "," ++ arg.print ++ printMore more

end

end Descriptor

end RecordSynthesis
