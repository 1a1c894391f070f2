import RecordSynthesis.Declaration.ClassName

/-!
# Names of generated types and members

All names of a model are derived from its chain, the enclosing classes followed by the simple
name. The chain is joined from the left, and a separator is written only when something stands in
front of it, so leading empty names leave no trace. Tools look generated types up by these names;
the beginnings of the names are fixed.
-/

set_option autoImplicit false

namespace RecordSynthesis

open RecordSynthesis.Text

/-! ## Types -/

/-- A chain as one name. -/
def chainText (separator : String) (chain : List String) : String :=
  joined separator (chain.dropWhile (· = ""))

/-- The simple name of a model's storage record. -/
def recordTypeName (chain : List String) : String := "$Realm" ++ chainText "_" chain

/-- The name of a model within its package. -/
def modelTypeName (chain : List String) : String := chainText "." chain

/-- The simple name of a model's implementation. -/
def implementationTypeName (chain : List String) : String := "AutoValue_" ++ chainText "_" chain

/-- The simple name of the class that a model's implementation extends. -/
def extendedTypeName (chain : List String) : String := "$AutoValue_" ++ chainText "_" chain

/-- The three classes of one model, all in its package. -/
structure ResolvedNames where
  record : ClassName
  model : ClassName
  implementation : ClassName
  deriving DecidableEq

/-- The classes of the model with the given place. -/
def ResolvedNames.resolve (package : String) (enclosing : List String) (simple : String) :
    ResolvedNames where
  record := .topLevel package (recordTypeName (enclosing ++ [simple]))
  model := ⟨package, enclosing, simple⟩
  implementation := .topLevel package (implementationTypeName (enclosing ++ [simple]))

/-! ## Members -/

/-- What follows a word at the start of an accessor, if it begins with an uppercase letter. -/
def afterWord? (word accessor : String) : Option String :=
  match word.toList.isPrefixOf? accessor.toList with
  | some (c :: rest) => if isUppercase c then some (String.ofList (c :: rest)) else none
  | _ => none

/-- The property behind an accessor: `getFooBar` gives `fooBar`. The word `is` counts only for
an accessor of a primitive boolean. -/
def propertyName (accessor : String) (isBoolean : Bool) : String :=
  let stem :=
    match afterWord? "get" accessor with
    | some rest => some rest
    | none => if isBoolean then afterWord? "is" accessor else none
  uncapitalized (stem.getD accessor)

/-- The setter of a property on the storage record. -/
def setterName (property : String) : String := "set" ++ capitalized property

end RecordSynthesis
