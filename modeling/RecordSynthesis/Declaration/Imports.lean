import RecordSynthesis.Declaration.Basic
import RecordSynthesis.Dictionary

/-!
# Imports

A source file may write a class by its simple name only if the name is unambiguous there. The
declared class and the classes of the file's own package keep their simple names. Of the mentioned
classes of other packages that share a simple name not so taken, the least in class order is
imported, and the others are written in full (`ImportScope.spell`). Nothing here depends on the
order in which a declaration mentions its classes.
-/

set_option autoImplicit false

namespace RecordSynthesis

/-- The least class of a list in class order. -/
def leastClass? : List ClassName → Option ClassName
  | [] => none
  | c :: rest =>
    match leastClass? rest with
    | none => some c
    | some best => if compare best c = .lt then some best else some c

/-- What decides how a file writes classes: its package, the class that it declares and the
outermost classes that it mentions, each once. -/
structure ImportScope where
  package : String
  declared : String
  mentioned : List ClassName

namespace ImportScope

/-- The scope of a declaration in a package. -/
def ofDeclaration (package : String) (d : TypeDeclaration) : ImportScope :=
  ⟨package, d.name, (d.mentioned.map (·.outermost)).eraseDups⟩

/-- The simple names that the declared class and the mentioned classes of the package take. -/
def isReserved (s : ImportScope) (simple : String) : Bool :=
  simple = s.declared || s.mentioned.any fun c => c.package = s.package && c.simple = simple

/-- Whether a class lies in another package, and that package has a name. -/
def isForeign (s : ImportScope) (c : ClassName) : Bool :=
  c.package ≠ s.package && c.package ≠ ""

/-- The imported class of a simple name. A reserved name has none. -/
def imported? (s : ImportScope) (simple : String) : Option ClassName :=
  if s.isReserved simple then none
  else leastClass? (s.mentioned.filter fun c => c.simple = simple && s.isForeign c)

/-- The canonical names of the imported classes in ascending order, each once. -/
def importLines (s : ImportScope) : List String :=
  let names := s.mentioned.filterMap fun c => (s.imported? c.simple).map (·.canonicalName)
  (Dictionary.ofKeys names fun _ => ()).keys

/-- Whether the file may write the class without its package. -/
def isVisible (s : ImportScope) (c : ClassName) : Bool :=
  let top := c.outermost
  top.package = s.package || top.package = "" || s.imported? top.simple = some top

/-- How the file writes a class. -/
def spell (s : ImportScope) (c : ClassName) : String :=
  if s.isVisible c then c.referenceName else c.canonicalName

end ImportScope

end RecordSynthesis
