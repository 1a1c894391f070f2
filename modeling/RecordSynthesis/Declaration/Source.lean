import RecordSynthesis.Declaration.Imports

/-!
# Source files

A declaration is laid out as lines before any text is written: a line is a nesting depth and a
list of fragments, each a fixed text or a class. The layout knows neither the imports nor the
indentation (`TypeDeclaration.layout`). A source file then spells the classes by its import scope
and indents every line by its depth (`SourceFile.render`).
-/

set_option autoImplicit false

namespace RecordSynthesis

open RecordSynthesis.Text

/-! ## Lines of fragments -/

/-- A part of a line: a text that is written as it stands, or a class that the file spells. -/
inductive Fragment where
  | text (s : String)
  | ofClass (c : ClassName)
  deriving DecidableEq

/-- The fragments of several items with a text between them. -/
def separated (separator : String) : List (List Fragment) → List Fragment
  | [] => []
  | [item] => item
  | item :: more => item ++ .text separator :: separated separator more

/-- A line before spelling and indentation. -/
structure LayoutLine where
  depth : Nat
  fragments : List Fragment
  deriving DecidableEq

/-- The empty line. -/
def LayoutLine.blank : LayoutLine := ⟨0, []⟩

/-! ## Types, expressions and statements -/

mutual

/-- The fragments of a type. -/
def TypeName.fragments : TypeName → List Fragment
  | .primitive kind => [.text kind.name]
  | .ofClass name => [.ofClass name]
  | .parameterized raw args =>
    .ofClass raw :: .text "<" :: separated ", " (TypeName.fragmentsOfAll args) ++ [.text ">"]
  | .array component => component.fragments ++ [.text "[]"]

/-- The fragments of each type of a list. -/
def TypeName.fragmentsOfAll : List TypeName → List (List Fragment)
  | [] => []
  | arg :: more => arg.fragments :: TypeName.fragmentsOfAll more

end

/-- Arguments in parentheses. -/
def parenthesized (args : List (List Fragment)) : List Fragment :=
  .text "(" :: separated ", " args ++ [.text ")"]

mutual

/-- The fragments of an expression. -/
def Expression.fragments : Expression → List Fragment
  | .named text => [.text text]
  | .this => [.text "this"]
  | .field target name => target.fragments ++ [.text ".", .text name]
  | .call method args => .text method :: parenthesized (Expression.fragmentsOfAll args)
  | .invoke target method args =>
    target.fragments ++ .text "." :: .text method ::
      parenthesized (Expression.fragmentsOfAll args)
  | .invokeStatic owner method args =>
    .ofClass owner :: .text "." :: .text method :: parenthesized (Expression.fragmentsOfAll args)
  | .construct type args =>
    .text "new " :: .ofClass type :: parenthesized (Expression.fragmentsOfAll args)

/-- The fragments of each expression of a list. -/
def Expression.fragmentsOfAll : List Expression → List (List Fragment)
  | [] => []
  | arg :: more => arg.fragments :: Expression.fragmentsOfAll more

end

/-- The fragments of a statement. -/
def Statement.fragments : Statement → List Fragment
  | .declareLocal type name value =>
    type.fragments ++ .text " " :: .text name :: .text " = " :: value.fragments ++ [.text ";"]
  | .evaluate expression => expression.fragments ++ [.text ";"]
  | .assign target value => target.fragments ++ .text " = " :: value.fragments ++ [.text ";"]
  | .giveBack value => .text "return " :: value.fragments ++ [.text ";"]
  | .superCall args =>
    .text "super" :: parenthesized (Expression.fragmentsOfAll args) ++ [.text ";"]

/-! ## Members and classes -/

/-- Modifiers, each with a space behind it. -/
def modifierFragments (modifiers : List Modifier) : List Fragment :=
  modifiers.map fun m => .text (m.keyword ++ " ")

/-- One line for each annotation. -/
def annotationLines (annotations : List ClassName) : List LayoutLine :=
  annotations.map fun a => ⟨1, [.text "@", .ofClass a]⟩

/-- The lines of a field. -/
def FieldDeclaration.layout (f : FieldDeclaration) : List LayoutLine :=
  annotationLines f.annotations ++
    [⟨1, modifierFragments f.modifiers ++ f.type.fragments ++
      [.text " ", .text f.name, .text ";"]⟩]

/-- What stands in front of the parameters. A constructor has the name of its class. -/
def MethodKind.heading (typeName : String) : MethodKind → List Fragment
  | .method name (some type) => type.fragments ++ [.text " ", .text name]
  | .method name none => [.text "void", .text " ", .text name]
  | .constructor => [.text typeName]

/-- The fragments of a parameter. -/
def Parameter.fragments (p : Parameter) : List Fragment :=
  p.type.fragments ++ [.text " ", .text p.name]

/-- The lines of a method or constructor of the named class. -/
def MethodDeclaration.layout (typeName : String) (m : MethodDeclaration) : List LayoutLine :=
  annotationLines m.annotations ++
    ⟨1, modifierFragments m.modifiers ++ m.kind.heading typeName ++
      parenthesized (m.parameters.map (·.fragments)) ++ [.text " \x7b"]⟩ ::
    m.body.map (fun s => ⟨2, s.fragments⟩) ++ [⟨1, [.text "\x7d"]⟩]

/-- The first line of a class. -/
def TypeDeclaration.header (d : TypeDeclaration) : List Fragment :=
  modifierFragments d.modifiers ++ [.text "class ", .text d.name] ++
    (match d.superclass with
      | some type => .text " extends " :: type.fragments
      | none => []) ++
    (match d.interfaces with
      | [] => []
      | types => .text " implements " :: separated ", " (types.map (·.fragments))) ++
    [.text " \x7b"]

/-- The members of a class, fields before methods, each as its lines. -/
def TypeDeclaration.memberLayouts (d : TypeDeclaration) : List (List LayoutLine) :=
  d.fields.map (·.layout) ++ d.methods.map (·.layout d.name)

/-- The lines of a class. One empty line stands between neighbouring members. -/
def TypeDeclaration.layout (d : TypeDeclaration) : List LayoutLine :=
  ⟨0, d.header⟩ :: [LayoutLine.blank].intercalate d.memberLayouts ++ [⟨0, [.text "\x7d"]⟩]

/-! ## Files -/

/-- A file that declares one class. -/
structure SourceFile where
  package : String
  declaration : TypeDeclaration
  indent : String
  deriving Inhabited

namespace SourceFile

/-- The class that the file declares. -/
def className (f : SourceFile) : ClassName := .topLevel f.package f.declaration.name

/-- The scope by which the file spells classes. -/
def scope (f : SourceFile) : ImportScope := .ofDeclaration f.package f.declaration

/-- The line that names the package. The package without name has none. -/
def packageLines (f : SourceFile) : List LayoutLine :=
  if f.package = "" then [] else [⟨0, [.text "package ", .text f.package, .text ";"]⟩, .blank]

/-- The import block. -/
def importBlock (f : SourceFile) : List LayoutLine :=
  match f.scope.importLines with
  | [] => []
  | names => names.map (fun n => ⟨0, [.text "import ", .text n, .text ";"]⟩) ++ [.blank]

/-- All lines of the file. -/
def layout (f : SourceFile) : List LayoutLine :=
  f.packageLines ++ f.importBlock ++ f.declaration.layout

end SourceFile

/-- The text of a fragment in a scope. -/
def Fragment.spell (scope : ImportScope) : Fragment → String
  | .text s => s
  | .ofClass c => scope.spell c

/-- The text of a line in a scope, without indentation. -/
def LayoutLine.text (scope : ImportScope) (l : LayoutLine) : String :=
  String.join (l.fragments.map (·.spell scope))

/-- The indentation of a line. -/
def LayoutLine.margin (indent : String) (l : LayoutLine) : String :=
  String.join (List.replicate l.depth indent)

/-- The text of the file. Every line ends with a line feed. -/
def SourceFile.render (f : SourceFile) : String :=
  let scope := f.scope
  String.join (f.layout.map fun l => l.margin f.indent ++ l.text scope ++ "\n")

end RecordSynthesis
