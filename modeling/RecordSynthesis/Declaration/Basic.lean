import RecordSynthesis.Declaration.TypeName

/-!
# Declarations

Classes with fields, methods and method bodies as data. `TypeDeclaration.mentioned` collects every
class that a declaration mentions anywhere, bodies included; imports are chosen from this list.
-/

set_option autoImplicit false

namespace RecordSynthesis

/-! ## Expressions and statements -/

/-- An expression of a method body. -/
inductive Expression where
  /-- A local variable, parameter or field by its bare name. -/
  | named (text : String)
  /-- The receiver. -/
  | this
  /-- `target.name`. -/
  | field (target : Expression) (name : String)
  /-- `method(args)` on the receiver. -/
  | call (method : String) (args : List Expression)
  /-- `target.method(args)`. -/
  | invoke (target : Expression) (method : String) (args : List Expression)
  /-- `Owner.method(args)`. -/
  | invokeStatic (owner : ClassName) (method : String) (args : List Expression)
  /-- `new Class(args)`. -/
  | construct (type : ClassName) (args : List Expression)
  deriving Inhabited

/-- A statement of a method body. -/
inductive Statement where
  /-- `Type name = value;`. -/
  | declareLocal (type : TypeName) (name : String) (value : Expression)
  /-- `expression;`. -/
  | evaluate (expression : Expression)
  /-- `target = value;`. -/
  | assign (target value : Expression)
  /-- `return value;`. -/
  | giveBack (value : Expression)
  /-- `super(args);`. -/
  | superCall (args : List Expression)
  deriving Inhabited

/-! ## Members and classes -/

/-- The modifiers of declarations. -/
inductive Modifier where
  | publicAccess
  | privateAccess
  | abstractClass
  | sealed
  deriving DecidableEq

/-- The keyword of a modifier. -/
def Modifier.keyword : Modifier → String
  | .publicAccess => "public"
  | .privateAccess => "private"
  | .abstractClass => "abstract"
  | .sealed => "final"

/-- A field. -/
structure FieldDeclaration where
  annotations : List ClassName := []
  modifiers : List Modifier := []
  type : TypeName
  name : String
  deriving Inhabited

/-- A parameter of a method or constructor. -/
structure Parameter where
  type : TypeName
  name : String
  deriving Inhabited

/-- What a member with a body is. -/
inductive MethodKind where
  /-- A named method. One without result type returns nothing. -/
  | method (name : String) (returns : Option TypeName)
  | constructor
  deriving Inhabited

/-- A method or constructor with its body. -/
structure MethodDeclaration where
  annotations : List ClassName := []
  modifiers : List Modifier := []
  kind : MethodKind
  parameters : List Parameter := []
  body : List Statement := []
  deriving Inhabited

/-- The name of a method. A constructor has none of its own. -/
def MethodDeclaration.name? (m : MethodDeclaration) : Option String :=
  match m.kind with
  | .method name _ => some name
  | .constructor => none

/-- The result type of a method. -/
def MethodDeclaration.returns? (m : MethodDeclaration) : Option TypeName :=
  match m.kind with
  | .method _ returns => returns
  | .constructor => none

/-- Whether the member is a constructor. -/
def MethodDeclaration.isConstructor (m : MethodDeclaration) : Bool :=
  match m.kind with
  | .method _ _ => false
  | .constructor => true

/-- A class. -/
structure TypeDeclaration where
  modifiers : List Modifier := []
  name : String
  superclass : Option TypeName := none
  interfaces : List TypeName := []
  fields : List FieldDeclaration := []
  methods : List MethodDeclaration := []
  deriving Inhabited

namespace TypeDeclaration

/-- The first field of a name. -/
def findField? (d : TypeDeclaration) (name : String) : Option FieldDeclaration :=
  d.fields.find? fun f => f.name = name

/-- The first method of a name. -/
def findMethod? (d : TypeDeclaration) (name : String) : Option MethodDeclaration :=
  d.methods.find? fun m => m.name? = some name

/-- The first constructor. -/
def constructor? (d : TypeDeclaration) : Option MethodDeclaration :=
  d.methods.find? (·.isConstructor)

end TypeDeclaration

/-! ## The classes that a declaration mentions -/

mutual

/-- The classes that an expression mentions. -/
def Expression.mentioned : Expression → List ClassName
  | .named _ => []
  | .this => []
  | .field target _ => target.mentioned
  | .call _ args => Expression.mentionedInAll args
  | .invoke target _ args => target.mentioned ++ Expression.mentionedInAll args
  | .invokeStatic owner _ args => owner :: Expression.mentionedInAll args
  | .construct type args => type :: Expression.mentionedInAll args

/-- The classes that a list of arguments mentions. -/
def Expression.mentionedInAll : List Expression → List ClassName
  | [] => []
  | arg :: more => arg.mentioned ++ Expression.mentionedInAll more

end

/-- The classes that a statement mentions. -/
def Statement.mentioned : Statement → List ClassName
  | .declareLocal type _ value => type.classes ++ value.mentioned
  | .evaluate expression => expression.mentioned
  | .assign target value => target.mentioned ++ value.mentioned
  | .giveBack value => value.mentioned
  | .superCall args => Expression.mentionedInAll args

/-- The classes that a field mentions. -/
def FieldDeclaration.mentioned (f : FieldDeclaration) : List ClassName :=
  f.annotations ++ f.type.classes

/-- The classes that a method or constructor mentions. -/
def MethodDeclaration.mentioned (m : MethodDeclaration) : List ClassName :=
  m.annotations ++ (m.returns?.map (·.classes)).getD [] ++
    m.parameters.flatMap (·.type.classes) ++ m.body.flatMap (·.mentioned)

/-- Every class that a declaration mentions. -/
def TypeDeclaration.mentioned (d : TypeDeclaration) : List ClassName :=
  (d.superclass.map (·.classes)).getD [] ++ d.interfaces.flatMap (·.classes) ++
    d.fields.flatMap (·.mentioned) ++ d.methods.flatMap (·.mentioned)

end RecordSynthesis
