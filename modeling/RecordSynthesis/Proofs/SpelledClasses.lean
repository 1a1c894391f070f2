import RecordSynthesis.Declaration.Source

/-!
# The classes that a file spells

Imports are chosen from the classes that a declaration mentions, and the file then spells the
classes that stand in its layout. The two lists come from separate recursions over the declaration,
one that collects classes and one that lays out lines. They are the same list: the layout, read line
by line, holds the mentioned classes in the same order and as often as they are mentioned
(`TypeDeclaration.spelled_layout`). The lines in front of the declaration hold no class at all, so a
file spells what its declaration mentions (`SourceFile.spelled_eq`).
-/

set_option autoImplicit false

namespace RecordSynthesis

/-! ## Classes in fragments -/

/-- The class that a fragment stands for. A text stands for none. -/
def Fragment.class? : Fragment → Option ClassName
  | .text _ => none
  | .ofClass c => some c

/-- The classes that stand in fragments, in their order. -/
def classesIn (fragments : List Fragment) : List ClassName := fragments.filterMap Fragment.class?

/-- The classes that stand in lines, in their order. -/
def spelledIn (lines : List LayoutLine) : List ClassName :=
  lines.flatMap fun l => classesIn l.fragments

/-- The classes that a file spells, from its first line to its last. -/
def SourceFile.spelled (f : SourceFile) : List ClassName := spelledIn f.layout

section Fragments

variable {fragments more : List Fragment} {c : ClassName}

@[simp]
theorem classesIn_nil : classesIn [] = [] := rfl

@[simp]
theorem classesIn_text (s : String) : classesIn (.text s :: fragments) = classesIn fragments := rfl

@[simp]
theorem classesIn_ofClass : classesIn (.ofClass c :: fragments) = c :: classesIn fragments := rfl

@[simp]
theorem classesIn_append : classesIn (fragments ++ more) = classesIn fragments ++ classesIn more :=
  List.filterMap_append

/-- A separator adds no class. -/
@[simp]
theorem classesIn_separated (separator : String) (items : List (List Fragment)) :
    classesIn (separated separator items) = items.flatMap classesIn := by
  induction items using separated.induct with
  | case1 => rfl
  | case2 item => simp [separated]
  | case3 item more nonempty ih =>
      rw [separated, classesIn_append, classesIn_text, ih, List.flatMap_cons]
      exact nonempty

@[simp]
theorem classesIn_parenthesized (args : List (List Fragment)) :
    classesIn (parenthesized args) = args.flatMap classesIn := by
  simp [parenthesized]

@[simp]
theorem classesIn_modifierFragments (modifiers : List Modifier) :
    classesIn (modifierFragments modifiers) = [] := by
  simp [classesIn, modifierFragments, Fragment.class?]

end Fragments

/-! ## Types, expressions and statements -/

mutual

@[simp]
theorem TypeName.classesIn_fragments : ∀ type : TypeName, classesIn type.fragments = type.classes
  | .primitive _ => rfl
  | .ofClass _ => rfl
  | .parameterized raw args => by
      have inside := TypeName.classesIn_fragmentsOfAll args
      simp [TypeName.fragments, TypeName.classes, inside]
  | .array component => by
      have inside := TypeName.classesIn_fragments component
      simp [TypeName.fragments, TypeName.classes, inside]

theorem TypeName.classesIn_fragmentsOfAll : ∀ args : List TypeName,
    (TypeName.fragmentsOfAll args).flatMap classesIn = TypeName.classesOfAll args
  | [] => rfl
  | arg :: more => by
      have first := TypeName.classesIn_fragments arg
      have others := TypeName.classesIn_fragmentsOfAll more
      rw [TypeName.fragmentsOfAll, TypeName.classesOfAll, List.flatMap_cons, first, others]

end

mutual

@[simp]
theorem Expression.classesIn_fragments : ∀ e : Expression, classesIn e.fragments = e.mentioned
  | .named _ => rfl
  | .this => rfl
  | .field target _ => by
      have inside := Expression.classesIn_fragments target
      simp [Expression.fragments, Expression.mentioned, inside]
  | .call _ args => by
      have inside := Expression.classesIn_fragmentsOfAll args
      simp [Expression.fragments, Expression.mentioned, inside]
  | .invoke target _ args => by
      have before := Expression.classesIn_fragments target
      have inside := Expression.classesIn_fragmentsOfAll args
      simp [Expression.fragments, Expression.mentioned, before, inside]
  | .invokeStatic owner _ args => by
      have inside := Expression.classesIn_fragmentsOfAll args
      simp [Expression.fragments, Expression.mentioned, inside]
  | .construct type args => by
      have inside := Expression.classesIn_fragmentsOfAll args
      simp [Expression.fragments, Expression.mentioned, inside]

@[simp]
theorem Expression.classesIn_fragmentsOfAll : ∀ args : List Expression,
    (Expression.fragmentsOfAll args).flatMap classesIn = Expression.mentionedInAll args
  | [] => rfl
  | arg :: more => by
      have first := Expression.classesIn_fragments arg
      have others := Expression.classesIn_fragmentsOfAll more
      rw [Expression.fragmentsOfAll, Expression.mentionedInAll, List.flatMap_cons, first, others]

end

@[simp]
theorem Statement.classesIn_fragments (s : Statement) : classesIn s.fragments = s.mentioned := by
  cases s <;> simp [Statement.fragments, Statement.mentioned]

/-! ## Members -/

section Lines

variable {lines more : List LayoutLine} {l : LayoutLine}

@[simp]
theorem spelledIn_nil : spelledIn [] = [] := rfl

@[simp]
theorem spelledIn_cons : spelledIn (l :: lines) = classesIn l.fragments ++ spelledIn lines := rfl

@[simp]
theorem spelledIn_append : spelledIn (lines ++ more) = spelledIn lines ++ spelledIn more :=
  List.flatMap_append

@[simp]
theorem spelledIn_annotationLines (annotations : List ClassName) :
    spelledIn (annotationLines annotations) = annotations := by
  induction annotations with
  | nil => rfl
  | cons a annotations ih =>
      change a :: spelledIn (annotationLines annotations) = a :: annotations
      rw [ih]

end Lines

@[simp]
theorem FieldDeclaration.spelledIn_layout (f : FieldDeclaration) :
    spelledIn f.layout = f.mentioned := by
  simp [FieldDeclaration.layout, FieldDeclaration.mentioned]

/-- A constructor has no result type, and its heading holds no class. -/
theorem MethodDeclaration.classesIn_heading (m : MethodDeclaration) (typeName : String) :
    classesIn (m.kind.heading typeName) = (m.returns?.map (·.classes)).getD [] := by
  rw [MethodDeclaration.returns?]
  cases m.kind with
  | constructor => rfl
  | method name returns =>
      cases returns with
      | none => rfl
      | some type => simp [MethodKind.heading]

theorem classesIn_parameters (parameters : List Parameter) :
    (parameters.map (·.fragments)).flatMap classesIn = parameters.flatMap (·.type.classes) := by
  simp [List.flatMap_map, Parameter.fragments]

theorem spelledIn_body (body : List Statement) :
    spelledIn (body.map fun s => ⟨2, s.fragments⟩) = body.flatMap (·.mentioned) := by
  simp [spelledIn, List.flatMap_map]

@[simp]
theorem MethodDeclaration.spelledIn_layout (m : MethodDeclaration) (typeName : String) :
    spelledIn (m.layout typeName) = m.mentioned := by
  simp [MethodDeclaration.layout, MethodDeclaration.mentioned, classesIn_heading,
    classesIn_parameters, spelledIn_body]

/-! ## Declarations and files -/

namespace TypeDeclaration

theorem classesIn_header (d : TypeDeclaration) :
    classesIn d.header =
      (d.superclass.map (·.classes)).getD [] ++ d.interfaces.flatMap (·.classes) := by
  obtain ⟨modifiers, name, superclass, interfaces, fields, methods⟩ := d
  cases superclass <;> cases interfaces <;> simp [header, List.flatMap_map]

/-- The empty lines between members hold no class. -/
theorem spelledIn_intercalate (members : List (List LayoutLine)) :
    spelledIn ([LayoutLine.blank].intercalate members) = members.flatMap spelledIn := by
  induction members with
  | nil => rfl
  | cons first members ih =>
      cases members with
      | nil => simp
      | cons second members =>
          rw [List.intercalate_cons_cons, spelledIn_append, spelledIn_append, ih, List.flatMap_cons]
          simp [LayoutLine.blank]

theorem spelledIn_memberLayouts (d : TypeDeclaration) :
    d.memberLayouts.flatMap spelledIn =
      d.fields.flatMap (·.mentioned) ++ d.methods.flatMap (·.mentioned) := by
  simp [memberLayouts, List.flatMap_map]

/-- **The layout of a declaration holds what the declaration mentions.** -/
theorem spelled_layout (d : TypeDeclaration) : spelledIn d.layout = d.mentioned := by
  rw [layout, spelledIn_append, spelledIn_cons, classesIn_header, spelledIn_intercalate,
    spelledIn_memberLayouts, mentioned]
  simp

end TypeDeclaration

namespace SourceFile

theorem spelledIn_packageLines (f : SourceFile) : spelledIn f.packageLines = [] := by
  rw [packageLines]
  split
  · rfl
  · simp [LayoutLine.blank]

/-- An import line is a text: it names its class in full and is not spelled by the scope. -/
theorem spelledIn_importBlock (f : SourceFile) : spelledIn f.importBlock = [] := by
  rw [importBlock]
  split
  · rfl
  · simp [LayoutLine.blank, spelledIn, List.flatMap_map]

/-- **A file spells what its declaration mentions.** -/
theorem spelled_eq (f : SourceFile) : f.spelled = f.declaration.mentioned := by
  rw [spelled, layout, spelledIn_append, spelledIn_append, spelledIn_packageLines,
    spelledIn_importBlock, f.declaration.spelled_layout]
  rfl

end SourceFile

end RecordSynthesis
