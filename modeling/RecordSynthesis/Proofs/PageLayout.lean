import RecordSynthesis.Proofs.Imports

/-!
# The layout of pages

A file can also be written from top to bottom by a writer that counts how deep it stands and
remembers whether a member came before (`Writer.writeFile`). It emits the lines of the layout, each
behind as many indentations as the line is deep (`Writer.writeFile_eq`); what carries the induction
over the members is that every member begins and ends at the depth of members and that the empty
lines in front of them are those between neighbours (`Writer.foldl_writeMember`).

The main statement is `lines_variant`: neither the indentation nor the order of fields and of
methods changes the page of a file, which holds the lines of the package, the import block, the
header, the last line and a block of lines for every member. The order of members is the order of
their blocks, and the indentation stands in front of the lines of the page. Imports depend on the
mentioned classes as a set (`Rearranged`), and a block on nothing but its member and the imports.
-/

set_option autoImplicit false

namespace RecordSynthesis

/-! ## The writer -/

/-- A writer on its way through a file: the lines so far, and how deep the next one is. -/
structure Writer where
  scope : ImportScope
  indent : String
  depth : Nat
  lines : List String

namespace Writer

/-- Writes a line at the depth of the writer. -/
def write (w : Writer) (fragments : List Fragment) : Writer :=
  let line : LayoutLine := ⟨w.depth, fragments⟩
  { w with lines := w.lines ++ [line.margin w.indent ++ line.text w.scope] }

/-- Leaves a line empty. -/
def skip (w : Writer) : Writer := { w with lines := w.lines ++ [""] }

/-- Goes one level deeper. -/
def enter (w : Writer) : Writer := { w with depth := w.depth + 1 }

/-- Comes one level back. -/
def leave (w : Writer) : Writer := { w with depth := w.depth - 1 }

/-- Writes each annotation on a line. -/
def writeAnnotations (w : Writer) (annotations : List ClassName) : Writer :=
  annotations.foldl (fun w a => w.write [.text "@", .ofClass a]) w

/-- Writes a field. -/
def writeField (w : Writer) (f : FieldDeclaration) : Writer :=
  (w.writeAnnotations f.annotations).write
    (modifierFragments f.modifiers ++ f.type.fragments ++ [.text " ", .text f.name, .text ";"])

/-- Writes a method or constructor, with its body one level deeper. -/
def writeMethod (typeName : String) (w : Writer) (m : MethodDeclaration) : Writer :=
  let w := (w.writeAnnotations m.annotations).write
    (modifierFragments m.modifiers ++ m.kind.heading typeName ++
      parenthesized (m.parameters.map (·.fragments)) ++ [.text " \x7b"])
  let w := m.body.foldl (fun w s => w.write s.fragments) w.enter
  w.leave.write [.text "\x7d"]

/-- Writes a member, behind an empty line unless it is the first one. -/
def writeMember {ι : Type} (write : Writer → ι → Writer) (state : Bool × Writer) (member : ι) :
    Bool × Writer :=
  (false, write (if state.1 then state.2 else state.2.skip) member)

/-- Writes a class. Fields and methods share what is remembered of earlier members. -/
def writeType (w : Writer) (d : TypeDeclaration) : Writer :=
  let state := d.fields.foldl (writeMember writeField) (true, (w.write d.header).enter)
  let state := d.methods.foldl (writeMember (writeMethod d.name)) state
  state.2.leave.write [.text "\x7d"]

/-- Writes the line of a package that has a name. -/
def writePackage (w : Writer) (package : String) : Writer :=
  if package = "" then w else (w.write [.text "package ", .text package, .text ";"]).skip

/-- Writes the import block, unless it has no line. -/
def writeImports (w : Writer) (names : List String) : Writer :=
  if names.isEmpty then w
  else (names.foldl (fun w n => w.write [.text "import ", .text n, .text ";"]) w).skip

/-- Writes a file from its first line to its last. -/
def writeFile (f : SourceFile) : Writer :=
  let w : Writer := ⟨f.scope, f.indent, 0, []⟩
  ((w.writePackage f.package).writeImports f.scope.importLines).writeType f.declaration

/-! ## Laid-out lines -/

/-- The writer after laid-out lines, at the depth where it was. -/
def after (w : Writer) (layout : List LayoutLine) : Writer :=
  { w with lines := w.lines ++ layout.map fun l => l.margin w.indent ++ l.text w.scope }

variable {w : Writer} {layout more : List LayoutLine}

@[simp]
theorem depth_after : (w.after layout).depth = w.depth := rfl

@[simp]
theorem after_nil : w.after [] = w := by
  simp [after]

@[simp]
theorem after_after : (w.after layout).after more = w.after (layout ++ more) := by
  simp [after]

@[simp]
theorem depth_enter : w.enter.depth = w.depth + 1 := rfl

theorem write_eq (w : Writer) (fragments : List Fragment) :
    w.write fragments = w.after [⟨w.depth, fragments⟩] := rfl

theorem skip_eq (w : Writer) : w.skip = w.after [.blank] := rfl

/-- What is written deeper inside stays when the writer comes back. -/
theorem leave_after_enter : (w.enter.after layout).leave = w.after layout := rfl

theorem foldl_write {ι : Type} (fragments : ι → List Fragment) (items : List ι) (w : Writer) :
    items.foldl (fun w i => w.write (fragments i)) w =
      w.after (items.map fun i => ⟨w.depth, fragments i⟩) := by
  induction items generalizing w with
  | nil => simp
  | cons i items ih => rw [List.foldl_cons, ih, write_eq, after_after, depth_after]; rfl

/-! ## Members -/

theorem writeAnnotations_eq (inside : w.depth = 1) (annotations : List ClassName) :
    w.writeAnnotations annotations = w.after (annotationLines annotations) := by
  rw [writeAnnotations, foldl_write, inside]
  rfl

theorem writeField_eq (inside : w.depth = 1) (f : FieldDeclaration) :
    w.writeField f = w.after f.layout := by
  rw [writeField, writeAnnotations_eq inside, write_eq, after_after, depth_after, inside]
  rfl

theorem writeMethod_eq (typeName : String) (inside : w.depth = 1) (m : MethodDeclaration) :
    w.writeMethod typeName m = w.after (m.layout typeName) := by
  simp only [writeMethod, writeAnnotations_eq inside, foldl_write, leave_after_enter]
  simp only [write_eq, after_after, depth_after, depth_enter, inside]
  simp [MethodDeclaration.layout]

/-- The lines of members behind others, or in front of all. -/
def behind (first : Bool) (blocks : List (List LayoutLine)) : List LayoutLine :=
  if first then [LayoutLine.blank].intercalate blocks else blocks.flatMap (LayoutLine.blank :: ·)

theorem behind_append (first : Bool) (blocks others : List (List LayoutLine)) :
    behind first blocks ++ behind (first && blocks.isEmpty) others =
      behind first (blocks ++ others) := by
  have intercalate_cons : ∀ (block : List LayoutLine) (blocks : List (List LayoutLine)),
      [LayoutLine.blank].intercalate (block :: blocks) =
        block ++ blocks.flatMap (LayoutLine.blank :: ·) := by
    intro block blocks
    induction blocks generalizing block with
    | nil => simp
    | cons second blocks ih => simp [List.intercalate_cons_cons, ih]
  cases first with
  | false => simp [behind]
  | true =>
      cases blocks with
      | nil => simp [behind]
      | cons block blocks => simp [behind, intercalate_cons]

/-- **Writing members.** The empty lines are those between neighbours. -/
theorem foldl_writeMember {ι : Type} {write : Writer → ι → Writer} {block : ι → List LayoutLine}
    (laidOut : ∀ w i, w.depth = 1 → write w i = w.after (block i)) (members : List ι)
    (first : Bool) (inside : w.depth = 1) :
    members.foldl (writeMember write) (first, w) =
      (first && members.isEmpty, w.after (behind first (members.map block))) := by
  induction members generalizing first w with
  | nil => cases first <;> simp [behind]
  | cons member members ih =>
      -- An empty line comes with the member behind it, so the flag is off for all the others.
      have next : write (if first then w else w.skip) member =
          w.after (behind first [block member]) := by
        cases first with
        | true => simp [behind, laidOut w member inside]
        | false =>
            rw [if_neg Bool.false_ne_true, laidOut w.skip member inside, skip_eq, after_after]
            simp [behind]
      have others := ih (w := w.after (behind first [block member])) false inside
      have joined := behind_append first [block member] (members.map block)
      rw [List.foldl_cons, writeMember, next, others, after_after]
      rw [List.isEmpty_cons, Bool.and_false, List.singleton_append] at joined
      rw [joined, List.isEmpty_cons, Bool.and_false, Bool.false_and, List.map_cons]

/-! ## Files -/

theorem writeType_eq (outside : w.depth = 0) (d : TypeDeclaration) :
    w.writeType d = w.after d.layout := by
  have opened : (w.write d.header).enter.depth = 1 := by
    rw [depth_enter, write_eq, depth_after, outside]
  have laidOutField : ∀ w f, w.depth = 1 → writeField w f = w.after f.layout :=
    fun _ f inside => writeField_eq inside f
  have laidOutMethod : ∀ w m, w.depth = 1 → writeMethod d.name w m = w.after (m.layout d.name) :=
    fun _ m inside => writeMethod_eq d.name inside m
  have fields := foldl_writeMember laidOutField d.fields true opened
  have methods := foldl_writeMember laidOutMethod d.methods (true && d.fields.isEmpty)
    (w := (w.write d.header).enter.after (behind true (d.fields.map (·.layout)))) opened
  have members : behind true (d.fields.map (·.layout)) ++
      behind (true && d.fields.isEmpty) (d.methods.map (·.layout d.name)) =
        [LayoutLine.blank].intercalate d.memberLayouts := by
    have joined := behind_append true (d.fields.map (·.layout)) (d.methods.map (·.layout d.name))
    rwa [List.isEmpty_map] at joined
  rw [writeType, fields, methods, after_after, members, leave_after_enter]
  rw [write_eq, write_eq, after_after, after_after, depth_after, depth_after, outside]
  simp [TypeDeclaration.layout]

theorem writePackage_eq (f : SourceFile) (outside : w.depth = 0) :
    w.writePackage f.package = w.after f.packageLines := by
  rw [writePackage, SourceFile.packageLines]
  split
  next => rw [after_nil]
  next => rw [skip_eq, write_eq, after_after, outside]; rfl

theorem writeImports_eq (f : SourceFile) (outside : w.depth = 0) :
    w.writeImports f.scope.importLines = w.after f.importBlock := by
  rw [writeImports, SourceFile.importBlock]
  cases f.scope.importLines with
  | nil => rw [List.isEmpty_nil, if_pos rfl, after_nil]
  | cons name names =>
      rw [List.isEmpty_cons, if_neg Bool.false_ne_true, foldl_write, skip_eq, after_after, outside]

/-- **The writer emits the lines of the layout** and ends at the depth where it began. -/
theorem writeFile_eq (f : SourceFile) : writeFile f =
    ⟨f.scope, f.indent, 0, f.layout.map fun l => l.margin f.indent ++ l.text f.scope⟩ := by
  rw [writeFile, writePackage_eq f rfl, writeImports_eq f (depth_after ..), writeType_eq rfl,
    after_after, after_after, after, SourceFile.layout, List.append_assoc]
  rfl

end Writer

/-! ## Lines of text -/

/-- A line of text and how many indentations stand in front of it. -/
structure TextLine where
  depth : Nat
  text : String
  deriving DecidableEq

namespace TextLine

/-- The line with its indentations. -/
def indented (indent : String) (l : TextLine) : String :=
  String.join (List.replicate l.depth indent) ++ l.text

/-- The empty line. -/
def blank : TextLine := ⟨0, ""⟩

/-- The lines could be those of a member: there are some, all of them inside the class, and none of
them is empty. -/
structure IsBlock (block : List TextLine) : Prop where
  nonempty : block ≠ []
  inside : ∀ l ∈ block, l.depth = 1 ∨ l.depth = 2
  text : ∀ l ∈ block, l.text ≠ ""

end TextLine

section Intercalate

variable {α β : Type} {separator : List α}

theorem map_intercalate (f : α → β) (separator : List α) (blocks : List (List α)) :
    (separator.intercalate blocks).map f =
      (separator.map f).intercalate (blocks.map (List.map f)) := by
  induction blocks with
  | nil => rfl
  | cons block blocks ih =>
      cases blocks with
      | nil => simp
      | cons second blocks =>
          rw [List.intercalate_cons_cons, List.map_append, List.map_append, ih]
          simp only [List.map_cons, List.intercalate_cons_cons]

theorem forall_mem_intercalate {P : α → Prop} (between : ∀ x ∈ separator, P x)
    {blocks : List (List α)} (inside : ∀ block ∈ blocks, ∀ x ∈ block, P x) :
    ∀ x ∈ separator.intercalate blocks, P x := by
  induction blocks with
  | nil => exact fun x member => (List.not_mem_nil member).elim
  | cons block blocks ih =>
      obtain ⟨first, others⟩ := List.forall_mem_cons.1 inside
      cases blocks with
      | nil => simpa using first
      | cons second blocks =>
          rw [List.intercalate_cons_cons, List.forall_mem_append, List.forall_mem_append]
          exact ⟨⟨first, between⟩, ih others⟩

end Intercalate

/-- The line of text of a laid-out line. -/
def LayoutLine.spelled (scope : ImportScope) (l : LayoutLine) : TextLine := ⟨l.depth, l.text scope⟩

namespace LayoutLine

variable {scope : ImportScope} {l : LayoutLine}

/-- A line with a text in it is not empty, however its classes are spelled. -/
theorem text_ne_empty {s : String} (within : Fragment.text s ∈ l.fragments) (nonempty : s ≠ "") :
    l.text scope ≠ "" := by
  intro none
  have letters := congrArg String.toList none
  rw [text, String.toList_join, String.toList_empty, List.flatMap_eq_nil_iff] at letters
  exact nonempty (String.toList_eq_nil_iff.1 (letters s (List.mem_map.2 ⟨_, within, rfl⟩)))

/-- Lines of members, each with a text in it, are those of a block in every scope. -/
theorem isBlock_spelled {block : List LayoutLine} (nonempty : block ≠ [])
    (line : ∀ l ∈ block, (l.depth = 1 ∨ l.depth = 2) ∧
      ∃ s, Fragment.text s ∈ l.fragments ∧ s ≠ "") :
    TextLine.IsBlock (block.map (·.spelled scope)) where
  nonempty := mt List.map_eq_nil_iff.1 nonempty
  inside := List.forall_mem_map.2 fun l member => (line l member).1
  text := List.forall_mem_map.2 fun l member =>
    have ⟨_, within, nonempty⟩ := (line l member).2
    text_ne_empty within nonempty

end LayoutLine

theorem annotationLines_inside (annotations : List ClassName) :
    ∀ l ∈ annotationLines annotations, (l.depth = 1 ∨ l.depth = 2) ∧
      ∃ s, Fragment.text s ∈ l.fragments ∧ s ≠ "" :=
  List.forall_mem_map.2 fun _ _ => ⟨.inl rfl, "@", List.mem_cons_self, by decide⟩

/-- Every statement ends with a semicolon. -/
theorem Statement.mem_fragments (s : Statement) : Fragment.text ";" ∈ s.fragments := by
  cases s <;> simp [Statement.fragments]

theorem FieldDeclaration.isBlock (f : FieldDeclaration) (scope : ImportScope) :
    TextLine.IsBlock (f.layout.map (·.spelled scope)) := by
  refine LayoutLine.isBlock_spelled (by simp [FieldDeclaration.layout]) ?_
  rw [FieldDeclaration.layout, List.forall_mem_append, List.forall_mem_singleton]
  exact ⟨annotationLines_inside _, .inl rfl, ";", by simp, by decide⟩

theorem MethodDeclaration.isBlock (m : MethodDeclaration) (typeName : String)
    (scope : ImportScope) : TextLine.IsBlock ((m.layout typeName).map (·.spelled scope)) := by
  refine LayoutLine.isBlock_spelled (by simp [MethodDeclaration.layout]) ?_
  rw [MethodDeclaration.layout, List.forall_mem_append, List.forall_mem_append,
    List.forall_mem_cons, List.forall_mem_map, List.forall_mem_singleton]
  refine ⟨⟨annotationLines_inside _, ⟨.inl rfl, " \x7b", by simp, by decide⟩, ?_⟩, ?_⟩
  · exact fun s _ => ⟨.inr rfl, ";", s.mem_fragments, by decide⟩
  · exact ⟨.inl rfl, "\x7d", by simp, by decide⟩

/-! ## Pages -/

/-- The parts of a page, with a block of lines for every member. -/
structure Page where
  package : List TextLine
  imports : List TextLine
  header : TextLine
  ofField : FieldDeclaration → List TextLine
  ofMethod : MethodDeclaration → List TextLine
  last : TextLine

namespace Page

/-- The lines of a page with members. One empty line stands between neighbouring blocks. -/
def lines (p : Page) (fields : List FieldDeclaration) (methods : List MethodDeclaration) :
    List TextLine :=
  p.package ++ p.imports ++
    p.header :: [TextLine.blank].intercalate (fields.map p.ofField ++ methods.map p.ofMethod) ++
      [p.last]

/-- Members stand inside the class and everything else outside, and between the first and the last
line of the class only the lines between members are empty. -/
structure Regular (p : Page) : Prop where
  outside : ∀ l ∈ p.package ++ p.imports, l.depth = 0
  header : p.header.depth = 0 ∧ p.header.text ≠ ""
  field : ∀ m, TextLine.IsBlock (p.ofField m)
  method : ∀ m, TextLine.IsBlock (p.ofMethod m)
  last : p.last = ⟨0, "\x7d"⟩

variable {p : Page} {fields : List FieldDeclaration} {methods : List MethodDeclaration}

theorem Regular.depth_le (regular : p.Regular) : ∀ l ∈ p.lines fields methods, l.depth ≤ 2 := by
  have inside : ∀ {block}, TextLine.IsBlock block → ∀ l ∈ block, l.depth ≤ 2 := by
    intro block isBlock l member
    rcases isBlock.inside l member with depth | depth <;> omega
  have members : ∀ block ∈ fields.map p.ofField ++ methods.map p.ofMethod,
      ∀ l ∈ block, l.depth ≤ 2 := by
    rw [List.forall_mem_append, List.forall_mem_map, List.forall_mem_map]
    exact ⟨fun m _ => inside (regular.field m), fun m _ => inside (regular.method m)⟩
  have blank : ∀ l ∈ [TextLine.blank], l.depth ≤ 2 := List.forall_mem_singleton.2 (by decide)
  rw [lines, List.forall_mem_append, List.forall_mem_append, List.forall_mem_cons,
    List.forall_mem_singleton]
  refine ⟨⟨fun l member => ?_, ?_, forall_mem_intercalate blank members⟩, ?_⟩
  · rw [regular.outside l member]
    exact Nat.zero_le _
  · rw [regular.header.1]
    exact Nat.zero_le _
  · rw [regular.last]
    exact Nat.zero_le _

end Page

namespace SourceFile

variable {f : SourceFile} {fields : List FieldDeclaration} {methods : List MethodDeclaration}

/-- The page of a file. -/
def page (f : SourceFile) : Page where
  package := f.packageLines.map (·.spelled f.scope)
  imports := f.importBlock.map (·.spelled f.scope)
  header := LayoutLine.spelled f.scope ⟨0, f.declaration.header⟩
  ofField m := m.layout.map (·.spelled f.scope)
  ofMethod m := (m.layout f.declaration.name).map (·.spelled f.scope)
  last := ⟨0, "\x7d"⟩

theorem depth_packageLines (f : SourceFile) : ∀ l ∈ f.packageLines, l.depth = 0 := by
  rw [packageLines]
  split
  next => exact List.forall_mem_nil _
  next => exact List.forall_mem_cons.2 ⟨rfl, List.forall_mem_singleton.2 rfl⟩

theorem depth_importBlock (f : SourceFile) : ∀ l ∈ f.importBlock, l.depth = 0 := by
  rw [importBlock]
  split
  next => exact List.forall_mem_nil _
  next =>
    rw [List.forall_mem_append, List.forall_mem_map]
    exact ⟨fun _ _ => rfl, List.forall_mem_singleton.2 rfl⟩

theorem regular_page (f : SourceFile) : f.page.Regular where
  outside := by
    rw [List.forall_mem_append]
    exact ⟨List.forall_mem_map.2 f.depth_packageLines, List.forall_mem_map.2 f.depth_importBlock⟩
  header := ⟨rfl, LayoutLine.text_ne_empty (by simp [TypeDeclaration.header]) (s := " \x7b")
    (by decide)⟩
  field m := m.isBlock f.scope
  method m := m.isBlock f.declaration.name f.scope
  last := rfl

/-- The layout of a file has the lines of its page. -/
theorem map_spelled_layout (f : SourceFile) :
    f.layout.map (·.spelled f.scope) =
      f.page.lines f.declaration.fields f.declaration.methods := by
  simp only [layout, TypeDeclaration.layout, TypeDeclaration.memberLayouts, List.map_append,
    List.map_cons, List.map_nil, map_intercalate, List.map_map, Page.lines, List.append_assoc]
  rfl

/-- The file with another indentation and other fields and methods. -/
def variant (f : SourceFile) (indent : String) (fields : List FieldDeclaration)
    (methods : List MethodDeclaration) : SourceFile :=
  { f with indent, declaration := { f.declaration with fields, methods } }

theorem rearranged_variant (indent : String) (sameFields : fields.Perm f.declaration.fields)
    (sameMethods : methods.Perm f.declaration.methods) :
    f.Rearranged (f.variant indent fields methods) where
  package := rfl
  name := rfl
  superclass := rfl
  interfaces := .refl _
  fields := sameFields
  methods := sameMethods

/-- The page does not depend on the indentation, nor on the order of members. -/
theorem page_variant (indent : String) (sameFields : fields.Perm f.declaration.fields)
    (sameMethods : methods.Perm f.declaration.methods) :
    (f.variant indent fields methods).page = f.page := by
  have rearranged := rearranged_variant indent sameFields sameMethods
  -- A class is all that a fragment asks the imports for.
  have fragment : ∀ part : Fragment,
      part.spell (f.variant indent fields methods).scope = part.spell f.scope := by
    intro part
    cases part with
    | text s => rfl
    | ofClass c => exact rearranged.spell_eq c
  have imports : (f.variant indent fields methods).importBlock = f.importBlock := by
    rw [importBlock, importBlock, rearranged.importLines_eq]
  simp only [page, LayoutLine.spelled, LayoutLine.text, fragment, imports]
  rfl

/-! ## Main results -/

/-- The writer and the text of the file have the same lines: those of the page, each behind its
indentations. -/
theorem lines_writeFile (f : SourceFile) : (Writer.writeFile f).lines =
    (f.page.lines f.declaration.fields f.declaration.methods).map (·.indented f.indent) := by
  rw [Writer.writeFile_eq, ← map_spelled_layout, List.map_map]
  rfl

theorem render_eq_join (f : SourceFile) :
    f.render = String.join ((Writer.writeFile f).lines.map (· ++ "\n")) := by
  rw [Writer.writeFile_eq, List.map_map]
  rfl

/-- **Layout does not depend on the indentation, nor on the order of members.** A file has a page:
the lines in front of the class, the header, a block for every member, and the last line. The page
is that of the file with any other indentation and with its fields and its methods in any other
orders. Each of these files has the lines that the page has with its members in the order of the
file, and each line stands behind at most two indentations. So one empty line stands between
neighbouring members and none in front of the first or behind the last, and the number of lines does
not depend on the indentation. -/
theorem lines_variant (f : SourceFile) : f.page.Regular ∧
    ∀ (indent : String) (fields : List FieldDeclaration) (methods : List MethodDeclaration),
      fields.Perm f.declaration.fields → methods.Perm f.declaration.methods →
        (f.variant indent fields methods).page = f.page ∧
        (∀ l ∈ f.page.lines fields methods, l.depth ≤ 2) ∧
        (Writer.writeFile (f.variant indent fields methods)).lines =
          (f.page.lines fields methods).map (·.indented indent) ∧
        (f.variant indent fields methods).render =
          String.join ((Writer.writeFile (f.variant indent fields methods)).lines.map (· ++ "\n")) ∧
        ∀ other : String, (Writer.writeFile (f.variant other fields methods)).lines.length =
          (Writer.writeFile (f.variant indent fields methods)).lines.length := by
  refine ⟨f.regular_page, fun indent fields methods sameFields sameMethods => ?_⟩
  have lines : ∀ indent : String, (Writer.writeFile (f.variant indent fields methods)).lines =
      (f.page.lines fields methods).map (·.indented indent) := by
    intro indent
    rw [lines_writeFile, page_variant indent sameFields sameMethods]
    rfl
  refine ⟨page_variant indent sameFields sameMethods, f.regular_page.depth_le, lines indent,
    render_eq_join _, fun other => ?_⟩
  rw [lines other, lines indent, List.length_map, List.length_map]

/-- With its fields in the reverse order and a tab for indentation the file has the same page, and
the import of the class that is now spelled first still stands where it stood. -/
theorem holderFile_reversed :
    let reversed := holderFile.variant "\t" holderFile.declaration.fields.reverse
      holderFile.declaration.methods
    reversed.page = holderFile.page ∧
      (Writer.writeFile reversed).lines =
        ["package p;", "", "import a.Thing;", "import q.Outer;", "", "class Holder \x7b",
          "\tc.Holder third;", "", "\tThing[] first;", "", "\tb.Thing second;", "",
          "\tHolder() \x7b", "\t\tnew Outer.Inner().fill(b.Thing.make());", "\t\x7d", "\x7d"] := by
  have ⟨page, _, lines, _⟩ := (lines_variant holderFile).2 "\t"
    holderFile.declaration.fields.reverse holderFile.declaration.methods
    (List.reverse_perm _) (.refl _)
  refine ⟨page, lines.trans ?_⟩
  decide +kernel

end SourceFile

end RecordSynthesis
