import RecordSynthesis.Proofs.Discovery
import RecordSynthesis.Proofs.DottedNames
import RecordSynthesis.Proofs.Elaboration
import RecordSynthesis.Proofs.PrintedTypes

/-!
# Spelled types

A declared type names its classes by dotted texts. In a declaration it names them by package,
enclosing classes and simple name, and what is known about a name decides how it is split. The split
does not show in the text: the class that stands for a name has this name as its canonical name,
whether it comes from a class of the batch, from an external name or from the letters
(`canonicalName_className`). So the type of a declaration spells the declared type, with a blank
behind every comma (`print_typeName`). The main statement is `spelling_faithful`.
-/

set_option autoImplicit false

namespace RecordSynthesis

open RecordSynthesis.Text

/-! ## Commas and blanks -/

/-- The characters with a blank behind every comma. -/
def spacedOut (cs : List Char) : List Char := cs.flatMap fun c => if c = ',' then [',', ' '] else [c]

/-- The characters with a comma for every comma and blank, from the left. -/
def closedUp : List Char → List Char
  | [] => []
  | ',' :: ' ' :: rest => ',' :: closedUp rest
  | c :: rest => c :: closedUp rest

/-- A text in which every comma and blank is replaced by the comma alone. -/
def withoutGaps (s : String) : String := String.ofList (closedUp s.toList)

section Commas

variable {cs ds : List Char}

@[simp]
theorem spacedOut_append : spacedOut (cs ++ ds) = spacedOut cs ++ spacedOut ds :=
  List.flatMap_append

theorem spacedOut_cons_of_ne {c : Char} (other : c ≠ ',') :
    spacedOut (c :: cs) = c :: spacedOut cs := by
  rw [spacedOut, List.flatMap_cons, if_neg other]
  rfl

theorem spacedOut_eq_self (clean : ',' ∉ cs) : spacedOut cs = cs := by
  induction cs with
  | nil => rfl
  | cons c cs ih =>
      rw [List.mem_cons, not_or] at clean
      rw [spacedOut_cons_of_ne (Ne.symm clean.1), ih clean.2]

/-- Closing up takes back what spacing out puts in, whatever blanks the text has otherwise. -/
theorem closedUp_spacedOut (cs : List Char) : closedUp (spacedOut cs) = cs := by
  induction cs with
  | nil => rfl
  | cons c cs ih =>
      by_cases comma : c = ','
      · subst comma
        change ',' :: closedUp (spacedOut cs) = ',' :: cs
        rw [ih]
      · rw [spacedOut_cons_of_ne comma, closedUp, ih]
        intro _ same
        exact (comma same).elim

/-- Of several blanks one is taken, and none that has no comma in front. -/
example : withoutGaps "a, b,  c d" = "a,b, c d" := by decide +kernel

end Commas

/-! ## Names of models -/

/-- A class is named alike on its own and by its parts, unless a name of its chain is empty. -/
theorem ModelClass.canonicalName_model {c : ModelClass} (named : "" ∉ c.chain) :
    c.names.model.canonicalName = c.qualifiedName := by
  have enclosing : "" ∉ c.enclosing := fun empty => named (List.mem_append_left _ empty)
  have reference : c.names.model.referenceName = modelTypeName c.chain := by
    have nothing : c.chain.dropWhile (· = "") = c.chain := by
      rw [List.dropWhile_eq_self_iff]
      intro nonempty empty
      exact named ((of_decide_eq_true empty) ▸ List.getElem_mem nonempty)
    rw [modelTypeName, chainText, nothing]
    exact ClassName.referenceName_eq_joined enclosing
  rw [ClassName.canonicalName, reference]
  rfl

/-- The classes come from schema files, one or several. -/
def Batch.FromSchemas (b : Batch) : Prop :=
  ∀ c ∈ b.classes, ∃ (f : SchemaFile) (settings : Settings) (loaded : Batch),
    f.elaborate settings = .ok loaded ∧ c ∈ loaded.classes

theorem Batch.FromSchemas.named {b : Batch} (elaborated : b.FromSchemas) {c : ModelClass}
    (listed : c ∈ b.classes) : "" ∉ c.chain := by
  obtain ⟨f, settings, loaded, result, listed⟩ := elaborated c listed
  obtain ⟨classes, models, same⟩ := bind_eq_ok.1 result
  cases same
  obtain ⟨e, _, done⟩ := exists_of_mem_mapM models c listed
  rw [(ModelEntry.yields_of_elaborate done).chain]
  exact (ModelEntry.exists_elaborate_iff.1 ⟨c, done⟩).named

namespace Snapshot

section Names

variable {b : Batch} (elaborated : b.FromSchemas)
include elaborated

/-- A name that a class declares stands for a class of that name. -/
theorem canonicalName_of_declared {name : String} {c : ModelClass}
    (declared : (declarations b.classes name).getLast? = some c) :
    c.names.model.canonicalName = name := by
  obtain ⟨listed, rfl⟩ := mem_declarations.1 (List.mem_of_getLast? declared)
  exact ModelClass.canonicalName_model (elaborated.named listed)

/-- A name stands for a class of that name, if it is dotted or a class declares it. -/
theorem canonicalName_className {name : String}
    (dotted : declarations b.classes name = [] → IsDotted name) :
    ((discover b).className name).canonicalName = name := by
  rw [className_discover]
  cases last : (declarations b.classes name).getLast? with
  | some c => exact canonicalName_of_declared elaborated last
  | none =>
      exact ClassName.canonicalName_ofDotted (dotted (List.getLast?_eq_none_iff.1 last))

end Names

/-! ## Types -/

section Types

variable {s : Snapshot}

/-- The class of the name spells the name, which has no comma. -/
structure Spells (s : Snapshot) (name : String) : Prop where
  canonical : (s.className name).canonicalName = name
  clean : ',' ∉ name.toList

theorem Spells.toList_canonicalName {name : String} (spells : s.Spells name) :
    (s.className name).canonicalName.toList = spacedOut name.toList := by
  rw [spells.canonical, spacedOut_eq_self spells.clean]

mutual

/-- **A spelled type is the printed one** with a blank behind every comma. -/
theorem print_typeName : ∀ {t : Descriptor}, (∀ name ∈ t.names, s.Spells name) →
    (s.typeName t).print.toList = spacedOut t.print.toList
  | .primitive kind, _ => by
      have clean : ',' ∉ kind.name.toList := by cases kind <;> decide
      rw [typeName, TypeName.print, Descriptor.print, spacedOut_eq_self clean]
  | .array component, spells => by
      rw [Descriptor.names] at spells
      have inside := print_typeName spells
      rw [typeName, TypeName.print, Descriptor.print, String.toList_append, String.toList_append,
        spacedOut_append, inside]
      rfl
  | .declared name [], spells => by
      rw [typeName, TypeName.print, Descriptor.print]
      exact (spells name (by simp [Descriptor.names])).toList_canonicalName
  | .declared name (first :: more), spells => by
      rw [Descriptor.names, Descriptor.namesOfAll, List.forall_mem_cons,
        List.forall_mem_append] at spells
      obtain ⟨raw, here, behind⟩ := spells
      have inside := print_typeName here
      have others := printAll_typeNames (s.typeName first) behind
      have left : spacedOut "<".toList = "<".toList := rfl
      have right : spacedOut ">".toList = ">".toList := rfl
      rw [typeName, TypeName.print, Descriptor.print]
      simp only [String.toList_append, spacedOut_append, raw.toList_canonicalName, others, inside,
        left, right, List.append_assoc]

theorem printAll_typeNames : ∀ {more : List Descriptor} (arg : TypeName),
    (∀ name ∈ Descriptor.namesOfAll more, s.Spells name) →
      (TypeName.printAll (arg :: s.typeNames more)).toList =
        arg.print.toList ++ spacedOut (Descriptor.printMore more).toList
  | [], arg, _ => by
      rw [typeNames, TypeName.printAll, Descriptor.printMore]
      exact (List.append_nil _).symm
  | t :: more, arg, spells => by
      rw [Descriptor.namesOfAll, List.forall_mem_append] at spells
      have inside := print_typeName spells.1
      have others := printAll_typeNames (s.typeName t) spells.2
      have comma : spacedOut ",".toList = ", ".toList := rfl
      rw [typeNames, TypeName.printAll, Descriptor.printMore]
      · simp only [String.toList_append, spacedOut_append, others, inside, comma,
          List.append_assoc]
      · nofun

end

/-- The printed type is had back by closing up its commas. -/
theorem withoutGaps_typeName {t : Descriptor} (spells : ∀ name ∈ t.names, s.Spells name) :
    withoutGaps (s.typeName t).print = t.print := by
  rw [withoutGaps, print_typeName spells, closedUp_spacedOut, String.ofList_toList]

end Types

/-- The reader accepts no comma within a name. -/
theorem comma_not_mem_of_read {text : String} {t : Descriptor}
    (read : Descriptor.read text = .ok t) : ∀ name ∈ t.names, ',' ∉ name.toList := by
  intro name mentioned inside
  have isName := (Descriptor.wellFormed_of_read read name mentioned).1
  have nameChar := isName.chars ',' inside
  rw [(Descriptor.mark_spec ',' (by simp)).1] at nameChar
  cases nameChar

/-- **Spelled types keep the text of declared types.** Let the classes of a batch come from schema
files, and let no external name have an empty segment. Then every class has its qualified name as
canonical name, and so has every model that the snapshot knows, also the ones without class. A type
that the reader gives, without empty segments in its names, is spelled as it is printed but for the
blanks behind the commas, whichever names are known and however these are split. -/
theorem spelling_faithful {b : Batch} (elaborated : b.FromSchemas)
    (externals : ∀ name ∈ b.externalModels, IsDotted name) :
    (∀ c ∈ b.classes, c.names.model.canonicalName = c.qualifiedName) ∧
      (∀ name known, (discover b).find? name = some known →
        known.model.canonicalName = name) ∧
      ∀ text t, Descriptor.read text = .ok t → (∀ name ∈ t.names, IsDotted name) →
        withoutGaps ((discover b).typeName t).print = t.print := by
  refine ⟨?_, ?_, ?_⟩
  · intro c listed
    exact ModelClass.canonicalName_model (elaborated.named listed)
  · intro name known found
    have same : (discover b).className name = known.model := by rw [className, found]
    have listed : name ∈ namesOf b := by
      by_contra unknown
      rw [find?_discover, if_neg unknown] at found
      cases found
    rw [← same]
    exact canonicalName_className elaborated fun undeclared =>
      externals name ((mem_namesOf_of_undeclared undeclared).1 listed)
  · intro text t read dotted
    refine withoutGaps_typeName fun name mentioned => ⟨?_, ?_⟩
    · exact canonicalName_className elaborated fun _ => dotted name mentioned
    · exact comma_not_mem_of_read read name mentioned

/-- A schema file of the shop, with a basket in a class of a lowercase name and a rate from
elsewhere. -/
def basketFile : SchemaFile where
  package := "shop"
  externalModels := ["lib.rates.Rate"]
  models := [{ name := "order.Basket", trigger := some "toRealmObject" }]

/-- The batch of the file. -/
def basketBatch : Batch where
  classes := [
    { package := "shop", enclosing := ["order"], simpleName := "Basket",
      trigger := some "toRealmObject" }]
  externalModels := ["lib.rates.Rate"]

theorem fromSchemas_basketBatch : basketBatch.FromSchemas :=
  fun _ listed => ⟨basketFile, {}, basketBatch, rfl, listed⟩

/-- The basket is an inner class, the rate is split by its letters, and the map is not known at all.
None of this shows in the text. -/
theorem basketBatch_spelling :
    (discover basketBatch).className "shop.order.Basket" = ⟨"shop", ["order"], "Basket"⟩ ∧
      ∃ t, Descriptor.read "java.util.Map<shop.order.Basket ,lib.rates.Rate[ ]>" = .ok t ∧
        (∀ name ∈ t.names, IsDotted name) ∧
        t.print = "java.util.Map<shop.order.Basket,lib.rates.Rate[]>" ∧
        withoutGaps ((discover basketBatch).typeName t).print = t.print := by
  have externals : ∀ name ∈ basketBatch.externalModels, IsDotted name := by decide +kernel
  have accepted : (Descriptor.read
      "java.util.Map<shop.order.Basket ,lib.rates.Rate[ ]>").toOption.map Descriptor.names =
        some ["java.util.Map", "shop.order.Basket", "lib.rates.Rate"] := by decide +kernel
  refine ⟨by decide +kernel, ?_⟩
  cases result : Descriptor.read "java.util.Map<shop.order.Basket ,lib.rates.Rate[ ]>" with
  | ok t =>
      rw [result] at accepted
      have names : t.names = ["java.util.Map", "shop.order.Basket", "lib.rates.Rate"] :=
        Option.some.inj accepted
      have dotted : ∀ name ∈ t.names, IsDotted name := by
        rw [names]
        decide +kernel
      have printed : t.print = "java.util.Map<shop.order.Basket,lib.rates.Rate[]>" :=
        (Descriptor.print_of_read result).trans (by decide +kernel)
      exact ⟨t, rfl, dotted, printed,
        (spelling_faithful fromSchemas_basketBatch externals).2.2 _ t result dotted⟩
  | error fault =>
      rw [result] at accepted
      cases accepted

end Snapshot

end RecordSynthesis
