import RecordSynthesis.Proofs.Alignment
import RecordSynthesis.Proofs.Elaboration

/-!
# Fields and setters of one record

No two properties of a model have the same name, so no two fields of its record have. Setters are
named by the capital forms of the properties, and two names may have the same capital form: the
capital of the dotless i is that of the i, and the sharp s has the capital form of two letters s.

A name is restorable when writing its capital form small gives the name back. Two restorable names
have different setters, and accessors in ASCII give restorable names only. The main statement is
`record_members`.
-/

set_option autoImplicit false

namespace RecordSynthesis

open RecordSynthesis.Text

/-! ## Restorable names -/

/-- Writing the capital form of the name small gives the name back. -/
def Restorable (name : String) : Prop := uncapitalized (capitalized name) = name

/-- The capital form tells restorable names apart. -/
theorem Restorable.eq {name other : String} (first : Restorable name) (second : Restorable other)
    (same : capitalized name = capitalized other) : name = other := by
  rw [← first, same, second]

theorem setterName_eq_iff {name other : String} :
    setterName name = setterName other ↔ capitalized name = capitalized other := by
  simp [setterName]

/-! ## Accessors in ASCII -/

/-- Only the runs and expansions that begin below a bound matter for the characters below it. -/
theorem caseForm_below {shifts : List CodeShift} {expansions : List (Nat × List Nat)} {c : Char}
    {bound : Nat} (below : c.toNat < bound) :
    caseForm shifts expansions c =
      caseForm (shifts.filter (·.run.first < bound)) (expansions.filter (·.1 < bound)) c := by
  have expansion :
      (expansions.filter (·.1 < bound)).lookup c.toNat = expansions.lookup c.toNat := by
    induction expansions with
    | nil => rfl
    | cons e es ih =>
        obtain ⟨code, form⟩ := e
        by_cases early : code < bound
        · simp [early, List.lookup_cons, ih]
        · have differs : (c.toNat == code) = false := by
            rw [beq_eq_false_iff_ne]
            omega
          simp [early, List.lookup_cons, ih, differs]
  have shift : (shifts.filter (·.run.first < bound)).find? (·.run.contains c.toNat) =
      shifts.find? (·.run.contains c.toNat) := by
    rw [List.find?_filter]
    congr 1
    funext shift
    by_cases early : shift.run.first < bound
    · simp [early]
    · have outside : shift.run.contains c.toNat = false := by
        simp only [CodeRun.contains, Bool.and_eq_false_iff, decide_eq_false_iff_not]
        omega
      simp [outside]
  rw [caseForm, caseForm, expansion, shift]

/-- The capital letters of ASCII, with the distance to the small ones. -/
def asciiCapitals : List CodeShift := [⟨⟨0x41, 0x5A, 1⟩, 32⟩]

/-- The small letters of ASCII, with the distance to the capital ones. -/
def asciiSmalls : List CodeShift := [⟨⟨0x61, 0x7A, 1⟩, -32⟩]

theorem smallForm_ascii {c : Char} (ascii : c.toNat < 128) :
    smallForm c = caseForm asciiCapitals [] c :=
  caseForm_below ascii

theorem capitalForm_ascii {c : Char} (ascii : c.toNat < 128) :
    capitalForm c = caseForm asciiSmalls [] c :=
  caseForm_below ascii

/-- The small form of an ASCII character is one character, and writing it large and small again
leaves it as it is. -/
theorem exists_smallForm {c : Char} (ascii : c.toNat < 128) :
    ∃ small capital, smallForm c = [small] ∧ capitalForm small = [capital] ∧
      smallForm capital = [small] := by
  have all : ∀ n : Fin 128, (caseForm asciiCapitals [] (Char.ofNat n)).length = 1 ∧
      (caseForm asciiCapitals [] (Char.ofNat n)).all (fun small =>
        small.toNat < 128 ∧ (caseForm asciiSmalls [] small).length = 1 ∧
          (caseForm asciiSmalls [] small).all fun capital =>
            capital.toNat < 128 ∧ caseForm asciiCapitals [] capital = [small]) := by
    decide +kernel
  obtain ⟨one, inside⟩ := Char.ofNat_toNat c ▸ all ⟨c.toNat, ascii⟩
  obtain ⟨small, smallOf⟩ := List.length_eq_one_iff.1 one
  rw [smallOf, List.all_eq_true, List.forall_mem_singleton, decide_eq_true_iff] at inside
  obtain ⟨low, one, inside⟩ := inside
  obtain ⟨capital, capitalOf⟩ := List.length_eq_one_iff.1 one
  rw [capitalOf, List.all_eq_true, List.forall_mem_singleton, decide_eq_true_iff] at inside
  obtain ⟨low', back⟩ := inside
  exact ⟨small, capital, (smallForm_ascii ascii).trans smallOf,
    (capitalForm_ascii low).trans capitalOf, (smallForm_ascii low').trans back⟩

theorem capitalized_ofList_cons (c : Char) (rest : List Char) :
    capitalized (String.ofList (c :: rest)) = String.ofList (capitalForm c ++ rest) := by
  rw [capitalized, String.toList_ofList]

theorem uncapitalized_ofList_cons (c : Char) (rest : List Char) :
    uncapitalized (String.ofList (c :: rest)) = String.ofList (smallForm c ++ rest) := by
  rw [uncapitalized, String.toList_ofList]

theorem restorable_uncapitalized {text : String} (ascii : ∀ c ∈ text.toList, c.toNat < 128) :
    Restorable (uncapitalized text) := by
  rw [← String.ofList_toList (s := text)]
  cases chars : text.toList with
  | nil => rfl
  | cons c rest =>
      rw [chars] at ascii
      obtain ⟨small, capital, smallOf, capitalOf, back⟩ := exists_smallForm (ascii c (by simp))
      rw [Restorable, uncapitalized_ofList_cons, smallOf, List.singleton_append,
        capitalized_ofList_cons, capitalOf, List.singleton_append, uncapitalized_ofList_cons, back,
        List.singleton_append]

/-- What follows a word is the end of the accessor. -/
theorem suffix_of_afterWord? {word accessor rest : String}
    (found : afterWord? word accessor = some rest) : rest.toList <:+ accessor.toList := by
  rw [afterWord?] at found
  split at found
  next c letters behind =>
    split at found
    next =>
      cases found
      rw [String.toList_ofList]
      exact ⟨word.toList, List.isPrefixOf?_eq_some_iff_append_eq.1 behind⟩
    next => cases found
  next => cases found

/-- A property name is an end of the accessor with its first letter small. -/
theorem exists_suffix_propertyName (accessor : String) (isBoolean : Bool) :
    ∃ stem : String, stem.toList <:+ accessor.toList ∧
      propertyName accessor isBoolean = uncapitalized stem := by
  rw [propertyName]
  cases getter : afterWord? "get" accessor with
  | some rest => exact ⟨rest, suffix_of_afterWord? getter, rfl⟩
  | none =>
      cases question : (if isBoolean then afterWord? "is" accessor else none) with
      | some rest =>
          refine ⟨rest, ?_, rfl⟩
          split at question
          next => exact suffix_of_afterWord? question
          next => cases question
      | none => exact ⟨accessor, List.suffix_rfl, rfl⟩

theorem restorable_propertyName {accessor : String} (isBoolean : Bool)
    (ascii : ∀ c ∈ accessor.toList, c.toNat < 128) :
    Restorable (propertyName accessor isBoolean) := by
  obtain ⟨stem, behind, name⟩ := exists_suffix_propertyName accessor isBoolean
  rw [name]
  exact restorable_uncapitalized fun c inside => ascii c (behind.subset inside)

/-! ## Records -/

section Records

variable {settings : Settings} {s : Snapshot} {c : ModelClass} {g : GeneratedClass}

theorem fieldNames_eq (result : generate settings s c = .ok g) :
    g.record.declaration.fields.map (·.name) = c.generatedProperties.map (·.name) := by
  obtain ⟨_, _, _, _, stored, resolved, rfl⟩ := generate_eq_ok_iff.1 result
  rw [← (storedProperties_spec resolved).1]
  simp [assembled, recordDeclaration, recordField, Function.comp_def]

/-- In front of the conversion, the methods of a record are the setters of the fields. -/
theorem setterNames_eq (result : generate settings s c = .ok g) :
    g.record.declaration.methods.dropLast.map (·.name?) =
      g.record.declaration.fields.map fun f => some (setterName f.name) := by
  obtain ⟨_, _, _, _, stored, _, rfl⟩ := generate_eq_ok_iff.1 result
  simp [assembled, recordDeclaration, recordSetter, recordField, MethodDeclaration.name?,
    Function.comp_def]

end Records

/-- The properties of a model of a schema file have different names. -/
theorem ModelEntry.nodup_of_elaborate {e : ModelEntry} {package : String} {settings : Settings}
    {c : ModelClass} (elaborated : e.elaborate package settings = .ok c) :
    (c.properties.map (·.name)).Nodup := by
  have named := (exists_elaborate_iff.1 ⟨c, elaborated⟩).named
  rw [elaborate_of_notMem named] at elaborated
  obtain ⟨ps, read, same⟩ := bind_eq_ok.1 elaborated
  cases same
  exact (elaborateProperties_eq_ok.1 read).2.1

section Members

variable {e : ModelEntry} {package : String} {settings settings' : Settings} {s : Snapshot}
  {c : ModelClass} {g : GeneratedClass}

/-- Each field of a record has the name that some accessor of the model gives. -/
theorem exists_accessor (elaborated : e.elaborate package settings = .ok c)
    (result : generate settings' s c = .ok g) {f : FieldDeclaration}
    (field : f ∈ g.record.declaration.fields) :
    ∃ p ∈ e.properties, ∃ isBoolean, f.name = propertyName p.accessor isBoolean := by
  have member : f.name ∈ g.record.declaration.fields.map (·.name) := List.mem_map_of_mem field
  rw [fieldNames_eq result] at member
  obtain ⟨q, generated, named⟩ := List.mem_map.1 member
  have declared : q ∈ c.properties := List.mem_of_mem_filter generated
  obtain ⟨p, listed, yields⟩ :=
    exists_left_of_mem (ModelEntry.yields_of_elaborate elaborated).properties declared
  exact ⟨p, listed, _, named.symm.trans yields.name⟩

/-- **Which members of a record can collide.** The fields of a record have different names. In front
of the conversion its methods are the setters of the fields, in order. They have different names
exactly when the names of the fields have different capital forms, so of two fields with one setter
at least one has a name that is not restorable. Accessors in ASCII have different setters. -/
theorem record_members (elaborated : e.elaborate package settings = .ok c)
    (result : generate settings' s c = .ok g) :
    (g.record.declaration.fields.map (·.name)).Nodup ∧
      g.record.declaration.methods.dropLast.map (·.name?) =
        g.record.declaration.fields.map (fun f => some (setterName f.name)) ∧
      ((g.record.declaration.methods.dropLast.map (·.name?)).Nodup ↔
        (g.record.declaration.fields.map fun f => capitalized f.name).Nodup) ∧
      (∀ f ∈ g.record.declaration.fields, ∀ f' ∈ g.record.declaration.fields,
        f.name ≠ f'.name → setterName f.name = setterName f'.name →
          ¬ Restorable f.name ∨ ¬ Restorable f'.name) ∧
      ((∀ p ∈ e.properties, ∀ letter ∈ p.accessor.toList, letter.toNat < 128) →
        (g.record.declaration.methods.dropLast.map (·.name?)).Nodup) := by
  have distinct : (g.record.declaration.fields.map (·.name)).Nodup := by
    rw [fieldNames_eq result]
    exact (ModelEntry.nodup_of_elaborate elaborated).sublist (List.filter_sublist.map _)
  have setters : (g.record.declaration.methods.dropLast.map (·.name?)).Nodup ↔
      (g.record.declaration.fields.map fun f => capitalized f.name).Nodup := by
    rw [setterNames_eq result]
    simp only [List.Nodup, List.pairwise_map, ne_eq, Option.some.injEq, setterName_eq_iff]
  refine ⟨distinct, setterNames_eq result, setters, ?_, ?_⟩
  · intro f _ f' _ differs same
    by_contra restorable
    rw [not_or, not_not, not_not] at restorable
    exact differs (restorable.1.eq restorable.2 (setterName_eq_iff.1 same))
  · intro ascii
    have restorable : ∀ f ∈ g.record.declaration.fields, Restorable f.name := by
      intro f field
      obtain ⟨p, listed, isBoolean, named⟩ := exists_accessor elaborated result field
      rw [named]
      exact restorable_propertyName isBoolean (ascii p listed)
    rw [setters, List.Nodup, List.pairwise_map]
    refine (List.pairwise_map.1 distinct).imp_of_mem fun first second differs same => ?_
    exact differs ((restorable _ first).eq (restorable _ second) same)

end Members

/-- An order with an identity and a second property, as a schema file has it. -/
def orderEntry (accessor : String) : ModelEntry where
  name := "Order"
  trigger := some "toRealmObject"
  properties := [{ accessor := "getId", type := "long" }, { accessor, type := "long" }]

/-- The class of the order, with the name of the second property. -/
def loadedOrder (accessor name : String) : ModelClass where
  package := "shop"
  simpleName := "Order"
  trigger := some "toRealmObject"
  properties := [
    { name := "id", accessor := "getId", type := .primitive .long },
    { name, accessor, type := .primitive .long }]

set_option maxRecDepth 4000 in
/-- The property of the second accessor keeps its own setter when its letters are those of ASCII. -/
theorem totalEntry_members :
    (orderEntry "Total").elaborate "shop" {} = .ok (loadedOrder "Total" "total") ∧ ∃ g,
      generate {} (Snapshot.discover (.ofClasses [loadedOrder "Total" "total"]))
        (loadedOrder "Total" "total") = .ok g ∧
      g.record.declaration.methods.map (·.name?) =
        [some "setId", some "setTotal", some "toModel"] ∧
      (g.record.declaration.methods.dropLast.map (·.name?)).Nodup := by
  have elaborated : (orderEntry "Total").elaborate "shop" {} = .ok (loadedOrder "Total" "total") :=
    rfl
  have generated : generate {} (Snapshot.discover (.ofClasses [loadedOrder "Total" "total"]))
      (loadedOrder "Total" "total") = .ok _ := rfl
  have ascii : ∀ p ∈ (orderEntry "Total").properties, ∀ letter ∈ p.accessor.toList,
      letter.toNat < 128 := by simp [orderEntry]
  exact ⟨elaborated, _, generated, rfl, (record_members elaborated generated).2.2.2.2 ascii⟩

set_option maxRecDepth 4000 in
/-- The property of a dotless i is not that of the i, but both have the setter of the capital I. -/
theorem dotlessEntry_collides :
    (orderEntry "ıd").elaborate "shop" {} = .ok (loadedOrder "ıd" "ıd") ∧ ∃ g,
      generate {} (Snapshot.discover (.ofClasses [loadedOrder "ıd" "ıd"]))
        (loadedOrder "ıd" "ıd") = .ok g ∧
      g.record.declaration.fields.map (·.name) = ["id", "ıd"] ∧
      g.record.declaration.methods.map (·.name?) =
        [some "setId", some "setId", some "toModel"] ∧
      ¬ (g.record.declaration.methods.dropLast.map (·.name?)).Nodup := by
  refine ⟨rfl, _, rfl, rfl, rfl, ?_⟩
  decide

end RecordSynthesis
