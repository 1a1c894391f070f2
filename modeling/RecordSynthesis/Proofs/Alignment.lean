import RecordSynthesis.Proofs.RoundTrip

/-!
# Generated members in the order of the properties

Both files of a class are written property by property, and each of their lists is written on its
own: the fields and the setters of the record, the arguments with which the record builds the
implementation again, the parameters of the constructor, what the constructor hands on, and the
calls of the setters. At every index all of them belong to the same property
(`generate_aligned`), so that no two properties of one type can change places unnoticed. The property
of the trigger is none of them, and the files are those of the class without it.

The arguments fit the constructor of the implementation. The class that they are handed to is the
one of the naming rules, which is the implementation unless the class wishes for another name
(`toModel_constructs`).
-/

set_option autoImplicit false

namespace RecordSynthesis

open Snapshot

variable {settings : Settings} {s : Snapshot} {c : ModelClass} {g : GeneratedClass}

/-! ## The members of the two files -/

/-- The members of a record, for the properties in order: the fields, the setters in front of the
conversion, and the arguments of the conversion. -/
structure AlignedRecord (settings : Settings) (s : Snapshot) (c : ModelClass)
    (properties : List Property) (d : TypeDeclaration) : Prop where
  fields : d.fields.length = properties.length
  methods : d.methods.length = properties.length + 1
  member : ∀ (i : ℕ) (p : Property), properties[i]? = some p → ∃ type : TypeName,
    d.fields[i]? = some
      { annotations := (if p.primaryKey then [settings.primaryKeyClass] else []) ++
          (if p.indexed then [settings.indexClass] else [])
        modifiers := [.privateAccess]
        type := type
        name := p.name } ∧
    d.methods[i]? = some
      { modifiers := [.publicAccess]
        kind := .method (setterName p.name) none
        parameters := [⟨type, p.name⟩]
        body := [.assign (.field .this p.name) (.named p.name)] }
  toModel : ∃ args : List Expression,
    d.methods[properties.length]? = some
      { annotations := [overridingMark]
        modifiers := [.publicAccess, .sealed]
        kind := .method settings.toModelMethod (some (.ofClass c.names.model))
        body := [.giveBack (.construct c.names.implementation args)] } ∧
    args.length = properties.length ∧
    ∀ (i : ℕ) (p : Property), properties[i]? = some p → args[i]? = some
      (convertedValue settings.listHelperClass settings.toModelMethod settings.recordsToModels
        (.named p.name) (s.classify p.type))

/-- The members of an implementation, for the properties in order: the parameters of the
constructor, what it hands on, and the calls of the setters. -/
structure AlignedImplementation (settings : Settings) (s : Snapshot) (c : ModelClass)
    (properties : List Property) (d : TypeDeclaration) : Prop where
  methods : d.methods.length = if properties = [] then 1 else 2
  constructible : d.constructor?.isSome ↔ 0 < properties.length
  constructor : ∀ m ∈ d.methods, m.isConstructor → ∃ args : List Expression,
    m.body = [.superCall args] ∧
    m.parameters.length = properties.length ∧ args.length = properties.length ∧
    ∀ (i : ℕ) (p : Property), properties[i]? = some p →
      m.parameters[i]? = some ⟨s.typeName p.type, p.name⟩ ∧ args[i]? = some (.named p.name)
  toStorage : ∃ calls : List Statement,
    d.methods.filter (!·.isConstructor) = [
      { annotations := [overridingMark]
        modifiers := [.publicAccess, .sealed]
        kind := .method settings.toStorageMethod (some (.ofClass c.names.record))
        body :=
          .declareLocal (.ofClass c.names.record) recordLocal (.construct c.names.record []) ::
            calls ++ [.giveBack (.named recordLocal)] }] ∧
    calls.length = properties.length ∧
    ∀ (i : ℕ) (p : Property), properties[i]? = some p → calls[i]? = some
      (.evaluate (.invoke (.named recordLocal) (setterName p.name)
        [convertedValue settings.listHelperClass settings.toStorageMethod settings.modelsToRecords
          (.call p.accessor []) (s.classify p.type)]))

/-- The two files of a class follow the properties, and no others. -/
structure Aligned (settings : Settings) (s : Snapshot) (c : ModelClass)
    (properties : List Property) (g : GeneratedClass) : Prop where
  record : AlignedRecord settings s c properties g.record.declaration
  implementation : AlignedImplementation settings s c properties g.implementation.declaration
  /-- The files are the same whatever properties of the trigger the class has, and where. -/
  inert : ∀ others, others.filter (·.accessor ≠ settings.toStorageMethod) = properties →
    generate settings s { c with properties := others } = .ok g

/-! ## The record -/

theorem recordDeclaration_aligned {stored : List StoredProperty}
    (same : stored.map (·.property) = c.generatedProperties) :
    AlignedRecord settings s c c.generatedProperties
      (recordDeclaration settings c.names stored
        (toModelMethod settings c.names (s.validated c))) := by
  have length : stored.length = c.generatedProperties.length := by rw [← same, List.length_map]
  constructor
  case fields => rw [recordDeclaration, List.length_map, length]
  case methods =>
    rw [recordDeclaration, List.length_append, List.length_map, length, List.length_singleton]
  case member =>
    intro i p here
    rw [← same, List.getElem?_map, Option.map_eq_some_iff] at here
    obtain ⟨q, here, rfl⟩ := here
    exact ⟨q.recordType, recordDeclaration_members here⟩
  case toModel =>
    refine ⟨(s.validated c).properties.map (restoredValue settings), ?_, ?_, ?_⟩
    · have behind : (stored.map recordSetter).length = c.generatedProperties.length := by
        rw [List.length_map, length]
      rw [recordDeclaration, ← behind]
      exact List.getElem?_concat_length
    · rw [List.length_map, validated, List.length_map]
    · intro i p here
      rw [validated, List.map_map, List.getElem?_map, here]
      exact congrArg some (restoredValue_eq settings _)

/-! ## The implementation -/

theorem implementationConstructors_eq (s : Snapshot) (c : ModelClass) :
    implementationConstructors s (s.validated c) =
      if c.generatedProperties = [] then []
      else [
        { kind := .constructor
          parameters := c.generatedProperties.map fun p => ⟨s.typeName p.type, p.name⟩
          body := [.superCall (c.generatedProperties.map fun p => .named p.name)] }] := by
  rw [implementationConstructors, validated]
  cases c.generatedProperties with
  | nil => rfl
  | cons p properties =>
      rw [if_neg (List.cons_ne_nil _ _)]
      simp [constructorParameter, Function.comp_def]

theorem implementationDeclaration_aligned :
    AlignedImplementation settings s c c.generatedProperties
      (implementationDeclaration s (s.validated c)
        (toStorageMethod settings c.names (s.validated c))) := by
  constructor
  case methods =>
    rw [implementationDeclaration, implementationConstructors_eq, List.length_append]
    split
    next => rfl
    next => rfl
  case constructible =>
    rw [constructor?_implementation, implementationConstructors_eq]
    split
    next none => simp [none]
    next some => simpa using List.length_pos_iff.2 some
  case constructor =>
    intro m member kind
    rw [implementationDeclaration, implementationConstructors_eq] at member
    rcases List.mem_append.1 member with member | conversion
    · split at member
      next => cases member
      next =>
        rw [List.mem_singleton.1 member]
        refine ⟨_, rfl, List.length_map _, List.length_map _, fun i p here => ?_⟩
        rw [List.getElem?_map, List.getElem?_map, here]
        exact ⟨rfl, rfl⟩
    · rw [List.mem_singleton.1 conversion] at kind
      cases kind
  case toStorage =>
    refine ⟨(s.validated c).properties.map (storeStatement settings), ?_, ?_, ?_⟩
    · have constructors : (implementationConstructors s (s.validated c)).filter
          (!·.isConstructor) = [] := by
        refine List.filter_eq_nil_iff.2 fun m member => ?_
        simp [MethodDeclaration.isConstructor, kind_of_mem_implementationConstructors member]
      rw [implementationDeclaration, List.filter_append, constructors]
      rfl
    · rw [List.length_map, validated, List.length_map]
    · intro i p here
      rw [validated, List.map_map, List.getElem?_map, here]
      simp only [Option.map_some, Function.comp_apply, storeStatement, storedValue_eq]

/-! ## The trigger -/

theorem generatedProperties_eq (trigger : c.trigger = some settings.toStorageMethod) :
    c.generatedProperties = c.properties.filter (·.accessor ≠ settings.toStorageMethod) := by
  rw [ModelClass.generatedProperties]
  refine List.filter_congr fun p _ => ?_
  simp [ModelClass.isTrigger, trigger, eq_comm]

/-- **All lists of the generated files follow the properties.** At every index a field, its setter,
the argument that is read from it, the parameter of the constructor and the call of the setter
belong to the same property, in order of declaration and without the trigger. -/
theorem generate_aligned (result : generate settings s c = .ok g) :
    Aligned settings s c (c.properties.filter (·.accessor ≠ settings.toStorageMethod)) g := by
  obtain ⟨trigger, _, _, _, stored, resolved, rfl⟩ := generate_eq_ok_iff.1 result
  have own := generatedProperties_eq trigger
  rw [← own]
  refine ⟨recordDeclaration_aligned (storedProperties_spec resolved).1,
    implementationDeclaration_aligned, fun others same => ?_⟩
  rw [generate_congr, result]
  rw [← same, generatedProperties_eq]
  exact trigger

/-- An order with an identity, the trigger as its second property, a customer and items. -/
def numberedClass : ModelClass where
  package := "shop"
  simpleName := "Order"
  trigger := some "toRealmObject"
  properties := [
    { name := "id", accessor := "getId", type := .primitive .long, primaryKey := true,
      indexed := true },
    { name := "toRealmObject", accessor := "toRealmObject",
      type := .declared "shop.$RealmOrder" [] },
    { name := "customer", accessor := "customer", type := .declared "crm.Customer" [] },
    { name := "items", accessor := "getItems",
      type := .declared listTypeName [.declared "shop.Basket.Item" []] }]

theorem numberedClass_aligned :
    ∃ g, generate {} (discover (.ofClasses [numberedClass, customerClass, itemClass]))
        numberedClass = .ok g ∧
      Aligned {} (discover (.ofClasses [numberedClass, customerClass, itemClass])) numberedClass
        (numberedClass.properties.filter (·.accessor ≠ "toRealmObject")) g ∧
      g.record.declaration.fields.map (·.name) = ["id", "customer", "items"] :=
  ⟨_, rfl, generate_aligned rfl, rfl⟩

/-! ## The class that a record builds again -/

/-- The naming rules name the implementation unless the class wishes for another name. -/
theorem implementation_eq_iff :
    c.names.implementation = ClassName.topLevel c.package c.implementationName ↔
      ∀ name, c.implementation.className = some name → name = implementationTypeName c.chain := by
  have same : c.names.implementation = ClassName.topLevel c.package c.implementationName ↔
      implementationTypeName c.chain = c.implementationName :=
    ⟨fun same => congrArg ClassName.simple same, fun same => congrArg (ClassName.topLevel _) same⟩
  rw [same, ModelClass.implementationName]
  cases c.implementation.className with
  | none => simp
  | some name => simp [eq_comm]

/-- **What a record builds again.** The conversion of a record constructs the implementation of the
naming rules, with one argument for each parameter of the implementation's constructor. This is the
class of the generated implementation exactly when the class wishes for no other name. -/
theorem toModel_constructs (result : generate settings s c = .ok g) :
    ∃ m args, g.record.declaration.findOverload? settings.toModelMethod 0 = some m ∧
      m.body = [.giveBack (.construct c.names.implementation args)] ∧
      args.length = (g.implementation.declaration.constructor?.map (·.parameters.length)).getD 0 ∧
      (c.names.implementation = g.implementation.className ↔
        ∀ name, c.implementation.className = some name →
          name = implementationTypeName c.chain) := by
  obtain ⟨_, _, _, _, stored, _, rfl⟩ := generate_eq_ok_iff.1 result
  refine ⟨_, _, findOverload?_toModel _ _, rfl, ?_, implementation_eq_iff⟩
  rw [assembled, constructor?_implementation, implementationConstructors_eq, validated]
  split
  next none => simp [none]
  next some => simp

theorem numberedClass_toModel :
    ∃ g, generate {} (discover (.ofClasses [numberedClass, customerClass, itemClass]))
        numberedClass = .ok g ∧
      ∃ m args, g.record.declaration.findOverload? "toModel" 0 = some m ∧
        m.body = [.giveBack (.construct g.implementation.className args)] ∧ args.length = 3 := by
  refine ⟨_, rfl, ?_⟩
  obtain ⟨m, args, found, body, arity, named⟩ := @toModel_constructs {}
    (discover (.ofClasses [numberedClass, customerClass, itemClass])) numberedClass _ rfl
  rw [named.2 nofun] at body
  exact ⟨m, args, found, body, arity⟩

/-- An order whose implementation is to have another name. -/
def renamedClass : ModelClass where
  package := "shop"
  simpleName := "Order"
  trigger := some "toRealmObject"
  implementation := { className := some "OrderImpl" }

/-- The implementation is final and has the name that the class wishes for, but the record
constructs a class that no file declares. -/
theorem renamedClass_rebuildsAnother :
    ∃ g, generate {} (discover (.ofClasses [renamedClass])) renamedClass = .ok g ∧
      g.implementation.declaration.modifiers = [.sealed] ∧
      g.implementation.className = ⟨"shop", [], "OrderImpl"⟩ ∧
      (∃ m, g.record.declaration.findOverload? "toModel" 0 = some m ∧
        m.body = [.giveBack (.construct ⟨"shop", [], "AutoValue_Order"⟩ [])]) ∧
      (generatedFiles {} (.ofClasses [renamedClass])).map (·.className) =
        [⟨"shop", [], "$RealmOrder"⟩, ⟨"shop", [], "OrderImpl"⟩] :=
  ⟨_, rfl, rfl, rfl, ⟨_, rfl, rfl⟩, rfl⟩

end RecordSynthesis
