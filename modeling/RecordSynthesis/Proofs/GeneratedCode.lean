import RecordSynthesis.Proofs.Execution
import RecordSynthesis.Proofs.Generation
import RecordSynthesis.Proofs.Paths

/-!
# Running generated code

The files of the generated classes make a program (`program`). With well-named classes every
object of a generated class finds its own declaration, so that each member of the two files has one
statement on what it does: a setter sets its field (`setter_gives`), an accessor reads its property
(`accessor_gives`), the constructors give an empty record (`newRecord_gives`) and an implementation
with all fields (`newImplementation_gives`), and a conversion runs its own body
(`toStorage_gives`, `toModel_gives`).
-/

set_option autoImplicit false

namespace RecordSynthesis

open Snapshot

variable {α : Type}

/-! ## Finding by a key -/

/-- The only element with a property is the first one. -/
theorem find?_of_unique {ι : Type} {P : ι → Bool} {xs : List ι} {x : ι} (member : x ∈ xs)
    (holds : P x) (unique : ∀ y ∈ xs, P y → y = x) : xs.find? P = some x := by
  cases found : xs.find? P with
  | none => exact (List.find?_eq_none.1 found x member holds).elim
  | some y =>
      rw [unique y (List.mem_of_find?_eq_some found) (List.find?_some found)]

theorem lookup_map {ι : Type} {key : ι → String} {value : ι → Datum α} {xs : List ι}
    (nodup : (xs.map key).Nodup) {x : ι} (member : x ∈ xs) :
    (xs.map fun y => (key y, value y)).lookup (key x) = some (value x) := by
  induction xs with
  | nil => cases member
  | cons y xs ih =>
      rw [List.map_cons, List.nodup_cons] at nodup
      rw [List.map_cons]
      rcases List.mem_cons.1 member with rfl | member
      · rw [List.lookup_cons_self]
      · have differs : key x ≠ key y := by
          intro same
          exact nodup.1 (same ▸ List.mem_map_of_mem member)
        rw [List.lookup_cons, beq_false_of_ne differs]
        exact ih nodup.2 member

/-- A fresh field comes behind the others. -/
theorem Datum.setField_of_fresh {name : String} {v : Datum α} {fields : List (String × Datum α)}
    (fresh : name ∉ fields.map Prod.fst) : setField name v fields = fields ++ [(name, v)] := by
  induction fields with
  | nil => rfl
  | cons field rest ih =>
      obtain ⟨other, w⟩ := field
      rw [List.map_cons, List.mem_cons, not_or] at fresh
      rw [setField, if_neg (Ne.symm fresh.1), ih fresh.2]
      rfl

theorem fresh_of_nodup {names rest : List String} {name : String}
    (nodup : (names ++ name :: rest).Nodup) : name ∉ names := by
  intro member
  exact (List.nodup_append.1 nodup).2.2 _ member _ List.mem_cons_self rfl

/-- A field that comes behind the others takes its name from those to come. -/
theorem nodup_fields_concat {fields : List (String × Datum α)} {name : String} {v : Datum α}
    {rest : List String} : ((fields ++ [(name, v)]).map Prod.fst ++ rest).Nodup ↔
      (fields.map Prod.fst ++ name :: rest).Nodup := by
  rw [List.map_append, List.append_assoc]
  rfl

/-! ## The program of a batch -/

/-- Names by which the generated files of a batch fit together: implementations have the names that
the naming rules give them, no class has an accessor or a setter twice, and no two classes have the
same record. -/
structure Batch.WellNamed (b : Batch) : Prop where
  implementation : ∀ c ∈ b.classes, c.isApplicable → c.implementation.className = none
  accessors : ∀ c ∈ b.classes, c.isApplicable → (c.generatedProperties.map (·.accessor)).Nodup
  setters : ∀ c ∈ b.classes, c.isApplicable →
    (c.generatedProperties.map fun p => setterName p.name).Nodup
  records : ∀ c ∈ b.classes, ∀ d ∈ b.classes, c.isApplicable → d.isApplicable →
    c.names.record = d.names.record → c = d

/-- The files of all classes that can be generated. -/
def generatedFiles (settings : Settings) (b : Batch) : List SourceFile :=
  b.classes.flatMap fun c =>
    match generate settings (discover b) c with
    | .ok g => [g.record, g.implementation]
    | .error _ => []

/-- The generated files of a batch as a program. An accessor reads the property that the model
declares with it. -/
def program (settings : Settings) (b : Batch) (helper : ListHelper α) : Program α where
  declaration? type :=
    ((generatedFiles settings b).find? fun f => f.className = type).map (·.declaration)
  property? type accessor := do
    let c ← b.classes.find? fun c =>
      c.isApplicable ∧ ClassName.topLevel c.package c.implementationName = type
    let p ← c.properties.find? fun p => p.accessor = accessor
    return p.name
  helper

section Files

variable {settings : Settings} {b : Batch} {c : ModelClass} {g : GeneratedClass}

/-- A generated class with what the steps of its generation gave. -/
structure Generated (settings : Settings) (b : Batch) (c : ModelClass) (g : GeneratedClass)
    (stored : List StoredProperty) : Prop where
  listed : c ∈ b.classes
  trigger : c.trigger = some settings.toStorageMethod
  result : generate settings (discover b) c = .ok g
  files : g = assembled settings (discover b) ((discover b).validated c) stored
  stored : stored.map (·.property) = c.generatedProperties

theorem exists_generated (listed : c ∈ b.classes)
    (result : generate settings (discover b) c = .ok g) :
    ∃ stored, Generated settings b c g stored := by
  obtain ⟨generable, stored, resolved, rfl⟩ := (generate_eq_ok listed).1 result
  exact ⟨stored, listed, generable.trigger, result, rfl, (storedProperties_spec resolved).1⟩

theorem mem_generatedFiles {f : SourceFile} : f ∈ generatedFiles settings b ↔
    ∃ c ∈ b.classes, ∃ g, generate settings (discover b) c = .ok g ∧
      (f = g.record ∨ f = g.implementation) := by
  rw [generatedFiles, List.mem_flatMap]
  refine exists_congr fun c => and_congr_right fun _ => ?_
  cases generate settings (discover b) c with
  | ok g => simp
  | error failure => simp

namespace Generated

variable {stored : List StoredProperty}

theorem isApplicable (generated : Generated settings b c g stored) : c.isApplicable := by
  rw [ModelClass.isApplicable, generated.trigger]
  rfl

theorem record_className (generated : Generated settings b c g stored) :
    g.record.className = c.names.record := by
  rw [generated.files]
  rfl

theorem implementation_className (generated : Generated settings b c g stored) :
    g.implementation.className = .topLevel c.package c.implementationName := by
  rw [generated.files]
  rfl

end Generated

/-- In a well-named batch the naming rules name the implementations. -/
theorem Batch.WellNamed.implementation_eq (named : b.WellNamed) (listed : c ∈ b.classes)
    (applicable : c.isApplicable) :
    ClassName.topLevel c.package c.implementationName = c.names.implementation := by
  rw [ModelClass.implementationName, named.implementation c listed applicable]
  rfl

/-- In a well-named batch classes with the same implementation are the same. -/
theorem Batch.WellNamed.eq_of_implementation (named : b.WellNamed) {d : ModelClass}
    (first : c ∈ b.classes) (second : d ∈ b.classes) (applicable : c.isApplicable)
    (applicable' : d.isApplicable) (same : c.names.implementation = d.names.implementation) :
    c = d := by
  have package : c.package = d.package := congrArg ClassName.package same
  have simple : implementationTypeName c.chain = implementationTypeName d.chain :=
    congrArg ClassName.simple same
  have chain := (String.append_right_inj _).1 simple
  refine named.records c first d second applicable applicable' ?_
  rw [ModelClass.names, ModelClass.names, ResolvedNames.resolve, ResolvedNames.resolve, package]
  exact congrArg (ClassName.topLevel _) (congrArg ("$Realm" ++ ·) chain)

theorem names_record_ne_implementation (c d : ModelClass) :
    c.names.record ≠ d.names.implementation := by
  intro same
  exact recordTypeName_ne_implementationTypeName c.chain d.chain (congrArg ClassName.simple same)

/-- The only file of a class declares it. -/
theorem declaration?_of_unique {f : SourceFile} (helper : ListHelper α)
    (member : f ∈ generatedFiles settings b)
    (unique : ∀ f' ∈ generatedFiles settings b, f'.className = f.className → f' = f) :
    (program settings b helper).declaration? f.className = some f.declaration := by
  have found : (generatedFiles settings b).find? (fun f' => f'.className = f.className) = some f :=
    find?_of_unique member (decide_eq_true rfl) fun f' member' same =>
      unique f' member' (of_decide_eq_true same)
  exact congrArg (Option.map _) found

namespace Generated

variable {stored : List StoredProperty}

/-- In a well-named batch every record finds its declaration. -/
theorem declaration?_record (named : b.WellNamed) (generated : Generated settings b c g stored)
    (helper : ListHelper α) :
    (program settings b helper).declaration? c.names.record =
      some (recordDeclaration settings c.names stored
        (toModelMethod settings c.names ((discover b).validated c))) := by
  have declared := declaration?_of_unique helper
    (mem_generatedFiles.2 ⟨c, generated.listed, g, generated.result, .inl rfl⟩) ?_
  · rw [generated.record_className, generated.files] at declared
    exact declared
  · intro f member same
    rw [generated.record_className] at same
    obtain ⟨d, listed, g', result, kind⟩ := mem_generatedFiles.1 member
    obtain ⟨stored', other⟩ := exists_generated listed result
    rcases kind with rfl | rfl
    · rw [other.record_className] at same
      obtain rfl := named.records d listed c generated.listed other.isApplicable
        generated.isApplicable same
      rw [Except.ok.inj (result.symm.trans generated.result)]
    · rw [other.implementation_className, named.implementation_eq listed other.isApplicable] at same
      exact (names_record_ne_implementation c d same.symm).elim

/-- In a well-named batch every implementation finds its declaration. -/
theorem declaration?_implementation (named : b.WellNamed)
    (generated : Generated settings b c g stored) (helper : ListHelper α) :
    (program settings b helper).declaration? c.names.implementation =
      some (implementationDeclaration (discover b) ((discover b).validated c)
        (toStorageMethod settings c.names ((discover b).validated c))) := by
  have own := generated.implementation_className.trans
    (named.implementation_eq generated.listed generated.isApplicable)
  have declared := declaration?_of_unique helper
    (mem_generatedFiles.2 ⟨c, generated.listed, g, generated.result, .inr rfl⟩) ?_
  · rw [own, generated.files] at declared
    exact declared
  · intro f member same
    rw [own] at same
    obtain ⟨d, listed, g', result, kind⟩ := mem_generatedFiles.1 member
    obtain ⟨stored', other⟩ := exists_generated listed result
    rcases kind with rfl | rfl
    · rw [other.record_className] at same
      exact (names_record_ne_implementation d c same).elim
    · rw [other.implementation_className, named.implementation_eq listed other.isApplicable] at same
      obtain rfl := named.eq_of_implementation listed generated.listed other.isApplicable
        generated.isApplicable same
      rw [Except.ok.inj (result.symm.trans generated.result)]

/-- In a well-named batch every accessor finds its property. -/
theorem property?_accessor (named : b.WellNamed) (generated : Generated settings b c g stored)
    (helper : ListHelper α) {p : Property} (member : p ∈ c.generatedProperties) :
    (program settings b helper).property? c.names.implementation p.accessor = some p.name := by
  have foundClass : b.classes.find? (fun d => d.isApplicable ∧
      ClassName.topLevel d.package d.implementationName = c.names.implementation) = some c := by
    have own := named.implementation_eq generated.listed generated.isApplicable
    refine find?_of_unique generated.listed (decide_eq_true ⟨generated.isApplicable, own⟩)
      fun d listed same => ?_
    obtain ⟨applicable, same⟩ := of_decide_eq_true same
    rw [named.implementation_eq listed applicable] at same
    exact named.eq_of_implementation listed generated.listed applicable generated.isApplicable same
  obtain ⟨declared, notTrigger⟩ := List.mem_filter.1 member
  have foundProperty : c.properties.find? (fun q => q.accessor = p.accessor) = some p := by
    apply find?_of_unique declared (decide_eq_true rfl)
    intro q declared' same
    have same := of_decide_eq_true same
    have member' : q ∈ c.generatedProperties := by
      refine List.mem_filter.2 ⟨declared', ?_⟩
      rw [ModelClass.isTrigger, same]
      exact notTrigger
    exact List.inj_on_of_nodup_map
      (named.accessors c generated.listed generated.isApplicable) member' member same
  simp only [program, foundClass, foundProperty, Option.bind_eq_bind, Option.bind_some]
  rfl

end Generated

end Files

/-! ## Members -/

section Members

variable {settings : Settings} {b : Batch} {c : ModelClass} {g : GeneratedClass}
  {stored : List StoredProperty}

/-- Field and setter stand at the place of their property. -/
theorem recordDeclaration_members {names : ResolvedNames} {toModel : MethodDeclaration} {i : ℕ}
    {q : StoredProperty} (here : stored[i]? = some q) :
    (recordDeclaration settings names stored toModel).fields[i]? =
        some (recordField settings q) ∧
      (recordDeclaration settings names stored toModel).methods[i]? = some (recordSetter q) := by
  have inside : i < (stored.map recordSetter).length := by
    rw [List.length_map]
    exact (List.getElem?_eq_some_iff.1 here).1
  constructor
  · rw [recordDeclaration, List.getElem?_map, here]
    rfl
  · rw [recordDeclaration, List.getElem?_append_left inside, List.getElem?_map, here]
    rfl

/-- Different generated properties have different setters. -/
theorem Generated.recordSetter_eq (named : b.WellNamed)
    (generated : Generated settings b c g stored) {p q : StoredProperty} (first : p ∈ stored)
    (second : q ∈ stored) (same : setterName p.property.name = setterName q.property.name) :
    p = q := by
  have nodup := named.setters c generated.listed generated.isApplicable
  rw [← generated.stored, List.map_map] at nodup
  exact List.inj_on_of_nodup_map nodup first second same

/-- A call of a setter finds it, even beside a conversion of the same name. -/
theorem Generated.findOverload?_setter (named : b.WellNamed)
    (generated : Generated settings b c g stored) {q : StoredProperty} (member : q ∈ stored)
    (toModel : MethodDeclaration) (bare : toModel.parameters = []) :
    (recordDeclaration settings c.names stored toModel).findOverload?
      (setterName q.property.name) 1 = some (recordSetter q) := by
  refine find?_of_unique (List.mem_append_left _ (List.mem_map_of_mem member))
    (decide_eq_true ⟨rfl, rfl⟩) fun m listed same => ?_
  obtain ⟨name, arity⟩ := of_decide_eq_true same
  rcases List.mem_append.1 listed with setter | conversion
  · obtain ⟨q', member', rfl⟩ := List.mem_map.1 setter
    rw [generated.recordSetter_eq named member' member (Option.some.inj name)]
  · rw [List.mem_singleton.1 conversion, bare] at arity
    cases arity

/-- A call of the conversion of a record finds it, even beside a setter of the same name. -/
theorem findOverload?_toModel (names : ResolvedNames) (v : ValidatedClass) :
    (recordDeclaration settings names stored (toModelMethod settings names v)).findOverload?
      settings.toModelMethod 0 = some (toModelMethod settings names v) := by
  refine find?_of_unique (List.mem_append_right _ (List.mem_singleton_self _))
    (decide_eq_true ⟨rfl, rfl⟩) fun m listed same => ?_
  obtain ⟨_, arity⟩ := of_decide_eq_true same
  rcases List.mem_append.1 listed with setter | conversion
  · obtain ⟨q, _, rfl⟩ := List.mem_map.1 setter
    cases arity
  · exact List.mem_singleton.1 conversion

theorem constructor?_record (names : ResolvedNames) (v : ValidatedClass) :
    (recordDeclaration settings names stored (toModelMethod settings names v)).constructor? =
      none := by
  apply List.find?_eq_none.2
  intro m listed
  rcases List.mem_append.1 listed with setter | conversion
  · obtain ⟨q, _, rfl⟩ := List.mem_map.1 setter
    exact Bool.false_ne_true
  · rw [List.mem_singleton.1 conversion]
    exact Bool.false_ne_true

theorem kind_of_mem_implementationConstructors {s : Snapshot} {v : ValidatedClass}
    {m : MethodDeclaration} (member : m ∈ implementationConstructors s v) :
    m.kind = .constructor := by
  rw [implementationConstructors] at member
  split at member
  next => cases member
  next =>
    rw [List.mem_singleton.1 member]

/-- A call of the conversion of an implementation finds it. -/
theorem findOverload?_toStorage (s : Snapshot) (names : ResolvedNames) (v : ValidatedClass) :
    (implementationDeclaration s v (toStorageMethod settings names v)).findOverload?
      settings.toStorageMethod 0 = some (toStorageMethod settings names v) := by
  refine find?_of_unique (List.mem_append_right _ (List.mem_singleton_self _))
    (decide_eq_true ⟨rfl, rfl⟩) fun m listed same => ?_
  obtain ⟨name, _⟩ := of_decide_eq_true same
  rcases List.mem_append.1 listed with constructor | conversion
  · rw [MethodDeclaration.name?, kind_of_mem_implementationConstructors constructor] at name
    cases name
  · exact List.mem_singleton.1 conversion

/-- An implementation declares no accessor. -/
theorem findOverload?_accessor (s : Snapshot) (names : ResolvedNames) (v : ValidatedClass)
    {accessor : String} (other : accessor ≠ settings.toStorageMethod) :
    (implementationDeclaration s v (toStorageMethod settings names v)).findOverload? accessor 0 =
      none := by
  apply List.find?_eq_none.2
  intro m listed same
  obtain ⟨name, _⟩ := of_decide_eq_true same
  rcases List.mem_append.1 listed with constructor | conversion
  · rw [MethodDeclaration.name?, kind_of_mem_implementationConstructors constructor] at name
    cases name
  · rw [List.mem_singleton.1 conversion] at name
    exact other (Option.some.inj name).symm

/-- An implementation has a constructor for its properties, if there are any. -/
theorem constructor?_implementation (s : Snapshot) (names : ResolvedNames) (v : ValidatedClass) :
    (implementationDeclaration s v (toStorageMethod settings names v)).constructor? =
      (implementationConstructors s v).head? := by
  obtain ⟨source, properties⟩ := v
  cases properties with
  | nil => rfl
  | cons p properties => rfl

end Members

/-! ## What members do -/

section Behaviour

variable {settings : Settings} {b : Batch} {c : ModelClass} {g : GeneratedClass}
  {stored : List StoredProperty} {helper : ListHelper α} {r : Routines α}

namespace Generated

/-- A setter sets the field of its property. -/
theorem setter_gives (named : b.WellNamed) (generated : Generated settings b c g stored)
    {p : Property} (member : p ∈ c.generatedProperties) (fields : List (String × Datum α))
    (v : Datum α) :
    Gives ((program settings b helper).invoke r (.object c.names.record fields)
        (setterName p.name) [v])
      (none, .object c.names.record (Datum.setField p.name v fields)) [] := by
  rw [← generated.stored] at member
  obtain ⟨q, listed, rfl⟩ := List.mem_map.1 member
  have found := generated.findOverload?_setter named listed
    (toModelMethod settings c.names ((discover b).validated c)) rfl
  have runs : Gives (execute r ((recordSetter q).frame (.object c.names.record fields) [v])
      (recordSetter q).body) _ _ :=
    execute_setField_gives c.names.record fields q.property.name v
  exact Program.invoke_gives_of_singleton (generated.declaration?_record named helper) found runs

/-- An accessor reads the field of its property. -/
theorem accessor_gives (named : b.WellNamed) (generated : Generated settings b c g stored)
    {p : Property} (member : p ∈ c.generatedProperties) {fields : List (String × Datum α)}
    {v : Datum α} (field : fields.lookup p.name = some v) :
    Gives ((program settings b helper).invoke r (.object c.names.implementation fields)
        p.accessor [])
      (some v, .object c.names.implementation fields) [] := by
  have other : p.accessor ≠ settings.toStorageMethod := by
    intro same
    obtain ⟨_, notTrigger⟩ := List.mem_filter.1 member
    rw [ModelClass.isTrigger, generated.trigger, same] at notTrigger
    simp at notTrigger
  exact Program.invoke_gives_of_accessor (generated.declaration?_implementation named helper)
    (findOverload?_accessor _ _ _ other) (generated.property?_accessor named helper member) field

/-- A new record is empty. -/
theorem newRecord_gives (named : b.WellNamed) (generated : Generated settings b c g stored) :
    Gives ((program settings b helper).create r c.names.record []) (.object c.names.record []) [] :=
  Program.create_gives_of_none (generated.declaration?_record named helper)
    (constructor?_record _ _)

end Generated

end Behaviour

/-! ## Models and their records -/

/-- A property with its values on a model and on the record. -/
structure Slot (α : Type) where
  property : Property
  onModel : Datum α
  onRecord : Datum α

namespace Slot

variable (s : Snapshot) (c : ModelClass) (slots : List (Slot α))

/-- The property with its classification. -/
def classified (x : Slot α) : ClassifiedProperty := ⟨x.property, s.classify x.property.type⟩

/-- The object of the implementation. -/
def model : Datum α :=
  .object c.names.implementation (slots.map fun x => (x.property.name, x.onModel))

/-- The object of the record. -/
def record : Datum α :=
  .object c.names.record (slots.map fun x => (x.property.name, x.onRecord))

end Slot

section Conversions

variable {settings : Settings} {b : Batch} {c : ModelClass} {g : GeneratedClass}
  {stored : List StoredProperty} {helper : ListHelper α} {r : Routines α} {slots : List (Slot α)}

/-- The superclass stores every argument, behind the fields that are there. -/
theorem storeAll_gives {ι : Type} {key : ι → String} {value : ι → Datum α} {items : List ι}
    {type : ClassName} {fields locals : List (String × Datum α)}
    (found : ∀ i ∈ items, locals.lookup (key i) = some (value i))
    (nodup : (fields.map Prod.fst ++ items.map key).Nodup) :
    Gives (storeAll r ⟨.object type fields, locals⟩ (items.map fun i => .named (key i)))
      ⟨.object type (fields ++ items.map fun i => (key i, value i)), locals⟩ [] := by
  induction items generalizing fields with
  | nil =>
      rw [List.map_nil, List.map_nil, List.append_nil]
      exact .pure _
  | cons i items ih =>
      obtain ⟨first, others⟩ := List.forall_mem_cons.1 found
      rw [List.map_cons] at nodup
      have fresh := fresh_of_nodup nodup
      have rest := ih others (nodup_fields_concat (v := value i).2 nodup)
      rw [List.append_assoc] at rest
      have read : Frame.named? ⟨.object type fields, locals⟩ (key i) = some (value i) := by
        rw [Frame.named?, first, Option.some_or]
      have write : (Datum.object type fields).withField? (key i) (value i) =
          some (.object type (fields ++ [(key i, value i)])) := by
        rw [Datum.withField?, Datum.setField_of_fresh fresh]
      exact Gives.quietly (.ofOption read) (.quietly (.ofOption write) rest)

/-- The setters store every value, behind the fields that are there. -/
theorem stores_give {self : Datum α} {type : ClassName} {noted : Slot α → List (Call α)}
    {classification : Slot α → Classification} (fields : List (String × Datum α))
    (values : ∀ x ∈ slots, ∀ locals, Gives (evaluate r ⟨self, locals⟩
      (storedValue settings ⟨x.property, classification x⟩)) x.onRecord (noted x))
    (setters : ∀ x ∈ slots, ∀ fields, Gives
      (r.invoke (.object type fields) (setterName x.property.name) [x.onRecord])
      (none, .object type (Datum.setField x.property.name x.onRecord fields)) [])
    (nodup : (fields.map Prod.fst ++ slots.map (·.property.name)).Nodup) :
    ∃ f, Gives (execute r ⟨self, [(recordLocal, .object type fields)]⟩
        ((slots.map fun x => storeStatement settings ⟨x.property, classification x⟩) ++
          [.giveBack (.named recordLocal)]))
      (some (.object type (fields ++ slots.map fun x => (x.property.name, x.onRecord))), f)
      (slots.flatMap noted) := by
  induction slots generalizing fields with
  | nil =>
      rw [List.map_nil, List.map_nil, List.append_nil, List.nil_append]
      refine ⟨_, Gives.quietly (.ofOption ?_) (.pure _)⟩
      rw [Frame.named?, List.lookup_cons_self, Option.some_or]
  | cons x slots ih =>
      obtain ⟨value, values⟩ := List.forall_mem_cons.1 values
      obtain ⟨setter, setters⟩ := List.forall_mem_cons.1 setters
      rw [List.map_cons] at nodup
      have fresh := fresh_of_nodup nodup
      obtain ⟨f, rest⟩ := ih _ values setters (nodup_fields_concat (v := x.onRecord).2 nodup)
      rw [List.append_assoc] at rest
      have setter := setter fields
      rw [Datum.setField_of_fresh fresh] at setter
      have step := executeStep_gives_of_local (f := ⟨self, [(recordLocal, .object type fields)]⟩)
        List.lookup_cons_self (evaluateAll_gives_singleton (value _)) setter
      rw [List.append_nil] at step
      exact ⟨f, execute_step_gives step rest⟩

theorem validated_properties {s : Snapshot}
    (covers : slots.map (·.property) = c.generatedProperties) :
    (s.validated c).properties = slots.map (Slot.classified s) := by
  rw [validated, ← covers, List.map_map]
  rfl

namespace Generated

/-- Different properties of a well-named class have different names. -/
theorem nodup_names (named : b.WellNamed) (generated : Generated settings b c g stored)
    (covers : slots.map (·.property) = c.generatedProperties) :
    (slots.map (·.property.name)).Nodup := by
  have nodup := named.setters c generated.listed generated.isApplicable
  rw [← covers, List.map_map] at nodup
  refine List.Nodup.of_map setterName ?_
  rw [List.map_map]
  exact nodup

end Generated

/-- The constructor of an implementation with properties takes them in order and hands them on. -/
theorem exists_constructor (settings : Settings) (s : Snapshot) (names : ResolvedNames)
    (covers : slots.map (·.property) = c.generatedProperties) (some : slots ≠ []) :
    ∃ m, (implementationDeclaration s (s.validated c)
        (toStorageMethod settings names (s.validated c))).constructor? = .some m ∧
      m.parameters.map (·.name) = slots.map (·.property.name) ∧
      m.body = [.superCall (slots.map fun x => .named x.property.name)] := by
  obtain ⟨x, rest, rfl⟩ := List.exists_cons_of_ne_nil some
  rw [constructor?_implementation, implementationConstructors, validated_properties covers]
  refine ⟨_, rfl, ?_, ?_⟩
  · simp [Slot.classified, constructorParameter, Function.comp_def]
  · simp [Slot.classified]

namespace Generated

/-- A new implementation has all fields. -/
theorem newImplementation_gives (named : b.WellNamed)
    (generated : Generated settings b c g stored)
    (covers : slots.map (·.property) = c.generatedProperties) :
    Gives ((program settings b helper).create r c.names.implementation (slots.map (·.onModel)))
      (Slot.model c slots) [] := by
  have declared := generated.declaration?_implementation named helper
  have nodup := generated.nodup_names named covers
  rcases eq_or_ne slots [] with rfl | some
  · refine Program.create_gives_of_none declared ?_
    rw [constructor?_implementation, implementationConstructors, validated_properties covers]
    rfl
  · obtain ⟨m, found, parameters, body⟩ := exists_constructor settings (discover b)
      c.names covers some
    have frame : m.frame (.object c.names.implementation []) (slots.map (·.onModel)) =
        ⟨.object c.names.implementation [], slots.map fun x => (x.property.name, x.onModel)⟩ := by
      rw [MethodDeclaration.frame, parameters, List.zip_map']
    have arity : m.parameters.length = (slots.map (·.onModel)).length := by
      rw [← List.length_map (·.name), parameters, List.length_map, List.length_map]
    have step : Gives (executeStep r
        ⟨.object c.names.implementation [], slots.map fun x => (x.property.name, x.onModel)⟩
        (.superCall (slots.map fun x => .named x.property.name)))
        ⟨Slot.model c slots, slots.map fun x => (x.property.name, x.onModel)⟩ [] :=
      storeAll_gives (fun x member => lookup_map nodup member) nodup
    have runs : Gives (execute r (m.frame (.object c.names.implementation [])
        (slots.map (·.onModel))) m.body)
        (none, ⟨Slot.model c slots, slots.map fun x => (x.property.name, x.onModel)⟩) [] := by
      rw [frame, body]
      exact execute_step_gives step (.pure _)
    exact Program.create_gives_of_some declared found arity runs

/-- **The conversion of a model runs all setters**, once every value is there as the record takes
it. -/
theorem toStorage_gives (named : b.WellNamed) (generated : Generated settings b c g stored)
    (covers : slots.map (·.property) = c.generatedProperties) {depth : Nat}
    {noted : Slot α → List (Call α)}
    (values : ∀ x ∈ slots, ∀ locals,
      Gives (evaluate ((program settings b helper).routines (depth + 1))
        ⟨Slot.model c slots, locals⟩ (storedValue settings (x.classified (discover b))))
        x.onRecord (noted x)) :
    Gives (((program settings b helper).routines (depth + 2)).result (Slot.model c slots)
        settings.toStorageMethod [])
      (Slot.record c slots)
      (⟨settings.toStorageMethod, Slot.model c slots⟩ :: slots.flatMap noted) := by
  have nodup := generated.nodup_names named covers
  have setters : ∀ x ∈ slots, ∀ fields, Gives
      (((program settings b helper).routines (depth + 1)).invoke (.object c.names.record fields)
        (setterName x.property.name) [x.onRecord])
      (none, .object c.names.record (Datum.setField x.property.name x.onRecord fields)) [] := by
    intro x member fields
    have listed : x.property ∈ c.generatedProperties := covers ▸ List.mem_map_of_mem member
    exact generated.setter_gives named listed fields x.onRecord
  obtain ⟨f, stores⟩ := stores_give [] values setters nodup
  have opening : Gives (executeStep ((program settings b helper).routines (depth + 1))
      ⟨Slot.model c slots, []⟩ (.declareLocal (.ofClass c.names.record) recordLocal
        (.construct c.names.record [])))
      ⟨Slot.model c slots, [(recordLocal, .object c.names.record [])]⟩ [] :=
    Gives.quietly (.quietly (.pure _) (generated.newRecord_gives named)) (.pure _)
  have body : (toStorageMethod settings c.names ((discover b).validated c)).body =
      .declareLocal (.ofClass c.names.record) recordLocal (.construct c.names.record []) ::
        ((slots.map fun x => storeStatement settings (x.classified (discover b))) ++
          [.giveBack (.named recordLocal)]) := by
    rw [toStorageMethod, validated_properties covers, List.map_map]
    rfl
  have runs := execute_step_gives opening stores
  have invoked := Program.invoke_gives_of_nil (generated.declaration?_implementation named helper)
    (findOverload?_toStorage _ _ _) (by rw [body]; exact runs)
  exact Program.result_gives invoked

/-- **The conversion of a record makes a new implementation**, once every value is there as the
model takes it. -/
theorem toModel_gives (named : b.WellNamed) (generated : Generated settings b c g stored)
    (covers : slots.map (·.property) = c.generatedProperties) {depth : Nat}
    {noted : Slot α → List (Call α)}
    (values : ∀ x ∈ slots,
      Gives (evaluate ((program settings b helper).routines (depth + 1))
        ⟨Slot.record c slots, []⟩ (restoredValue settings (x.classified (discover b))))
        x.onModel (noted x)) :
    Gives (((program settings b helper).routines (depth + 2)).result (Slot.record c slots)
        settings.toModelMethod [])
      (Slot.model c slots)
      (⟨settings.toModelMethod, Slot.record c slots⟩ :: slots.flatMap noted) := by
  have body : (toModelMethod settings c.names ((discover b).validated c)).body =
      [.giveBack (.construct c.names.implementation
        (slots.map fun x => restoredValue settings (x.classified (discover b))))] := by
    rw [toModelMethod, validated_properties covers, List.map_map]
    rfl
  have created : Gives (((program settings b helper).routines (depth + 1)).create
      c.names.implementation (slots.map (·.onModel))) (Slot.model c slots) [] :=
    generated.newImplementation_gives named covers
  have runs : Gives (execute ((program settings b helper).routines (depth + 1))
      ⟨Slot.record c slots, []⟩ [.giveBack (.construct c.names.implementation
        (slots.map fun x => restoredValue settings (x.classified (discover b))))])
      (some (Slot.model c slots), ⟨Slot.record c slots, []⟩) (slots.flatMap noted) :=
    ((evaluateAll_gives values).thenQuietly created).thenQuietly (.pure _)
  have invoked := Program.invoke_gives_of_nil (generated.declaration?_record named helper)
    (findOverload?_toModel _ _) (by rw [body]; exact runs)
  exact Program.result_gives invoked

end Generated

end Conversions

end RecordSynthesis
