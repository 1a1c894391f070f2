import RecordSynthesis.Pass.Run
import RecordSynthesis.Proofs.Locality
import RecordSynthesis.Store.Memory

/-!
# Properties of the trigger

A class may list its trigger among its properties, with any type and any markers, at any place, once,
several times or not at all. Nothing that a pass does looks at such a property. The snapshot of a
batch, the result of a class and the whole course of a pass are those of the reduced classes, which
have lost the properties of their triggers (`discover_reduced`, `generate_reduced`, `run_reduced`).
So classes that differ in these properties only cannot be told apart (`run_triggerChanged`), whatever
such a property would do if it counted: have an unsupported type, refer to a model without record or
close a cycle.
-/

set_option autoImplicit false

namespace RecordSynthesis

open Snapshot

/-! ## Classes without the properties of their triggers -/

namespace ModelClass

/-- The class without the properties of its trigger. -/
def reduced (c : ModelClass) : ModelClass := { c with properties := c.generatedProperties }

variable (c : ModelClass)

@[simp]
theorem qualifiedName_reduced : c.reduced.qualifiedName = c.qualifiedName := rfl

@[simp]
theorem isApplicable_reduced : c.reduced.isApplicable = c.isApplicable := rfl

@[simp]
theorem names_reduced : c.reduced.names = c.names := rfl

@[simp]
theorem generatedProperties_reduced :
    c.reduced.generatedProperties = c.generatedProperties :=
  List.filter_eq_self.2 fun _ member => (List.mem_filter.1 member).2

end ModelClass

/-- The batch with reduced classes. -/
def Batch.reduced (b : Batch) : Batch := { b with classes := b.classes.map (·.reduced) }

/-! ## The snapshot -/

section Discovered

variable (classes : List ModelClass) (isModel : String → Bool) (name : String)

theorem declarations_reduced :
    declarations (classes.map (·.reduced)) name = (declarations classes name).map (·.reduced) :=
  List.filter_map

theorem referencesOf_reduced (c : ModelClass) :
    referencesOf isModel c.reduced = referencesOf isModel c := by
  rw [referencesOf, referencesOf, c.generatedProperties_reduced]

/-- The classes say the same about a name. -/
theorem describe_reduced :
    describe (classes.map (·.reduced)) isModel name = describe classes isModel name := by
  rw [describe, describe, declarations_reduced, List.getLast?_map, List.length_map]
  cases (declarations classes name).getLast? with
  | none => rfl
  | some c => simp [referencesOf_reduced]

theorem namesOf_reduced (b : Batch) : namesOf b.reduced = namesOf b := by
  rw [namesOf, namesOf, Batch.reduced, List.map_map]
  rfl

/-- **The snapshot does not show the properties of a trigger.** -/
theorem discover_reduced (b : Batch) : discover b.reduced = discover b := by
  have described : describe b.reduced.classes = describe b.classes := by
    funext isModel name
    exact describe_reduced b.classes isModel name
  rw [discover, discover, namesOf_reduced, described]

end Discovered

/-! ## One class -/

section Classes

variable (settings : Settings) (s : Snapshot) (c : ModelClass)

/-- **A class has the result of its reduced class**, files and failures alike. -/
theorem generate_reduced : generate settings s c.reduced = generate settings s c :=
  generate_congr c.generatedProperties_reduced

theorem generationLog_reduced :
    generationLog settings s c.reduced = generationLog settings s c := by
  have validation : validationLog s c.reduced = validationLog s c := by
    rw [validationLog, validationLog, c.generatedProperties_reduced]
    rfl
  rw [generationLog, generationLog, validation, generate_reduced]
  rfl

variable {σ : Type}

theorem decideClass_reduced (p : Progress σ) (sink : Sink σ) :
    p.decideClass settings s sink c.reduced = p.decideClass settings s sink c := by
  rw [Progress.decideClass, Progress.decideClass, Progress.generateClass, Progress.generateClass,
    generationLog_reduced, generate_reduced]
  rfl

end Classes

/-! ## Passes -/

theorem discoveryLogFrom_reduced (seen : List String) (classes : List ModelClass) :
    discoveryLogFrom seen (classes.map (·.reduced)) = discoveryLogFrom seen classes := by
  induction classes generalizing seen with
  | nil => rfl
  | cons c classes ih =>
      rw [List.map_cons, discoveryLogFrom, discoveryLogFrom, c.qualifiedName_reduced, ih]
      rfl

theorem firstDeclarations_reduced (seen : List String) (classes : List ModelClass) :
    firstDeclarations seen (classes.map (·.reduced)) =
      (firstDeclarations seen classes).map (·.reduced) := by
  induction classes generalizing seen with
  | nil => rfl
  | cons c classes ih =>
      rw [List.map_cons, firstDeclarations, firstDeclarations, c.qualifiedName_reduced]
      split
      next known => exact ih seen
      next fresh => rw [ih, List.map_cons]

/-- **A pass takes the course of the pass over the reduced classes**: the report, the state of the
sink and the log are the same. -/
theorem run_reduced {σ : Type} (settings : Settings) (b : Batch) (sink : Sink σ) (start : σ) :
    run settings b.reduced sink start = run settings b sink start := by
  have opening : discoveryLog b.reduced = discoveryLog b := discoveryLogFrom_reduced [] b.classes
  have decided : ∀ p : Progress σ,
      (firstDeclarations [] b.reduced.classes).foldl
          (fun p c => p.decideClass settings (discover b) sink c) p =
        (firstDeclarations [] b.classes).foldl
          (fun p c => p.decideClass settings (discover b) sink c) p := by
    intro p
    rw [Batch.reduced, firstDeclarations_reduced, List.foldl_map]
    simp only [decideClass_reduced]
  simp only [run, discover_reduced, opening, decided]

/-! ## Changes to the properties of a trigger -/

/-- Changes to the properties of its trigger lead from one class to the other. Some of them are taken
out, until the properties are left that both classes have in common, and others are put in at any
places. -/
def ModelClass.TriggerChanged (c c' : ModelClass) : Prop :=
  ∃ common others, Inserted (fun p => c.trigger = some p.accessor) common c.properties ∧
    Inserted (fun p => c.trigger = some p.accessor) common others ∧
    c' = { c with properties := others }

/-- Changes of this kind lead from each class of one batch to the class at its place in the other. -/
structure Batch.TriggerChanged (b b' : Batch) : Prop where
  classes : List.Forall₂ ModelClass.TriggerChanged b.classes b'.classes
  externals : b'.externalModels = b.externalModels

/-- What is in common is enough to tell the properties that take part. -/
theorem ModelClass.TriggerChanged.reduced_eq {c c' : ModelClass} (changed : c.TriggerChanged c') :
    c'.reduced = c.reduced := by
  obtain ⟨common, others, taken, given, rfl⟩ := changed
  have own : ∀ p : Property, c.trigger = some p.accessor → (!c.isTrigger p) = false := by
    intro p own
    simp [ModelClass.isTrigger, own]
  have same : others.filter (fun p => !c.isTrigger p) =
      c.properties.filter fun p => !c.isTrigger p :=
    (given.filter_eq own).trans (taken.filter_eq own).symm
  exact congrArg (fun properties => ({ c with properties } : ModelClass)) same

theorem Batch.TriggerChanged.reduced_eq {b b' : Batch} (changed : b.TriggerChanged b') :
    b'.reduced = b.reduced := by
  have classes : b'.classes.map (·.reduced) = b.classes.map (·.reduced) := by
    rw [← List.forall₂_eq_eq_eq, List.forall₂_map_left_iff, List.forall₂_map_right_iff]
    refine changed.classes.flip.imp fun c' c related => ?_
    exact ModelClass.TriggerChanged.reduced_eq related
  rw [Batch.reduced, Batch.reduced, classes, changed.externals]

/-- **Properties of a trigger are without effect.** Let two batches differ in such properties only:
in which of them the classes have, where they stand, and in their types, names and markers. Then
both batches have the same snapshot, each class has the same files or the same failure, and a pass
takes the same course, with the same report, files and log. -/
theorem run_triggerChanged {σ : Type} (settings : Settings) {b b' : Batch}
    (changed : b.TriggerChanged b') (sink : Sink σ) (start : σ) :
    discover b' = discover b ∧
      List.Forall₂ (fun c c' => ∀ s, generate settings s c' = generate settings s c)
        b.classes b'.classes ∧
      run settings b' sink start = run settings b sink start := by
  refine ⟨?_, ?_, ?_⟩
  · rw [← discover_reduced b', changed.reduced_eq, discover_reduced]
  · refine changed.classes.imp fun c c' related s => ?_
    rw [← generate_reduced settings s c', related.reduced_eq, generate_reduced]
  · rw [← run_reduced settings b', changed.reduced_eq, run_reduced]

/-- The holder lists its trigger twice: with a type that leads back to it and with one that no record
can hold. The leaf lists it as a primary key. -/
def selfishBatch : Batch := .ofClasses [
  { shopClass "Holder" [] with
    properties := [.ofAccessor "toRealmObject" (.declared "shop.Holder" []),
      .ofAccessor "shop.Leaf" (.declared "shop.Leaf" []),
      .ofAccessor "toRealmObject" (.declared "java.util.Map" [])] },
  { shopClass "Leaf" [] with
    properties := [{ Property.ofAccessor "toRealmObject" (.primitive .long) with
      primaryKey := true }] }]

/-- The same classes, where only the holder lists its trigger, behind its other property. -/
def modestBatch : Batch := .ofClasses [
  { shopClass "Holder" [] with
    properties := [.ofAccessor "shop.Leaf" (.declared "shop.Leaf" []),
      .ofAccessor "toRealmObject" (.declared "shop.$RealmHolder" [])] },
  shopClass "Leaf" []]

theorem triggerChanged_selfishBatch : modestBatch.TriggerChanged selfishBatch where
  classes :=
    .cons ⟨[.ofAccessor "shop.Leaf" (.declared "shop.Leaf" [])], _,
        .keep _ (.insert rfl .nil), .insert rfl (.keep _ (.insert rfl .nil)), rfl⟩
      (.cons ⟨[], _, .nil, .insert rfl .nil, rfl⟩ .nil)
  externals := rfl

/-- Both classes are generated, although the holder would refer to itself. -/
theorem selfishBatch_run :
    modestBatch.TriggerChanged selfishBatch ∧
      run {} selfishBatch MemoryStore.sink .empty = run {} modestBatch MemoryStore.sink .empty ∧
      (run {} selfishBatch MemoryStore.sink .empty).report =
        { generated := ["shop.Holder", "shop.Leaf"] } :=
  ⟨triggerChanged_selfishBatch,
    (run_triggerChanged {} triggerChanged_selfishBatch MemoryStore.sink .empty).2.2,
    by decide +kernel⟩

end RecordSynthesis
