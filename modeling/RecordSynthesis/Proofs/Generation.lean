import RecordSynthesis.Pass.Generation
import RecordSynthesis.Proofs.Discovery
import RecordSynthesis.Proofs.ReferenceGraph
import RecordSynthesis.Proofs.Traversal

/-!
# When a class is generated

A class of a batch is generated exactly when it meets six conditions (`Generable`), and otherwise
fails with the first of them that it does not meet (`Fault`). Each condition speaks of the batch,
of the graph of references or of single properties, and none of the order in which they are tried;
`Fault` adds that order. The main statement is `generate_outcome`.

Every step of generation has its own statement on when it succeeds and how it fails: the check of
the trigger, validation (`validate_eq_ok`, `validate_eq_error`) and the resolution of references
(`storedProperties_eq_error`).
-/

set_option autoImplicit false

namespace RecordSynthesis

open Snapshot

/-! ## The first element with a property -/

/-- An element is the first of a list with the property. -/
def IsFirst {α : Type} (P : α → Prop) (xs : List α) (x : α) : Prop :=
  ∃ before after, xs = before ++ x :: after ∧ (∀ y ∈ before, ¬ P y) ∧ P x

/-! ## The conditions -/

section Conditions

variable (settings : Settings) (s : Snapshot) (c : ModelClass)

/-- A record cannot hold the property's type. -/
def IsUnsupported (p : Property) : Prop := s.classify p.type = .unsupported

/-- The property refers to the model, and the model has no record. -/
def Dangles (p : Property) (model : String) : Prop :=
  (s.classify p.type).referencedModel? = some model ∧ s.record? model = none

end Conditions

/-- What a class of a batch needs to be generated. -/
structure Generable (settings : Settings) (b : Batch) (c : ModelClass) : Prop where
  trigger : c.trigger = some settings.toStorageMethod
  once : DeclaredOnce b c
  supported : ∀ p ∈ c.generatedProperties, ¬ IsUnsupported (discover b) p
  acyclic : AcyclicFrom (discover b).references c.qualifiedName
  resolved : ∀ p ∈ c.generatedProperties, ∀ model, ¬ Dangles (discover b) p model

/-- The failure of a class: that of the first condition which it does not meet. Within a condition
on properties it is the first property in order of declaration. -/
inductive Fault (settings : Settings) (b : Batch) (c : ModelClass) : Failure → Prop where
  | noTrigger (missing : c.trigger = none) :
      Fault settings b c (.configuration (.noTrigger c.qualifiedName settings.toStorageMethod))
  | foreignTrigger {trigger : String} (given : c.trigger = some trigger)
      (foreign : trigger ≠ settings.toStorageMethod) :
      Fault settings b c
        (.configuration (.foreignTrigger c.qualifiedName trigger settings.toStorageMethod))
  | declaredTwice (trigger : c.trigger = some settings.toStorageMethod)
      (shared : ¬ DeclaredOnce b c) :
      Fault settings b c (.configuration (.declaredTwice c.qualifiedName))
  | unsupportedProperty {p : Property} (trigger : c.trigger = some settings.toStorageMethod)
      (once : DeclaredOnce b c)
      (first : IsFirst (IsUnsupported (discover b)) c.generatedProperties p) :
      Fault settings b c (.unsupportedProperty c.simpleName p.name p.type.print)
  | cyclicReference {cycle : List String} (trigger : c.trigger = some settings.toStorageMethod)
      (once : DeclaredOnce b c)
      (supported : ∀ p ∈ c.generatedProperties, ¬ IsUnsupported (discover b) p)
      (genuine : IsCycle (discover b).references cycle)
      (reached : ∀ a ∈ cycle, Reaches (discover b).references c.qualifiedName a) :
      Fault settings b c (.cyclicReference c.qualifiedName cycle)
  | unresolvedReference {p : Property} {model : String}
      (trigger : c.trigger = some settings.toStorageMethod) (once : DeclaredOnce b c)
      (supported : ∀ p ∈ c.generatedProperties, ¬ IsUnsupported (discover b) p)
      (acyclic : AcyclicFrom (discover b).references c.qualifiedName)
      (first : IsFirst (fun q => ∃ m, Dangles (discover b) q m) c.generatedProperties p)
      (dangles : Dangles (discover b) p model) :
      Fault settings b c (.unresolvedReference c.simpleName p.name model)

/-! ## Validation -/

namespace Snapshot

variable {s : Snapshot} {c : ModelClass}

/-- A class with the classifications of its generated properties. -/
def validated (s : Snapshot) (c : ModelClass) : ValidatedClass :=
  ⟨c, c.generatedProperties.map fun p => ⟨p, s.classify p.type⟩⟩

theorem classified_eq_ok {p : Property} {q : ClassifiedProperty} :
    s.classified c p = .ok q ↔ ¬ IsUnsupported s p ∧ q = ⟨p, s.classify p.type⟩ := by
  rw [classified, IsUnsupported]
  split
  next unsupported => simp [unsupported]
  next supported =>
    refine ⟨fun h => ?_, ?_⟩
    · cases h
      exact ⟨supported, rfl⟩
    · rintro ⟨_, rfl⟩
      rfl

theorem classified_eq_error {p : Property} {failure : Failure} :
    s.classified c p = .error failure ↔
      IsUnsupported s p ∧ failure = .unsupportedProperty c.simpleName p.name p.type.print := by
  rw [classified, IsUnsupported]
  split
  next unsupported => simp [unsupported, eq_comm]
  next supported => exact ⟨nofun, fun h => (supported h.1).elim⟩

/-- A class is valid when none of its properties is unsupported. -/
theorem validate_eq_ok {v : ValidatedClass} :
    s.validate c = .ok v ↔
      (∀ p ∈ c.generatedProperties, ¬ IsUnsupported s p) ∧ v = s.validated c := by
  have all : ∀ (ps : List Property) (qs : List ClassifiedProperty),
      List.Forall₂ (fun p q => s.classified c p = .ok q) ps qs ↔
        (∀ p ∈ ps, ¬ IsUnsupported s p) ∧ qs = ps.map fun p => ⟨p, s.classify p.type⟩ := by
    intro ps
    induction ps with
    | nil => simp
    | cons p ps ih =>
        intro qs
        rw [List.forall₂_cons_left_iff]
        constructor
        · rintro ⟨q, rest, first, others, rfl⟩
          obtain ⟨supported, rfl⟩ := classified_eq_ok.1 first
          obtain ⟨supported', rfl⟩ := (ih rest).1 others
          exact ⟨List.forall_mem_cons.2 ⟨supported, supported'⟩, rfl⟩
        · rintro ⟨supported, rfl⟩
          obtain ⟨first, others⟩ := List.forall_mem_cons.1 supported
          exact ⟨_, _, classified_eq_ok.2 ⟨first, rfl⟩, (ih _).2 ⟨others, rfl⟩, rfl⟩
  rw [validate, bind_eq_ok]
  constructor
  · rintro ⟨qs, collected, same⟩
    cases same
    obtain ⟨supported, rfl⟩ := (all _ _).1 (mapM_eq_ok.1 collected)
    exact ⟨supported, rfl⟩
  · rintro ⟨supported, rfl⟩
    exact ⟨_, mapM_eq_ok.2 ((all _ _).2 ⟨supported, rfl⟩), rfl⟩

/-- Validation fails at the first unsupported property. -/
theorem validate_eq_error {failure : Failure} (failed : s.validate c = .error failure) :
    ∃ p, IsFirst (IsUnsupported s) c.generatedProperties p ∧
      failure = .unsupportedProperty c.simpleName p.name p.type.print := by
  rcases bind_eq_error.1 failed with stopped | ⟨_, _, last⟩
  · obtain ⟨before, p, after, split, passed, stop⟩ := mapM_eq_error.1 stopped
    obtain ⟨unsupported, rfl⟩ := classified_eq_error.1 stop
    refine ⟨p, ⟨before, after, split, fun q hq => ?_, unsupported⟩, rfl⟩
    obtain ⟨_, ok⟩ := passed q hq
    exact (classified_eq_ok.1 ok).1
  · cases last

end Snapshot

/-! ## References to records -/

section Resolution

variable {settings : Settings} {s : Snapshot} {c : ModelClass}

theorem resolvedRecord_eq_error {p : Property} {model : String} {failure : Failure} :
    s.resolvedRecord c p model = .error failure ↔
      s.record? model = none ∧ failure = .unresolvedReference c.simpleName p.name model := by
  rw [resolvedRecord]
  cases s.record? model with
  | some record => simp
  | none => simp [eq_comm]

/-- A field has no type exactly when its property refers to a model without record. -/
theorem recordFieldType_eq_error {p : ClassifiedProperty} {failure : Failure} :
    recordFieldType settings s c p = .error failure ↔
      ∃ model, p.classification.referencedModel? = some model ∧ s.record? model = none ∧
        failure = .unresolvedReference c.simpleName p.property.name model := by
  obtain ⟨p, classification⟩ := p
  cases classification with
  | nested model =>
      simp [recordFieldType, Classification.referencedModel?, bind_eq_error, pure, Except.pure,
        resolvedRecord_eq_error]
  | modelList model =>
      simp [recordFieldType, Classification.referencedModel?, bind_eq_error, pure, Except.pure,
        resolvedRecord_eq_error]
  | primitive kind => simp [recordFieldType, Classification.referencedModel?]
  | scalar kind => simp [recordFieldType, Classification.referencedModel?]
  | unsupported => simp [recordFieldType, Classification.referencedModel?]

/-- The properties with their field types are the classified properties, each with the type of its
field. -/
theorem storedProperties_eq_ok {v : ValidatedClass} {stored : List StoredProperty}
    (resolved : storedProperties settings s v = .ok stored) :
    List.Forall₂ (fun p q => q.property = p.property ∧ q.classification = p.classification ∧
      recordFieldType settings s v.source p = .ok q.recordType) v.properties stored := by
  apply (mapM_eq_ok.1 resolved).imp
  intro p q step
  obtain ⟨type, found, same⟩ := bind_eq_ok.1 step
  cases same
  exact ⟨rfl, rfl, found⟩

/-- A class has one stored property for each generated property, with the type of its field. -/
theorem storedProperties_spec {stored : List StoredProperty}
    (resolved : storedProperties settings s (s.validated c) = .ok stored) :
    stored.map (·.property) = c.generatedProperties ∧
      ∀ q ∈ stored, recordFieldType settings s c ⟨q.property, s.classify q.property.type⟩ =
        .ok q.recordType := by
  have steps := storedProperties_eq_ok resolved
  rw [validated, List.forall₂_map_left_iff] at steps
  have same : stored.map (·.property) = c.generatedProperties := by
    rw [← List.forall₂_eq_eq_eq, List.forall₂_map_left_iff]
    exact steps.flip.imp fun _ _ step => step.1
  refine ⟨same, ?_⟩
  rw [← same, List.forall₂_map_left_iff, List.forall₂_same] at steps
  exact fun q member => (steps q member).2.2

/-- A property whose field has a type does not dangle. -/
theorem not_dangles_of_recordFieldType {p : Property} {type : TypeName}
    (found : recordFieldType settings s c ⟨p, s.classify p.type⟩ = .ok type) (model : String) :
    ¬ Dangles s p model := by
  rintro ⟨refers, missing⟩
  have failed : recordFieldType settings s c ⟨p, s.classify p.type⟩ = .error _ :=
    recordFieldType_eq_error.2 ⟨model, refers, missing, rfl⟩
  rw [found] at failed
  cases failed

/-- Resolution succeeds exactly when no property dangles. -/
theorem exists_storedProperties_iff :
    (∃ stored, storedProperties settings s (s.validated c) = .ok stored) ↔
      ∀ p ∈ c.generatedProperties, ∀ model, ¬ Dangles s p model := by
  constructor
  · rintro ⟨stored, resolved⟩ p hp model
    have member : (⟨p, s.classify p.type⟩ : ClassifiedProperty) ∈ (s.validated c).properties :=
      List.mem_map.2 ⟨p, hp, rfl⟩
    obtain ⟨i, hi, here⟩ := List.getElem_of_mem member
    obtain ⟨_, _, found⟩ := (storedProperties_eq_ok resolved).get hi
      ((storedProperties_eq_ok resolved).length_eq ▸ hi)
    rw [List.get_eq_getElem, here] at found
    exact not_dangles_of_recordFieldType found model
  · intro resolved
    cases outcome : storedProperties settings s (s.validated c) with
    | ok stored => exact ⟨stored, rfl⟩
    | error failure =>
        obtain ⟨before, q, after, split, _, stop⟩ := mapM_eq_error.1 outcome
        have member : q ∈ (s.validated c).properties := by
          rw [split]
          exact List.mem_append_right _ List.mem_cons_self
        obtain ⟨p, hp, rfl⟩ := List.mem_map.1 member
        rcases bind_eq_error.1 stop with stop | ⟨_, _, last⟩
        · obtain ⟨model, refers, missing, _⟩ := recordFieldType_eq_error.1 stop
          exact (resolved p hp model ⟨refers, missing⟩).elim
        · cases last

/-- Resolution fails at the first property that refers to a model without record. -/
theorem storedProperties_eq_error {failure : Failure}
    (failed : storedProperties settings s (s.validated c) = .error failure) :
    ∃ p model, IsFirst (fun q => ∃ m, Dangles s q m) c.generatedProperties p ∧
      Dangles s p model ∧ failure = .unresolvedReference c.simpleName p.name model := by
  obtain ⟨before, q, after, split, passed, stop⟩ := mapM_eq_error.1 failed
  obtain ⟨ps, rest, split', rfl, others⟩ := List.map_eq_append_iff.1 split
  obtain ⟨p, qs, rfl, rfl, rfl⟩ := List.map_eq_cons_iff.1 others
  rcases bind_eq_error.1 stop with stop | ⟨_, _, last⟩
  · obtain ⟨model, refers, missing, rfl⟩ := recordFieldType_eq_error.1 stop
    refine ⟨p, model, ⟨ps, qs, split', ?_, model, refers, missing⟩, ⟨refers, missing⟩, rfl⟩
    rintro q hq ⟨m, dangles⟩
    obtain ⟨_, ok⟩ := passed _ (List.mem_map.2 ⟨q, hq, rfl⟩)
    obtain ⟨_, found, _⟩ := bind_eq_ok.1 ok
    exact not_dangles_of_recordFieldType found m dangles
  · cases last

end Resolution

/-! ## Generation -/

section Outcome

variable {settings : Settings} {s : Snapshot} {b : Batch} {c : ModelClass}

theorem checkTrigger_eq_ok : checkTrigger settings c = .ok () ↔
    c.trigger = some settings.toStorageMethod := by
  rw [checkTrigger]
  split
  next missing => simp [missing]
  next trigger given => simp [given]

theorem checkUnambiguous_eq_ok (listed : c ∈ b.classes) :
    checkUnambiguous (discover b) c = .ok () ↔ DeclaredOnce b c := by
  rw [checkUnambiguous, ← isAmbiguous_eq_false_iff listed]
  split
  next shared => simp [shared]
  next once => simpa using once

theorem checkAcyclic_eq_ok : checkAcyclic s c = .ok () ↔
    AcyclicFrom s.references c.qualifiedName := by
  rw [checkAcyclic, ← findCycle?_eq_none]
  split
  next cycle found => simp [found]
  next none => simp [none]

theorem checkTrigger_eq_error {failure : Failure} : checkTrigger settings c = .error failure ↔
    (c.trigger = none ∧
      failure = .configuration (.noTrigger c.qualifiedName settings.toStorageMethod)) ∨
    ∃ trigger, c.trigger = some trigger ∧ trigger ≠ settings.toStorageMethod ∧
      failure = .configuration
        (.foreignTrigger c.qualifiedName trigger settings.toStorageMethod) := by
  rw [checkTrigger]
  split
  next missing => simp [missing, eq_comm]
  next trigger given =>
    split
    next same => simp [given, same]
    next foreign => simp [given, foreign, eq_comm]

theorem checkUnambiguous_eq_error {failure : Failure} : checkUnambiguous s c = .error failure ↔
    s.isAmbiguous c.qualifiedName ∧
      failure = .configuration (.declaredTwice c.qualifiedName) := by
  rw [checkUnambiguous]
  split
  next shared => simp [shared, eq_comm]
  next once => simp [once]

theorem checkAcyclic_eq_error {failure : Failure} : checkAcyclic s c = .error failure ↔
    ∃ cycle, s.findCycle? c.qualifiedName = some cycle ∧
      failure = .cyclicReference c.qualifiedName cycle := by
  rw [checkAcyclic]
  split
  next cycle found => simp [found, eq_comm]
  next none => simp [none]

/-- The properties that take part in generation decide how it ends. -/
theorem generate_congr {others : List Property}
    (same : ({ c with properties := others } : ModelClass).generatedProperties =
      c.generatedProperties) :
    generate settings s { c with properties := others } = generate settings s c := by
  have classified : c.generatedProperties.mapM (s.classified { c with properties := others }) =
      c.generatedProperties.mapM (s.classified c) := rfl
  rw [generate, generate, validate, validate, same, classified]
  cases c.generatedProperties.mapM (s.classified c) with
  | ok classified => rfl
  | error failure => rfl

/-- A class that is refused for its trigger has another one than the configured method. -/
theorem foreign_of_generate {name trigger method : String}
    (refused : generate settings s c =
      .error (.configuration (.foreignTrigger name trigger method))) :
    c.trigger = some trigger ∧ trigger ≠ settings.toStorageMethod := by
  rw [generate] at refused
  rcases bind_eq_error.1 refused with stop | ⟨_, _, refused⟩
  · obtain ⟨_, other⟩ | ⟨_, given, foreign, same⟩ := checkTrigger_eq_error.1 stop
    · cases other
    · cases same
      exact ⟨given, foreign⟩
  -- No later condition fails with a trigger.
  rcases bind_eq_error.1 refused with stop | ⟨_, _, refused⟩
  · cases (checkUnambiguous_eq_error.1 stop).2
  rcases bind_eq_error.1 refused with stop | ⟨_, valid, refused⟩
  · obtain ⟨_, _, other⟩ := validate_eq_error stop
    cases other
  obtain ⟨_, rfl⟩ := validate_eq_ok.1 valid
  rcases bind_eq_error.1 refused with stop | ⟨_, _, refused⟩
  · obtain ⟨_, _, other⟩ := checkAcyclic_eq_error.1 stop
    cases other
  rcases bind_eq_error.1 refused with stop | ⟨_, _, last⟩
  · obtain ⟨_, _, _, _, other⟩ := storedProperties_eq_error stop
    cases other
  · cases last

/-- The files of a class are assembled from its resolved properties, once it passes every check
against the snapshot. -/
theorem generate_eq_ok_iff {g : GeneratedClass} : generate settings s c = .ok g ↔
    c.trigger = some settings.toStorageMethod ∧ checkUnambiguous s c = .ok () ∧
      (∀ p ∈ c.generatedProperties, ¬ IsUnsupported s p) ∧
      AcyclicFrom s.references c.qualifiedName ∧ ∃ stored,
        storedProperties settings s (s.validated c) = .ok stored ∧
        g = assembled settings s (s.validated c) stored := by
  rw [generate]
  constructor
  · intro result
    obtain ⟨_, trigger, result⟩ := bind_eq_ok.1 result
    obtain ⟨_, once, result⟩ := bind_eq_ok.1 result
    obtain ⟨v, valid, result⟩ := bind_eq_ok.1 result
    obtain ⟨_, acyclic, result⟩ := bind_eq_ok.1 result
    obtain ⟨stored, resolved, same⟩ := bind_eq_ok.1 result
    obtain ⟨supported, rfl⟩ := validate_eq_ok.1 valid
    cases same
    exact ⟨checkTrigger_eq_ok.1 trigger, once, supported, checkAcyclic_eq_ok.1 acyclic,
      stored, resolved, rfl⟩
  · rintro ⟨trigger, once, supported, acyclic, stored, resolved, rfl⟩
    exact bind_eq_ok.2 ⟨(), checkTrigger_eq_ok.2 trigger, bind_eq_ok.2 ⟨(), once,
      bind_eq_ok.2 ⟨_, validate_eq_ok.2 ⟨supported, rfl⟩,
        bind_eq_ok.2 ⟨(), checkAcyclic_eq_ok.2 acyclic, bind_eq_ok.2 ⟨stored, resolved, rfl⟩⟩⟩⟩⟩

/-- The files of a class are assembled from its resolved properties, once it meets every
condition. -/
theorem generate_eq_ok (listed : c ∈ b.classes) {g : GeneratedClass} :
    generate settings (discover b) c = .ok g ↔
      Generable settings b c ∧ ∃ stored,
        storedProperties settings (discover b) ((discover b).validated c) = .ok stored ∧
        g = assembled settings (discover b) ((discover b).validated c) stored := by
  rw [generate_eq_ok_iff, checkUnambiguous_eq_ok listed]
  constructor
  · rintro ⟨trigger, once, supported, acyclic, stored, resolved, rfl⟩
    exact ⟨⟨trigger, once, supported, acyclic, exists_storedProperties_iff.1 ⟨stored, resolved⟩⟩,
      stored, resolved, rfl⟩
  · rintro ⟨⟨trigger, once, supported, acyclic, _⟩, files⟩
    exact ⟨trigger, once, supported, acyclic, files⟩

/-- A class that is not generated fails with the first condition that it does not meet. -/
theorem fault_of_generate_eq_error (listed : c ∈ b.classes) {failure : Failure}
    (failed : generate settings (discover b) c = .error failure) : Fault settings b c failure := by
  rw [generate] at failed
  rcases bind_eq_error.1 failed with stop | ⟨_, trigger, failed⟩
  · obtain ⟨missing, rfl⟩ | ⟨_, given, foreign, rfl⟩ := checkTrigger_eq_error.1 stop
    · exact .noTrigger missing
    · exact .foreignTrigger given foreign
  rw [checkTrigger_eq_ok] at trigger
  rcases bind_eq_error.1 failed with stop | ⟨_, once, failed⟩
  · obtain ⟨shared, rfl⟩ := checkUnambiguous_eq_error.1 stop
    apply Fault.declaredTwice trigger
    intro once
    rw [(isAmbiguous_eq_false_iff listed).2 once] at shared
    cases shared
  rw [checkUnambiguous_eq_ok listed] at once
  rcases bind_eq_error.1 failed with stop | ⟨v, valid, failed⟩
  · obtain ⟨p, first, rfl⟩ := validate_eq_error stop
    exact .unsupportedProperty trigger once first
  obtain ⟨supported, rfl⟩ := validate_eq_ok.1 valid
  rcases bind_eq_error.1 failed with stop | ⟨_, acyclic, failed⟩
  · obtain ⟨cycle, found, rfl⟩ := checkAcyclic_eq_error.1 stop
    obtain ⟨genuine, reached⟩ := findCycle?_eq_some found
    exact .cyclicReference trigger once supported genuine reached
  rw [checkAcyclic_eq_ok] at acyclic
  rcases bind_eq_error.1 failed with stop | ⟨_, _, last⟩
  · obtain ⟨p, model, first, dangles, rfl⟩ := storedProperties_eq_error stop
    exact .unresolvedReference trigger once supported acyclic first dangles
  · cases last

/-- **The outcome of generating a class.** A class of a batch is generated exactly when it meets
the conditions; otherwise it fails with the first that it does not meet. -/
theorem generate_outcome (settings : Settings) (b : Batch) (c : ModelClass)
    (listed : c ∈ b.classes) :
    ((∃ g, generate settings (discover b) c = .ok g) ↔ Generable settings b c) ∧
      (¬ Generable settings b c →
        ∃ failure, generate settings (discover b) c = .error failure ∧
          Fault settings b c failure) := by
  have generated : (∃ g, generate settings (discover b) c = .ok g) ↔ Generable settings b c := by
    constructor
    · rintro ⟨g, result⟩
      exact ((generate_eq_ok listed).1 result).1
    · intro generable
      obtain ⟨stored, resolved⟩ := exists_storedProperties_iff.2 generable.resolved
      exact ⟨_, (generate_eq_ok listed).2 ⟨generable, stored, resolved, rfl⟩⟩
  refine ⟨generated, ?_⟩
  intro missing
  cases outcome : generate settings (discover b) c with
  | ok g => exact (missing (generated.1 ⟨g, outcome⟩)).elim
  | error failure => exact ⟨failure, rfl, fault_of_generate_eq_error listed outcome⟩

end Outcome

/-- An order, which has a line. -/
def orderClass : ModelClass where
  package := "shop"
  simpleName := "Order"
  trigger := some "toRealmObject"
  properties := [{ name := "line", accessor := "line", type := .declared "shop.Line" [] }]

/-- A line, which has its order. -/
def lineClass : ModelClass where
  package := "shop"
  simpleName := "Line"
  trigger := some "toRealmObject"
  properties := [{ name := "order", accessor := "order", type := .declared "shop.Order" [] }]

/-- Two classes that refer to each other. -/
def mutualBatch : Batch := .ofClasses [orderClass, lineClass]

theorem mutualBatch_outcome :
    orderClass ∈ mutualBatch.classes ∧
      Fault {} mutualBatch orderClass
        (.cyclicReference "shop.Order" ["shop.Order", "shop.Line", "shop.Order"]) := by
  have listed : orderClass ∈ mutualBatch.classes := List.mem_cons_self
  have failed : generate {} (discover mutualBatch) orderClass =
      .error (.cyclicReference "shop.Order" ["shop.Order", "shop.Line", "shop.Order"]) := by
    rfl
  obtain ⟨generated, faulty⟩ := generate_outcome {} mutualBatch orderClass listed
  have missing : ¬ Generable {} mutualBatch orderClass := by
    intro generable
    obtain ⟨g, result⟩ := generated.2 generable
    rw [failed] at result
    cases result
  obtain ⟨failure, outcome, fault⟩ := faulty missing
  rw [failed] at outcome
  cases outcome
  exact ⟨listed, fault⟩

end RecordSynthesis
