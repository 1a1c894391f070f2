import RecordSynthesis.Proofs.Classification
import RecordSynthesis.Proofs.Generation

/-!
# Snapshots that agree on a class

Generating a class asks its snapshot five questions: whether the name of the class is ambiguous, how
the types of its properties are classified and spelled, which records the models have that it refers
to, and whether a cycle can be reached from it. Snapshots with the same answers give the same
result, files and failures alike (`AgreeOn.generate_eq`).
-/

set_option autoImplicit false

namespace RecordSynthesis

namespace Snapshot

variable {s s' : Snapshot}

/-- Snapshots that know the same of the names in a type as models classify it alike. -/
theorem classify_congr {t : Descriptor}
    (models : ∀ name ∈ t.names, s'.isModel name = s.isModel name) :
    s'.classify t = s.classify t :=
  classify_eq_of_names models

mutual

/-- Snapshots that know the same classes by the names in a type spell it alike. -/
theorem typeName_congr : ∀ {t : Descriptor},
    (∀ name ∈ t.names, s'.className name = s.className name) → s'.typeName t = s.typeName t
  | .primitive kind, _ => by rw [typeName, typeName]
  | .array component, classes => by
      rw [Descriptor.names] at classes
      rw [typeName, typeName, typeName_congr classes]
  | .declared name [], classes => by
      rw [typeName, typeName, classes name (by simp [Descriptor.names])]
  | .declared name (first :: more), classes => by
      rw [Descriptor.names, List.forall_mem_cons] at classes
      obtain ⟨raw, args⟩ := classes
      have spelled := typeNames_congr args
      rw [typeNames, typeNames, List.cons.injEq] at spelled
      rw [typeName, typeName, raw, spelled.1, spelled.2]

/-- Snapshots that know the same classes by the names in the types of a list spell them alike. -/
theorem typeNames_congr : ∀ {ts : List Descriptor},
    (∀ name ∈ Descriptor.namesOfAll ts, s'.className name = s.className name) →
      s'.typeNames ts = s.typeNames ts
  | [], _ => by rw [typeNames, typeNames]
  | t :: more, classes => by
      rw [Descriptor.namesOfAll, List.forall_mem_append] at classes
      obtain ⟨first, others⟩ := classes
      rw [typeNames, typeNames, typeName_congr first, typeNames_congr others]

end

/-- The second snapshot answers like the first one whatever the generation of a class asks. -/
structure AgreeOn (s s' : Snapshot) (c : ModelClass) : Prop where
  isAmbiguous : s'.isAmbiguous c.qualifiedName = s.isAmbiguous c.qualifiedName
  classify : ∀ p ∈ c.generatedProperties, s'.classify p.type = s.classify p.type
  typeName : ∀ p ∈ c.generatedProperties, s'.typeName p.type = s.typeName p.type
  record? : ∀ p ∈ c.generatedProperties, ∀ model,
    (s.classify p.type).referencedModel? = some model → s'.record? model = s.record? model
  findCycle? : s'.findCycle? c.qualifiedName = s.findCycle? c.qualifiedName

namespace AgreeOn

variable {c : ModelClass} (agree : AgreeOn s s' c)
include agree

theorem validate_eq : s'.validate c = s.validate c := by
  rw [validate, validate]
  refine congrArg (· >>= _) (mapM_congr fun p member => ?_)
  rw [classified, classified, agree.classify p member]

variable {settings : Settings}

theorem recordFieldType_eq {p : Property} (member : p ∈ c.generatedProperties) :
    recordFieldType settings s' c ⟨p, s.classify p.type⟩ =
      recordFieldType settings s c ⟨p, s.classify p.type⟩ := by
  have records := agree.record? p member
  cases kind : s.classify p.type with
  | nested model =>
      rw [kind] at records
      simp only [recordFieldType, resolvedRecord, records model rfl]
  | modelList model =>
      rw [kind] at records
      simp only [recordFieldType, resolvedRecord, records model rfl]
  | primitive kind => simp only [recordFieldType, agree.typeName p member]
  | scalar kind => simp only [recordFieldType, agree.typeName p member]
  | unsupported => simp only [recordFieldType, agree.typeName p member]

theorem storedProperties_eq :
    storedProperties settings s' (s.validated c) = storedProperties settings s (s.validated c) := by
  rw [storedProperties, storedProperties]
  refine mapM_congr fun q member => ?_
  obtain ⟨p, generated, rfl⟩ := List.mem_map.1 member
  exact congrArg (· >>= _) (agree.recordFieldType_eq generated)

theorem assembled_eq (stored : List StoredProperty) :
    assembled settings s' (s.validated c) stored = assembled settings s (s.validated c) stored := by
  have parameters : (s.validated c).properties.map (constructorParameter s') =
      (s.validated c).properties.map (constructorParameter s) := by
    refine List.map_congr_left fun q member => ?_
    obtain ⟨p, generated, rfl⟩ := List.mem_map.1 member
    rw [constructorParameter, constructorParameter, agree.typeName p generated]
  have constructors : implementationConstructors s' (s.validated c) =
      implementationConstructors s (s.validated c) := by
    rw [implementationConstructors, implementationConstructors]
    split
    next => rfl
    next => rw [parameters]
  rw [assembled, assembled, implementationDeclaration, implementationDeclaration, constructors]

/-- **Snapshots that agree on a class give it the same result.** -/
theorem generate_eq : generate settings s' c = generate settings s c := by
  have unambiguous : checkUnambiguous s' c = checkUnambiguous s c := by
    rw [checkUnambiguous, checkUnambiguous, agree.isAmbiguous]
  have acyclic : checkAcyclic s' c = checkAcyclic s c := by
    rw [checkAcyclic, checkAcyclic, agree.findCycle?]
  rw [generate, generate, unambiguous, acyclic, agree.validate_eq]
  refine bind_congr fun _ => bind_congr fun _ => bind_congr_ok fun v valid => ?_
  obtain ⟨_, rfl⟩ := validate_eq_ok.1 valid
  rw [agree.storedProperties_eq]
  exact bind_congr fun _ => bind_congr fun stored => congrArg Except.ok (agree.assembled_eq stored)

end AgreeOn

end Snapshot

end RecordSynthesis
