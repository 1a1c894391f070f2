import RecordSynthesis.Proofs.Accounting
import RecordSynthesis.Proofs.CycleSearch
import RecordSynthesis.Proofs.GeneratedCode

/-!
# References to records

A record refers to the records of other models: the field of a nested model has the type of its
record, and the field of a list of models holds a list of records. In a pass no such reference hangs
in the air (`run_closed`). The model behind it is declared by one class, which has a trigger and
stands in the report, and which does not lead back. Without failures all of these records are
generated, so that whatever a record mentions comes from the settings, from the class itself, from
a plain property, or is a record of the same pass (`Mention`).
-/

set_option autoImplicit false

namespace RecordSynthesis

open Snapshot

/-! ## Fields that hold records -/

/-- The type of a field that holds records of the given class: one record for a nested model, and a
list of them for a list of models. -/
def Classification.holding? (settings : Settings) (record : ClassName) :
    Classification → Option TypeName
  | .nested _ => some (.ofClass record)
  | .modelList _ => some (.parameterized settings.recordListClass [.ofClass record])
  | _ => none

/-- Such a type mentions the record, and a list of records the list class. -/
theorem mem_classes_of_holding? {settings : Settings} {record type : ClassName}
    {kind : Classification} {held : TypeName} (holds : kind.holding? settings record = some held)
    (mentioned : type ∈ held.classes) : type = record ∨ type = settings.recordListClass := by
  cases kind with
  | nested model =>
      cases holds
      exact .inl (List.mem_singleton.1 mentioned)
  | modelList model =>
      cases holds
      simpa [TypeName.classes, TypeName.classesOfAll, or_comm] using mentioned
  | primitive kind => cases holds
  | scalar kind => cases holds
  | unsupported => cases holds

section Fields

variable {settings : Settings} {s : Snapshot} {c : ModelClass}

theorem resolvedRecord_eq_ok {p : Property} {model : String} {record : ClassName} :
    s.resolvedRecord c p model = .ok record ↔ s.record? model = some record := by
  rw [resolvedRecord]
  cases s.record? model with
  | some other => simp
  | none => simp

/-- The field of a property that refers to a model holds the record of the model. -/
theorem holding?_of_recordFieldType {p : ClassifiedProperty} {model : String} {type : TypeName}
    (refers : p.classification.referencedModel? = some model)
    (found : recordFieldType settings s c p = .ok type) :
    ∃ record, s.record? model = some record ∧
      p.classification.holding? settings record = some type := by
  obtain ⟨p, classification⟩ := p
  cases classification with
  | nested other =>
      cases refers
      obtain ⟨record, resolved, same⟩ := bind_eq_ok.1 found
      cases same
      exact ⟨record, resolvedRecord_eq_ok.1 resolved, rfl⟩
  | modelList other =>
      cases refers
      obtain ⟨record, resolved, same⟩ := bind_eq_ok.1 found
      cases same
      exact ⟨record, resolvedRecord_eq_ok.1 resolved, rfl⟩
  | primitive kind => cases refers
  | scalar kind => cases refers
  | unsupported => cases refers

/-- The field of a property that refers to no model keeps the type of the property. -/
theorem eq_typeName_of_recordFieldType {p : ClassifiedProperty} {type : TypeName}
    (plain : p.classification.referencedModel? = none)
    (found : recordFieldType settings s c p = .ok type) : type = s.typeName p.property.type := by
  obtain ⟨p, classification⟩ := p
  cases classification with
  | nested other => cases plain
  | modelList other => cases plain
  | primitive kind => cases found; rfl
  | scalar kind => cases found; rfl
  | unsupported => cases found; rfl

end Fields

/-! ## What a record mentions -/

section Mentioned

variable {settings : Settings} {names : ResolvedNames} {type : ClassName}

/-- The classes that come from the settings. -/
def Settings.classes (settings : Settings) : List ClassName :=
  [settings.recordBaseClass, settings.recordListClass, settings.primaryKeyClass,
    settings.indexClass, settings.conversionInterfaceClass, settings.listHelperClass]

theorem mem_mentionedInAll {args : List Expression} :
    type ∈ Expression.mentionedInAll args ↔ ∃ arg ∈ args, type ∈ arg.mentioned := by
  induction args with
  | nil => simp [Expression.mentionedInAll]
  | cons arg args ih => simp [Expression.mentionedInAll, ih]

/-- A restored value mentions at most the list helper. -/
theorem mem_mentioned_restoredValue {p : ClassifiedProperty}
    (mentioned : type ∈ (restoredValue settings p).mentioned) :
    type = settings.listHelperClass := by
  obtain ⟨p, classification⟩ := p
  cases classification with
  | modelList model =>
      simpa [restoredValue, Expression.mentioned, Expression.mentionedInAll] using mentioned
  | nested model =>
      simp [restoredValue, Expression.mentioned, Expression.mentionedInAll] at mentioned
  | primitive kind => cases mentioned
  | scalar kind => cases mentioned
  | unsupported => cases mentioned

/-- The conversion of a record mentions the model, its implementation and the list helper. -/
theorem mem_mentioned_toModelMethod {v : ValidatedClass}
    (mentioned : type ∈ (toModelMethod settings names v).mentioned) :
    type ∈ [overridingMark, names.model, names.implementation, settings.listHelperClass] := by
  simp only [MethodDeclaration.mentioned, toModelMethod, MethodDeclaration.returns?,
    List.flatMap_nil, List.append_nil, List.flatMap_cons, Statement.mentioned,
    Expression.mentioned, Option.map_some, Option.getD_some, TypeName.classes, List.cons_append,
    List.nil_append, List.mem_cons, mem_mentionedInAll, List.mem_map] at mentioned
  rcases mentioned with rfl | rfl | rfl | ⟨_, ⟨p, _, rfl⟩, mentioned⟩
  · simp
  · simp
  · simp
  · simp [mem_mentioned_restoredValue mentioned]

theorem mem_markerAnnotations {p : Property} (marked : type ∈ markerAnnotations settings p) :
    type ∈ settings.classes := by
  rw [markerAnnotations, List.mem_append] at marked
  rcases marked with marked | marked
  · split at marked
    next => simp_all [Settings.classes]
    next => cases marked
  · split at marked
    next => simp_all [Settings.classes]
    next => cases marked

theorem mentioned_recordSetter (q : StoredProperty) :
    (recordSetter q).mentioned = q.recordType.classes := by
  simp [MethodDeclaration.mentioned, recordSetter, MethodDeclaration.returns?,
    Statement.mentioned, Expression.mentioned]

/-- What a record mentions comes from the settings, is one of its own classes, or is in the type of
one of its fields. -/
theorem mem_mentioned_recordDeclaration {stored : List StoredProperty} {v : ValidatedClass}
    (mentioned : type ∈
      (recordDeclaration settings names stored (toModelMethod settings names v)).mentioned) :
    type ∈ settings.classes ∨ type ∈ [overridingMark, names.model, names.implementation] ∨
      ∃ q ∈ stored, type ∈ q.recordType.classes := by
  simp only [TypeDeclaration.mentioned, recordDeclaration, Option.map_some, Option.getD_some,
    TypeName.classes, List.flatMap_cons, List.flatMap_nil, TypeName.classesOfAll,
    List.flatMap_append, List.append_nil, List.mem_append, List.mem_cons, List.not_mem_nil,
    or_false, List.mem_flatMap, List.mem_map] at mentioned
  rcases mentioned with ((rfl | rfl | rfl) | field) | (setter | conversion)
  · simp [Settings.classes]
  · simp [Settings.classes]
  · simp
  · obtain ⟨_, ⟨q, member, rfl⟩, mentioned⟩ := field
    rcases List.mem_append.1 mentioned with marked | spelled
    · exact .inl (mem_markerAnnotations marked)
    · exact .inr (.inr ⟨q, member, spelled⟩)
  · obtain ⟨_, ⟨q, member, rfl⟩, mentioned⟩ := setter
    rw [mentioned_recordSetter] at mentioned
    exact .inr (.inr ⟨q, member, mentioned⟩)
  · have own := mem_mentioned_toModelMethod conversion
    simp only [List.mem_cons, List.not_mem_nil, or_false] at own ⊢
    rcases own with own | own | own | rfl
    · exact .inr (.inl (.inl own))
    · exact .inr (.inl (.inr (.inl own)))
    · exact .inr (.inl (.inr (.inr own)))
    · simp [Settings.classes]

end Mentioned

/-! ## The references of a pass -/

/-- The class behind a reference of a generated class, and what the report says about it. -/
structure Target (settings : Settings) (b : Batch) (r : Report) (c : ModelClass) (model : String)
    (d : ModelClass) : Prop where
  name : d.qualifiedName = model
  once : DeclaredOnce b d
  applicable : d.isApplicable
  reported : model ∈ r.generated ∨ ∃ failure, ⟨model, failure⟩ ∈ r.failures
  /-- The file of the record declares the class by which the referring field knows it. -/
  declares : model ∈ r.generated →
    ∃ g, generate settings (discover b) d = .ok g ∧ g.record.className = d.names.record
  /-- The model does not lead back. -/
  forward : ¬ Reaches (discover b).references model c.qualifiedName

/-- The classes that the record of a class may mention when no class failed. -/
inductive Mention (settings : Settings) (b : Batch) (r : Report) (c : ModelClass) :
    ClassName → Prop where
  | settings {type : ClassName} (named : type ∈ settings.classes) : Mention settings b r c type
  /-- The model of the class, its implementation, or the annotation of the conversion. -/
  | own {type : ClassName}
      (named : type ∈ [overridingMark, c.names.model, c.names.implementation]) :
      Mention settings b r c type
  /-- A class in the type of a property that refers to no model. -/
  | plain {type : ClassName} {p : Property} (member : p ∈ c.generatedProperties)
      (plain : ((discover b).classify p.type).referencedModel? = none)
      (spelled : type ∈ ((discover b).typeName p.type).classes) : Mention settings b r c type
  /-- The record of a class that the same pass generated. -/
  | record {d : ModelClass} {g : GeneratedClass} (listed : d ∈ b.classes)
      (generated : d.qualifiedName ∈ r.generated)
      (result : generate settings (discover b) d = .ok g) :
      Mention settings b r c g.record.className

/-- That no reference of a generated class hangs in the air. -/
structure ReferencesClosed (settings : Settings) (b : Batch) (r : Report) : Prop where
  /-- The record has one field for each generated property. The field of a property that refers to
  a model holds the record of the model. -/
  fields : ∀ c ∈ b.classes, c.qualifiedName ∈ r.generated →
    ∃ g, generate settings (discover b) c = .ok g ∧
      List.Forall₂ (fun p f => f.name = p.name ∧
        ∀ model, ((discover b).classify p.type).referencedModel? = some model →
          ∃ d, Target settings b r c model d ∧
            ((discover b).classify p.type).holding? settings d.names.record = some f.type)
        c.generatedProperties g.record.declaration.fields
  /-- When no class failed, every record that is mentioned is generated. -/
  complete : r.isSuccess → ∀ c ∈ b.classes, ∀ g, c.qualifiedName ∈ r.generated →
    generate settings (discover b) c = .ok g → ∀ type ∈ g.record.declaration.mentioned,
      Mention settings b r c type

section Pass

variable {σ : Type} {settings : Settings} {b : Batch} {c : ModelClass} {g : GeneratedClass}

/-- A reference of a generated class has a target, whose record the field holds. -/
theorem exists_target (sink : Sink σ) (start : σ) (listed : c ∈ b.classes)
    (result : generate settings (discover b) c = .ok g) {p : Property}
    (member : p ∈ c.generatedProperties) {model : String}
    (refers : ((discover b).classify p.type).referencedModel? = some model) {type : TypeName}
    (found : recordFieldType settings (discover b) c ⟨p, (discover b).classify p.type⟩ = .ok type) :
    ∃ d, Target settings b (run settings b sink start).report c model d ∧
      ((discover b).classify p.type).holding? settings d.names.record = some type := by
  obtain ⟨record, resolved, holds⟩ := holding?_of_recordFieldType refers found
  obtain ⟨d, once, rfl, applicable, rfl⟩ := record?_discover_eq_some.1 resolved
  refine ⟨d, ⟨rfl, once, applicable, generated_or_failed once applicable, ?_, ?_⟩, holds⟩
  · intro generated
    obtain ⟨_, g', result'⟩ := generate_of_mem_generated once.listed generated
    obtain ⟨_, other⟩ := exists_generated once.listed result'
    exact ⟨g', result', other.record_className⟩
  · intro back
    obtain ⟨generable, _⟩ := (generate_eq_ok listed).1 result
    have step : Refers (discover b).references c.qualifiedName d.qualifiedName := by
      rw [Refers, references_discover generable.once]
      exact List.mem_filterMap.2 ⟨p, member, refers⟩
    exact generable.acyclic _ .refl (.head' step back)

/-- **References are closed after a pass**, whatever the sink takes. -/
theorem run_closed (settings : Settings) (b : Batch) (sink : Sink σ) (start : σ) :
    ReferencesClosed settings b (run settings b sink start).report where
  fields c listed generated := by
    obtain ⟨_, g, result⟩ := generate_of_mem_generated listed generated
    obtain ⟨_, stored, resolved, rfl⟩ := (generate_eq_ok listed).1 result
    obtain ⟨same, found⟩ := storedProperties_spec resolved
    refine ⟨_, result, ?_⟩
    change List.Forall₂ _ _ (stored.map (recordField settings))
    rw [List.forall₂_map_right_iff, ← same, List.forall₂_map_left_iff, List.forall₂_same]
    intro q member
    refine ⟨rfl, fun model refers => ?_⟩
    have generated : q.property ∈ c.generatedProperties := same ▸ List.mem_map_of_mem member
    exact exists_target sink start listed result generated refers (found q member)
  complete success c listed g _ result type mentioned := by
    obtain ⟨_, stored, resolved, rfl⟩ := (generate_eq_ok listed).1 result
    obtain ⟨same, found⟩ := storedProperties_spec resolved
    rcases mem_mentioned_recordDeclaration mentioned with named | named | ⟨q, member, spelled⟩
    · exact .settings named
    · exact .own named
    have generated : q.property ∈ c.generatedProperties := same ▸ List.mem_map_of_mem member
    cases refers : ((discover b).classify q.property.type).referencedModel? with
    | none =>
        rw [eq_typeName_of_recordFieldType refers (found q member)] at spelled
        exact .plain generated refers spelled
    | some model =>
        obtain ⟨d, target, holds⟩ := exists_target sink start listed result generated refers
          (found q member)
        rcases mem_classes_of_holding? holds spelled with rfl | rfl
        · rcases target.reported with reported | ⟨failure, failed⟩
          · obtain ⟨g', result', declared⟩ := target.declares reported
            rw [← target.name] at reported
            exact declared ▸ .record target.once.listed reported result'
          · exact (Report.not_mem_failures success _ failed).elim
        · exact .settings (by simp [Settings.classes])

end Pass

/-- A parcel with a label, which has an unknown type. -/
def parcelBatch : Batch :=
  .ofClasses [shopClass "Parcel" ["shop.Label"], shopClass "Label" ["shop.Barcode"]]

/-- The parcel is generated although its label fails. The failure of the label is reported. -/
theorem parcelBatch_closed :
    ReferencesClosed {} parcelBatch (run {} parcelBatch MemoryStore.sink .empty).report ∧
      (run {} parcelBatch MemoryStore.sink .empty).report =
        ⟨["shop.Parcel"], [],
          [⟨"shop.Label", .unsupportedProperty "Label" "shop.Barcode" "shop.Barcode"⟩]⟩ :=
  ⟨run_closed {} parcelBatch MemoryStore.sink .empty, by decide +kernel⟩

end RecordSynthesis
