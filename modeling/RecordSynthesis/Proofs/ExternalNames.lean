import RecordSynthesis.Proofs.Accounting
import RecordSynthesis.Proofs.Agreement
import RecordSynthesis.Proofs.CycleSearch

/-!
# Names of models from elsewhere

A batch may list names of models that are described elsewhere. Such a name has no record and refers
to nothing, so that it cannot make a class generable: a property of its type is a reference that
stays unresolved instead of an unsupported type. Nor can it stop a class, for a class that refers to
it fails in any case, and it closes no cycle. A pass over a batch with more external names therefore
generates the same classes with the same files. It skips the same classes, fails for the same ones,
and leaves the same state of the sink behind. What may change is the failure of a class that cannot
be generated in either batch (`run_withExternalModels`).
-/

set_option autoImplicit false

namespace RecordSynthesis

open Snapshot

/-! ## References to dead ends -/

section Graphs

variable {references references' : String → List String}

/-- A graph with fewer references has fewer cycles. -/
theorem AcyclicFrom.of_le {start : String}
    (fewer : ∀ a b, Refers references a b → Refers references' a b)
    (acyclic : AcyclicFrom references' start) : AcyclicFrom references start := by
  intro a way cycle
  exact acyclic a (Relation.ReflTransGen.mono fewer _ _ way)
    (Relation.TransGen.mono fewer _ _ cycle)

/-- References to names that refer to nothing are on no way to a name that refers to something. -/
theorem reaches_of_deadEnds
    (dead : ∀ a b, Refers references' a b → Refers references a b ∨ ∀ c, ¬ Refers references' b c)
    {a b : String} (way : Reaches references' a b) (onward : ∃ c, Refers references' b c) :
    Reaches references a b := by
  induction way with
  | refl => exact .refl
  | @tail b c _ step ih =>
      obtain ⟨d, next⟩ := onward
      rcases dead b c step with kept | ending
      · exact (ih ⟨c, step⟩).tail kept
      · exact (ending d next).elim

/-- References to names that refer to nothing close no cycle. -/
theorem AcyclicFrom.of_deadEnds {start : String}
    (dead : ∀ a b, Refers references' a b → Refers references a b ∨ ∀ c, ¬ Refers references' b c)
    (acyclic : AcyclicFrom references start) : AcyclicFrom references' start := by
  intro a way cycle
  obtain ⟨c, next, _⟩ := Relation.TransGen.head'_iff.1 cycle
  obtain ⟨b, around, last⟩ := Relation.TransGen.tail'_iff.1 cycle
  have kept : Refers references b a := (dead b a last).resolve_right fun ending => ending c next
  exact acyclic a (reaches_of_deadEnds dead way ⟨c, next⟩)
    (.tail' (reaches_of_deadEnds dead around ⟨a, last⟩) kept)

end Graphs

/-! ## Snapshots with more external names -/

section Extended

variable (b : Batch) (names : List String)

theorem mem_namesOf_withExternalModels {name : String} :
    name ∈ namesOf (b.withExternalModels names) ↔ name ∈ namesOf b ∨ name ∈ names := by
  simp only [namesOf, Batch.withExternalModels, List.mem_append]
  tauto

theorem isAmbiguous_withExternalModels (name : String) :
    (discover (b.withExternalModels names)).isAmbiguous name = (discover b).isAmbiguous name := by
  rw [isAmbiguous_discover, isAmbiguous_discover]
  rfl

theorem className_withExternalModels (name : String) :
    (discover (b.withExternalModels names)).className name = (discover b).className name := by
  rw [className_discover, className_discover]
  rfl

/-- External names have no records, and they hide none. -/
theorem record?_withExternalModels (name : String) :
    (discover (b.withExternalModels names)).record? name = (discover b).record? name := by
  apply Option.ext
  intro record
  rw [record?_discover_eq_some, record?_discover_eq_some]
  rfl

/-- Only unsupported types are classified anew, as references to names that no class declares. -/
theorem classify_withExternalModels (t : Descriptor) :
    (discover (b.withExternalModels names)).classify t = (discover b).classify t ∨
      (discover b).classify t = .unsupported ∧ ∃ model,
        ((discover (b.withExternalModels names)).classify t).referencedModel? = some model ∧
          declarations b.classes model = [] := by
  have more : ∀ name, (discover b).isModel name →
      (discover (b.withExternalModels names)).isModel name := by
    intro name known
    rw [isModel_discover, decide_eq_true_eq] at known ⊢
    exact (mem_namesOf_withExternalModels b names).2 (.inl known)
  refine (classify_of_le more t).imp id ?_
  rintro ⟨unsupported, model, refers, unknown⟩
  rw [isModel_discover, decide_eq_false_iff_not] at unknown
  exact ⟨unsupported, model, refers, declarations_eq_nil unknown⟩

theorem refers_of_withExternalModels {a model : String}
    (refers : Refers (discover (b.withExternalModels names)).references a model) :
    Refers (discover b).references a model ∨
      ∀ c, ¬ Refers (discover (b.withExternalModels names)).references model c := by
  obtain ⟨c, last, p, member, target⟩ := refers_discover.1 refers
  rcases classify_withExternalModels b names p.type with same | ⟨_, other, new, undeclared⟩
  · rw [same] at target
    exact .inl (refers_discover.2 ⟨c, last, p, member, target⟩)
  · rw [target] at new
    cases new
    refine .inr fun next onward => ?_
    obtain ⟨d, declared, _⟩ := refers_discover.1 onward
    change (declarations b.classes model).getLast? = some d at declared
    rw [undeclared] at declared
    cases declared

theorem refers_withExternalModels {a model : String}
    (refers : Refers (discover b).references a model) :
    Refers (discover (b.withExternalModels names)).references a model := by
  obtain ⟨c, last, p, member, target⟩ := refers_discover.1 refers
  refine refers_discover.2 ⟨c, last, p, member, ?_⟩
  rcases classify_withExternalModels b names p.type with same | ⟨unsupported, _⟩
  · rw [same, target]
  · rw [unsupported] at target
    cases target

end Extended

/-! ## Classes -/

section Classes

variable {settings : Settings} {b : Batch} (names : List String) {c : ModelClass}

/-- The properties of a generable class are classified as before. -/
theorem Generable.classify_eq (generable : Generable settings b c) {p : Property}
    (member : p ∈ c.generatedProperties) :
    (discover (b.withExternalModels names)).classify p.type = (discover b).classify p.type :=
  (classify_withExternalModels b names p.type).resolve_right
    fun ⟨unsupported, _⟩ => generable.supported p member unsupported

/-- With more external names a generable class stays generable. -/
theorem Generable.extended (generable : Generable settings b c) :
    Generable settings (b.withExternalModels names) c where
  trigger := generable.trigger
  once := generable.once
  supported p member := by
    rw [IsUnsupported, generable.classify_eq names member]
    exact generable.supported p member
  acyclic := generable.acyclic.of_deadEnds fun _ _ => refers_of_withExternalModels b names
  resolved p member model := by
    rw [Dangles, generable.classify_eq names member, record?_withExternalModels]
    exact generable.resolved p member model

/-- More external names make no class generable. A property that only they support dangles. -/
theorem Generable.of_extended (generable : Generable settings (b.withExternalModels names) c) :
    Generable settings b c := by
  have same : ∀ p ∈ c.generatedProperties,
      (discover (b.withExternalModels names)).classify p.type = (discover b).classify p.type := by
    intro p member
    refine (classify_withExternalModels b names p.type).resolve_right ?_
    rintro ⟨_, model, refers, undeclared⟩
    refine generable.resolved p member model ⟨refers, ?_⟩
    rw [record?_withExternalModels, record?_eq_none undeclared]
  constructor
  case trigger => exact generable.trigger
  case once => exact generable.once
  case supported =>
    intro p member
    rw [IsUnsupported, ← same p member]
    exact generable.supported p member
  case acyclic => exact generable.acyclic.of_le fun _ _ => refers_withExternalModels b names
  case resolved =>
    intro p member model
    rw [Dangles, ← same p member, ← record?_withExternalModels b names]
    exact generable.resolved p member model

/-- The snapshots agree on a generable class. -/
theorem Generable.agreeOn (generable : Generable settings b c) :
    AgreeOn (discover b) (discover (b.withExternalModels names)) c where
  isAmbiguous := isAmbiguous_withExternalModels b names _
  classify _ member := generable.classify_eq names member
  typeName _ _ := typeName_congr fun name _ => className_withExternalModels b names name
  record? _ _ model _ := record?_withExternalModels b names model
  findCycle? := by
    rw [findCycle?_eq_none.2 generable.acyclic,
      findCycle?_eq_none.2 (generable.extended names).acyclic]

/-- A class has files in both batches or in neither, and the same files. -/
theorem generate_withExternalModels (listed : c ∈ b.classes) (g : GeneratedClass) :
    generate settings (discover (b.withExternalModels names)) c = .ok g ↔
      generate settings (discover b) c = .ok g := by
  have listed' : c ∈ (b.withExternalModels names).classes := listed
  constructor
  · intro result
    have generable := ((generate_eq_ok listed').1 result).1.of_extended
    rw [← (generable.agreeOn names).generate_eq]
    exact result
  · intro result
    have generable := ((generate_eq_ok listed).1 result).1
    rw [(generable.agreeOn names).generate_eq]
    exact result

end Classes

/-! ## Passes -/

/-- Two diagnostics of the same class. They differ only if the class cannot be generated by either
snapshot. -/
def SameClass (settings : Settings) (s s' : Snapshot) (d d' : Diagnostic) : Prop :=
  d' = d ∨ ∃ c : ModelClass, d.owner = c.qualifiedName ∧ d'.owner = c.qualifiedName ∧
    generate settings s c = .error d.failure ∧ generate settings s' c = .error d'.failure

/-- What two passes have in common that differ in nothing but the failures of classes that cannot be
generated: the generated and the skipped classes, the classes that failed, and the state of the
sink. -/
structure Parallel {σ : Type} (settings : Settings) (s s' : Snapshot) (p p' : Progress σ) :
    Prop where
  generated : p'.report.generated = p.report.generated
  skipped : p'.report.skipped = p.report.skipped
  failures : List.Forall₂ (SameClass settings s s') p.report.failures p'.report.failures
  state : p'.state = p.state

section Passes

variable {σ : Type} {settings : Settings} {s s' : Snapshot} {sink : Sink σ} {p p' : Progress σ}

theorem Parallel.logged (parallel : Parallel settings s s' p p') (lines lines' : List LogLine) :
    Parallel settings s s' (p.logged lines) (p'.logged lines') where
  generated := parallel.generated
  skipped := parallel.skipped
  failures := parallel.failures
  state := parallel.state

theorem Parallel.failed (parallel : Parallel settings s s' p p') {name : String}
    {failure failure' : Failure}
    (same : SameClass settings s s' ⟨name, failure⟩ ⟨name, failure'⟩) :
    Parallel settings s s' (p.failed name failure) (p'.failed name failure') where
  generated := parallel.generated
  skipped := parallel.skipped
  failures := List.rel_append parallel.failures (.cons same .nil)
  state := parallel.state

/-- The same files go to the sink at the same state, which answers both passes alike. -/
theorem Parallel.written (parallel : Parallel settings s s' p p') (sink : Sink σ) (name : String)
    (g : GeneratedClass) :
    Parallel settings s s' (p.written sink name g) (p'.written sink name g) := by
  have taken : ∀ (state : σ) (log log' : List LogLine),
      Parallel settings s s' ⟨p.report, state, log⟩ ⟨p'.report, state, log'⟩ := fun _ _ _ =>
    ⟨parallel.generated, parallel.skipped, parallel.failures, rfl⟩
  simp only [Progress.written, parallel.state]
  cases (sink.write g.artifacts p.state).outcome with
  | error failure => exact (taken _ _ _).failed (.inl rfl)
  | ok _ =>
      refine ⟨?_, parallel.skipped, parallel.failures, rfl⟩
      change p'.report.generated ++ [name] = p.report.generated ++ [name]
      rw [parallel.generated]

/-- **Deciding a class keeps two passes parallel**, if it has the same files by both snapshots or by
neither. -/
theorem Parallel.decideClass (parallel : Parallel settings s s' p p') (sink : Sink σ)
    {c : ModelClass} (ambiguous : s'.isAmbiguous c.qualifiedName = s.isAmbiguous c.qualifiedName)
    (same : ∀ g, generate settings s' c = .ok g ↔ generate settings s c = .ok g) :
    Parallel settings s s' (p.decideClass settings s sink c)
      (p'.decideClass settings s' sink c) := by
  simp only [Progress.decideClass, ambiguous]
  split
  next => exact parallel.failed (.inl rfl)
  next =>
    split
    next =>
      simp only [Progress.generateClass]
      have opened := parallel.logged (generationLog settings s c) (generationLog settings s' c)
      cases result : generate settings s c with
      | ok g =>
          rw [(same g).2 result]
          exact opened.written sink c.qualifiedName g
      | error failure =>
          cases result' : generate settings s' c with
          | ok g =>
              rw [(same g).1 result'] at result
              cases result
          | error failure' => exact opened.failed (.inr ⟨c, rfl, rfl, result, result'⟩)
    next =>
      refine ⟨parallel.generated, ?_, parallel.failures, parallel.state⟩
      change p'.report.skipped ++ [c.qualifiedName] = p.report.skipped ++ [c.qualifiedName]
      rw [parallel.skipped]

theorem Parallel.owners (parallel : Parallel settings s s' p p') :
    p'.report.failures.map (·.owner) = p.report.failures.map (·.owner) := by
  rw [← List.forall₂_eq_eq_eq, List.forall₂_map_left_iff, List.forall₂_map_right_iff]
  refine parallel.failures.flip.imp ?_
  rintro d' d (rfl | ⟨c, owner, owner', _⟩)
  · rfl
  · rw [owner, owner']

end Passes

/-- **External names never change what is generated.** Every class has the same files with more
external names, or none in either batch. The passes list the same generated classes, the same
skipped ones and failures of the same classes, each in the same order, and the sink ends in the same
state. A failure differs only where the class cannot be generated in either batch. -/
theorem run_withExternalModels {σ : Type} (settings : Settings) (b : Batch) (names : List String)
    (sink : Sink σ) (start : σ) :
    (∀ c ∈ b.classes, ∀ g,
        generate settings (discover (b.withExternalModels names)) c = .ok g ↔
          generate settings (discover b) c = .ok g) ∧
      Parallel settings (discover b) (discover (b.withExternalModels names))
        (run settings b sink start) (run settings (b.withExternalModels names) sink start) ∧
      (run settings (b.withExternalModels names) sink start).report.failures.map (·.owner) =
        (run settings b sink start).report.failures.map (·.owner) := by
  have files : ∀ c ∈ b.classes, ∀ g,
      generate settings (discover (b.withExternalModels names)) c = .ok g ↔
        generate settings (discover b) c = .ok g := by
    intro c listed g
    exact generate_withExternalModels names listed g
  have parallel : Parallel settings (discover b) (discover (b.withExternalModels names))
      (run settings b sink start) (run settings (b.withExternalModels names) sink start) := by
    refine Parallel.logged ?_ _ _
    refine List.foldl_rel ⟨rfl, rfl, .nil, rfl⟩ ?_
    intro c first p p' parallel
    exact parallel.decideClass sink (isAmbiguous_withExternalModels b names _)
      (files c (firstDeclarations_subset first))
  exact ⟨files, parallel, parallel.owners⟩

/-- An offer with a price, whose class comes from elsewhere, and a customer. -/
def offerBatch : Batch :=
  .ofClasses [shopClass "Offer" ["lib.Price", "shop.Customer"], shopClass "Customer" []]

/-- External names of every kind: one of a property, one of a class, a scalar and the list type. -/
def offerNames : List String := ["lib.Price", "shop.Customer", "java.lang.String", "java.util.List"]

/-- The offer fails in both batches, first for an unsupported type and then for a reference without
record. -/
theorem offerBatch_parallel :
    Parallel {} (discover offerBatch) (discover (offerBatch.withExternalModels offerNames))
        (run {} offerBatch MemoryStore.sink .empty)
        (run {} (offerBatch.withExternalModels offerNames) MemoryStore.sink .empty) ∧
      (run {} offerBatch MemoryStore.sink .empty).report =
        ⟨["shop.Customer"], [],
          [⟨"shop.Offer", .unsupportedProperty "Offer" "lib.Price" "lib.Price"⟩]⟩ ∧
      (run {} (offerBatch.withExternalModels offerNames) MemoryStore.sink .empty).report =
        ⟨["shop.Customer"], [],
          [⟨"shop.Offer", .unresolvedReference "Offer" "lib.Price" "lib.Price"⟩]⟩ :=
  ⟨(run_withExternalModels {} offerBatch offerNames MemoryStore.sink .empty).2.1,
    by decide +kernel, by decide +kernel⟩

end RecordSynthesis
