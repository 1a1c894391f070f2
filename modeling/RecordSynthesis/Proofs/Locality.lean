import RecordSynthesis.Proofs.Agreement
import RecordSynthesis.Proofs.CycleSearch

/-!
# Additions that a batch does not mention

Generating a class looks at the names that occur in its batch: the declared and the external names,
and the names in the types of generated properties. Classes and external names with other names may
be added at any places, whatever is wrong with them. Every class of the batch keeps its result, down
to the failure (`generate_enlarged`). The search for cycles never leaves the batch, for what a class
of the batch refers to occurs in it.
-/

set_option autoImplicit false

namespace RecordSynthesis

open Snapshot

/-! ## Lists with insertions -/

/-- A list with new elements put in at any places. -/
inductive Inserted {α : Type} (new : α → Prop) : List α → List α → Prop where
  | nil : Inserted new [] []
  | keep (x : α) {xs ys : List α} (others : Inserted new xs ys) : Inserted new (x :: xs) (x :: ys)
  | insert {x : α} {xs ys : List α} (fresh : new x) (others : Inserted new xs ys) :
      Inserted new xs (x :: ys)

namespace Inserted

variable {α : Type} {new : α → Prop} {xs ys : List α}

/-- A selection without new elements stays the same. -/
theorem filter_eq (inserted : Inserted new xs ys) {select : α → Bool}
    (apart : ∀ x, new x → select x = false) : ys.filter select = xs.filter select := by
  induction inserted with
  | nil => rfl
  | keep x _ ih => rw [List.filter_cons, List.filter_cons, ih]
  | insert fresh _ ih => rw [List.filter_cons, ih, apart _ fresh, if_neg Bool.false_ne_true]

/-- The old elements are in both lists or in neither. -/
theorem mem_iff (inserted : Inserted new xs ys) {x : α} (old : ¬ new x) : x ∈ ys ↔ x ∈ xs := by
  induction inserted with
  | nil => rfl
  | keep y _ ih => rw [List.mem_cons, List.mem_cons, ih]
  | @insert y _ _ fresh _ ih =>
      have differs : x ≠ y := by
        rintro rfl
        exact old fresh
      rw [List.mem_cons, ih, or_iff_right differs]

end Inserted

/-! ## Names that occur in a batch -/

/-- The batch knows the name, or a generated property of one of its classes mentions it. -/
def OccursIn (b : Batch) (name : String) : Prop :=
  name ∈ namesOf b ∨ ∃ c ∈ b.classes, ∃ p ∈ c.generatedProperties, name ∈ p.type.names

instance (b : Batch) (name : String) : Decidable (OccursIn b name) :=
  inferInstanceAs (Decidable (_ ∨ _))

/-- A batch with more classes and external names, at any places. Their names do not occur in the
first batch. -/
structure Enlarged (b b' : Batch) : Prop where
  classes : Inserted (fun c => ¬ OccursIn b c.qualifiedName) b.classes b'.classes
  externals : Inserted (fun name => ¬ OccursIn b name) b.externalModels b'.externalModels

theorem occursIn_of_mem_names {b : Batch} {c : ModelClass} (listed : c ∈ b.classes) {p : Property}
    (member : p ∈ c.generatedProperties) {name : String} (mentioned : name ∈ p.type.names) :
    OccursIn b name :=
  .inr ⟨c, listed, p, member, mentioned⟩

/-- What can be reached from a class of the batch occurs in the batch. -/
theorem occursIn_of_reaches {b : Batch} {c : ModelClass} (listed : c ∈ b.classes) {name : String}
    (way : Reaches (discover b).references c.qualifiedName name) : OccursIn b name := by
  induction way with
  | refl => exact .inl (qualifiedName_mem_namesOf listed)
  | tail _ step _ =>
      obtain ⟨d, last, p, member, refers⟩ := refers_discover.1 step
      have listed' := (mem_declarations.1 (List.mem_of_getLast? last)).1
      exact occursIn_of_mem_names listed' member (mem_names_of_referencedModel? refers)

namespace Enlarged

variable {b b' : Batch} (enlarged : Enlarged b b')
include enlarged

/-- A name that occurs in the batch keeps its declarations. -/
theorem declarations_eq {name : String} (occurs : OccursIn b name) :
    declarations b'.classes name = declarations b.classes name := by
  apply enlarged.classes.filter_eq
  intro c fresh
  rw [decide_eq_false_iff_not]
  rintro rfl
  exact fresh occurs

theorem mem_namesOf {name : String} (occurs : OccursIn b name) :
    name ∈ namesOf b' ↔ name ∈ namesOf b := by
  have declared : name ∈ b'.classes.map (·.qualifiedName) ↔
      name ∈ b.classes.map (·.qualifiedName) := by
    have same := enlarged.declarations_eq occurs
    have iff : ∀ classes : List ModelClass, name ∈ classes.map (·.qualifiedName) ↔
        ∃ c, c ∈ declarations classes name := by
      simp [mem_declarations]
    rw [iff, iff, same]
  rw [namesOf, namesOf, List.mem_append, List.mem_append, declared,
    enlarged.externals.mem_iff (not_not_intro occurs)]

theorem isModel_eq {name : String} (occurs : OccursIn b name) :
    (discover b').isModel name = (discover b).isModel name := by
  rw [isModel_discover, isModel_discover]
  exact decide_eq_decide.2 (enlarged.mem_namesOf occurs)

theorem referencesOf_eq {c : ModelClass} (listed : c ∈ b.classes) :
    referencesOf (discover b').isModel c = referencesOf (discover b).isModel c := by
  apply List.filterMap_congr
  intro p member
  refine congrArg Classification.referencedModel? (classify_eq_of_names fun name mentioned => ?_)
  exact enlarged.isModel_eq (occursIn_of_mem_names listed member mentioned)

/-- What is known about a name that occurs in the batch is the same. -/
theorem find?_eq {name : String} (occurs : OccursIn b name) :
    (discover b').find? name = (discover b).find? name := by
  apply find?_congr_of_references (enlarged.mem_namesOf occurs) (enlarged.declarations_eq occurs)
  intro c member
  have same := enlarged.referencesOf_eq (mem_declarations.1 member).1
  rwa [funext (isModel_discover b), funext (isModel_discover b')] at same

/-- The snapshots agree on every class of the batch. -/
theorem agreeOn {c : ModelClass} (listed : c ∈ b.classes) :
    AgreeOn (discover b) (discover b') c where
  isAmbiguous := by
    rw [isAmbiguous, isAmbiguous, enlarged.find?_eq (.inl (qualifiedName_mem_namesOf listed))]
  classify p member := classify_congr fun name mentioned =>
    enlarged.isModel_eq (occursIn_of_mem_names listed member mentioned)
  typeName p member := typeName_congr fun name mentioned => by
    rw [className, className, enlarged.find?_eq (occursIn_of_mem_names listed member mentioned)]
  record? p member model refers := by
    have mentioned := mem_names_of_referencedModel? refers
    rw [record?, record?, enlarged.find?_eq (occursIn_of_mem_names listed member mentioned)]
  findCycle? := findCycle?_congr fun a way => by
    rw [references, references, enlarged.find?_eq (occursIn_of_reaches listed way)]
    exact .inl rfl

end Enlarged

/-- **Additions that a batch does not mention leave its classes alone.** Every class of the batch
has the same two files or the same failure. -/
theorem generate_enlarged (settings : Settings) {b b' : Batch} (enlarged : Enlarged b b')
    {c : ModelClass} (listed : c ∈ b.classes) :
    generate settings (discover b') c = generate settings (discover b) c :=
  (enlarged.agreeOn listed).generate_eq

/-- A guest of the family, whose own name comes twice. -/
def guestClass : ModelClass := shopClass "Guest" ["shop.Holder"]

/-- A loop, and a class with an unknown type. -/
def loopClass : ModelClass := shopClass "Loop" ["shop.Loop", "lib.Unknown"]

/-- The family among classes that it does not mention, and with a model from elsewhere. -/
def crowdedBatch : Batch where
  classes :=
    guestClass :: shopClass "Holder" ["shop.Leaf", "shop.Child"] :: loopClass ::
      shopClass "Parent" ["shop.Child"] :: shopClass "Child" ["shop.Leaf", "shop.Parent"] ::
      guestClass :: [shopClass "Leaf" []]
  externalModels := ["lib.Rate"]

theorem enlarged_crowdedBatch : Enlarged familyBatch crowdedBatch where
  classes :=
    .insert (by decide) (.keep _ (.insert (by decide) (.keep _ (.keep _ (.insert (by decide)
      (.keep _ .nil))))))
  externals := .insert (by decide) .nil

/-- The holder reports the same cycle, and the leaf has the same files. -/
theorem crowdedBatch_generate :
    Enlarged familyBatch crowdedBatch ∧
      (∀ c ∈ familyBatch.classes, generate {} (discover crowdedBatch) c =
        generate {} (discover familyBatch) c) ∧
      generate {} (discover crowdedBatch) (shopClass "Holder" ["shop.Leaf", "shop.Child"]) =
        .error (.cyclicReference "shop.Holder" ["shop.Child", "shop.Parent", "shop.Child"]) :=
  ⟨enlarged_crowdedBatch, fun _ listed => generate_enlarged {} enlarged_crowdedBatch listed,
    by rfl⟩

end RecordSynthesis
