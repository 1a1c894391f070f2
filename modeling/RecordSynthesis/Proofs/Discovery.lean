import Mathlib.Data.List.Basic
import RecordSynthesis.Snapshot.Basic

/-!
# What discovery finds out

The snapshot of a batch knows the names of the batch and says about each what the classes that
declare it say (`find?_discover`). A name is ambiguous when two or more classes declare it
(`isAmbiguous_discover`), and it has a record when exactly one class declares it and that class has
a trigger (`record?_discover_eq_some`). The references of a class that alone declares its name are
the references of its name (`references_discover`).
-/

set_option autoImplicit false

namespace RecordSynthesis

namespace Snapshot

variable {b : Batch} {name : String}

/-! ## The declarations of a name -/

@[simp]
theorem mem_declarations {classes : List ModelClass} {c : ModelClass} :
    c ∈ declarations classes name ↔ c ∈ classes ∧ c.qualifiedName = name := by
  simp [declarations]

/-- A class that alone declares its name. -/
def DeclaredOnce (b : Batch) (c : ModelClass) : Prop :=
  declarations b.classes c.qualifiedName = [c]

/-- One declaration of the name of a listed class is that class. -/
theorem declaredOnce_iff {c : ModelClass} (listed : c ∈ b.classes) :
    DeclaredOnce b c ↔ (declarations b.classes c.qualifiedName).length = 1 := by
  refine ⟨fun once => by rw [once]; rfl, fun length => ?_⟩
  obtain ⟨d, only⟩ := List.length_eq_one_iff.1 length
  have member : c ∈ declarations b.classes c.qualifiedName := mem_declarations.2 ⟨listed, rfl⟩
  rw [only, List.mem_singleton] at member
  rw [DeclaredOnce, only, member]

theorem DeclaredOnce.listed {c : ModelClass} (once : DeclaredOnce b c) : c ∈ b.classes := by
  have member : c ∈ declarations b.classes c.qualifiedName := once ▸ List.mem_singleton_self c
  exact (mem_declarations.1 member).1

/-- Classes that alone declare the same name are the same. -/
theorem DeclaredOnce.unique {c d : ModelClass} (once : DeclaredOnce b c) (listed : d ∈ b.classes)
    (same : d.qualifiedName = c.qualifiedName) : d = c := by
  have member : d ∈ declarations b.classes c.qualifiedName := mem_declarations.2 ⟨listed, same⟩
  rw [once] at member
  exact List.mem_singleton.1 member

/-! ## Known names -/

theorem mem_namesOf :
    name ∈ namesOf b ↔ name ∈ b.externalModels ∨ ∃ c ∈ b.classes, c.qualifiedName = name := by
  rw [namesOf, List.mem_append, List.mem_map]

theorem qualifiedName_mem_namesOf {c : ModelClass} (listed : c ∈ b.classes) :
    c.qualifiedName ∈ namesOf b :=
  mem_namesOf.2 (.inr ⟨c, listed, rfl⟩)

/-- A name that no class declares is known as an external one, or not at all. -/
theorem mem_namesOf_of_undeclared (undeclared : declarations b.classes name = []) :
    name ∈ namesOf b ↔ name ∈ b.externalModels := by
  rw [mem_namesOf]
  refine or_iff_left ?_
  rintro ⟨c, listed, same⟩
  exact List.not_mem_nil (undeclared ▸ mem_declarations.2 ⟨listed, same⟩)

theorem find?_discover (b : Batch) (name : String) :
    (discover b).find? name =
      if name ∈ namesOf b then some (describe b.classes (fun n => n ∈ namesOf b) name)
      else none := by
  rw [find?, discover, Dictionary.find?_ofKeys]

/-- Batches know the same about a name that has the same declarations, if these refer to the same
models. -/
theorem find?_congr_of_references {b' : Batch} (known : name ∈ namesOf b' ↔ name ∈ namesOf b)
    (declared : declarations b'.classes name = declarations b.classes name)
    (same : ∀ c ∈ declarations b.classes name,
      referencesOf (fun n => n ∈ namesOf b') c = referencesOf (fun n => n ∈ namesOf b) c) :
    (discover b').find? name = (discover b).find? name := by
  rw [find?_discover, find?_discover, if_congr known rfl rfl, describe, describe, declared]
  cases last : (declarations b.classes name).getLast? with
  | none => rfl
  | some c => simp only [same c (List.mem_of_getLast? last)]

/-- Batches with the same names know the same about a name that has the same declarations. -/
theorem find?_congr {b' : Batch} (names : ∀ n, n ∈ namesOf b' ↔ n ∈ namesOf b)
    (declared : declarations b'.classes name = declarations b.classes name) :
    (discover b').find? name = (discover b).find? name := by
  have known : (fun n => decide (n ∈ namesOf b')) = fun n => decide (n ∈ namesOf b) :=
    funext fun n => decide_eq_decide.2 (names n)
  exact find?_congr_of_references (names name) declared fun c _ => by rw [known]

theorem isModel_discover (b : Batch) (name : String) :
    (discover b).isModel name = decide (name ∈ namesOf b) := by
  rw [isModel, find?_discover]
  split <;> simp [*]

/-! ## Ambiguous names -/

theorem declarations_eq_nil (unknown : name ∉ namesOf b) : declarations b.classes name = [] := by
  rw [List.eq_nil_iff_forall_not_mem]
  intro c member
  obtain ⟨listed, rfl⟩ := mem_declarations.1 member
  exact unknown (qualifiedName_mem_namesOf listed)

/-- A name is ambiguous when two or more classes declare it. -/
theorem isAmbiguous_discover :
    (discover b).isAmbiguous name = decide (2 ≤ (declarations b.classes name).length) := by
  rw [isAmbiguous, find?_discover]
  by_cases known : name ∈ namesOf b
  · rw [if_pos known]
    simp only [describe]
    cases last : (declarations b.classes name).getLast? with
    | none => simp [List.getLast?_eq_none_iff.1 last]
    | some c => rfl
  · rw [if_neg known, declarations_eq_nil known]
    rfl

/-- The name of a listed class is ambiguous unless the class alone declares it. -/
theorem isAmbiguous_eq_false_iff {c : ModelClass} (listed : c ∈ b.classes) :
    (discover b).isAmbiguous c.qualifiedName = false ↔ DeclaredOnce b c := by
  have member : c ∈ declarations b.classes c.qualifiedName := mem_declarations.2 ⟨listed, rfl⟩
  have some := List.length_pos_of_mem member
  rw [declaredOnce_iff listed, isAmbiguous_discover, decide_eq_false_iff_not]
  omega

/-! ## Classes, records and references -/

/-- A name stands for the class of its last declaration. A name without declaration is split by its
letters, whether it is known or not. -/
theorem className_discover : (discover b).className name =
    match (declarations b.classes name).getLast? with
    | some c => c.names.model
    | none => .ofDotted name := by
  rw [className, find?_discover]
  by_cases known : name ∈ namesOf b
  · rw [if_pos known]
    simp only [describe]
    cases (declarations b.classes name).getLast? with
    | none => rfl
    | some c => rfl
  · rw [if_neg known, declarations_eq_nil known]
    rfl

/-- A name has a record when exactly one class declares it and that class has a trigger. -/
theorem record?_discover_eq_some {record : ClassName} :
    (discover b).record? name = some record ↔
      ∃ c, DeclaredOnce b c ∧ c.qualifiedName = name ∧ c.isApplicable ∧
        c.names.record = record := by
  rw [record?, find?_discover]
  constructor
  · intro h
    split at h
    next known equal =>
      split at equal
      next =>
        cases equal
        simp only [describe] at h
        split at h
        next => cases h
        next c last =>
          have member := List.mem_of_getLast? last
          obtain ⟨listed, rfl⟩ := mem_declarations.1 member
          simp only [Option.ite_none_right_eq_some, Bool.and_eq_true,
            decide_eq_true_eq, Option.some.injEq] at h
          obtain ⟨⟨length, applicable⟩, same⟩ := h
          exact ⟨c, (declaredOnce_iff listed).2 length, rfl, applicable, same⟩
      next => cases equal
    next => cases h
  · rintro ⟨c, once, rfl, applicable, rfl⟩
    rw [if_pos (qualifiedName_mem_namesOf once.listed)]
    have only : declarations b.classes c.qualifiedName = [c] := once
    simp [describe, only, applicable]

theorem record?_eq_none (undeclared : declarations b.classes name = []) :
    (discover b).record? name = none := by
  cases found : (discover b).record? name with
  | none => rfl
  | some record =>
      obtain ⟨c, once, rfl, _⟩ := record?_discover_eq_some.1 found
      rw [DeclaredOnce, undeclared] at once
      cases once

/-- A name refers to what its last declaration refers to. A name without declaration refers to
nothing, whether it is known or not. -/
theorem references_eq_last (b : Batch) (name : String) :
    (discover b).references name =
      (declarations b.classes name).getLast?.elim [] (referencesOf (discover b).isModel) := by
  rw [references, find?_discover, funext (isModel_discover b)]
  by_cases known : name ∈ namesOf b
  · rw [if_pos known]
    simp only [describe]
    cases (declarations b.classes name).getLast? with
    | none => rfl
    | some c => rfl
  · rw [if_neg known, declarations_eq_nil known]
    rfl

/-- The references of a name that one class declares are the references of the class. -/
theorem references_discover {c : ModelClass} (once : DeclaredOnce b c) :
    (discover b).references c.qualifiedName = referencesOf (discover b).isModel c := by
  have only : declarations b.classes c.qualifiedName = [c] := once
  rw [references_eq_last, only]
  rfl

end Snapshot

end RecordSynthesis
