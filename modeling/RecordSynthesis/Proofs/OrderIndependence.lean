import RecordSynthesis.Proofs.CycleSearch
import RecordSynthesis.Proofs.Verdicts

/-!
# Rearranged batches

Discovery looks at a name through its declarations, and a name that one class declares has the same
declaration wherever the class stands. A batch without repeated names may therefore be rearranged:
its snapshot stays the same (`Rearranged.discover_eq`), and with it whatever is generated. A pass
decides the classes in another order, with the same outcomes (`run_rearranged`).
-/

set_option autoImplicit false

namespace RecordSynthesis

open Snapshot

variable {b b' : Batch}

/-- A batch without repeated names, and another one with the same classes in any order and the same
external names in any order and number. -/
structure Rearranged (b b' : Batch) : Prop where
  distinct : (b.classes.map (·.qualifiedName)).Nodup
  classes : b'.classes.Perm b.classes
  externals : ∀ name, name ∈ b'.externalModels ↔ name ∈ b.externalModels

/-- When no name stands twice, the first classes are all classes. -/
theorem firstDeclarations_of_nodup {classes : List ModelClass}
    (distinct : (classes.map (·.qualifiedName)).Nodup) :
    firstDeclarations [] classes = classes := by
  have alone : classes.Pairwise fun c d => true → c.qualifiedName ≠ d.qualifiedName :=
    (List.pairwise_map.1 distinct).imp fun differs _ => differs
  have all : (firstDeclarations [] classes).filter (fun _ => true) = classes.filter fun _ => true :=
    filter_firstDeclarations (P := fun _ => true) alone (by simp)
  rwa [List.filter_true, List.filter_true] at all

namespace Rearranged

variable (rearranged : Rearranged b b')
include rearranged

theorem distinct' : (b'.classes.map (·.qualifiedName)).Nodup :=
  (rearranged.classes.map _).nodup_iff.2 rearranged.distinct

theorem mem_namesOf (name : String) : name ∈ namesOf b' ↔ name ∈ namesOf b := by
  rw [namesOf, namesOf, List.mem_append, List.mem_append, rearranged.externals,
    (rearranged.classes.map _).mem_iff]

/-- A name keeps its declarations, of which there is at most one. -/
theorem declarations_eq (name : String) :
    declarations b'.classes name = declarations b.classes name := by
  have perm : (declarations b'.classes name).Perm (declarations b.classes name) :=
    rearranged.classes.filter _
  have few : (declarations b.classes name).length ≤ 1 := by
    rw [length_declarations]
    exact List.nodup_iff_count_le_one.1 rearranged.distinct name
  match only : declarations b.classes name, few with
  | [], _ => exact (only ▸ perm).eq_nil
  | [c], _ => exact List.perm_singleton.1 (only ▸ perm)

/-- **Rearranged batches have the same snapshot.** -/
theorem discover_eq : discover b' = discover b := by
  have same : (discover b').models = (discover b).models := Dictionary.ext fun name =>
    find?_congr rearranged.mem_namesOf (rearranged.declarations_eq name)
  exact congrArg Snapshot.mk same

end Rearranged

/-- **A pass does not depend on the order of its batch.** Rearranged batches have the same snapshot,
every class has the same files or the same failure, and the reports say the same about every
name. -/
theorem run_rearranged {σ τ : Type} (settings : Settings) (rearranged : Rearranged b b')
    {sink : Sink σ} (accepts : sink.Accepts) {sink' : Sink τ} (accepts' : sink'.Accepts) (start : σ)
    (start' : τ) :
    discover b' = discover b ∧
      (∀ c, generate settings (discover b') c = generate settings (discover b) c) ∧
      (run settings b' sink' start').report.SameOutcomes (run settings b sink start).report := by
  have same := rearranged.discover_eq
  refine ⟨same, fun c => by rw [same], ?_⟩
  rw [report_run accepts, report_run accepts', same,
    firstDeclarations_of_nodup rearranged.distinct,
    firstDeclarations_of_nodup rearranged.distinct']
  exact Report.sameOutcomes_ofFates (rearranged.classes.map _)

/-- The family with two models from elsewhere. -/
def lendingBatch : Batch := familyBatch.withExternalModels ["lib.Money", "lib.Rate"]

/-- The same family from the leaf up, with a repeated name. -/
def risingBatch : Batch :=
  ⟨familyBatch.classes.reverse, ["lib.Rate", "lib.Money", "lib.Rate"]⟩

theorem rearranged_risingBatch : Rearranged lendingBatch risingBatch where
  distinct := by decide
  classes := List.reverse_perm familyBatch.classes
  externals name := by
    simp only [lendingBatch, risingBatch, familyBatch, Batch.withExternalModels, Batch.ofClasses,
      List.nil_append, List.mem_cons, List.not_mem_nil, or_false]
    tauto

/-- Only the order of the failures differs. -/
theorem risingBatch_run :
    Rearranged lendingBatch risingBatch ∧ MemoryStore.sink.Accepts ∧
      (run {} risingBatch MemoryStore.sink .empty).report.SameOutcomes
        (run {} lendingBatch MemoryStore.sink .empty).report ∧
      (run {} risingBatch MemoryStore.sink .empty).report.failures.map (·.owner) =
        ["shop.Child", "shop.Parent", "shop.Holder"] :=
  ⟨rearranged_risingBatch, MemoryStore.accepts_sink,
    (run_rearranged {} rearranged_risingBatch MemoryStore.accepts_sink MemoryStore.accepts_sink
      .empty .empty).2.2,
    by decide +kernel⟩

end RecordSynthesis
