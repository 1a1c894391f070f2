import Mathlib.Data.List.Induction
import RecordSynthesis.Proofs.Accounting
import RecordSynthesis.Proofs.Generation

/-!
# Passes that no sink stops

A sink that takes every call leaves no trace in the report. What becomes of a class is then settled
by the snapshot alone, its verdict, and the report lists the verdict of the first class of every
name in order (`report_run`). Classes of the same name have the same verdict, so that a report lists
a class exactly with its own (`lists_run_iff`).
-/

set_option autoImplicit false

namespace RecordSynthesis

open Snapshot

variable {σ : Type}

/-! ## Sinks that take everything -/

/-- The sink takes every call. -/
def Sink.Accepts (sink : Sink σ) : Prop :=
  ∀ artifacts state, (sink.write artifacts state).outcome = .ok ()

theorem MemoryStore.accepts_sink : MemoryStore.sink.Accepts := by
  intro artifacts state
  rfl

/-! ## Verdicts -/

/-- The fate of a class when no sink stands in its way. -/
def verdict (settings : Settings) (s : Snapshot) (c : ModelClass) : Fate :=
  if s.isAmbiguous c.qualifiedName then .failed (.configuration (.declaredTwice c.qualifiedName))
  else if c.isApplicable then
    match generate settings s c with
    | .error failure => .failed failure
    | .ok _ => .generated
  else .skipped

section Verdict

variable {settings : Settings} {s : Snapshot} {c : ModelClass}

theorem fate_eq_verdict {sink : Sink σ} (accepts : sink.Accepts) (state : σ) :
    fate settings s sink state c = verdict settings s c := by
  rw [fate, verdict]
  cases generate settings s c with
  | error failure => rfl
  | ok g =>
      have taken := accepts g.artifacts state
      simp only [taken]

/-- The generated classes are those that meet the conditions. -/
theorem verdict_eq_generated {b : Batch} (listed : c ∈ b.classes) :
    verdict settings (discover b) c = .generated ↔ Generable settings b c := by
  rw [verdict]
  constructor
  · intro generated
    split at generated
    next => cases generated
    next =>
      split at generated
      next =>
        split at generated
        next => cases generated
        next g result => exact ((generate_eq_ok listed).1 result).1
      next => cases generated
  · intro generable
    obtain ⟨stored, resolved⟩ := exists_storedProperties_iff.2 generable.resolved
    have result := (generate_eq_ok listed).2 ⟨generable, stored, resolved, rfl⟩
    rw [if_neg (by simp [(isAmbiguous_eq_false_iff listed).2 generable.once]),
      if_pos (by simp [ModelClass.isApplicable, generable.trigger]), result]

/-- The skipped classes are those that alone have their names and have no trigger. -/
theorem verdict_eq_skipped : verdict settings s c = .skipped ↔
    s.isAmbiguous c.qualifiedName = false ∧ c.isApplicable = false := by
  rw [verdict]
  split
  next ambiguous => simp [ambiguous]
  next clear =>
    split
    next applicable =>
      cases generate settings s c with
      | error failure => simp [applicable]
      | ok g => simp [applicable]
    next skipped => simp [clear, skipped]

/-- The verdict depends on the result of generation and on nothing else of the snapshot. -/
theorem verdict_congr {s' : Snapshot}
    (ambiguous : s'.isAmbiguous c.qualifiedName = s.isAmbiguous c.qualifiedName)
    (same : generate settings s' c = generate settings s c) :
    verdict settings s' c = verdict settings s c := by
  rw [verdict, verdict, ambiguous, same]

/-- Classes of the same name have the same verdict. -/
theorem verdict_eq_of_qualifiedName {b : Batch} {d : ModelClass} (first : c ∈ b.classes)
    (second : d ∈ b.classes) (same : c.qualifiedName = d.qualifiedName) :
    verdict settings (discover b) c = verdict settings (discover b) d := by
  cases ambiguous : (discover b).isAmbiguous d.qualifiedName with
  | true => rw [verdict, verdict, same, if_pos ambiguous, if_pos ambiguous]
  | false => rw [((isAmbiguous_eq_false_iff second).1 ambiguous).unique first same]

end Verdict

/-! ## The report -/

namespace Report

/-- The report of names with their fates. -/
def ofFates (fates : List (String × Fate)) : Report where
  generated := fates.filterMap fun
    | (name, .generated) => some name
    | _ => none
  skipped := fates.filterMap fun
    | (name, .skipped) => some name
    | _ => none
  failures := fates.filterMap fun
    | (name, .failed failure) => some ⟨name, failure⟩
    | _ => none

theorem ofFates_concat (fates : List (String × Fate)) (name : String) (f : Fate) :
    ofFates (fates ++ [(name, f)]) = (ofFates fates).add name f := by
  cases f <;> simp [ofFates, add]

theorem lists_ofFates {fates : List (String × Fate)} {name : String} {f : Fate} :
    (ofFates fates).Lists name f ↔ (name, f) ∈ fates := by
  induction fates using List.reverseRecOn with
  | nil => cases f <;> simp [ofFates, Lists]
  | append_singleton fates last ih =>
      obtain ⟨other, g⟩ := last
      rw [ofFates_concat, List.mem_append, List.mem_singleton, Prod.mk.injEq, ← ih]
      cases f <;> cases g <;> simp [add, Lists]

/-- Two reports list the same names with the same fates, each possibly in its own order. -/
structure SameOutcomes (r r' : Report) : Prop where
  generated : r.generated.Perm r'.generated
  skipped : r.skipped.Perm r'.skipped
  failures : r.failures.Perm r'.failures

theorem sameOutcomes_ofFates {fates fates' : List (String × Fate)} (same : fates.Perm fates') :
    SameOutcomes (ofFates fates) (ofFates fates') where
  generated := same.filterMap _
  skipped := same.filterMap _
  failures := same.filterMap _

end Report

section Pass

variable {settings : Settings} {b : Batch} {sink : Sink σ}

/-- **The report of a pass that no sink stops.** -/
theorem report_run (accepts : sink.Accepts) (start : σ) :
    (run settings b sink start).report = .ofFates ((firstDeclarations [] b.classes).map fun c =>
      (c.qualifiedName, verdict settings (discover b) c)) := by
  refine run_induction settings b sink start (motive := fun done r _ => r = .ofFates (done.map
    fun c => (c.qualifiedName, verdict settings (discover b) c))) rfl ?_
  intro done p c before _
  rw [(decideClass_spec settings (discover b) sink p c).1, fate_eq_verdict accepts, before,
    List.map_append, List.map_singleton, Report.ofFates_concat]

/-- The report lists every class with its verdict. -/
theorem lists_run_iff (accepts : sink.Accepts) {start : σ} {c : ModelClass}
    (listed : c ∈ b.classes) {f : Fate} :
    (run settings b sink start).report.Lists c.qualifiedName f ↔
      verdict settings (discover b) c = f := by
  rw [report_run accepts, Report.lists_ofFates, List.mem_map]
  constructor
  · rintro ⟨d, first, same⟩
    obtain ⟨name, rfl⟩ := Prod.mk.inj same
    exact verdict_eq_of_qualifiedName listed (firstDeclarations_subset first) name.symm
  · rintro rfl
    obtain ⟨d, first, same⟩ := exists_mem_firstDeclarations listed
    refine ⟨d, first, Prod.ext same ?_⟩
    exact verdict_eq_of_qualifiedName (firstDeclarations_subset first) listed same

end Pass

end RecordSynthesis
