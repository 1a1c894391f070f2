import Mathlib.Data.List.Basic
import RecordSynthesis.Pass.Run
import RecordSynthesis.Proofs.Discovery
import RecordSynthesis.Store.Memory

/-!
# The accounts of a pass

Every qualified name of a batch has one outcome, and the report lists it once. What the sink holds
at the end comes from the calls for the generated classes, in the order of the batch, and from
nothing else. The main statement is `run_accounted`; it holds for every sink that a failed call
leaves as it was.

A pass decides one class after the other. `Fate` is what becomes of a class at a given state of
the sink. Deciding the class adds its fate to the report and, if the class is generated, its
artifacts to the sink (`decideClass_spec`). What that preserves holds of a whole pass
(`run_induction`). So does `Listing`, what a report says about the classes that are decided, and,
with such a sink, `Tally`, which adds what the sink holds.
-/

set_option autoImplicit false

namespace RecordSynthesis

open Snapshot

variable {σ : Type}

/-! ## Sinks and successful calls -/

/-- A failed call leaves the state of the sink as it was. -/
def Sink.KeepsOnFailure (sink : Sink σ) : Prop :=
  ∀ artifacts state failure, (sink.write artifacts state).outcome = .error failure →
    (sink.write artifacts state).state = state

theorem MemoryStore.keepsOnFailure_sink : MemoryStore.sink.KeepsOnFailure := by
  intro artifacts state failure failed
  cases failed

theorem Sink.KeepsOnFailure.refusing {sink : Sink σ} (keeps : sink.KeepsOnFailure)
    (names : List String) : (sink.refusing names).KeepsOnFailure := by
  intro artifacts state failure failed
  simp only [Sink.refusing] at failed ⊢
  split
  next => rfl
  next none =>
    rw [none] at failed
    exact keeps artifacts state failure failed

/-- Calls that all succeed lead from one state of the sink to another. -/
inductive Sink.Writes (sink : Sink σ) : List (List Artifact) → σ → σ → Prop where
  | nil (state : σ) : Writes sink [] state state
  | cons {artifacts : List Artifact} {calls : List (List Artifact)} {state last : σ}
      (succeeds : (sink.write artifacts state).outcome = .ok ())
      (others : Writes sink calls (sink.write artifacts state).state last) :
      Writes sink (artifacts :: calls) state last

theorem Sink.Writes.concat {sink : Sink σ} {calls : List (List Artifact)} {first last : σ}
    (before : sink.Writes calls first last) {artifacts : List Artifact}
    (succeeds : (sink.write artifacts last).outcome = .ok ()) :
    sink.Writes (calls ++ [artifacts]) first (sink.write artifacts last).state := by
  induction before with
  | nil state => exact .cons succeeds (.nil _)
  | cons succeeds' _ ih => exact .cons succeeds' (ih succeeds)

/-- The memory store takes the artifacts of all calls, one after the other. -/
theorem Sink.Writes.memory {calls : List (List Artifact)} {m last : MemoryStore}
    (writes : MemoryStore.sink.Writes calls m last) :
    last = calls.flatten.foldl MemoryStore.add m := by
  induction writes with
  | nil => rfl
  | cons _ _ ih => rw [ih, List.flatten_cons, List.foldl_append]; rfl

/-! ## The fate of a class -/

/-- What becomes of a class in a pass. -/
inductive Fate where
  | generated
  | skipped
  | failed (failure : Failure)

/-- The fate of a class when the sink is in the given state. -/
def fate (settings : Settings) (s : Snapshot) (sink : Sink σ) (state : σ) (c : ModelClass) : Fate :=
  if s.isAmbiguous c.qualifiedName then .failed (.configuration (.declaredTwice c.qualifiedName))
  else if c.isApplicable then
    match generate settings s c with
    | .error failure => .failed failure
    | .ok g =>
      match (sink.write g.artifacts state).outcome with
      | .error failure => .failed failure
      | .ok _ => .generated
  else .skipped

/-- The artifacts of a class. A class that is not generated has none. -/
def artifactsOf (settings : Settings) (s : Snapshot) (c : ModelClass) : List Artifact :=
  match generate settings s c with
  | .ok g => g.artifacts
  | .error _ => []

theorem artifactsOf_of_generate {settings : Settings} {s : Snapshot} {c : ModelClass}
    {g : GeneratedClass} (generated : generate settings s c = .ok g) :
    artifactsOf settings s c = g.artifacts := by
  rw [artifactsOf, generated]

namespace Report

/-- All names of a report. -/
def names (r : Report) : List String := r.generated ++ r.skipped ++ r.failures.map (·.owner)

/-- The report lists a name with a fate. -/
def Lists (r : Report) (name : String) : Fate → Prop
  | .generated => name ∈ r.generated
  | .skipped => name ∈ r.skipped
  | .failed failure => ⟨name, failure⟩ ∈ r.failures

/-- The report with one more name and its fate. -/
def add (r : Report) (name : String) : Fate → Report
  | .generated => { r with generated := r.generated ++ [name] }
  | .skipped => { r with skipped := r.skipped ++ [name] }
  | .failed failure => { r with failures := r.failures ++ [⟨name, failure⟩] }

theorem lists_add (r : Report) (name : String) (f : Fate) : (r.add name f).Lists name f := by
  cases f <;> simp [add, Lists]

theorem Lists.add {r : Report} {name : String} {f : Fate} (listed : r.Lists name f)
    (other : String) (g : Fate) : (r.add other g).Lists name f := by
  cases f <;> cases g <;> simp_all [Report.add, Lists]

theorem names_add (r : Report) (name : String) (f : Fate) :
    (r.add name f).names.Perm (r.names ++ [name]) := by
  cases f with
  | generated =>
      simp only [add, names, List.append_assoc]
      exact .append_left _ (List.perm_append_comm.trans (by rw [List.append_assoc]))
  | skipped =>
      simp only [add, names, List.append_assoc]
      exact .append_left _ (.append_left _ List.perm_append_comm)
  | failed failure => simp [add, names]

theorem generated_add (r : Report) (name : String) (f : Fate) :
    (r.add name f).generated.Sublist (r.generated ++ [name]) := by
  cases f <;> simp [add]

theorem skipped_add (r : Report) (name : String) (f : Fate) :
    (r.add name f).skipped.Sublist (r.skipped ++ [name]) := by
  cases f <;> simp [add]

theorem failures_add (r : Report) (name : String) (f : Fate) :
    ((r.add name f).failures.map (·.owner)).Sublist (r.failures.map (·.owner) ++ [name]) := by
  cases f <;> simp [add]

/-- A name joins the generated ones exactly by that fate. -/
theorem mem_generated_add {r : Report} {name : String} (fresh : name ∉ r.generated) (f : Fate) :
    name ∈ (r.add name f).generated ↔ f = .generated := by
  cases f <;> simp [add, fresh]

theorem mem_generated_add_of_ne (r : Report) {name other : String} (differs : other ≠ name)
    (f : Fate) : other ∈ (r.add name f).generated ↔ other ∈ r.generated := by
  cases f <;> simp [add, differs]

end Report

/-! ## One class -/

section Step

variable {settings : Settings} {s : Snapshot} {sink : Sink σ}

/-- Deciding a class adds its fate to the report. It writes the artifacts of the class if the class
is generated, and nothing that the sink keeps otherwise. -/
theorem decideClass_spec (settings : Settings) (s : Snapshot) (sink : Sink σ) (p : Progress σ)
    (c : ModelClass) :
    (p.decideClass settings s sink c).report =
        p.report.add c.qualifiedName (fate settings s sink p.state c) ∧
      ((fate settings s sink p.state c = .generated ∧
          (sink.write (artifactsOf settings s c) p.state).outcome = .ok () ∧
          (p.decideClass settings s sink c).state =
            (sink.write (artifactsOf settings s c) p.state).state) ∨
        (fate settings s sink p.state c ≠ .generated ∧
          (sink.KeepsOnFailure → (p.decideClass settings s sink c).state = p.state))) := by
  simp only [Progress.decideClass, fate, artifactsOf]
  split
  next => exact ⟨rfl, .inr ⟨Fate.noConfusion, fun _ => rfl⟩⟩
  next =>
    split
    next =>
      simp only [Progress.generateClass]
      cases generate settings s c with
      | error failure => exact ⟨rfl, .inr ⟨Fate.noConfusion, fun _ => rfl⟩⟩
      | ok g =>
          simp only [Progress.written, Progress.logged]
          cases outcome : (sink.write g.artifacts p.state).outcome with
          | error failure =>
              exact ⟨rfl, .inr ⟨Fate.noConfusion, fun keeps => keeps _ _ _ outcome⟩⟩
          | ok _ => exact ⟨rfl, .inl ⟨rfl, rfl, rfl⟩⟩
    next => exact ⟨rfl, .inr ⟨Fate.noConfusion, fun _ => rfl⟩⟩

/-- The name of a generated class is not ambiguous, and its generation succeeds. -/
theorem generate_of_fate_eq_generated {state : σ} {c : ModelClass}
    (generated : fate settings s sink state c = .generated) :
    s.isAmbiguous c.qualifiedName = false ∧ ∃ g, generate settings s c = .ok g := by
  simp only [fate] at generated
  split at generated
  next => cases generated
  next clear =>
    split at generated
    next =>
      cases outcome : generate settings s c with
      | error failure =>
          rw [outcome] at generated
          cases generated
      | ok g => exact ⟨Bool.eq_false_iff.2 clear, g, rfl⟩
    next => cases generated

end Step

/-! ## The first class of every name -/

theorem nodup_eraseDups (names : List String) : names.eraseDups.Nodup := by
  match names with
  | [] => exact .nil
  | name :: rest =>
    rw [List.eraseDups_cons, List.nodup_cons, List.mem_eraseDups]
    exact ⟨by simp, nodup_eraseDups (rest.filter fun other => !other == name)⟩
termination_by names.length
decreasing_by exact Nat.lt_succ_of_le (List.length_filter_le ..)

theorem firstDeclarations_subset {seen : List String} {classes : List ModelClass} :
    firstDeclarations seen classes ⊆ classes := by
  induction classes generalizing seen with
  | nil => exact List.Subset.refl _
  | cons c classes ih =>
      rw [firstDeclarations]
      split
      next => exact List.subset_cons_of_subset _ ih
      next => exact List.cons_subset_cons _ ih

/-- The first classes have every name once, in the order of the batch. -/
theorem map_firstDeclarations (seen : List String) (classes : List ModelClass) :
    (firstDeclarations seen classes).map (·.qualifiedName) =
      ((classes.map (·.qualifiedName)).filter (· ∉ seen)).eraseDups := by
  induction classes generalizing seen with
  | nil => rfl
  | cons c classes ih =>
      rw [firstDeclarations, List.map_cons]
      split
      next known => rw [ih, List.filter_cons_of_neg (by simpa using known)]
      next fresh =>
        rw [List.map_cons, ih, List.filter_cons_of_pos (by simpa using fresh),
          List.eraseDups_cons, List.filter_filter]
        congr 2
        apply List.filter_congr
        intro name _
        rw [Bool.eq_iff_iff]
        simp

theorem map_firstDeclarations_nil (classes : List ModelClass) :
    (firstDeclarations [] classes).map (·.qualifiedName) =
      (classes.map (·.qualifiedName)).eraseDups := by
  rw [map_firstDeclarations, List.filter_eq_self.2 (by simp)]

/-- Only the names that came before matter, not their order or how often they came. -/
theorem firstDeclarations_congr {seen seen' : List String}
    (same : ∀ name, name ∈ seen ↔ name ∈ seen') (classes : List ModelClass) :
    firstDeclarations seen classes = firstDeclarations seen' classes := by
  induction classes generalizing seen seen' with
  | nil => rfl
  | cons c classes ih =>
      have others : ∀ name, name ∈ c.qualifiedName :: seen ↔ name ∈ c.qualifiedName :: seen' :=
        fun name => by rw [List.mem_cons, List.mem_cons, same]
      rw [firstDeclarations, firstDeclarations, ih same, ih others]
      exact if_congr (same _) rfl rfl

theorem firstDeclarations_append (seen : List String) (first second : List ModelClass) :
    firstDeclarations seen (first ++ second) =
      firstDeclarations seen first ++
        firstDeclarations (first.map (·.qualifiedName) ++ seen) second := by
  induction first generalizing seen with
  | nil => rfl
  | cons c first ih =>
      rw [List.cons_append, firstDeclarations, firstDeclarations]
      split
      next known =>
        rw [ih]
        refine congrArg _ (firstDeclarations_congr (fun name => ?_) second)
        simp only [List.map_cons, List.cons_append, List.mem_cons, List.mem_append]
        constructor
        · exact .inr
        · rintro (rfl | member)
          · exact .inr known
          · exact member
      next fresh =>
        rw [ih, List.cons_append]
        refine congrArg _ (congrArg _ (firstDeclarations_congr (fun name => ?_) second))
        simp only [List.map_cons, List.cons_append, List.mem_cons, List.mem_append]
        exact or_left_comm

/-- Classes that alone have their names are all among the first ones. -/
theorem filter_firstDeclarations {P : String → Bool} {seen : List String}
    {classes : List ModelClass}
    (alone : classes.Pairwise fun c d => P d.qualifiedName → c.qualifiedName ≠ d.qualifiedName)
    (fresh : ∀ c ∈ classes, P c.qualifiedName → c.qualifiedName ∉ seen) :
    (firstDeclarations seen classes).filter (fun c => P c.qualifiedName) =
      classes.filter fun c => P c.qualifiedName := by
  induction classes generalizing seen with
  | nil => rfl
  | cons c classes ih =>
      obtain ⟨differs, alone⟩ := List.pairwise_cons.1 alone
      obtain ⟨head, fresh⟩ := List.forall_mem_cons.1 fresh
      rw [firstDeclarations]
      split
      next known =>
        rw [ih alone fresh, List.filter_cons, if_neg fun holds => head holds known]
      next =>
        have fresh' : ∀ d ∈ classes, P d.qualifiedName →
            d.qualifiedName ∉ c.qualifiedName :: seen := by
          intro d member holds
          rw [List.mem_cons, not_or]
          exact ⟨(differs d member holds).symm, fresh d member holds⟩
        rw [List.filter_cons, List.filter_cons, ih alone fresh']

/-- A class in front of another one of the same name makes the name ambiguous. -/
theorem pairwise_of_not_isAmbiguous {b : Batch} {P : String → Bool}
    (clear : ∀ c ∈ b.classes, P c.qualifiedName →
      (discover b).isAmbiguous c.qualifiedName = false) :
    b.classes.Pairwise fun c d => P d.qualifiedName → c.qualifiedName ≠ d.qualifiedName := by
  apply List.pairwise_of_forall_sublist
  intro c d both holds same
  have unambiguous := clear d (both.subset (by simp)) holds
  rw [isAmbiguous_discover, decide_eq_false_iff_not] at unambiguous
  have some := (both.filter fun e => e.qualifiedName = d.qualifiedName).length_le
  simp only [List.filter_cons, same, decide_true, if_true, List.filter_nil,
    List.length_cons, List.length_nil] at some
  exact unambiguous some

/-! ## Runs -/

section Runs

variable {settings : Settings} {s : Snapshot} {sink : Sink σ}

/-- What deciding a class of a fresh name preserves, deciding classes of different fresh names
preserves. -/
theorem foldl_decideClass_induction {motive : List ModelClass → Report → σ → Prop}
    (step : ∀ done (p : Progress σ) c, motive done p.report p.state →
      c.qualifiedName ∉ done.map (·.qualifiedName) →
      motive (done ++ [c]) (p.decideClass settings s sink c).report
        (p.decideClass settings s sink c).state)
    (classes : List ModelClass) {done : List ModelClass} {p : Progress σ}
    (before : motive done p.report p.state)
    (distinct : ((done ++ classes).map (·.qualifiedName)).Nodup) :
    motive (done ++ classes)
      (classes.foldl (fun q c => q.decideClass settings s sink c) p).report
      (classes.foldl (fun q c => q.decideClass settings s sink c) p).state := by
  induction classes generalizing done p with
  | nil =>
      rw [List.append_nil]
      exact before
  | cons c classes ih =>
      have fresh : c.qualifiedName ∉ done.map (·.qualifiedName) := by
        rw [List.map_append, List.nodup_append] at distinct
        intro member
        exact distinct.2.2 _ member _ (by simp) rfl
      rw [List.append_cons] at distinct ⊢
      exact ih (step done p c before fresh) distinct

/-- **Induction over a pass.** It decides the first class of every name, one after the other. -/
theorem run_induction (settings : Settings) (b : Batch) (sink : Sink σ) (start : σ)
    {motive : List ModelClass → Report → σ → Prop} (opening : motive [] {} start)
    (step : ∀ done (p : Progress σ) c, motive done p.report p.state →
      c.qualifiedName ∉ done.map (·.qualifiedName) →
      motive (done ++ [c]) (p.decideClass settings (discover b) sink c).report
        (p.decideClass settings (discover b) sink c).state) :
    motive (firstDeclarations [] b.classes) (run settings b sink start).report
      (run settings b sink start).state := by
  have distinct :
      (([] ++ firstDeclarations [] b.classes).map ModelClass.qualifiedName).Nodup := by
    rw [List.nil_append, map_firstDeclarations_nil]
    exact nodup_eraseDups _
  exact foldl_decideClass_induction (motive := motive) (p := ⟨{}, start, _⟩) step _ opening
    distinct

end Runs

/-! ## What a report lists -/

/-- What holds of the report after some classes are decided: it lists each name once and with its
fate, every list follows the order of the classes, and the generated classes have files. -/
structure Listing (settings : Settings) (s : Snapshot) (sink : Sink σ) (done : List ModelClass)
    (r : Report) : Prop where
  once : r.names.Perm (done.map (·.qualifiedName))
  generated : r.generated.Sublist (done.map (·.qualifiedName))
  skipped : r.skipped.Sublist (done.map (·.qualifiedName))
  failed : (r.failures.map (·.owner)).Sublist (done.map (·.qualifiedName))
  rendered : ∀ c ∈ done, c.qualifiedName ∈ r.generated →
    s.isAmbiguous c.qualifiedName = false ∧ ∃ g, generate settings s c = .ok g
  decided : ∀ c ∈ done, ∃ state, r.Lists c.qualifiedName (fate settings s sink state c)

section Listing

variable {settings : Settings} {s : Snapshot} {sink : Sink σ}

theorem Listing.nil (settings : Settings) (s : Snapshot) (sink : Sink σ) :
    Listing settings s sink [] {} where
  once := .refl _
  generated := List.nil_sublist _
  skipped := List.nil_sublist _
  failed := List.nil_sublist _
  rendered _ member := (List.not_mem_nil member).elim
  decided _ member := (List.not_mem_nil member).elim

/-- **Deciding a class of a fresh name keeps the listing.** -/
theorem Listing.decide {done : List ModelClass} {p : Progress σ}
    (listing : Listing settings s sink done p.report) {c : ModelClass}
    (fresh : c.qualifiedName ∉ done.map (·.qualifiedName)) :
    Listing settings s sink (done ++ [c]) (p.decideClass settings s sink c).report := by
  have unlisted : c.qualifiedName ∉ p.report.generated := by
    intro listed
    exact fresh (listing.generated.subset listed)
  rw [(decideClass_spec settings s sink p c).1]
  constructor
  case once =>
    rw [List.map_append]
    exact (p.report.names_add _ _).trans (listing.once.append_right _)
  case generated =>
    rw [List.map_append]
    exact (p.report.generated_add _ _).trans (listing.generated.append (.refl _))
  case skipped =>
    rw [List.map_append]
    exact (p.report.skipped_add _ _).trans (listing.skipped.append (.refl _))
  case failed =>
    rw [List.map_append]
    exact (p.report.failures_add _ _).trans (listing.failed.append (.refl _))
  case rendered =>
    intro d member listed
    rcases List.mem_append.1 member with decided | last
    · have differs : d.qualifiedName ≠ c.qualifiedName := by
        intro same
        exact fresh (same ▸ List.mem_map_of_mem decided)
      exact listing.rendered d decided ((p.report.mem_generated_add_of_ne differs _).1 listed)
    · rw [List.mem_singleton.1 last] at listed ⊢
      exact generate_of_fate_eq_generated ((Report.mem_generated_add unlisted _).1 listed)
  case decided =>
    intro d member
    rcases List.mem_append.1 member with decided | last
    · obtain ⟨state, listed⟩ := listing.decided d decided
      exact ⟨state, listed.add _ _⟩
    · rw [List.mem_singleton.1 last]
      exact ⟨p.state, Report.lists_add ..⟩

/-- The listing of a whole pass. -/
theorem listing_run (settings : Settings) (b : Batch) (sink : Sink σ) (start : σ) :
    Listing settings (discover b) sink (firstDeclarations [] b.classes)
      (run settings b sink start).report :=
  run_induction settings b sink start (motive := fun done r _ =>
    Listing settings (discover b) sink done r) (.nil ..) fun _ _ _ listing => listing.decide

end Listing

/-! ## What a sink holds -/

/-- The calls for those of the classes that a report counts as generated. -/
def callsFor (settings : Settings) (s : Snapshot) (r : Report) (classes : List ModelClass) :
    List (List Artifact) :=
  (classes.filter fun c => c.qualifiedName ∈ r.generated).map (artifactsOf settings s)

section Calls

variable {settings : Settings} {s : Snapshot}

/-- One more name in the report changes no call for classes of other names. -/
theorem callsFor_add (settings : Settings) (s : Snapshot) (r : Report) (f : Fate)
    {name : String} {classes : List ModelClass} (fresh : name ∉ classes.map (·.qualifiedName)) :
    callsFor settings s (r.add name f) classes = callsFor settings s r classes := by
  apply congrArg (List.map _)
  apply List.filter_congr
  intro c member
  have differs : c.qualifiedName ≠ name := by
    intro same
    exact fresh (List.mem_map.2 ⟨c, member, same⟩)
  exact decide_eq_decide.2 (r.mem_generated_add_of_ne differs f)

theorem callsFor_append (r : Report) (first second : List ModelClass) :
    callsFor settings s r (first ++ second) =
      callsFor settings s r first ++ callsFor settings s r second := by
  rw [callsFor, List.filter_append, List.map_append]
  rfl

theorem callsFor_singleton (r : Report) (c : ModelClass) :
    callsFor settings s r [c] =
      if c.qualifiedName ∈ r.generated then [artifactsOf settings s c] else [] := by
  split
  next listed => simp [callsFor, listed]
  next missing => simp [callsFor, missing]

end Calls

/-- What holds after some classes are decided, with a sink that a failed call leaves as it was: the
sink holds what the calls for the generated classes leave behind, and the fate of each class is its
fate behind the generated classes in front of it. -/
structure Tally (settings : Settings) (s : Snapshot) (sink : Sink σ) (start : σ)
    (done : List ModelClass) (r : Report) (last : σ) : Prop
    extends Listing settings s sink done r where
  writes : sink.Writes (callsFor settings s r done) start last
  fates : ∀ before c after, done = before ++ c :: after →
    ∃ state, sink.Writes (callsFor settings s r before) start state ∧
      r.Lists c.qualifiedName (fate settings s sink state c)

section Tally

variable {settings : Settings} {s : Snapshot} {sink : Sink σ} {start : σ}

theorem Tally.nil (settings : Settings) (s : Snapshot) (sink : Sink σ) (start : σ) :
    Tally settings s sink start [] {} start where
  toListing := .nil settings s sink
  writes := .nil _
  fates before c after split := by simp at split

/-- **Deciding a class of a fresh name keeps the tally.** -/
theorem Tally.decide (keeps : sink.KeepsOnFailure) {done : List ModelClass} {p : Progress σ}
    (tally : Tally settings s sink start done p.report p.state) {c : ModelClass}
    (fresh : c.qualifiedName ∉ done.map (·.qualifiedName)) :
    Tally settings s sink start (done ++ [c]) (p.decideClass settings s sink c).report
      (p.decideClass settings s sink c).state := by
  obtain ⟨report, state⟩ := decideClass_spec settings s sink p c
  have unlisted : c.qualifiedName ∉ p.report.generated := by
    intro listed
    exact fresh (tally.generated.subset listed)
  have earlier := callsFor_add settings s p.report (fate settings s sink p.state c) fresh
  constructor
  case toListing => exact tally.toListing.decide fresh
  case writes =>
    rw [report, callsFor_append, earlier]
    rcases state with ⟨generated, succeeds, state⟩ | ⟨other, kept⟩
    · have listed := (Report.mem_generated_add unlisted _).2 generated
      rw [state, callsFor_singleton, if_pos listed]
      exact tally.writes.concat succeeds
    · have missing := mt (Report.mem_generated_add unlisted _).1 other
      rw [kept keeps, callsFor_singleton, if_neg missing, List.append_nil]
      exact tally.writes
  case fates =>
    intro before d after split
    rw [report]
    rcases List.eq_nil_or_concat after with rfl | ⟨others, last, rfl⟩
    · -- the class itself stands behind all others
      obtain ⟨rfl, same⟩ := List.append_inj' split rfl
      cases same
      exact ⟨p.state, by rw [earlier]; exact tally.writes, Report.lists_add ..⟩
    · rw [List.concat_eq_append, ← List.cons_append, ← List.append_assoc] at split
      obtain ⟨rfl, -⟩ := List.append_inj' split rfl
      obtain ⟨state, writes, listed⟩ := tally.fates before d others rfl
      have fresh' : c.qualifiedName ∉ before.map (·.qualifiedName) := by
        intro member
        apply fresh
        rw [List.map_append]
        exact List.mem_append_left _ member
      exact ⟨state, by rw [callsFor_add _ _ _ _ fresh']; exact writes, listed.add _ _⟩

/-- The tally of a whole pass. -/
theorem tally_run (settings : Settings) (b : Batch) (start : σ) (keeps : sink.KeepsOnFailure) :
    Tally settings (discover b) sink start (firstDeclarations [] b.classes)
      (run settings b sink start).report (run settings b sink start).state :=
  run_induction settings b sink start (motive := Tally settings (discover b) sink start)
    (.nil ..) fun _ _ _ tally => tally.decide keeps

end Tally

/-! ## The whole pass -/

section Pass

variable {settings : Settings} {b : Batch} {sink : Sink σ} {start : σ}

/-- Every class is first, or behind a class of the same name that is. -/
theorem exists_mem_firstDeclarations {c : ModelClass} (listed : c ∈ b.classes) :
    ∃ d ∈ firstDeclarations [] b.classes, d.qualifiedName = c.qualifiedName := by
  have member : c.qualifiedName ∈ (firstDeclarations [] b.classes).map (·.qualifiedName) := by
    rw [map_firstDeclarations_nil, List.mem_eraseDups]
    exact List.mem_map_of_mem listed
  exact List.mem_map.1 member

/-- A generated name is not ambiguous. -/
theorem isAmbiguous_of_mem_generated {c : ModelClass} (listed : c ∈ b.classes)
    (generated : c.qualifiedName ∈ (run settings b sink start).report.generated) :
    (discover b).isAmbiguous c.qualifiedName = false := by
  obtain ⟨d, first, same⟩ := exists_mem_firstDeclarations listed
  rw [← same] at generated ⊢
  exact ((listing_run settings b sink start).rendered d first generated).1

/-- A generated class alone declares its name, and its generation succeeds. -/
theorem generate_of_mem_generated {c : ModelClass} (listed : c ∈ b.classes)
    (generated : c.qualifiedName ∈ (run settings b sink start).report.generated) :
    DeclaredOnce b c ∧ ∃ g, generate settings (discover b) c = .ok g := by
  have once := (isAmbiguous_eq_false_iff listed).1
    (isAmbiguous_of_mem_generated listed generated)
  obtain ⟨d, first, same⟩ := exists_mem_firstDeclarations listed
  have listed' : d ∈ b.classes := firstDeclarations_subset first
  obtain rfl := once.unique listed' same
  exact ⟨once, ((listing_run settings b sink start).rendered d first generated).2⟩

/-- A class with a trigger that alone declares its name is generated or fails. -/
theorem generated_or_failed {c : ModelClass} (once : DeclaredOnce b c)
    (applicable : c.isApplicable) :
    c.qualifiedName ∈ (run settings b sink start).report.generated ∨
      ∃ failure, ⟨c.qualifiedName, failure⟩ ∈ (run settings b sink start).report.failures := by
  obtain ⟨d, first, same⟩ := exists_mem_firstDeclarations once.listed
  obtain rfl := once.unique (firstDeclarations_subset first) same
  obtain ⟨state, listed⟩ := (listing_run settings b sink start).decided d first
  rw [fate, if_neg (by simp [(isAmbiguous_eq_false_iff once.listed).2 once]),
    if_pos applicable] at listed
  split at listed
  next failure _ => exact .inr ⟨failure, listed⟩
  next =>
    split at listed
    next failure _ => exact .inr ⟨failure, listed⟩
    next => exact .inl listed

theorem Report.not_mem_failures {r : Report} (success : r.isSuccess) (d : Diagnostic) :
    d ∉ r.failures := by
  rw [List.isEmpty_iff.1 success]
  exact List.not_mem_nil

/-- When no class failed, every class with a trigger that alone declares its name is generated. -/
theorem generate_of_isSuccess (success : (run settings b sink start).report.isSuccess)
    {c : ModelClass} (once : DeclaredOnce b c) (applicable : c.isApplicable) :
    ∃ g, generate settings (discover b) c = .ok g := by
  rcases generated_or_failed once applicable with generated | ⟨failure, failed⟩
  · exact (generate_of_mem_generated once.listed generated).2
  · exact (Report.not_mem_failures success _ failed).elim

/-- The calls for the generated classes in front of a place are those for the first classes. -/
theorem callsFor_firstDeclarations {before after : List ModelClass}
    (split : b.classes = before ++ after) :
    callsFor settings (discover b) (run settings b sink start).report
        (firstDeclarations [] before) =
      callsFor settings (discover b) (run settings b sink start).report before := by
  let P : String → Bool := fun name => name ∈ (run settings b sink start).report.generated
  have alone : b.classes.Pairwise fun c d => P d.qualifiedName →
      c.qualifiedName ≠ d.qualifiedName :=
    pairwise_of_not_isAmbiguous fun c listed generated =>
      isAmbiguous_of_mem_generated listed (of_decide_eq_true generated)
  rw [split, List.pairwise_append] at alone
  exact congrArg (List.map _) (filter_firstDeclarations (P := P) alone.1 (by simp))

/-- No name stands twice in the report. -/
theorem names_run (settings : Settings) (b : Batch) (sink : Sink σ) (start : σ) :
    (run settings b sink start).report.names.Perm (b.classes.map (·.qualifiedName)).eraseDups := by
  rw [← map_firstDeclarations_nil]
  exact (listing_run settings b sink start).once

theorem length_declarations (classes : List ModelClass) (name : String) :
    (declarations classes name).length = (classes.map (·.qualifiedName)).count name := by
  rw [declarations, ← List.countP_eq_length_filter, List.count, List.countP_map]
  exact List.countP_congr fun c _ => by simp

/-- A name that two classes declare fails, and is neither generated nor skipped. -/
theorem failed_of_repeated {name : String}
    (repeated : 2 ≤ (b.classes.map (·.qualifiedName)).count name) :
    name ∉ (run settings b sink start).report.generated ∧
      name ∉ (run settings b sink start).report.skipped ∧
      ⟨name, .configuration (.declaredTwice name)⟩ ∈
        (run settings b sink start).report.failures := by
  have ambiguous : (discover b).isAmbiguous name = true := by
    rw [isAmbiguous_discover, length_declarations]
    exact decide_eq_true repeated
  obtain ⟨c, listed, rfl⟩ := List.mem_map.1 (List.count_pos_iff.1 (by omega : 0 <
    (b.classes.map (·.qualifiedName)).count name))
  obtain ⟨d, first, same⟩ := exists_mem_firstDeclarations listed
  obtain ⟨state, failed⟩ := (listing_run settings b sink start).decided d first
  rw [fate, same, if_pos ambiguous] at failed
  have distinct := (names_run settings b sink start).nodup_iff.2 (nodup_eraseDups _)
  rw [Report.names, List.nodup_append, List.nodup_append] at distinct
  obtain ⟨_, _, apart⟩ := distinct
  have owner : c.qualifiedName ∈ (run settings b sink start).report.failures.map (·.owner) :=
    List.mem_map_of_mem failed
  exact ⟨fun generated => apart _ (List.mem_append_left _ generated) _ owner rfl,
    fun skipped => apart _ (List.mem_append_right _ skipped) _ owner rfl, failed⟩

/-- What the report of a pass and its sink say about a batch. -/
structure Accounted (settings : Settings) (b : Batch) (sink : Sink σ) (start : σ)
    (p : Progress σ) : Prop where
  /-- Every name of a class stands in one of the three lists, and once. -/
  once : ∀ name, p.report.names.count name =
    if name ∈ b.classes.map (·.qualifiedName) then 1 else 0
  total : p.report.generated.length + p.report.skipped.length + p.report.failures.length =
    (b.classes.map (·.qualifiedName)).eraseDups.length
  /-- Each list follows the order of first occurrence. -/
  generated : p.report.generated.Sublist (b.classes.map (·.qualifiedName)).eraseDups
  skipped : p.report.skipped.Sublist (b.classes.map (·.qualifiedName)).eraseDups
  failed : (p.report.failures.map (·.owner)).Sublist (b.classes.map (·.qualifiedName)).eraseDups
  /-- A name that two classes declare fails. -/
  repeated : ∀ name, 2 ≤ (b.classes.map (·.qualifiedName)).count name →
    name ∉ p.report.generated ∧ name ∉ p.report.skipped ∧
      ⟨name, .configuration (.declaredTwice name)⟩ ∈ p.report.failures
  /-- The sink got the artifacts of the generated classes, in the order of the batch, and nothing
  else. -/
  writes : sink.Writes (callsFor settings (discover b) p.report b.classes) start p.state
  rendered : ∀ c ∈ b.classes, c.qualifiedName ∈ p.report.generated →
    ∃ g, generate settings (discover b) c = .ok g
  /-- What becomes of a name depends on its first class and on the generated classes in front of
  it only. -/
  fates : ∀ before c after, b.classes = before ++ c :: after →
    c.qualifiedName ∉ before.map (·.qualifiedName) →
    ∃ state, sink.Writes (callsFor settings (discover b) p.report before) start state ∧
      p.report.Lists c.qualifiedName (fate settings (discover b) sink state c)

/-- **The accounts of a pass**, with any sink that a failed call leaves as it was. -/
theorem run_accounted (settings : Settings) (b : Batch) (sink : Sink σ)
    (keeps : sink.KeepsOnFailure) (start : σ) :
    Accounted settings b sink start (run settings b sink start) := by
  have tally := tally_run settings b start keeps
  have names := names_run settings b sink start
  constructor
  case once =>
    intro name
    rw [names.count_eq, (nodup_eraseDups _).count]
    exact if_congr List.mem_eraseDups rfl rfl
  case total =>
    have length := names.length_eq
    rw [Report.names, List.length_append, List.length_append, List.length_map] at length
    exact length
  case generated =>
    rw [← map_firstDeclarations_nil]
    exact tally.generated
  case skipped =>
    rw [← map_firstDeclarations_nil]
    exact tally.skipped
  case failed =>
    rw [← map_firstDeclarations_nil]
    exact tally.failed
  case repeated =>
    intro name twice
    exact failed_of_repeated twice
  case writes =>
    rw [← callsFor_firstDeclarations (List.append_nil _).symm]
    exact tally.writes
  case rendered =>
    intro c listed generated
    exact (generate_of_mem_generated listed generated).2
  case fates =>
    intro before c after split fresh
    rw [← callsFor_firstDeclarations split]
    refine tally.fates _ c (firstDeclarations (c.qualifiedName :: before.map (·.qualifiedName))
      after) ?_
    rw [split, firstDeclarations_append, List.append_nil, firstDeclarations, if_neg fresh]

end Pass

/-- A batch with every outcome: a class that is generated, one without trigger, one that the sink
turns down, and two of one name. -/
def mixedBatch : Batch :=
  .ofClasses
    [⟨"shop", [], "Order", some "toRealmObject", [], {}⟩, ⟨"shop", [], "Draft", none, [], {}⟩,
      ⟨"shop", [], "Twin", some "toRealmObject", [], {}⟩,
      ⟨"shop", [], "Secret", some "toRealmObject", [], {}⟩, ⟨"shop", [], "Twin", none, [], {}⟩]

/-- The memory store without records of `shop.Secret`. -/
def discreetSink : Sink MemoryStore := MemoryStore.sink.refusing ["shop.$RealmSecret"]

theorem mixedBatch_accounted :
    discreetSink.KeepsOnFailure ∧
      Accounted {} mixedBatch discreetSink .empty (run {} mixedBatch discreetSink .empty) ∧
      (run {} mixedBatch discreetSink .empty).report =
        ⟨["shop.Order"], ["shop.Draft"],
          [⟨"shop.Twin", .configuration (.declaredTwice "shop.Twin")⟩,
            ⟨"shop.Secret", .configuration (.stated "sink refused shop.$RealmSecret")⟩]⟩ :=
  ⟨MemoryStore.keepsOnFailure_sink.refusing _,
    run_accounted {} mixedBatch discreetSink (MemoryStore.keepsOnFailure_sink.refusing _) .empty,
    by decide +kernel⟩

end RecordSynthesis
