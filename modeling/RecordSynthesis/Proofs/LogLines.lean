import Mathlib.Data.List.Enum
import Mathlib.Data.List.Induction
import RecordSynthesis.Proofs.Accounting
import RecordSynthesis.Store.Directory

/-!
# The log of a pass

Of the lines in the log of a pass some are its own and the others come from the sink. To tell them
apart, the sink is made to keep its lines in its state (`Sink.apart`): a pass into such a sink has
the same report and leaves the same state, its log holds its own lines only, and the log of the
original pass is made of these lines and those of the sink, each in their order
(`setApart_run`).

The own lines agree with the report. They begin with the warnings of discovery, one for each class
that comes behind another one of its name. Every fate of a class adds one line of its level, and
nothing else adds a line that is not a debug line (`Tells`). The main statement is `run_narrated`.
-/

set_option autoImplicit false

namespace RecordSynthesis

open Snapshot

variable {σ : Type}

/-! ## Lines of one level -/

/-- The lines of a level, in their order. -/
def linesAt (level : LogLevel) (log : List LogLine) : List LogLine :=
  log.filter (·.level = level)

section Levels

variable {level : LogLevel} {log more : List LogLine} {l : LogLine}

@[simp]
theorem linesAt_nil : linesAt level [] = [] := rfl

@[simp]
theorem linesAt_append : linesAt level (log ++ more) = linesAt level log ++ linesAt level more :=
  List.filter_append ..

theorem linesAt_cons :
    linesAt level (l :: log) = (if l.level = level then [l] else []) ++ linesAt level log := by
  rw [linesAt, List.filter_cons]
  split
  next same => rw [if_pos (of_decide_eq_true same)]; rfl
  next differs => rw [if_neg fun same => differs (decide_eq_true same)]; rfl

theorem linesAt_cons_of_ne (differs : l.level ≠ level) :
    linesAt level (l :: log) = linesAt level log := by
  rw [linesAt_cons, if_neg differs, List.nil_append]

/-- Lines of one level are all found at that level, and none at another one. -/
theorem linesAt_map {α : Type} {f : α → LogLine} {own : LogLevel} (same : ∀ x, (f x).level = own)
    (xs : List α) : linesAt level (xs.map f) = if level = own then xs.map f else [] := by
  split
  next here => exact List.filter_eq_self.2 (by simp [same, here])
  next elsewhere => exact List.filter_eq_nil_iff.2 (by simp [same, Ne.symm elsewhere])

theorem linesAt_eq_nil : linesAt level log = [] ↔ ∀ l ∈ log, l.level ≠ level := by
  simp [linesAt]

end Levels

/-! ## The lines of the sink -/

/-- The sink with its lines kept in its state, behind those of earlier calls. -/
def Sink.apart (sink : Sink σ) : Sink (σ × List LogLine) where
  write artifacts state :=
    let result := sink.write artifacts state.1
    { state := (result.state, state.2 ++ result.log), outcome := result.outcome }

/-- The sink logs nothing. -/
def Sink.Silent (sink : Sink σ) : Prop :=
  ∀ artifacts state, (sink.write artifacts state).log = []

/-- The sink logs nothing at the level. -/
def Sink.SilentAt (sink : Sink σ) (level : LogLevel) : Prop :=
  ∀ artifacts state, linesAt level (sink.write artifacts state).log = []

theorem Sink.silent_apart (sink : Sink σ) : sink.apart.Silent := fun _ _ => rfl

theorem MemoryStore.silent_sink : MemoryStore.sink.Silent := fun _ _ => rfl

namespace DirectorySink

theorem level_rollBack (placed : List Staged) (t : FileTree) :
    ∀ l ∈ (rollBack t placed).2, l.level = .warn := by
  induction placed generalizing t with
  | nil => simp [rollBack]
  | cons f placed ih =>
      rw [rollBack]
      split
      next t _ => exact ih t
      next => exact List.forall_mem_cons.2 ⟨rfl, ih t⟩

theorem level_place (staged : List Staged) (t : FileTree) (placed : List Staged) :
    ∀ l ∈ (place t placed staged).log, l.level = .debug ∨ l.level = .warn := by
  induction staged generalizing t placed with
  | nil => simp [place]
  | cons f staged ih =>
      rw [place]
      split
      next => exact fun l member => .inr (level_rollBack placed t l member)
      next t _ => exact List.forall_mem_cons.2 ⟨.inl rfl, ih t _⟩

/-- A directory sink says which files it wrote and warns of files that it cannot remove, and that is
all. -/
theorem silentAt_sink (d : DirectorySink) {level : LogLevel} (debug : level ≠ .debug)
    (warn : level ≠ .warn) : d.sink.SilentAt level := by
  intro artifacts t
  simp only [sink]
  split
  next => rfl
  next t staged _ =>
    refine linesAt_eq_nil.2 fun l member same => ?_
    rcases level_place staged t [] l member with here | here
    · exact debug (same.symm.trans here)
    · exact warn (same.symm.trans here)

end DirectorySink

/-- A list made of two others, each of which keeps its order. -/
inductive Interleaved {α : Type} : List α → List α → List α → Prop where
  | nil : Interleaved [] [] []
  | left {first second whole : List α} (more : List α) :
      Interleaved first second whole → Interleaved (first ++ more) second (whole ++ more)
  | right {first second whole : List α} (more : List α) :
      Interleaved first second whole → Interleaved first (second ++ more) (whole ++ more)

namespace Interleaved

variable {α : Type} {first second whole : List α}

theorem filter (p : α → Bool) (interleaved : Interleaved first second whole) :
    Interleaved (first.filter p) (second.filter p) (whole.filter p) := by
  induction interleaved with
  | nil => exact .nil
  | left more _ ih =>
      rw [List.filter_append, List.filter_append]
      exact ih.left _
  | right more _ ih =>
      rw [List.filter_append, List.filter_append]
      exact ih.right _

theorem eq_of_right_eq_nil (interleaved : Interleaved first second whole) (none : second = []) :
    whole = first := by
  induction interleaved with
  | nil => rfl
  | left more _ ih => rw [ih none]
  | right more _ ih =>
      obtain ⟨before, rfl⟩ := List.append_eq_nil_iff.1 none
      rw [ih before, List.append_nil]

end Interleaved

/-- Two passes that differ in where the lines of the sink are: in the log of the first one and in
the state of the second one. -/
structure SetApart (sink : Sink σ) (p : Progress σ) (q : Progress (σ × List LogLine)) : Prop where
  report : q.report = p.report
  state : q.state.1 = p.state
  log : Interleaved q.log q.state.2 p.log
  silent : ∀ level, sink.SilentAt level → linesAt level q.state.2 = []

namespace SetApart

variable {settings : Settings} {s : Snapshot} {sink : Sink σ} {p : Progress σ}
  {q : Progress (σ × List LogLine)}

theorem logged (apart : SetApart sink p q) (lines : List LogLine) :
    SetApart sink (p.logged lines) (q.logged lines) where
  report := apart.report
  state := apart.state
  log := apart.log.left lines
  silent := apart.silent

theorem generated (apart : SetApart sink p q) (name : String) :
    SetApart sink (p.generated name) (q.generated name) where
  report := by simp only [Progress.generated, apart.report]
  state := apart.state
  log := apart.log.left _
  silent := apart.silent

theorem skipped (apart : SetApart sink p q) (name method : String) :
    SetApart sink (p.skipped name method) (q.skipped name method) where
  report := by simp only [Progress.skipped, apart.report]
  state := apart.state
  log := apart.log.left _
  silent := apart.silent

theorem failed (apart : SetApart sink p q) (name : String) (failure : Failure) :
    SetApart sink (p.failed name failure) (q.failed name failure) where
  report := by simp only [Progress.failed, apart.report]
  state := apart.state
  log := apart.log.left _
  silent := apart.silent

/-- The lines of a call go to the log of the one pass and to the state of the other. -/
theorem written (apart : SetApart sink p q) (name : String) (g : GeneratedClass) :
    SetApart sink (p.written sink name g) (q.written sink.apart name g) := by
  let result := sink.write g.artifacts p.state
  have called : SetApart sink ⟨p.report, result.state, p.log ++ result.log⟩
      ⟨q.report, (result.state, q.state.2 ++ result.log), q.log ++ []⟩ := by
    refine ⟨apart.report, rfl, ?_, fun level silent => ?_⟩
    · rw [List.append_nil]
      exact apart.log.right result.log
    · rw [linesAt_append, apart.silent level silent, silent g.artifacts p.state, List.append_nil]
  simp only [Progress.written, Sink.apart, apart.state]
  cases result.outcome with
  | error failure => exact called.failed name failure
  | ok _ => exact called.generated name

/-- **Deciding a class keeps the lines of the sink apart.** -/
theorem decideClass (apart : SetApart sink p q) (c : ModelClass) :
    SetApart sink (p.decideClass settings s sink c) (q.decideClass settings s sink.apart c) := by
  simp only [Progress.decideClass]
  split
  next => exact apart.failed _ _
  next =>
    split
    next =>
      simp only [Progress.generateClass]
      have opened := apart.logged (generationLog settings s c)
      cases generate settings s c with
      | ok g => exact opened.written c.qualifiedName g
      | error failure => exact opened.failed c.qualifiedName failure
    next => exact apart.skipped _ _

end SetApart

/-- The lines of the sink are kept apart through a whole pass. -/
theorem setApart_run (settings : Settings) (b : Batch) (sink : Sink σ) (start : σ) :
    SetApart sink (run settings b sink start) (run settings b sink.apart (start, [])) := by
  have opening : ∀ log : List LogLine,
      SetApart sink ⟨{}, start, log⟩ ⟨{}, (start, []), log⟩ := fun log =>
    ⟨rfl, rfl, by simpa using Interleaved.nil.left log, fun _ _ => rfl⟩
  have decided : ∀ log : List LogLine, SetApart sink
      ((firstDeclarations [] b.classes).foldl
        (fun p c => p.decideClass settings (discover b) sink c) ⟨{}, start, log⟩)
      ((firstDeclarations [] b.classes).foldl
        (fun q c => q.decideClass settings (discover b) sink.apart c) ⟨{}, (start, []), log⟩) :=
    fun log => List.foldl_rel (opening log) fun c _ _ _ apart => apart.decideClass c
  simp only [run, (decided _).report]
  exact (decided _).logged _

/-! ## Warnings of discovery -/

/-- The classes that come behind another one of their name. -/
def repeatedDeclarations (classes : List ModelClass) : List ModelClass :=
  (classes.zipIdx.filter fun place =>
    place.1.qualifiedName ∈ (classes.take place.2).map (·.qualifiedName)).map (·.1)

/-- One more class is repeated if its name is known. -/
theorem repeatedDeclarations_concat (classes : List ModelClass) (c : ModelClass) :
    repeatedDeclarations (classes ++ [c]) = repeatedDeclarations classes ++
      if c.qualifiedName ∈ classes.map (·.qualifiedName) then [c] else [] := by
  have earlier : ∀ place ∈ classes.zipIdx,
      decide (place.1.qualifiedName ∈ ((classes ++ [c]).take place.2).map (·.qualifiedName)) =
        decide (place.1.qualifiedName ∈ (classes.take place.2).map (·.qualifiedName)) := by
    intro place member
    have inside := (List.mem_zipIdx' member).1
    rw [List.take_append_of_le_length (Nat.le_of_lt inside)]
  have last : (classes ++ [c]).take classes.length = classes := List.take_left' rfl
  rw [repeatedDeclarations, List.zipIdx_append, List.filter_append, List.map_append,
    List.filter_congr earlier, ← repeatedDeclarations, Nat.zero_add, List.zipIdx_singleton,
    List.filter_singleton, last]
  by_cases known : c.qualifiedName ∈ classes.map (·.qualifiedName) <;> simp [known]

/-- A name that several classes declare is repeated once less often. -/
theorem length_repeatedDeclarations (classes : List ModelClass) (name : String) :
    (declarations (repeatedDeclarations classes) name).length =
      (declarations classes name).length - 1 := by
  induction classes using List.reverseRecOn with
  | nil => rfl
  | append_singleton classes c ih =>
      have known : c.qualifiedName ∈ classes.map (·.qualifiedName) ↔
          0 < (declarations classes c.qualifiedName).length := by
        rw [length_declarations, List.count_pos_iff]
      simp only [declarations] at known ih ⊢
      rw [repeatedDeclarations_concat, List.filter_append, List.filter_append, List.length_append,
        List.length_append, ih]
      by_cases same : c.qualifiedName = name
      · -- the class counts as repeated unless it is the first of its name
        subst same
        have added : ([c].filter fun d => d.qualifiedName = c.qualifiedName).length = 1 := by simp
        rw [added]
        split
        next some =>
          have some := known.1 some
          rw [added]
          omega
        next none =>
          have none := mt known.2 none
          rw [List.filter_nil, List.length_nil]
          omega
      · split <;> simp [same]

theorem discoveryLogFrom_concat (seen : List String) (classes : List ModelClass) (c : ModelClass) :
    discoveryLogFrom seen (classes ++ [c]) = discoveryLogFrom seen classes ++ discoveredLine c ::
      if c.qualifiedName ∈ seen ∨ c.qualifiedName ∈ classes.map (·.qualifiedName)
      then [repeatedLine c] else [] := by
  induction classes generalizing seen with
  | nil => simp [discoveryLogFrom]
  | cons d classes ih =>
      rw [List.cons_append, discoveryLogFrom, discoveryLogFrom, ih]
      simp [or_assoc, or_left_comm]

/-- Discovery warns of the repeated classes, in their order, and logs debug lines otherwise. -/
theorem linesAt_discoveryLog (b : Batch) {level : LogLevel} (loud : level ≠ .debug) :
    linesAt level (discoveryLog b) =
      linesAt level ((repeatedDeclarations b.classes).map repeatedLine) := by
  rw [discoveryLog]
  induction b.classes using List.reverseRecOn with
  | nil => rfl
  | append_singleton classes c ih =>
      rw [discoveryLogFrom_concat, repeatedDeclarations_concat, linesAt_append, ih,
        linesAt_cons_of_ne (Ne.symm loud), List.map_append, linesAt_append]
      simp only [List.not_mem_nil, false_or]
      split <;> simp

/-! ## Lines for the names of a report -/

/-- The line for a failed class. -/
def Diagnostic.line (d : Diagnostic) : LogLine := ⟨.error, d.message⟩

/-- The line for a generated class. -/
def generatedLine (name : String) : LogLine := ⟨.info, "Generated " ++ name⟩

/-- The line for a class without the method. -/
def skippedLine (method name : String) : LogLine :=
  ⟨.warn, "Skipping " ++ name ++ ": no " ++ method ++ " accessor"⟩

/-- The lines for the names of a report. -/
def Report.lines (settings : Settings) (r : Report) : LogLevel → List LogLine
  | .error => r.failures.map (·.line)
  | .warn => r.skipped.map (skippedLine settings.toStorageMethod)
  | .info => r.generated.map generatedLine
  | .debug => []

/-- Behind the lines of the opening, and apart from debug lines, a log holds the lines for the names
of the report. -/
def Tells (settings : Settings) (opening : List LogLine) (p : Progress σ) : Prop :=
  ∀ level, level ≠ .debug →
    linesAt level p.log = linesAt level opening ++ p.report.lines settings level

/-- Generating a class logs debug lines only. -/
theorem level_generationLog (settings : Settings) (s : Snapshot) (c : ModelClass) :
    ∀ l ∈ generationLog settings s c, l.level = .debug := by
  have validated : ∀ l ∈ validationLog s c, l.level = .debug := by
    intro l member
    obtain ⟨p, _, rfl⟩ := List.mem_map.1 member
    rfl
  rw [generationLog]
  split
  next =>
    refine List.forall_mem_append.2 ⟨validated, ?_⟩
    cases generate settings s c with
    | ok g => simp [synthesizedLine]
    | error failure => simp
  next => simp

section Tells

variable {settings : Settings} {s : Snapshot} {sink : Sink σ} {opening : List LogLine}
  {p : Progress σ}

theorem Tells.logged (tells : Tells settings opening p) {lines : List LogLine}
    (quiet : ∀ l ∈ lines, l.level = .debug) : Tells settings opening (p.logged lines) := by
  intro level loud
  have none : linesAt level lines = [] := linesAt_eq_nil.2 fun l member same =>
    loud (same.symm.trans (quiet l member))
  rw [Progress.logged, linesAt_append, none, List.append_nil]
  exact tells level loud

theorem Tells.generated (tells : Tells settings opening p) (name : String) :
    Tells settings opening (p.generated name) := by
  intro level loud
  simp only [Progress.generated, linesAt_append, tells level loud, List.append_assoc]
  cases level <;> simp [Report.lines, linesAt_cons, generatedLine]

theorem Tells.skipped (tells : Tells settings opening p) (name : String) :
    Tells settings opening (p.skipped name settings.toStorageMethod) := by
  intro level loud
  simp only [Progress.skipped, linesAt_append, tells level loud, List.append_assoc]
  cases level <;> simp [Report.lines, linesAt_cons, skippedLine]

theorem Tells.failed (tells : Tells settings opening p) (name : String) (failure : Failure) :
    Tells settings opening (p.failed name failure) := by
  intro level loud
  simp only [Progress.failed, linesAt_append, tells level loud, List.append_assoc]
  cases level <;> simp [Report.lines, linesAt_cons, Diagnostic.line]

theorem Tells.written (tells : Tells settings opening p) (silent : sink.Silent) (name : String)
    (g : GeneratedClass) : Tells settings opening (p.written sink name g) := by
  have called : Tells settings opening ⟨p.report, (sink.write g.artifacts p.state).state, p.log⟩ :=
    tells
  simp only [Progress.written, silent g.artifacts p.state, List.append_nil]
  cases (sink.write g.artifacts p.state).outcome with
  | error failure => exact called.failed name failure
  | ok _ => exact called.generated name

/-- **Deciding a class adds the line for its name**, if the sink logs nothing. -/
theorem Tells.decideClass (tells : Tells settings opening p) (silent : sink.Silent)
    (c : ModelClass) : Tells settings opening (p.decideClass settings s sink c) := by
  simp only [Progress.decideClass]
  split
  next => exact tells.failed _ _
  next =>
    split
    next =>
      have opened := tells.logged (level_generationLog settings s c)
      simp only [Progress.generateClass]
      cases generate settings s c with
      | ok g => exact opened.written silent c.qualifiedName g
      | error failure => exact opened.failed c.qualifiedName failure
    next => exact tells.skipped _

/-- The lines of a pass into a sink that logs nothing. -/
theorem linesAt_run (b : Batch) (silent : sink.Silent) (start : σ) {level : LogLevel}
    (loud : level ≠ .debug) :
    linesAt level (run settings b sink start).log =
      linesAt level ((repeatedDeclarations b.classes).map repeatedLine) ++
        (run settings b sink start).report.lines settings level ++
        linesAt level [(run settings b sink start).report.summaryLine] := by
  let opening := discoveryLog b ++
    [⟨.debug, "Discovered " ++ toString (discover b).size ++ " model types"⟩]
  have opened : Tells settings opening (⟨{}, start, opening⟩ : Progress σ) := by
    intro level _
    cases level <;> simp [Report.lines]
  let last := (firstDeclarations [] b.classes).foldl
    (fun p c => p.decideClass settings (discover b) sink c) (⟨{}, start, opening⟩ : Progress σ)
  have told : Tells settings opening last :=
    List.foldlRecOn _ _ opened fun _ tells c _ => tells.decideClass silent c
  have found : linesAt level opening =
      linesAt level ((repeatedDeclarations b.classes).map repeatedLine) := by
    rw [linesAt_append, linesAt_discoveryLog b loud, linesAt_cons_of_ne (Ne.symm loud),
      linesAt_nil, List.append_nil]
  rw [← found]
  change linesAt level (last.log ++ [last.report.summaryLine]) =
    linesAt level opening ++ last.report.lines settings level ++
      linesAt level [last.report.summaryLine]
  rw [linesAt_append, told level loud]

end Tells

/-! ## The whole pass -/

/-- How the lines that a pass logs itself agree with its report. -/
structure Narrates (settings : Settings) (b : Batch) (r : Report) (log : List LogLine) : Prop where
  /-- The errors are the diagnostics, in order. -/
  errors : linesAt .error log = r.failures.map fun d => ⟨.error, d.message⟩
  /-- No name fails twice, whether it fails for its declarations or for its class. -/
  once : (r.failures.map (·.owner)).Nodup
  /-- The generated names in order, and then the lengths of the three lists. -/
  informs : linesAt .info log =
    r.generated.map (fun name => ⟨.info, "Generated " ++ name⟩) ++
      [⟨.info, "Generation finished: " ++ toString r.generated.length ++ " generated, " ++
        toString r.skipped.length ++ " skipped, " ++ toString r.failures.length ++ " failed"⟩]
  /-- The repeated declarations in order, and then the skipped names in order. -/
  warns : linesAt .warn log =
    (repeatedDeclarations b.classes).map (fun c =>
      ⟨.warn, "Model " ++ c.qualifiedName ++ " is declared by more than one schema"⟩) ++
      r.skipped.map fun name =>
        ⟨.warn, "Skipping " ++ name ++ ": no " ++ settings.toStorageMethod ++ " accessor"⟩
  /-- A name has one warning less than it has declarations. -/
  repeats : ∀ name, (declarations (repeatedDeclarations b.classes) name).length =
    (declarations b.classes name).length - 1

theorem narrates_run (settings : Settings) (b : Batch) {sink : Sink σ} (silent : sink.Silent)
    (start : σ) :
    Narrates settings b (run settings b sink start).report (run settings b sink start).log := by
  have repeated : ∀ level, linesAt level ((repeatedDeclarations b.classes).map repeatedLine) =
      if level = .warn then (repeatedDeclarations b.classes).map repeatedLine else [] :=
    fun level => linesAt_map (f := repeatedLine) (fun _ => rfl) _
  have distinct := (names_run settings b sink start).nodup_iff.2 (nodup_eraseDups _)
  constructor
  case errors =>
    rw [linesAt_run b silent start (by decide), repeated, if_neg (by decide), List.nil_append]
    exact List.append_nil _
  case once => exact (List.nodup_append.1 distinct).2.1
  case informs =>
    rw [linesAt_run b silent start (by decide), repeated, if_neg (by decide), List.nil_append]
    rfl
  case warns =>
    rw [linesAt_run b silent start (by decide), repeated, if_pos rfl]
    exact List.append_nil _
  case repeats => exact length_repeatedDeclarations b.classes

/-- **The log of a pass tells what its report says.** The lines of the pass itself are those that it
logs when the sink keeps its own lines apart, which changes neither the report nor the state. The
full log is made of these lines and those of the sink, and at a level at which the sink is silent it
holds the lines of the pass only. -/
theorem run_narrated (settings : Settings) (b : Batch) (sink : Sink σ) (start : σ) :
    let p := run settings b sink start
    let q := run settings b sink.apart (start, [])
    (q.report = p.report ∧ q.state.1 = p.state ∧ Interleaved q.log q.state.2 p.log) ∧
      Narrates settings b p.report q.log ∧
      ∀ level, sink.SilentAt level → linesAt level p.log = linesAt level q.log := by
  intro p q
  have apart := setApart_run settings b sink start
  refine ⟨⟨apart.report, apart.state, apart.log⟩, ?_, fun level silent => ?_⟩
  · rw [← apart.report]
    exact narrates_run settings b sink.silent_apart (start, [])
  · exact (apart.log.filter _).eq_of_right_eq_nil (apart.silent level silent)

/-- The memory store with a warning before every call. -/
def warningSink : Sink MemoryStore where
  write artifacts m :=
    { MemoryStore.sink.write artifacts m with log := [⟨.warn, "Writing files"⟩] }

/-- The sink warns twice and the pass warns twice, of the second twin and of the draft. The one
error is that of the pass. -/
theorem mixedBatch_narrated :
    warningSink.SilentAt .error ∧
      linesAt .error (run {} mixedBatch warningSink .empty).log =
        linesAt .error (run {} mixedBatch warningSink.apart (.empty, [])).log ∧
      (run {} mixedBatch warningSink .empty).report =
        ⟨["shop.Order", "shop.Secret"], ["shop.Draft"],
          [⟨"shop.Twin", .configuration (.declaredTwice "shop.Twin")⟩]⟩ ∧
      linesAt .warn (run {} mixedBatch warningSink.apart (.empty, [])).log =
        [⟨.warn, "Model shop.Twin is declared by more than one schema"⟩,
          ⟨.warn, "Skipping shop.Draft: no toRealmObject accessor"⟩] ∧
      (linesAt .warn (run {} mixedBatch warningSink .empty).log).length = 4 := by
  have silent : warningSink.SilentAt .error := fun _ _ => rfl
  have told := run_narrated {} mixedBatch warningSink .empty
  exact ⟨silent, told.2.2 .error silent, by decide +kernel, by decide +kernel, by decide +kernel⟩

end RecordSynthesis
