import RecordSynthesis.Pass.Log
import RecordSynthesis.Store.Sink

/-!
# Generation passes

A pass discovers all models of a batch first, and then generates the classes one by one against
the snapshot. Every qualified name has one outcome, which is decided at the first class of that
name: generated, skipped or failed. A failed class never stops the others.
-/

set_option autoImplicit false

namespace RecordSynthesis

/-- The outcomes of a pass by qualified name, in order of declaration. -/
structure Report where
  generated : List String := []
  /-- The classes without trigger. -/
  skipped : List String := []
  failures : List Diagnostic := []
  deriving DecidableEq, Inhabited

/-- Whether no class failed. -/
def Report.isSuccess (r : Report) : Bool := r.failures.isEmpty

/-- The first class of every qualified name, apart from the given names. -/
def firstDeclarations (seen : List String) : List ModelClass → List ModelClass
  | [] => []
  | c :: rest =>
    if c.qualifiedName ∈ seen then firstDeclarations seen rest
    else c :: firstDeclarations (c.qualifiedName :: seen) rest

/-- A pass under way: the outcomes so far, the state of the sink, and the log. -/
structure Progress (σ : Type) where
  report : Report
  state : σ
  log : List LogLine

namespace Progress

variable {σ : Type}

/-- Adds lines to the log. -/
def logged (p : Progress σ) (lines : List LogLine) : Progress σ :=
  { p with log := p.log ++ lines }

/-- Counts a class as generated. -/
def generated (p : Progress σ) (name : String) : Progress σ :=
  { p with
    report := { p.report with generated := p.report.generated ++ [name] }
    log := p.log ++ [⟨.info, "Generated " ++ name⟩] }

/-- Counts a class as skipped for lack of the method. -/
def skipped (p : Progress σ) (name method : String) : Progress σ :=
  { p with
    report := { p.report with skipped := p.report.skipped ++ [name] }
    log := p.log ++ [⟨.warn, "Skipping " ++ name ++ ": no " ++ method ++ " accessor"⟩] }

/-- Counts a class as failed. -/
def failed (p : Progress σ) (name : String) (failure : Failure) : Progress σ :=
  let diagnostic : Diagnostic := ⟨name, failure⟩
  { p with
    report := { p.report with failures := p.report.failures ++ [diagnostic] }
    log := p.log ++ [⟨.error, diagnostic.message⟩] }

/-- Hands the files of a class to the sink. -/
def written (p : Progress σ) (sink : Sink σ) (name : String) (g : GeneratedClass) : Progress σ :=
  let result := sink.write g.artifacts p.state
  let p : Progress σ := ⟨p.report, result.state, p.log ++ result.log⟩
  match result.outcome with
  | .ok _ => p.generated name
  | .error failure => p.failed name failure

/-- Generates an applicable class that alone has its name. -/
def generateClass (p : Progress σ) (settings : Settings) (s : Snapshot) (sink : Sink σ)
    (c : ModelClass) : Progress σ :=
  let p := p.logged (generationLog settings s c)
  match generate settings s c with
  | .ok g => p.written sink c.qualifiedName g
  | .error failure => p.failed c.qualifiedName failure

/-- Decides the outcome of a qualified name at its first class. -/
def decideClass (p : Progress σ) (settings : Settings) (s : Snapshot) (sink : Sink σ)
    (c : ModelClass) : Progress σ :=
  let name := c.qualifiedName
  if s.isAmbiguous name then p.failed name (.configuration (.declaredTwice name))
  else if c.isApplicable then p.generateClass settings s sink c
  else p.skipped name settings.toStorageMethod

end Progress

/-- The line that sums up a pass. -/
def Report.summaryLine (r : Report) : LogLine :=
  ⟨.info, "Generation finished: " ++ toString r.generated.length ++ " generated, " ++
    toString r.skipped.length ++ " skipped, " ++ toString r.failures.length ++ " failed"⟩

/-- Generates all classes of a batch into a sink. -/
def run {σ : Type} (settings : Settings) (b : Batch) (sink : Sink σ) (state : σ) : Progress σ :=
  let s := Snapshot.discover b
  let opening := discoveryLog b ++
    [⟨.debug, "Discovered " ++ toString s.size ++ " model types"⟩]
  let start : Progress σ := ⟨{}, state, opening⟩
  let final := (firstDeclarations [] b.classes).foldl
    (fun (p : Progress σ) c => p.decideClass settings s sink c) start
  final.logged [final.report.summaryLine]

end RecordSynthesis
