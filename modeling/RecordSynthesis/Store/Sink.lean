import RecordSynthesis.Failure
import RecordSynthesis.Journal
import RecordSynthesis.Store.Artifact

/-!
# Sinks

A sink takes all artifacts of one class in one call. It works on a state of its own, and a call
may fail; what the state is after a failed call is the sink's affair.
-/

set_option autoImplicit false

namespace RecordSynthesis

/-- What a call leaves behind. -/
structure WriteResult (σ : Type) where
  state : σ
  log : List LogLine := []
  outcome : Except Failure Unit

/-- A destination of artifacts over states `σ`. -/
structure Sink (σ : Type) where
  write : List Artifact → σ → WriteResult σ

/-- A sink that turns down every call with an artifact of one of the given qualified names and
leaves its state alone then. -/
def Sink.refusing {σ : Type} (names : List String) (sink : Sink σ) : Sink σ where
  write artifacts state :=
    match artifacts.find? fun a => a.qualifiedName ∈ names with
    | some a =>
      { state
        outcome := .error (.configuration (.stated ("sink refused " ++ a.qualifiedName))) }
    | none => sink.write artifacts state

end RecordSynthesis
