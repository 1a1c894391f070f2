/-!
# Sets of code points as runs

A character property is a list of runs. A run holds every `step`-th code point from its first to
its last, so that the alternating capital and small letters of an alphabet form one run. A case
mapping is a list of runs with the distance that each member moves.
-/

set_option autoImplicit false

namespace RecordSynthesis.Text

/-- Every `step`-th code point from `first` to `last`. -/
structure CodeRun where
  first : Nat
  last : Nat
  step : Nat

/-- Whether a code point belongs to the run. -/
def CodeRun.contains (r : CodeRun) (n : Nat) : Bool :=
  decide (r.first ≤ n) && decide (n ≤ r.last) && decide ((n - r.first) % r.step = 0)

/-- Whether the character's code point belongs to one of the runs. -/
def inRuns (runs : List CodeRun) (c : Char) : Bool := runs.any (·.contains c.toNat)

/-- A run whose members all move by the same distance. -/
structure CodeShift where
  run : CodeRun
  distance : Int

/-- The form of a character under a case mapping: its expansion if it has one, else the character
at the distance of its run, else the character itself. -/
def caseForm (shifts : List CodeShift) (expansions : List (Nat × List Nat)) (c : Char) :
    List Char :=
  match expansions.lookup c.toNat with
  | some codes => codes.map Char.ofNat
  | none =>
    match shifts.find? (·.run.contains c.toNat) with
    | some shift => [Char.ofNat (c.toNat + shift.distance).toNat]
    | none => [c]

end RecordSynthesis.Text
