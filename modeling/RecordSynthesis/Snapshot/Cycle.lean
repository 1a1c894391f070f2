import RecordSynthesis.Snapshot.Basic

/-!
# Cycles of references

A depth-first search for the first cycle that can be reached from a model. The search keeps the
path from its start and the names that it has finished, below which there is no cycle; a finished
name is not searched again. A path repeats no name and only known models have references, so the
depth of the search is at most the number of known models, which `findCycle?` grants.
-/

set_option autoImplicit false

namespace RecordSynthesis

/-- The path from its first occurrence of a name on, closed with that name. -/
def closedAt (name : String) (path : List String) : List String :=
  path.dropWhile (· ≠ name) ++ [name]

/-- Searches below a name to a given depth. The result is the first cycle met, or the finished
names when there is none. -/
def searchCycle (references : String → List String) :
    Nat → List String → List String → String → Except (List String) (List String)
  | 0, _, finished, _ => .ok finished
  | depth + 1, path, finished, name =>
    if name ∈ path then .error (closedAt name path)
    else if name ∈ finished then .ok finished
    else do
      let finished ← (references name).foldlM
        (searchCycle references depth (path ++ [name])) finished
      return name :: finished

/-- The first cycle that can be reached from a name, with the repeated name at both ends. -/
def Snapshot.findCycle? (s : Snapshot) (start : String) : Option (List String) :=
  match searchCycle s.references (s.size + 1) [] [] start with
  | .error cycle => some cycle
  | .ok _ => none

end RecordSynthesis
