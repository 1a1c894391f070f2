import RecordSynthesis.Proofs.FileTrees
import RecordSynthesis.Proofs.NestedPaths

/-!
# Places below places

Components that neither begin at the root nor lead upwards lead downwards, name by name
(`FileTree.foldl_advance`). So a relative path that never leads upwards leads below the place of
the path that it stands below (`FileTree.locate_push`).
-/

set_option autoImplicit false

namespace RecordSynthesis

/-- The name that a component adds to a location. -/
def PathComponent.name? : PathComponent → Option String
  | name text => some text
  | _ => none

theorem PathComponent.filterMap_name? (names : List String) :
    (names.map name).filterMap name? = names := by
  rw [List.filterMap_map]
  exact List.filterMap_some

namespace FileTree

variable {path more : String} {steps : List PathComponent}

/-- Components that lead downwards add their names. -/
theorem foldl_advance {cs : List PathComponent} (inside : .root ∉ cs) (level : .parent ∉ cs)
    (l : Location) : cs.foldl advance l = l ++ cs.filterMap PathComponent.name? := by
  induction cs generalizing l with
  | nil => exact (List.append_nil l).symm
  | cons c cs ih =>
      rw [List.mem_cons, not_or] at inside level
      rw [List.foldl_cons, ih inside.2 level.2]
      cases c with
      | root => exact (inside.1 rfl).elim
      | here => rfl
      | parent => exact (level.1 rfl).elim
      | name n =>
          rw [advance, List.append_assoc]
          rfl

/-- A place is made of names of the place where the way begins and of names on the way. -/
theorem mem_foldl_advance {cs : List PathComponent} {l : Location} {n : String}
    (member : n ∈ cs.foldl advance l) : n ∈ l ∨ .name n ∈ cs := by
  induction cs generalizing l with
  | nil => exact .inl member
  | cons c cs ih =>
      rcases ih member with here | behind
      · cases c with
        | root => cases here
        | here => exact .inl here
        | parent => exact .inl ((List.dropLast_sublist l).subset here)
        | name m =>
            rcases List.mem_append.1 here with here | last
            · exact .inl here
            · rw [List.mem_singleton.1 last]
              exact .inr List.mem_cons_self
      · exact .inr (List.mem_cons_of_mem _ behind)

/-- On the way along a path that never leads upwards, places are told apart by their names. -/
theorem foldl_advance_origin (t : FileTree) (level : .parent ∉ Path.components path)
    (front : steps <+: Path.components path) :
    steps.foldl advance (t.origin path) =
      t.origin path ++ steps.filterMap PathComponent.name? := by
  have level' : .parent ∉ steps := fun member => level (front.subset member)
  by_cases absolute : Path.isAbsolute path = true
  · -- The walk begins at the root already, so the first component leads nowhere else.
    rw [Path.components_eq, Path.lead, if_pos absolute] at front
    rw [origin, if_pos absolute]
    rcases steps with _ | ⟨c, steps⟩
    · rfl
    · obtain ⟨rfl, behind⟩ := List.cons_prefix_cons.1 front
      rw [List.mem_cons, not_or] at level'
      exact foldl_advance (fun member => Path.root_not_mem_inner (behind.subset member)) level'.2 []
  · refine foldl_advance (fun member => absolute ?_) level' _
    exact Path.root_mem_components.1 (front.subset member)

theorem origin_push (t : FileTree) (relative : Path.isAbsolute more = false) :
    t.origin (Path.push path more) = t.origin path := by
  by_cases empty : path = ""
  · rw [empty, Path.push_empty, origin, origin, relative]
    rfl
  · have same : Path.isAbsolute (Path.push path more) = Path.isAbsolute path := by
      rw [Bool.eq_iff_iff, ← Path.root_mem_components, ← Path.root_mem_components,
        Path.components_push relative empty, List.mem_append, or_iff_left Path.root_not_mem_inner]
    rw [origin, origin, same]

/-- **A relative path that never leads upwards** leads below the place of the path above it. -/
theorem locate_push (t : FileTree) (relative : Path.isAbsolute more = false)
    (level : .parent ∉ Path.components more) :
    t.locate (Path.push path more) =
      t.locate path ++ (Path.inner more).filterMap PathComponent.name? := by
  have level' : .parent ∉ Path.inner more := by
    rw [Path.components_eq, List.mem_append, not_or] at level
    exact level.2
  have inside : .root ∉ Path.inner more := Path.root_not_mem_inner
  have below (l : Location) := foldl_advance inside level' l
  rw [locate, locate, origin_push t relative]
  by_cases empty : path = ""
  · have idle (l : Location) : (Path.lead more).foldl advance l = l := by
      rw [Path.lead, relative, if_neg Bool.false_ne_true]
      split <;> rfl
    rw [empty, Path.push_empty, Path.components_eq, List.foldl_append, idle, below]
    rfl
  · rw [Path.components_push relative empty, List.foldl_append, below]

end FileTree
end RecordSynthesis
