import RecordSynthesis.Proofs.Paths
import RecordSynthesis.Store.FileTree

/-!
# Places and growth of file trees

A path is followed step by step, and as long as no step fails the place where it leads depends on
its components and its origin alone (`FileTree.locate`). What an operation does to a tree is said
through two questions: which content stands at a location (`FileTree.file?`), and whether a
directory stands there.

Making directories lets a tree grow: it puts directories where nothing stood, on the way that was
followed, and changes nothing else (`FileTree.grown_createDirectories`).
-/

set_option autoImplicit false

namespace RecordSynthesis

/-- The content of a file. A directory has none. -/
def Entry.content? : Entry → Option ByteArray
  | directory => none
  | file content => some content

namespace FileTree

variable {t t' t'' : FileTree} {l m : Location} {e : Entry} {path : String}

/-! ## Places -/

/-- Where a step from a location leads when it is possible. -/
def advance (l : Location) : PathComponent → Location
  | .root => []
  | .here => l
  | .parent => l.dropLast
  | .name n => l ++ [n]

/-- Where a path leads when every step of it is possible. -/
def locate (t : FileTree) (path : String) : Location :=
  (Path.components path).foldl advance (t.origin path)

/-- The place is reached on the way to the directory around a path, or is this directory. -/
def OnWay (t : FileTree) (path : String) (l : Location) : Prop :=
  ∃ steps, steps <+: Path.components (Path.parent path) ∧ l = steps.foldl advance (t.origin path)

theorem eq_advance_of_step {c : PathComponent} {next : Location} (done : t.step l c = .ok next) :
    next = advance l c := by
  unfold step at done
  split at done
  · cases done
  · cases done
  · cases c with
    | root => cases done; rfl
    | here => cases done; rfl
    | parent => cases done; rfl
    | name n =>
        dsimp only at done
        split at done
        · cases done
          rfl
        · cases done

theorem origin_parent (t : FileTree) (path : String) :
    t.origin (Path.parent path) = t.origin path := by
  rw [origin, origin, Path.isAbsolute_parent]

/-- A path that ends with a name leads to this name in the place of its parent. -/
theorem locate_eq {n : String} (last : (Path.components path).getLast? = some (.name n)) :
    t.locate path =
      (Path.components (Path.parent path)).foldl advance (t.origin path) ++ [n] := by
  obtain ⟨steps, all⟩ := List.getLast?_eq_some_iff.1 last
  rw [locate, Path.components_parent last, all, List.dropLast_concat, List.foldl_concat]
  rfl

/-! ## Contents and directories -/

/-- The content of the file at a location. -/
def file? (t : FileTree) (l : Location) : Option ByteArray := (t.lookup l).bind Entry.content?

theorem file?_eq_some {content : ByteArray} :
    t.file? l = some content ↔ t.lookup l = some (.file content) := by
  rw [file?, Option.bind_eq_some_iff]
  constructor
  · rintro ⟨e, found, same⟩
    cases e with
    | directory => cases same
    | file other =>
        cases same
        exact found
  · intro found
    exact ⟨_, found, rfl⟩

theorem ne_nil_of_isDirectory_eq_false (free : t.isDirectory l = false) : l ≠ [] := by
  rintro rfl
  cases free

theorem ne_nil_of_file {content : ByteArray} (there : t.lookup l = some (.file content)) :
    l ≠ [] := by
  rintro rfl
  cases there

theorem ne_nil_of_lookup_eq_none (free : t.lookup l = none) : l ≠ [] := by
  rintro rfl
  cases free

theorem lookup_put (inside : l ≠ []) (e : Entry) (m : Location) :
    (t.put l e).lookup m = if l = m then some e else t.lookup m := by
  rw [lookup, put, Dictionary.find?_insert, lookup]
  by_cases top : m = []
  · rw [if_pos top, if_pos top, if_neg fun same => inside (same.trans top)]
  · rw [if_neg top, if_neg top]

theorem lookup_remove (inside : l ≠ []) (m : Location) :
    (t.remove l).lookup m = if l = m then none else t.lookup m := by
  rw [lookup, remove, Dictionary.find?_erase, lookup]
  by_cases top : m = []
  · rw [if_pos top, if_pos top, if_neg fun same => inside (same.trans top)]
  · rw [if_neg top, if_neg top]

theorem file?_put (inside : l ≠ []) (e : Entry) (m : Location) :
    (t.put l e).file? m = if l = m then e.content? else t.file? m := by
  rw [file?, lookup_put inside, apply_ite (Option.bind · Entry.content?)]
  rfl

theorem isDirectory_put (inside : l ≠ []) (e : Entry) (m : Location) :
    (t.put l e).isDirectory m = if l = m then e.isDirectory else t.isDirectory m := by
  rw [isDirectory, lookup_put inside, apply_ite (Option.any Entry.isDirectory)]
  rfl

/-- A file put where no directory stands leaves all directories. -/
theorem isDirectory_put_file (free : t.isDirectory l = false) (content : ByteArray) (m : Location) :
    (t.put l (.file content)).isDirectory m = t.isDirectory m := by
  rw [isDirectory_put (ne_nil_of_isDirectory_eq_false free)]
  split
  next same =>
    rw [← same, free]
    rfl
  next => rfl

/-! ## Removing files -/

/-- The tree after an attempt to remove a file. -/
def cleared (t : FileTree) (l : Location) : FileTree :=
  match t.removeFile l with
  | .ok t' => t'
  | .error _ => t

theorem cleared_of_file {content : ByteArray} (found : t.lookup l = some (.file content)) :
    t.cleared l = t.remove l := by
  rw [cleared, removeFile, found]

/-- Nothing but a file is removed. -/
theorem cleared_of_file?_eq_none (free : t.file? l = none) : t.cleared l = t := by
  rw [cleared, removeFile]
  cases found : t.lookup l with
  | none => rfl
  | some e =>
      cases e with
      | directory => rfl
      | file content =>
          rw [file?, found] at free
          cases free

/-- Removing a file takes away what stands there and nothing else. -/
theorem lookup_cleared (t : FileTree) (l m : Location) :
    (t.cleared l).lookup m = if l = m ∧ t.file? l ≠ none then none else t.lookup m := by
  cases found : t.file? l with
  | none => rw [cleared_of_file?_eq_none found, if_neg (by simp)]
  | some content =>
      have there := file?_eq_some.1 found
      rw [cleared_of_file there, lookup_remove (ne_nil_of_file there)]
      exact if_congr (by simp) rfl rfl

theorem workingDirectory_cleared (t : FileTree) (l : Location) :
    (t.cleared l).workingDirectory = t.workingDirectory := by
  cases found : t.file? l with
  | none => rw [cleared_of_file?_eq_none found]
  | some content =>
      rw [cleared_of_file (file?_eq_some.1 found)]
      rfl

/-- After an attempt to remove a file none stands there. -/
theorem file?_cleared (t : FileTree) (l m : Location) :
    (t.cleared l).file? m = if l = m then none else t.file? m := by
  cases found : t.file? l with
  | none =>
      rw [cleared_of_file?_eq_none found]
      split
      next same => rw [← same, found]
      next => rfl
  | some content =>
      have there := file?_eq_some.1 found
      rw [cleared_of_file there, file?, lookup_remove (ne_nil_of_file there),
        apply_ite (Option.bind · Entry.content?)]
      rfl

theorem isDirectory_cleared (t : FileTree) (l m : Location) :
    (t.cleared l).isDirectory m = t.isDirectory m := by
  cases found : t.file? l with
  | none => rw [cleared_of_file?_eq_none found]
  | some content =>
      have there := file?_eq_some.1 found
      rw [cleared_of_file there, isDirectory, lookup_remove (ne_nil_of_file there)]
      split
      next same =>
        rw [← same, isDirectory, there]
        rfl
      next => rfl

/-! ## Growth -/

/-- The second tree has new directories, all at places of the given kind where nothing stood, and is
otherwise the first one. -/
structure Grown (t t' : FileTree) (fresh : Location → Prop) : Prop where
  workingDirectory : t'.workingDirectory = t.workingDirectory
  lookup : ∀ l, t'.lookup l = t.lookup l ∨
    t.lookup l = none ∧ t'.lookup l = some .directory ∧ fresh l

namespace Grown

variable {P Q : Location → Prop}

theorem refl (t : FileTree) (P : Location → Prop) : Grown t t P := ⟨rfl, fun _ => .inl rfl⟩

theorem mono (grown : Grown t t' P) (weaker : ∀ l, P l → Q l) : Grown t t' Q where
  workingDirectory := grown.workingDirectory
  lookup l := (grown.lookup l).imp_right fun ⟨free, made, fresh⟩ => ⟨free, made, weaker l fresh⟩

theorem trans (first : Grown t t' P) (second : Grown t' t'' P) : Grown t t'' P where
  workingDirectory := second.workingDirectory.trans first.workingDirectory
  lookup l := by
    rcases second.lookup l with same | ⟨free, made, fresh⟩
    · rw [same]
      exact first.lookup l
    · rcases first.lookup l with same | ⟨_, made', _⟩
      · exact .inr ⟨same ▸ free, made, fresh⟩
      · rw [made'] at free
        cases free

theorem put (free : t.lookup l = none) (fresh : P l) : Grown t (t.put l .directory) P where
  workingDirectory := rfl
  lookup m := by
    rw [lookup_put (ne_nil_of_lookup_eq_none free)]
    split
    next same =>
      subst same
      exact .inr ⟨free, rfl, fresh⟩
    next => exact .inl rfl

/-- Nothing grows at other places. -/
theorem lookup_eq_none (grown : Grown t t' P) (free : t.lookup l = none) (apart : ¬ P l) :
    t'.lookup l = none := by
  rcases grown.lookup l with same | ⟨_, _, fresh⟩
  · rw [same, free]
  · exact (apart fresh).elim

/-- Growth touches no file. -/
theorem file?_eq (grown : Grown t t' P) (l : Location) : t'.file? l = t.file? l := by
  rw [file?, file?]
  rcases grown.lookup l with same | ⟨free, made, _⟩
  · rw [same]
  · rw [free, made]
    rfl

theorem isDirectory (grown : Grown t t' P) (there : t.isDirectory l) : t'.isDirectory l := by
  rcases grown.lookup l with same | ⟨free, _, _⟩
  · rwa [FileTree.isDirectory, same]
  · rw [FileTree.isDirectory, free] at there
    cases there

theorem working (grown : Grown t t' P) (working : t.isDirectory t.workingDirectory) :
    t'.isDirectory t'.workingDirectory := by
  rw [grown.workingDirectory]
  exact grown.isDirectory working

theorem of_isDirectory (grown : Grown t t' P) (there : t'.isDirectory l) :
    t.isDirectory l ∨ t.lookup l = none ∧ P l := by
  rcases grown.lookup l with same | ⟨free, _, fresh⟩
  · rw [FileTree.isDirectory, same] at there
    exact .inl there
  · exact .inr ⟨free, fresh⟩

theorem origin_eq (grown : Grown t t' P) (path : String) : t'.origin path = t.origin path := by
  rw [origin, origin, grown.workingDirectory]

theorem locate_eq (grown : Grown t t' P) (path : String) : t'.locate path = t.locate path := by
  rw [locate, locate, grown.origin_eq]

theorem onWay_iff (grown : Grown t t' P) : t'.OnWay path l ↔ t.OnWay path l := by
  rw [OnWay, OnWay, grown.origin_eq]

end Grown

/-! ## Making directories -/

/-- Directories are made only where the steps lead, and the outcome is the last of these places. -/
theorem grown_createAlong (t : FileTree) (missing : Bool) (l : Location) (cs : List PathComponent) :
    Grown t (t.createAlong missing l cs).tree
        (fun m => ∃ steps, steps <+: cs ∧ m = steps.foldl advance l) ∧
      ∀ last, (t.createAlong missing l cs).outcome = .ok last → last = cs.foldl advance l := by
  induction cs generalizing t missing l with
  | nil =>
      refine ⟨.refl t _, ?_⟩
      rintro _ ⟨⟩
      rfl
  | cons c cs ih =>
      have behind (m : Location) :
          (∃ steps, steps <+: cs ∧ m = steps.foldl advance (advance l c)) →
            ∃ steps, steps <+: c :: cs ∧ m = steps.foldl advance l := by
        rintro ⟨steps, front, rfl⟩
        exact ⟨c :: steps, List.cons_prefix_cons.2 ⟨rfl, front⟩, rfl⟩
      rw [createAlong]
      cases stepped : t.step l c with
      | error e => exact ⟨.refl t _, nofun⟩
      | ok next =>
          obtain rfl := eq_advance_of_step stepped
          dsimp only
          split
          next =>
            obtain ⟨grown, last⟩ := ih t missing (advance l c)
            exact ⟨grown.mono behind, last⟩
          next => exact ⟨.refl t _, nofun⟩
          next free =>
            obtain ⟨grown, last⟩ := ih (t.put (advance l c) .directory) true (advance l c)
            have made : Grown t (t.put (advance l c) .directory)
                (fun m => ∃ steps, steps <+: c :: cs ∧ m = steps.foldl advance l) :=
              .put free ⟨[c], List.cons_prefix_cons.2 ⟨rfl, List.nil_prefix⟩, rfl⟩
            exact ⟨made.trans (grown.mono behind), last⟩

/-- **Making the directory around a path** makes directories on the way to it and touches nothing
else. -/
theorem grown_createDirectories (t : FileTree) (path : String) :
    Grown t (t.createDirectories (Path.parent path)).tree (t.OnWay path) ∧
      ∀ last, (t.createDirectories (Path.parent path)).outcome = .ok last →
        last = (Path.components (Path.parent path)).foldl advance (t.origin path) := by
  rw [createDirectories]
  split
  · exact ⟨.refl t _, nofun⟩
  · have along := grown_createAlong t false (t.origin path) (Path.components (Path.parent path))
    rw [origin_parent]
    exact along

/-! ## When directories can be made -/

/-- Names fit along components, and no file stands at a place on the way. -/
def Passable (t : FileTree) (l : Location) (cs : List PathComponent) : Prop :=
  (∀ n, .name n ∈ cs → Path.nameFits n = true) ∧
    ∀ steps, steps <+: cs → t.file? (steps.foldl advance l) = none

theorem isDirectory_iff : t.isDirectory l = true ↔ t.lookup l = some .directory := by
  rw [isDirectory, Option.any_eq_true]
  constructor
  · rintro ⟨e, found, directory⟩
    cases e with
    | directory => exact found
    | file content => cases directory
  · intro found
    exact ⟨.directory, found, rfl⟩

theorem file?_eq_none_of_isDirectory (there : t.isDirectory l = true) : t.file? l = none := by
  rw [file?, isDirectory_iff.1 there]
  rfl

theorem isDirectory_origin (working : t.isDirectory t.workingDirectory = true) (path : String) :
    t.isDirectory (t.origin path) = true := by
  rw [origin]
  split
  next => rfl
  next => exact working

/-- From a directory only a name that is too long stops a step. -/
theorem step_eq_ok {c : PathComponent} {next : Location} (there : t.isDirectory l = true) :
    t.step l c = .ok next ↔ (∀ n, c = .name n → Path.nameFits n = true) ∧ next = advance l c := by
  unfold step
  rw [isDirectory_iff.1 there]
  have free (place : Location) : (Except.ok place : Except SystemError Location) = .ok next ↔
      next = place := by rw [Except.ok.injEq, eq_comm]
  cases c with
  | root => simp [advance, free]
  | here => simp [advance, free]
  | parent => simp [advance, free]
  | name n => by_cases fits : Path.nameFits n = true <;> simp [advance, free, fits]

theorem passable_cons {c : PathComponent} {cs : List PathComponent} :
    t.Passable l (c :: cs) ↔ (∀ n, c = .name n → Path.nameFits n = true) ∧ t.file? l = none ∧
      t.Passable (advance l c) cs := by
  constructor
  · rintro ⟨fits, free⟩
    refine ⟨fun n same => fits n (same ▸ List.mem_cons_self), free [] List.nil_prefix,
      fun n member => fits n (List.mem_cons_of_mem _ member), fun steps front => ?_⟩
    exact free (c :: steps) (List.cons_prefix_cons.2 ⟨rfl, front⟩)
  · rintro ⟨fits, here, fits', free⟩
    refine ⟨fun n member => ?_, fun steps front => ?_⟩
    · rcases List.mem_cons.1 member with same | member
      · exact fits n same.symm
      · exact fits' n member
    · rcases steps with _ | ⟨first, steps⟩
      · exact here
      · obtain ⟨rfl, behind⟩ := List.cons_prefix_cons.1 front
        exact free steps behind

theorem Grown.passable_iff {P : Location → Prop} (grown : Grown t t' P)
    {cs : List PathComponent} : t'.Passable l cs ↔ t.Passable l cs := by
  simp only [Passable, grown.file?_eq]

/-- **Directories can be made along components** exactly when every name fits and no file is in the
way. -/
theorem createAlong_eq_ok (there : t.isDirectory l = true) {missing : Bool}
    {cs : List PathComponent} :
    (∃ last, (t.createAlong missing l cs).outcome = .ok last) ↔ t.Passable l cs := by
  induction cs generalizing t missing l with
  | nil =>
      refine ⟨fun _ => ⟨nofun, fun steps front => ?_⟩, fun _ => ⟨l, rfl⟩⟩
      rw [List.prefix_nil.1 front]
      exact file?_eq_none_of_isDirectory there
  | cons c cs ih =>
      have behind := file?_eq_none_of_isDirectory there
      rw [createAlong, passable_cons]
      cases stepped : t.step l c with
      | error e =>
          refine ⟨nofun, fun ⟨fits, _⟩ => ?_⟩
          rw [(step_eq_ok there).2 ⟨fits, rfl⟩] at stepped
          cases stepped
      | ok next =>
          obtain ⟨fits, rfl⟩ := (step_eq_ok there).1 stepped
          dsimp only
          split
          next found =>
            rw [ih (isDirectory_iff.2 found)]
            exact ⟨fun passable => ⟨fits, behind, passable⟩, fun ⟨_, _, passable⟩ => passable⟩
          next content found =>
            refine ⟨nofun, fun ⟨_, _, _, free⟩ => ?_⟩
            have here : t.file? (advance l c) = none := free [] List.nil_prefix
            rw [file?_eq_some.2 found] at here
            cases here
          next free =>
            have made : (t.put (advance l c) .directory).isDirectory (advance l c) = true := by
              rw [isDirectory_put (ne_nil_of_lookup_eq_none free), if_pos rfl]
              rfl
            have grown : Grown t (t.put (advance l c) .directory) fun _ => True :=
              .put free trivial
            rw [ih made, grown.passable_iff]
            exact ⟨fun passable => ⟨fits, behind, passable⟩, fun ⟨_, _, passable⟩ => passable⟩

/-- Afterwards a directory stands at every place on the way. -/
theorem isDirectory_createAlong (there : t.isDirectory l = true) {missing : Bool}
    {cs : List PathComponent} {last : Location}
    (done : (t.createAlong missing l cs).outcome = .ok last) {steps : List PathComponent}
    (front : steps <+: cs) :
    (t.createAlong missing l cs).tree.isDirectory (steps.foldl advance l) = true := by
  have grown := (grown_createAlong t missing l cs).1
  induction cs generalizing t missing l steps with
  | nil =>
      rw [List.prefix_nil.1 front]
      exact there
  | cons c cs ih =>
      rcases steps with _ | ⟨first, steps⟩
      · exact grown.isDirectory there
      · obtain ⟨rfl, behind⟩ := List.cons_prefix_cons.1 front
        rw [createAlong] at done ⊢
        cases stepped : t.step l first with
        | error e =>
            rw [stepped] at done
            cases done
        | ok next =>
            obtain ⟨_, rfl⟩ := (step_eq_ok there).1 stepped
            rw [stepped] at done
            dsimp only at done ⊢
            cases found : t.lookup (advance l first) with
            | none =>
                rw [found] at done
                refine ih ?_ done behind (grown_createAlong ..).1
                rw [isDirectory_put (ne_nil_of_lookup_eq_none found), if_pos rfl]
                rfl
            | some e =>
                rw [found] at done
                cases e with
                | directory =>
                    exact ih (isDirectory_iff.2 found) done behind (grown_createAlong ..).1
                | file content => cases done

/-- **The directory around a path can be made** exactly when the path is one for the file system,
its names fit and no file is on the way. -/
theorem createDirectories_eq_ok (working : t.isDirectory t.workingDirectory = true)
    (path : String) :
    (∃ last, (t.createDirectories (Path.parent path)).outcome = .ok last) ↔
      checkPath (Path.parent path) = .ok () ∧
        (∀ n, .name n ∈ Path.components (Path.parent path) → Path.nameFits n = true) ∧
        ∀ l, t.OnWay path l → t.file? l = none := by
  rw [createDirectories, origin_parent]
  cases checkPath (Path.parent path) with
  | error e => exact ⟨nofun, fun ⟨fine, _⟩ => nomatch fine⟩
  | ok _ =>
      dsimp only
      rw [createAlong_eq_ok (isDirectory_origin working path), Passable]
      refine ⟨fun ⟨fits, free⟩ => ⟨rfl, fits, ?_⟩, fun ⟨_, fits, free⟩ => ⟨fits, ?_⟩⟩
      · rintro l ⟨steps, front, rfl⟩
        exact free steps front
      · intro steps front
        exact free _ ⟨steps, front, rfl⟩

/-- Afterwards a directory stands at every place on the way to the path. -/
theorem isDirectory_createDirectories (working : t.isDirectory t.workingDirectory = true)
    {last : Location} (done : (t.createDirectories (Path.parent path)).outcome = .ok last)
    (way : t.OnWay path l) :
    (t.createDirectories (Path.parent path)).tree.isDirectory l = true := by
  obtain ⟨steps, front, rfl⟩ := way
  rw [createDirectories, origin_parent] at done ⊢
  cases fine : checkPath (Path.parent path) with
  | error e =>
      rw [fine] at done
      cases done
  | ok _ =>
      rw [fine] at done
      exact isDirectory_createAlong (isDirectory_origin working path) done front

end FileTree

end RecordSynthesis
