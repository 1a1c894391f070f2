import RecordSynthesis.Proofs.Accounting
import RecordSynthesis.Proofs.FilesAside

/-!
# What a call of the directory sink does

A call succeeds exactly when no artifact meets a file where it needs a directory or a directory
where it goes (`DirectorySink.Writable`). It then leaves every target with the source that came last
for it, makes the directories on the way to the targets, and touches nothing else
(`DirectorySink.Written`); a call that cannot stage all of its artifacts touches no file. The main
statement is `DirectorySink.write_effect`.

Effects compose: what calls leave that succeed one after the other is what one call with all their
artifacts would leave.
-/

set_option autoImplicit false

namespace RecordSynthesis

open FileTree

namespace DirectorySink

variable {d : DirectorySink} {t t' : FileTree} {a : Artifact} {artifacts : List Artifact}

/-! ## Staging -/

/-- The paths and the names that putting an artifact aside needs are none that the file system
refuses on their own account. -/
structure AsideFits (d : DirectorySink) (t : FileTree) (a : Artifact) : Prop where
  directory : checkPath (Path.parent (d.fullPath a)) = .ok ()
  names : ∀ n, .name n ∈ Path.components (Path.parent (d.fullPath a)) → Path.nameFits n = true
  aside : t.checkAbsolute (Path.push (Path.parent (d.fullPath a)) nameAside) = .ok ()

/-- No file stands where an artifact needs a directory. -/
def Reachable (d : DirectorySink) (t : FileTree) (a : Artifact) : Prop :=
  ∀ l, t.OnWay (d.fullPath a) l → t.file? l = none

/-- An artifact can be staged. -/
def Stageable (d : DirectorySink) (t : FileTree) (a : Artifact) : Prop :=
  d.AsideFits t a ∧ d.Reachable t a

theorem stage_eq_ok (working : t.isDirectory t.workingDirectory = true) :
    (∃ staged, (d.stage t a).2 = .ok staged) ↔ d.Stageable t a := by
  have directories := createDirectories_eq_ok working (d.fullPath a)
  obtain ⟨n, last⟩ := d.exists_getLast?_fullPath a
  unfold stage
  simp only [last, bind_eq_ok]
  constructor
  · rintro ⟨staged, l, made, _, aside, _⟩
    obtain ⟨directory, names, free⟩ := directories.1 ⟨l, made⟩
    exact ⟨⟨directory, names, aside⟩, free⟩
  · rintro ⟨⟨directory, names, aside⟩, free⟩
    obtain ⟨l, made⟩ := directories.2 ⟨directory, names, free⟩
    exact ⟨_, l, made, (), aside, rfl⟩

theorem isDirectory_stage (working : t.isDirectory t.workingDirectory = true) {staged : Staged}
    (done : (d.stage t a).2 = .ok staged) {l : Location} (way : t.OnWay (d.fullPath a) l) :
    (d.stage t a).1.isDirectory l = true := by
  unfold stage at done ⊢
  dsimp only at done ⊢
  obtain ⟨last, made, done⟩ := bind_eq_ok.1 done
  exact isDirectory_createDirectories working made way

/-- Growth neither helps nor hinders staging. -/
theorem stageable_iff {P : Location → Prop} (grown : Grown t t' P) :
    d.Stageable t' a ↔ d.Stageable t a := by
  have aside (path : String) : t'.checkAbsolute path = t.checkAbsolute path := by
    rw [checkAbsolute, checkAbsolute, grown.workingDirectory]
  simp only [Stageable, Reachable, grown.onWay_iff, grown.file?_eq]
  refine and_congr_left' ⟨fun fits => ?_, fun fits => ?_⟩
  · exact ⟨fits.directory, fits.names, aside _ ▸ fits.aside⟩
  · exact ⟨fits.directory, fits.names, (aside _).symm ▸ fits.aside⟩

/-- Artifacts are staged exactly when the first one is, and then the others are. -/
theorem stageAll_cons_eq_ok {staged : List Staged} :
    (d.stageAll t (a :: artifacts)).2 = .ok staged ↔
      ∃ first others, (d.stage t a).2 = .ok first ∧
        (d.stageAll (d.stage t a).1 artifacts).2 = .ok others ∧ staged = first :: others := by
  rw [stageAll]
  generalize d.stage t a = result
  obtain ⟨t₁, _ | first⟩ := result
  · constructor
    · rintro ⟨⟩
    · rintro ⟨_, _, failed, _⟩
      cases failed
  · dsimp only
    generalize d.stageAll t₁ artifacts = result
    obtain ⟨t₂, _ | others⟩ := result
    · constructor
      · rintro ⟨⟩
      · rintro ⟨_, _, _, failed, _⟩
        cases failed
    · constructor
      · rintro ⟨⟩
        exact ⟨first, others, rfl, rfl, rfl⟩
      · rintro ⟨_, _, ⟨⟩, ⟨⟩, rfl⟩
        rfl

/-- The tree after staging is the one that staging the last artifacts leaves. -/
theorem stageAll_cons_tree {first : Staged} (done : (d.stage t a).2 = .ok first) :
    (d.stageAll t (a :: artifacts)).1 = (d.stageAll (d.stage t a).1 artifacts).1 := by
  rw [stageAll]
  generalize d.stage t a = result at done
  obtain ⟨t₁, _ | first'⟩ := result
  · cases done
  · dsimp only
    generalize d.stageAll t₁ artifacts = result
    obtain ⟨t₂, _ | others⟩ := result
    · rfl
    · rfl

/-- **All artifacts can be staged** exactly when each of them can. -/
theorem stageAll_eq_ok (working : t.isDirectory t.workingDirectory = true) :
    (∃ staged, (d.stageAll t artifacts).2 = .ok staged) ↔ ∀ a ∈ artifacts, d.Stageable t a := by
  induction artifacts generalizing t with
  | nil => exact ⟨fun _ => nofun, fun _ => ⟨[], rfl⟩⟩
  | cons a artifacts ih =>
      have grown := (d.stage_spec t a).1
      have others := ih (grown.working working)
      simp only [stageable_iff grown] at others
      rw [List.forall_mem_cons, ← stage_eq_ok working, ← others]
      constructor
      · rintro ⟨_, done⟩
        obtain ⟨first, more, here, behind, _⟩ := stageAll_cons_eq_ok.1 done
        exact ⟨⟨first, here⟩, more, behind⟩
      · rintro ⟨⟨first, here⟩, more, behind⟩
        exact ⟨_, stageAll_cons_eq_ok.2 ⟨first, more, here, behind, rfl⟩⟩

/-- Staged artifacts have their directories, and no other directory is new. -/
theorem isDirectory_stageAll (working : t.isDirectory t.workingDirectory = true)
    {staged : List Staged} (done : (d.stageAll t artifacts).2 = .ok staged) (l : Location) :
    (d.stageAll t artifacts).1.isDirectory l = true ↔
      t.isDirectory l = true ∨ d.OnWay t artifacts l := by
  have grown := (d.stageAll_spec t artifacts).1
  constructor
  · intro there
    exact (grown.of_isDirectory there).imp_right And.right
  rintro (there | ⟨a, member, way⟩)
  · exact grown.isDirectory there
  -- The directories of an artifact are made when it is staged, and staging the others keeps them.
  induction artifacts generalizing t staged with
  | nil => cases member
  | cons b artifacts ih =>
      have first := (d.stage_spec t b).1
      have rest := (d.stageAll_spec (d.stage t b).1 artifacts).1
      obtain ⟨_, _, here, behind, _⟩ := stageAll_cons_eq_ok.1 done
      rw [stageAll_cons_tree here]
      rcases List.mem_cons.1 member with rfl | member
      · exact rest.isDirectory (isDirectory_stage working here way)
      · exact ih (first.working working) behind rest member (first.onWay_iff.2 way)

/-! ## Moving -/

/-- A staged file can be moved to its target. -/
def Placeable (t : FileTree) (f : Staged) : Prop :=
  IsFilePath f.path f.target ∧ t.isDirectory f.target = false

/-- **All staged files are moved** exactly when each of them can be. -/
theorem place_eq_ok {placed staged : List Staged} :
    (place t placed staged).outcome = .ok () ↔ ∀ f ∈ staged, Placeable t f := by
  induction staged generalizing t placed with
  | nil => exact ⟨fun _ => nofun, fun _ => rfl⟩
  | cons f staged ih =>
      rw [place, List.forall_mem_cons]
      cases moved : t.moveInto f.path f.target f.content with
      | error e =>
          constructor
          · rintro ⟨⟩
          · rintro ⟨possible, _⟩
            rw [moveInto_eq_ok.2 ⟨possible, rfl⟩] at moved
            cases moved
      | ok t' =>
          obtain ⟨possible, rfl⟩ := moveInto_eq_ok.1 moved
          have others := @ih (t.put f.target (.file f.content)) (placed ++ [f])
          simp only [Placeable, isDirectory_put_file possible.2] at others
          exact others.trans (and_iff_right possible).symm

theorem state_place {placed staged : List Staged}
    (done : (place t placed staged).outcome = .ok ()) :
    (place t placed staged).state = withPlaced t staged := by
  induction staged generalizing t placed with
  | nil => rfl
  | cons f staged ih =>
      obtain ⟨possible, _⟩ := List.forall_mem_cons.1 (place_eq_ok.1 done)
      have moved : t.moveInto f.path f.target f.content = _ := moveInto_eq_ok.2 ⟨possible, rfl⟩
      rw [place, moved] at done ⊢
      exact ih done

theorem withPlaced_concat (front : List Staged) (last : Staged) :
    withPlaced t (front ++ [last]) =
      (withPlaced t front).put last.target (.file last.content) := by
  rw [withPlaced, List.foldl_concat, withPlaced]

/-- Of the files moved to a location the last one stays. -/
theorem file?_withPlaced_or {files : List Staged}
    (free : ∀ f ∈ files, t.isDirectory f.target = false) (l : Location) :
    (withPlaced t files).file? l =
      ((files.filter (·.target = l)).getLast?.map (·.content)).or (t.file? l) := by
  induction files using List.reverseRecOn with
  | nil => rfl
  | append_singleton front last ih =>
      have free' : ∀ f ∈ front, t.isDirectory f.target = false := fun f member =>
        free f (List.mem_append_left _ member)
      have here : (withPlaced t front).isDirectory last.target = false := by
        rw [isDirectory_withPlaced free']
        exact free last (List.mem_append_right _ List.mem_cons_self)
      rw [withPlaced_concat, file?_put (ne_nil_of_isDirectory_eq_false here), List.filter_append]
      split
      next same => simp [same, Entry.content?]
      next differs => simp [differs, ih free']

theorem workingDirectory_withPlaced (files : List Staged) :
    (withPlaced t files).workingDirectory = t.workingDirectory := by
  induction files generalizing t with
  | nil => rfl
  | cons f files ih =>
      rw [withPlaced, List.foldl_cons, ← withPlaced, ih]
      rfl

/-! ## Calls that succeed -/

/-- The content that artifacts bring to a location: that of the last one with this target. -/
def contentFor? (d : DirectorySink) (t : FileTree) (artifacts : List Artifact) (l : Location) :
    Option ByteArray :=
  (artifacts.filter (d.target t · = l)).getLast?.map (·.source.toUTF8)

/-- What artifacts that are all written make of a tree. -/
structure Written (d : DirectorySink) (t after : FileTree) (artifacts : List Artifact) : Prop where
  workingDirectory : after.workingDirectory = t.workingDirectory
  /-- Every target holds the source of the last artifact for it, and no other file is touched. -/
  file? : ∀ l, after.file? l = (d.contentFor? t artifacts l).or (t.file? l)
  /-- The directories on the way to a target are there, and no other one is new. -/
  isDirectory : ∀ l, after.isDirectory l = true ↔ t.isDirectory l = true ∨ d.OnWay t artifacts l

/-- Nothing but the tree and the limits on paths stops an artifact, and nothing stands in its way:
no file where it needs a directory, and at its target no directory, neither before the call nor for
one of its artifacts. -/
structure Writable (d : DirectorySink) (t : FileTree) (artifacts : List Artifact) (a : Artifact) :
    Prop where
  aside : d.AsideFits t a
  path : IsFilePath (d.fullPath a) (d.target t a)
  reachable : d.Reachable t a
  free : t.isDirectory (d.target t a) = false
  unneeded : ¬ d.OnWay t artifacts (d.target t a)

theorem write_of_stageAll {files : List Staged} (done : (d.stageAll t artifacts).2 = .ok files) :
    d.sink.write artifacts t =
      place (d.stageAll t artifacts).1 [] (artifacts.map (d.ready t)) := by
  have staged := (d.stageAll_spec t artifacts).2
  rw [sink]
  dsimp only
  generalize d.stageAll t artifacts = result at staged done
  obtain ⟨t₁, _ | files'⟩ := result
  · cases done
  · rw [staged files' rfl]

/-- A call that succeeds has staged all of its artifacts. -/
theorem exists_stageAll_of_write (done : (d.sink.write artifacts t).outcome = .ok ()) :
    ∃ files, (d.stageAll t artifacts).2 = .ok files := by
  rw [sink] at done
  dsimp only at done
  generalize d.stageAll t artifacts = result at done
  obtain ⟨t₁, _ | files⟩ := result
  · cases done
  · exact ⟨files, rfl⟩

/-- **A call succeeds** exactly when each of its artifacts can be written. -/
theorem write_eq_ok (working : t.isDirectory t.workingDirectory = true) :
    (d.sink.write artifacts t).outcome = .ok () ↔ ∀ a ∈ artifacts, d.Writable t artifacts a := by
  constructor
  · intro done
    obtain ⟨files, staged⟩ := exists_stageAll_of_write done
    have directories := isDirectory_stageAll working staged
    rw [write_of_stageAll staged, place_eq_ok, List.forall_mem_map] at done
    intro a member
    obtain ⟨aside, reachable⟩ := (stageAll_eq_ok working).1 ⟨files, staged⟩ a member
    obtain ⟨path, free⟩ := done a member
    rw [path_ready, target_ready] at path
    rw [target_ready, ← Bool.not_eq_true, directories, not_or, Bool.not_eq_true] at free
    exact ⟨aside, path, reachable, free.1, free.2⟩
  · intro writable
    obtain ⟨files, staged⟩ := (stageAll_eq_ok working).2 fun a member =>
      ⟨(writable a member).aside, (writable a member).reachable⟩
    have directories := isDirectory_stageAll working staged
    rw [write_of_stageAll staged, place_eq_ok, List.forall_mem_map]
    intro a member
    have possible := writable a member
    refine ⟨by rw [path_ready, target_ready]; exact possible.path, ?_⟩
    rw [target_ready, ← Bool.not_eq_true, directories, not_or, Bool.not_eq_true]
    exact ⟨possible.free, possible.unneeded⟩

/-- A successful call puts the files of its artifacts into the tree with their directories. -/
theorem state_write (done : (d.sink.write artifacts t).outcome = .ok ()) :
    (d.sink.write artifacts t).state =
        withPlaced (d.stageAll t artifacts).1 (artifacts.map (d.ready t)) ∧
      ∀ f ∈ artifacts.map (d.ready t),
        (d.stageAll t artifacts).1.isDirectory f.target = false := by
  obtain ⟨files, staged⟩ := exists_stageAll_of_write done
  rw [write_of_stageAll staged] at done ⊢
  exact ⟨state_place done, fun f member => (place_eq_ok.1 done f member).2⟩

/-- Every target then holds the source of the last artifact for it. -/
theorem file?_write (done : (d.sink.write artifacts t).outcome = .ok ()) (l : Location) :
    (d.sink.write artifacts t).state.file? l =
      (d.contentFor? t artifacts l).or (t.file? l) := by
  obtain ⟨state, free⟩ := state_write done
  rw [state, file?_withPlaced_or free, (d.stageAll_spec t artifacts).1.file?_eq, contentFor?,
    List.filter_map, List.getLast?_map, Option.map_map]
  simp only [Function.comp_def, target_ready, content_ready]

/-- **What a successful call does.** -/
theorem written_of_write (working : t.isDirectory t.workingDirectory = true)
    (done : (d.sink.write artifacts t).outcome = .ok ()) :
    d.Written t (d.sink.write artifacts t).state artifacts := by
  obtain ⟨state, free⟩ := state_write done
  obtain ⟨files, staged⟩ := exists_stageAll_of_write done
  constructor
  case workingDirectory =>
    rw [state, workingDirectory_withPlaced, (d.stageAll_spec t artifacts).1.workingDirectory]
  case file? => exact file?_write done
  case isDirectory =>
    intro l
    rw [state, isDirectory_withPlaced free, isDirectory_stageAll working staged]

theorem Written.target_eq {after : FileTree} (written : d.Written t after artifacts)
    (a : Artifact) : d.target after a = d.target t a := by
  rw [target, target, locate, locate, origin, origin, written.workingDirectory]

theorem Written.onWay_iff {after : FileTree} (written : d.Written t after artifacts)
    {others : List Artifact} {l : Location} : d.OnWay after others l ↔ d.OnWay t others l := by
  simp only [OnWay, FileTree.OnWay, origin, written.workingDirectory]

theorem contentFor?_append (first second : List Artifact) (l : Location) :
    d.contentFor? t (first ++ second) l =
      (d.contentFor? t second l).or (d.contentFor? t first l) := by
  rw [contentFor?, List.filter_append, List.getLast?_append, Option.map_or, contentFor?,
    contentFor?]

theorem onWay_append (first second : List Artifact) (l : Location) :
    d.OnWay t (first ++ second) l ↔ d.OnWay t first l ∨ d.OnWay t second l := by
  simp only [OnWay, List.mem_append, or_and_right, exists_or]

/-- Artifacts that are written one after the other. -/
theorem Written.trans {middle after : FileTree} {others : List Artifact}
    (first : d.Written t middle artifacts) (second : d.Written middle after others) :
    d.Written t after (artifacts ++ others) where
  workingDirectory := second.workingDirectory.trans first.workingDirectory
  file? l := by
    have same : d.contentFor? middle others l = d.contentFor? t others l := by
      simp only [contentFor?, first.target_eq]
    rw [second.file?, first.file?, same, contentFor?_append, Option.or_assoc]
  isDirectory l := by
    rw [second.isDirectory, first.isDirectory, first.onWay_iff, onWay_append, or_assoc]

theorem Written.working {after : FileTree} (written : d.Written t after artifacts)
    (working : t.isDirectory t.workingDirectory = true) :
    after.isDirectory after.workingDirectory = true := by
  rw [written.workingDirectory, written.isDirectory]
  exact .inl working

/-- **Successful calls**, one after the other, leave at each target the source that came last. -/
theorem written_of_writes {calls : List (List Artifact)} {last : FileTree}
    (working : t.isDirectory t.workingDirectory = true)
    (writes : d.sink.Writes calls t last) : d.Written t last calls.flatten := by
  induction writes with
  | nil t => exact ⟨rfl, fun _ => rfl, fun l => by simp [OnWay]⟩
  | cons done _ ih =>
      have written := written_of_write working done
      exact written.trans (ih (written.working working))

/-! ## Calls that cannot stage -/

/-- **A call that cannot stage one of its artifacts** fails and touches no file. -/
theorem file?_of_not_stageable (working : t.isDirectory t.workingDirectory = true)
    (stuck : ∃ a ∈ artifacts, ¬ d.Stageable t a) :
    (∃ e, (d.sink.write artifacts t).outcome = .error (.system e)) ∧
      ∀ l, (d.sink.write artifacts t).state.file? l = t.file? l := by
  have grown := (d.stageAll_spec t artifacts).1
  have stageable : (∃ staged, (d.stageAll t artifacts).2 = .ok staged) ↔
      ∀ a ∈ artifacts, d.Stageable t a := stageAll_eq_ok working
  rw [sink]
  dsimp only
  generalize d.stageAll t artifacts = result at grown stageable
  obtain ⟨t₁, e | files⟩ := result
  · exact ⟨⟨e, rfl⟩, grown.file?_eq⟩
  · obtain ⟨a, member, impossible⟩ := stuck
    exact (impossible (stageable.1 ⟨files, rfl⟩ a member)).elim

/-! ## Plain names below a plain root -/

theorem components_fullPath {a : Artifact} (slashless : a.Slashless) :
    Path.components (d.fullPath a) =
      Path.components d.root ++ (a.directories ++ [a.typeName ++ ".java"]).map .name :=
  slashless.components_push d.root

/-- Below a root that never leads upwards no artifact with plain names has its target where another
one needs a directory. -/
theorem not_onWay_target (plain : ∀ a ∈ artifacts, a.Slashless)
    (level : .parent ∉ Path.components d.root) {a : Artifact} (member : a ∈ artifacts) :
    ¬ d.OnWay t artifacts (d.target t a) := by
  rintro ⟨b, member', steps, front, same⟩
  have levelFor (c : Artifact) (slashless : c.Slashless) :
      .parent ∉ Path.components (d.fullPath c) := by
    rw [components_fullPath slashless, List.mem_append, not_or]
    exact ⟨level, by simp⟩
  obtain ⟨n, last⟩ := d.exists_getLast?_fullPath b
  rw [Path.components_parent last] at front
  -- Both places begin with that of the root, so the target would be a directory of the other path.
  have place := foldl_advance_origin t (levelFor b (plain b member'))
    (front.trans (List.dropLast_prefix _))
  have place' := foldl_advance_origin t (levelFor a (plain a member)) (List.prefix_refl _)
  rw [components_fullPath (plain b member'), List.map_append, List.map_singleton,
    ← List.append_assoc, List.dropLast_concat] at front
  rw [target, locate, place', place, fullPath, fullPath,
    origin_push t (plain a member).isAbsolute_relativePath,
    origin_push t (plain b member').isAbsolute_relativePath, ← fullPath,
    components_fullPath (plain a member), List.append_cancel_left_eq, List.filterMap_append,
    PathComponent.filterMap_name?] at same
  have front' := front.filterMap PathComponent.name?
  rw [← same, List.filterMap_append, PathComponent.filterMap_name?,
    List.prefix_append_right_inj] at front'
  exact Artifact.fileName_not_mem_directories a b
    (front'.subset (List.mem_append_right _ List.mem_cons_self))

/-- Below such a root an artifact with plain names can be written exactly when it meets no file
where it needs a directory, and no directory at its target. -/
theorem writable_iff (plain : ∀ a ∈ artifacts, a.Slashless)
    (level : .parent ∉ Path.components d.root) {a : Artifact} (member : a ∈ artifacts) :
    d.Writable t artifacts a ↔ d.AsideFits t a ∧ IsFilePath (d.fullPath a) (d.target t a) ∧
      d.Reachable t a ∧ t.isDirectory (d.target t a) = false :=
  ⟨fun ⟨aside, path, reachable, free, _⟩ => ⟨aside, path, reachable, free⟩,
    fun ⟨aside, path, reachable, free⟩ =>
      ⟨aside, path, reachable, free, not_onWay_target plain level member⟩⟩

/-! ## Whole calls -/

/-- **The effect of a call.** It succeeds exactly when every artifact can be written; with plain
names below a root that never leads upwards this is so exactly when no file is where an artifact
needs a directory and no directory is at a target, as far as the file system admits the paths. A
successful call leaves at each target the source of the last artifact for it, makes the directories
on the way, and keeps every other file; a call that cannot stage all of its artifacts touches no
file. Calls that succeed one after the other leave at each target the source that came last. And
nothing of this changes when the contents are kept in files of new names beside the targets, none of
which remains. -/
theorem write_effect (working : t.isDirectory t.workingDirectory = true) :
    ((d.sink.write artifacts t).outcome = .ok () ↔ ∀ a ∈ artifacts, d.Writable t artifacts a) ∧
    ((∀ a ∈ artifacts, a.Slashless) → .parent ∉ Path.components d.root →
      ((d.sink.write artifacts t).outcome = .ok () ↔ ∀ a ∈ artifacts, d.AsideFits t a ∧
        IsFilePath (d.fullPath a) (d.target t a) ∧
        d.Reachable t a ∧ t.isDirectory (d.target t a) = false)) ∧
    ((d.sink.write artifacts t).outcome = .ok () →
      d.Written t (d.sink.write artifacts t).state artifacts) ∧
    ((∃ a ∈ artifacts, ¬ d.Stageable t a) →
      (∃ e, (d.sink.write artifacts t).outcome = .error (.system e)) ∧
        ∀ l, (d.sink.write artifacts t).state.file? l = t.file? l) ∧
    (∀ calls last, d.sink.Writes calls t last → d.Written t last calls.flatten) ∧
    (∃ named, named.map Prod.fst = artifacts ∧ d.Unused t named) ∧
    ∀ named : List (Artifact × String), named.map Prod.fst = artifacts → d.Unused t named →
      (d.writeBeside named t).2 = (d.sink.write artifacts t).outcome ∧
        ∀ l, (d.writeBeside named t).1.lookup l = (d.sink.write artifacts t).state.lookup l := by
  refine ⟨write_eq_ok working, fun plain level => ?plain, written_of_write working,
    file?_of_not_stageable working, fun _ _ => written_of_writes working,
    exists_unused d t artifacts, ?beside⟩
  case plain =>
    rw [write_eq_ok working]
    exact forall₂_congr fun a member => writable_iff plain level member
  case beside =>
    rintro named rfl unused
    exact writeBeside_eq unused

/-- A source root with the output of an earlier call. -/
def earlierTree : FileTree :=
  ((ofWorkingDirectory ["work"]).withFile "out/p/$RealmFoo.java" (some "old".toUTF8)).withFile
    "out/p/Kept.java" (some "kept".toUTF8)

/-- Three artifacts, two of which have one path. -/
def repeatedArtifacts : List Artifact :=
  [⟨"p", "$RealmFoo", "first"⟩, ⟨"q", "AutoValue_Foo", "other"⟩, ⟨"p", "$RealmFoo", "last"⟩]

/-- The last source stays, what is no target is kept, and one directory is new. -/
theorem earlierTree_write :
    earlierTree.isDirectory earlierTree.workingDirectory = true ∧
      ((DirectorySink.mk "out").sink.write repeatedArtifacts earlierTree).outcome = .ok () ∧
      let after := ((DirectorySink.mk "out").sink.write repeatedArtifacts earlierTree).state
      after.file? ["work", "out", "p", "$RealmFoo.java"] = some "last".toUTF8 ∧
        after.file? ["work", "out", "p", "Kept.java"] = some "kept".toUTF8 ∧
        after.isDirectory ["work", "out", "q"] = true ∧
        earlierTree.isDirectory ["work", "out", "q"] = false := by
  have working : earlierTree.isDirectory earlierTree.workingDirectory = true := by decide +kernel
  obtain ⟨_, _, written, _⟩ := @write_effect ⟨"out"⟩ earlierTree repeatedArtifacts working
  have done : ((DirectorySink.mk "out").sink.write repeatedArtifacts earlierTree).outcome =
      .ok () := by decide +kernel
  have effect := written done
  refine ⟨working, done, ?_, ?_, ?_, by decide +kernel⟩
  · rw [effect.file?]
    decide +kernel
  · rw [effect.file?]
    decide +kernel
  · rw [effect.isDirectory]
    refine .inr ⟨⟨"q", "AutoValue_Foo", "other"⟩, ?_, ?_⟩
    · exact List.mem_cons_of_mem _ List.mem_cons_self
    · exact ⟨Path.components "out/q", by decide +kernel, by decide +kernel⟩

end DirectorySink
end RecordSynthesis
