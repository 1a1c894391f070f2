import RecordSynthesis.Proofs.FileTrees
import RecordSynthesis.Proofs.Traversal
import RecordSynthesis.Store.Directory

/-!
# Calls of the directory sink that fail

A call that cannot stage all of its artifacts touches no file. A call that fails later has moved
some artifacts into place, over the files that stood there, and removes them again, but it does not
put back what they replaced. So a failed call makes no file and changes none, and it loses the files
that stood at the targets of the artifacts that it had moved, and no other (`write_failed`). It
loses nothing when none of these targets held a file. A call over the output of an earlier one may
lose a file of it (`blockedTree_loses`).
-/

set_option autoImplicit false

namespace RecordSynthesis

open FileTree

namespace DirectorySink

variable {d : DirectorySink} {t : FileTree} {artifacts : List Artifact}

/-! ## Staging -/

/-- The location of the file of an artifact. -/
def target (d : DirectorySink) (t : FileTree) (a : Artifact) : Location := t.locate (d.fullPath a)

/-- An artifact that can be moved to its target. -/
def ready (d : DirectorySink) (t : FileTree) (a : Artifact) : Staged :=
  ⟨d.fullPath a, d.target t a, a.source.toUTF8⟩

@[simp]
theorem path_ready (a : Artifact) : (d.ready t a).path = d.fullPath a := by rw [ready]

@[simp]
theorem target_ready (a : Artifact) : (d.ready t a).target = d.target t a := by rw [ready]

@[simp]
theorem content_ready (a : Artifact) : (d.ready t a).content = a.source.toUTF8 := by rw [ready]

/-- The place is on the way to the target of one of the artifacts. -/
def OnWay (d : DirectorySink) (t : FileTree) (artifacts : List Artifact) (l : Location) : Prop :=
  ∃ a ∈ artifacts, t.OnWay (d.fullPath a) l

theorem stage_spec (d : DirectorySink) (t : FileTree) (a : Artifact) :
    Grown t (d.stage t a).1 (t.OnWay (d.fullPath a)) ∧
      ∀ staged, (d.stage t a).2 = .ok staged → staged = d.ready t a := by
  obtain ⟨grown, last⟩ := grown_createDirectories t (d.fullPath a)
  unfold stage
  dsimp only
  refine ⟨grown, fun staged result => ?_⟩
  obtain ⟨l, made, result⟩ := bind_eq_ok.1 result
  obtain ⟨_, _, result⟩ := bind_eq_ok.1 result
  split at result
  next n ends =>
    cases result
    rw [ready, target, locate_eq ends, last l made]
  next => cases result

/-- Growth moves no target. -/
theorem ready_eq {t' : FileTree} {P : Location → Prop} (grown : Grown t t' P) (a : Artifact) :
    d.ready t' a = d.ready t a := by
  simp only [ready, target, grown.locate_eq]

/-- **Staging makes directories on the way to the targets**, and every artifact of the call is ready
when it succeeds. -/
theorem stageAll_spec (d : DirectorySink) (t : FileTree) (artifacts : List Artifact) :
    Grown t (d.stageAll t artifacts).1 (d.OnWay t artifacts) ∧
      ∀ staged, (d.stageAll t artifacts).2 = .ok staged → staged = artifacts.map (d.ready t) := by
  induction artifacts generalizing t with
  | nil =>
      refine ⟨.refl t _, ?_⟩
      rintro _ ⟨⟩
      rfl
  | cons a artifacts ih =>
      obtain ⟨grown, first⟩ := d.stage_spec t a
      have here : Grown t (d.stage t a).1 (d.OnWay t (a :: artifacts)) :=
        grown.mono fun l way => ⟨a, List.mem_cons_self, way⟩
      rw [stageAll]
      generalize d.stage t a = result at grown first here
      obtain ⟨t₁, _ | staged⟩ := result
      · exact ⟨here, nofun⟩
      · obtain ⟨grown', others⟩ := ih t₁
        have all : Grown t (d.stageAll t₁ artifacts).1 (d.OnWay t (a :: artifacts)) := by
          refine here.trans (grown'.mono ?_)
          rintro l ⟨b, member, way⟩
          exact ⟨b, List.mem_cons_of_mem _ member, grown.onWay_iff.1 way⟩
        dsimp only
        generalize d.stageAll t₁ artifacts = result at others all
        obtain ⟨t₂, _ | more⟩ := result
        · exact ⟨all, nofun⟩
        · refine ⟨all, ?_⟩
          rintro _ ⟨⟩
          rw [first staged rfl, others more rfl, List.map_cons]
          exact congrArg _ (List.map_congr_left fun b _ => ready_eq grown b)

/-! ## Moving -/

/-- The tree with staged files in place. -/
def withPlaced (t : FileTree) (files : List Staged) : FileTree :=
  files.foldl (fun t f => t.put f.target (.file f.content)) t

/-- The path is one that a file can be moved to. -/
def IsFilePath (path : String) (l : Location) : Prop :=
  Path.holdsNul path = false ∧ (Path.fits path && l.all Path.nameFits) = true

/-- A file is moved into place exactly when its path admits it and no directory stands there. -/
theorem moveInto_eq_ok {t' : FileTree} {path : String} {l : Location} {content : ByteArray} :
    t.moveInto path l content = .ok t' ↔
      (IsFilePath path l ∧ t.isDirectory l = false) ∧ t' = t.put l (.file content) := by
  rw [moveInto]
  split
  next nul => exact ⟨nofun, fun ⟨⟨⟨noNul, _⟩, _⟩, _⟩ => by rw [noNul] at nul; cases nul⟩
  next noNul =>
    split
    next long => exact ⟨nofun, fun ⟨⟨⟨_, short⟩, _⟩, _⟩ => by rw [short] at long; cases long⟩
    next short =>
      split
      next blocked => exact ⟨nofun, fun ⟨⟨_, free⟩, _⟩ => by rw [free] at blocked; cases blocked⟩
      next free =>
        rw [Bool.not_eq_true] at noNul free
        rw [Bool.not_eq_true, Bool.not_eq_false'] at short
        constructor
        · rintro ⟨⟩
          exact ⟨⟨⟨noNul, short⟩, free⟩, rfl⟩
        · rintro ⟨_, rfl⟩
          rfl

theorem isDirectory_withPlaced {files : List Staged}
    (free : ∀ f ∈ files, t.isDirectory f.target = false) (l : Location) :
    (withPlaced t files).isDirectory l = t.isDirectory l := by
  induction files generalizing t with
  | nil => rfl
  | cons f files ih =>
      obtain ⟨here, others⟩ := List.forall_mem_cons.1 free
      have kept := isDirectory_put_file here f.content
      rw [withPlaced, List.foldl_cons, ← withPlaced, ih, kept]
      intro g member
      rw [kept, others g member]

/-- Files away from the targets stay. -/
theorem file?_withPlaced {files : List Staged} (free : ∀ f ∈ files, t.isDirectory f.target = false)
    {l : Location} (away : ∀ f ∈ files, f.target ≠ l) :
    (withPlaced t files).file? l = t.file? l := by
  induction files generalizing t with
  | nil => rfl
  | cons f files ih =>
      obtain ⟨here, others⟩ := List.forall_mem_cons.1 free
      obtain ⟨apart, away⟩ := List.forall_mem_cons.1 away
      rw [withPlaced, List.foldl_cons, ← withPlaced, ih _ away,
        file?_put (ne_nil_of_isDirectory_eq_false here), if_neg apart]
      intro g member
      rw [isDirectory_put_file here, others g member]

/-! ## Rolling back -/

theorem rollBack_cons (t : FileTree) (f : Staged) (files : List Staged) :
    (rollBack t (f :: files)).1 = (rollBack (t.cleared f.target) files).1 := by
  rw [rollBack, cleared]
  cases t.removeFile f.target with
  | ok t' => rfl
  | error e => rfl

/-- **Rolling back removes every file at the targets**, whoever put it there. -/
theorem file?_rollBack (t : FileTree) (files : List Staged) (l : Location) :
    (rollBack t files).1.file? l = if l ∈ files.map Staged.target then none else t.file? l := by
  induction files generalizing t with
  | nil => rfl
  | cons f files ih =>
      rw [rollBack_cons, ih, file?_cleared, List.map_cons]
      by_cases here : f.target = l
      · simp [here]
      · simp [here, Ne.symm here]

theorem isDirectory_rollBack (t : FileTree) (files : List Staged) (l : Location) :
    (rollBack t files).1.isDirectory l = t.isDirectory l := by
  induction files generalizing t with
  | nil => rfl
  | cons f files ih => rw [rollBack_cons, ih, isDirectory_cleared]

/-- The tree with staged files moved into place and removed again. -/
def undone (t : FileTree) (files : List Staged) : FileTree :=
  (rollBack (withPlaced t files) files).1

theorem isDirectory_undone {files : List Staged}
    (free : ∀ f ∈ files, t.isDirectory f.target = false) (l : Location) :
    (undone t files).isDirectory l = t.isDirectory l := by
  rw [undone, isDirectory_rollBack, isDirectory_withPlaced free]

/-- **Undoing moves loses what they replaced.** -/
theorem file?_undone {files : List Staged} (free : ∀ f ∈ files, t.isDirectory f.target = false)
    (l : Location) :
    (undone t files).file? l = if l ∈ files.map Staged.target then none else t.file? l := by
  rw [undone, file?_rollBack]
  split
  next => rfl
  next away =>
    refine file?_withPlaced free fun f member same => ?_
    exact away (List.mem_map.2 ⟨f, member, same⟩)

/-! ## Placing -/

/-- A call that fails while files are moved stops at the first file that cannot be moved, and rolls
back those in front of it. -/
theorem place_eq_error {placed staged : List Staged} {failure : Failure}
    (failed : (place t placed staged).outcome = .error failure) :
    ∃ front f back, staged = front ++ f :: back ∧
      (∀ g ∈ front, IsFilePath g.path g.target ∧ t.isDirectory g.target = false) ∧
      ¬ (IsFilePath f.path f.target ∧ t.isDirectory f.target = false) ∧
      (place t placed staged).state = (rollBack (withPlaced t front) (placed ++ front)).1 := by
  induction staged generalizing t placed with
  | nil => cases failed
  | cons f staged ih =>
      rw [place] at failed ⊢
      cases moved : t.moveInto f.path f.target f.content with
      | error e =>
          refine ⟨[], f, staged, rfl, nofun, fun possible => ?_, by rw [List.append_nil]; rfl⟩
          rw [moveInto_eq_ok.2 ⟨possible, rfl⟩] at moved
          cases moved
      | ok t' =>
          obtain ⟨possible, rfl⟩ := moveInto_eq_ok.1 moved
          have kept := isDirectory_put_file possible.2 f.content
          rw [moved] at failed
          obtain ⟨front, g, back, rfl, before, stuck, state⟩ := ih failed
          simp only [kept] at before stuck
          refine ⟨f :: front, g, back, rfl, List.forall_mem_cons.2 ⟨possible, before⟩, stuck, ?_⟩
          rw [List.append_assoc] at state
          exact state

/-! ## Failed calls -/

/-- In the second tree, the artifact can be moved to its target in the first one. -/
def Movable (d : DirectorySink) (t after : FileTree) (a : Artifact) : Prop :=
  IsFilePath (d.fullPath a) (d.target t a) ∧ after.isDirectory (d.target t a) = false

/-- What a failed call leaves behind that had moved some artifacts into place. -/
structure GivenUp (d : DirectorySink) (t after : FileTree) (artifacts moved : List Artifact) :
    Prop where
  /-- Either not all artifacts could be staged, and none was moved, or the one behind the moved ones
  is the first that cannot be moved. -/
  cause : ((∃ e, (d.stageAll t artifacts).2 = .error e) ∧ moved = []) ∨
    ∃ a rest, artifacts = moved ++ a :: rest ∧ (∀ b ∈ moved, d.Movable t after b) ∧
      ¬ d.Movable t after a
  /-- No file stands at the target of a moved artifact, and everywhere else files are as before. -/
  file? : ∀ l, after.file? l = if l ∈ moved.map (d.target t) then none else t.file? l
  /-- Directories stay. -/
  isDirectory : ∀ l, t.isDirectory l → after.isDirectory l
  /-- New directories are on the way to a target, where nothing stood. -/
  fresh : ∀ l, after.isDirectory l → t.isDirectory l ∨ t.lookup l = none ∧ d.OnWay t artifacts l

namespace GivenUp

variable {after : FileTree} {moved : List Artifact}

/-- A call that could not stage its artifacts lets the tree grow at most. -/
theorem of_grown (grown : Grown t after (d.OnWay t artifacts))
    (cause : ∃ e, (d.stageAll t artifacts).2 = .error e) : d.GivenUp t after artifacts [] where
  cause := .inl ⟨cause, rfl⟩
  file? := grown.file?_eq
  isDirectory _ := grown.isDirectory
  fresh _ := grown.of_isDirectory

/-- A call gives up after the moves in front of an artifact that cannot be moved. -/
theorem of_undone {t₁ : FileTree} {a : Artifact} {rest : List Artifact}
    (grown : Grown t t₁ (d.OnWay t (moved ++ a :: rest)))
    (front : ∀ b ∈ moved, d.Movable t t₁ b) (stuck : ¬ d.Movable t t₁ a) :
    d.GivenUp t (undone t₁ (moved.map (d.ready t))) (moved ++ a :: rest) moved := by
  have free : ∀ f ∈ moved.map (d.ready t), t₁.isDirectory f.target = false := by
    rw [List.forall_mem_map]
    intro b member
    rw [target_ready]
    exact (front b member).2
  have targets : (moved.map (d.ready t)).map Staged.target = moved.map (d.target t) := by
    rw [List.map_map]
    exact List.map_congr_left fun b _ => target_ready b
  refine ⟨.inr ⟨a, rest, rfl, ?front, ?stuck⟩, fun l => ?file, fun l there => ?kept,
    fun l there => ?fresh⟩
  case front =>
    intro b member
    rw [Movable, isDirectory_undone free]
    exact front b member
  case stuck =>
    rw [Movable, isDirectory_undone free]
    exact stuck
  case file => rw [file?_undone free, targets, grown.file?_eq]
  case kept =>
    rw [isDirectory_undone free]
    exact grown.isDirectory there
  case fresh =>
    rw [isDirectory_undone free] at there
    exact grown.of_isDirectory there

/-- Every file that is left stood there before, with the same content. -/
theorem file?_eq_of_eq_some (givenUp : d.GivenUp t after artifacts moved) {l : Location}
    {content : ByteArray} (there : after.file? l = some content) : t.file? l = some content := by
  rw [givenUp.file?] at there
  split at there
  next => cases there
  next => exact there

/-- Nothing is lost exactly when no moved artifact replaced a file. -/
theorem file?_eq_iff (givenUp : d.GivenUp t after artifacts moved) :
    (∀ l, after.file? l = t.file? l) ↔ ∀ a ∈ moved, t.file? (d.target t a) = none := by
  constructor
  · intro same a member
    rw [← same, givenUp.file?, if_pos (List.mem_map_of_mem member)]
  · intro free l
    rw [givenUp.file?]
    split
    next target =>
      obtain ⟨a, member, rfl⟩ := List.mem_map.1 target
      exact (free a member).symm
    next => rfl

end GivenUp

/-- **What a failed call leaves behind.** It had moved some artifacts into place when it met the
first one that cannot be moved, or none when an artifact could not be staged. Every file that is
left stood there before with the same content, and the files that are lost are those at the targets
of the moved artifacts. Only directories on the way to a target are new. -/
theorem write_failed {failure : Failure}
    (failed : (d.sink.write artifacts t).outcome = .error failure) :
    ∃ moved, d.GivenUp t (d.sink.write artifacts t).state artifacts moved ∧
      (∀ l content, (d.sink.write artifacts t).state.file? l = some content →
        t.file? l = some content) ∧
      ((∀ l, (d.sink.write artifacts t).state.file? l = t.file? l) ↔
        ∀ a ∈ moved, t.file? (d.target t a) = none) := by
  suffices givenUp : ∃ moved, d.GivenUp t (d.sink.write artifacts t).state artifacts moved by
    obtain ⟨moved, givenUp⟩ := givenUp
    exact ⟨moved, givenUp, fun _ _ => givenUp.file?_eq_of_eq_some, givenUp.file?_eq_iff⟩
  obtain ⟨grown, staged⟩ := d.stageAll_spec t artifacts
  rw [sink] at failed ⊢
  dsimp only at failed ⊢
  generalize reached : d.stageAll t artifacts = result at grown staged failed
  obtain ⟨t₁, e | files⟩ := result
  · refine ⟨[], .of_grown grown ?_⟩
    rw [reached]
    exact ⟨e, rfl⟩
  · obtain rfl := staged files rfl
    obtain ⟨front, f, back, all, before, stuck, state⟩ := place_eq_error failed
    obtain ⟨moved, others, rfl, rfl, behind⟩ := List.map_eq_append_iff.1 all
    obtain ⟨a, rest, rfl, rfl, rfl⟩ := List.map_eq_cons_iff.1 behind
    simp only [List.forall_mem_map, path_ready, target_ready] at before stuck
    refine ⟨moved, ?_⟩
    dsimp only at grown ⊢
    rw [state, List.nil_append]
    exact .of_undone grown before stuck

/-! ## A call over the output of an earlier one -/

/-- A source root where a directory stands in the way of one file. -/
def blockedTree : FileTree :=
  (ofWorkingDirectory ["work"]).withFile "out/p/AutoValue_Foo.java" none

/-- The two artifacts of a class; the second one cannot be moved. -/
def blockedArtifacts : List Artifact := [⟨"p", "$RealmFoo", "new"⟩, ⟨"p", "AutoValue_Foo", "new"⟩]

/-- The first artifact replaced nothing, so nothing is lost. -/
theorem blockedTree_keeps :
    ((DirectorySink.mk "out").sink.write blockedArtifacts blockedTree).outcome =
        .error (.system .isADirectory) ∧
      ∀ l, ((DirectorySink.mk "out").sink.write blockedArtifacts blockedTree).state.file? l =
        blockedTree.file? l := by
  have failed : ((DirectorySink.mk "out").sink.write blockedArtifacts blockedTree).outcome =
      .error (.system .isADirectory) := by decide +kernel
  obtain ⟨moved, givenUp, _, lost⟩ := write_failed failed
  refine ⟨failed, lost.2 fun a member => ?_⟩
  have targets : ∀ a ∈ blockedArtifacts,
      blockedTree.file? ((DirectorySink.mk "out").target blockedTree a) = none := by decide +kernel
  rcases givenUp.cause with ⟨_, rfl⟩ | ⟨b, rest, all, _⟩
  · cases member
  · exact targets a (all ▸ List.mem_append_left _ member)

/-- **A failed call loses a file.** An earlier call left a file at the target of the first artifact.
The call replaces it, cannot move the second artifact, and removes the first one again. -/
theorem blockedTree_loses :
    let t := blockedTree.withFile "out/p/$RealmFoo.java" (some "old".toUTF8)
    let result := (DirectorySink.mk "out").sink.write blockedArtifacts t
    result.outcome = .error (.system .isADirectory) ∧
      t.file? ["work", "out", "p", "$RealmFoo.java"] = some "old".toUTF8 ∧
      result.state.file? ["work", "out", "p", "$RealmFoo.java"] = none := by
  decide +kernel

end DirectorySink

end RecordSynthesis
