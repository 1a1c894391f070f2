import Mathlib.Data.Fintype.EquivFin
import Mathlib.Data.Set.Finite.Basic
import RecordSynthesis.Proofs.FailedWrites
import RecordSynthesis.Proofs.Places

/-!
# Files aside

The directory sink keeps contents aside until they are moved into place. Here the contents lie in
the tree, each in a file of a new name beside its target: staging makes this file, moving takes it
away, and a call that is given up removes all that are left.

None of these files remains, however the call ends: it has the same outcome as with the contents
kept elsewhere, and it leaves the same tree (`writeBeside_eq`). The invariant is that the tree with
the files aside is the other tree and holds a file at each of their places in addition
(`FileTree.Covers`).

The names of these files must be new to the tree and to the paths of the artifacts
(`DirectorySink.Unused`). There are always such names (`exists_unused`), since a tree and a list of
paths hold finitely many.
-/

set_option autoImplicit false

namespace RecordSynthesis

open FileTree

/-! ## Trees with further files -/

namespace FileTree

/-- The first tree is the second one, with a file at each of some places where the second one has
nothing. -/
structure Covers (t bare : FileTree) (aside : List Location) : Prop where
  workingDirectory : t.workingDirectory = bare.workingDirectory
  outside : ∀ l, l ∉ aside → t.lookup l = bare.lookup l
  inside : ∀ l ∈ aside, bare.lookup l = none ∧ ∃ content, t.lookup l = some (.file content)

theorem step_congr {t t' : FileTree} {l : Location} (same : t.lookup l = t'.lookup l)
    (c : PathComponent) : t.step l c = t'.step l c := by
  unfold step
  rw [same]

namespace Covers

variable {t bare : FileTree} {aside : List Location} {l : Location}

theorem refl (t : FileTree) : Covers t t [] := ⟨rfl, fun _ _ => rfl, nofun⟩

theorem isDirectory_eq (covers : Covers t bare aside) (away : l ∉ aside) :
    t.isDirectory l = bare.isDirectory l := by
  rw [isDirectory, isDirectory, covers.outside l away]

theorem file?_eq (covers : Covers t bare aside) (away : l ∉ aside) : t.file? l = bare.file? l := by
  rw [file?, file?, covers.outside l away]

theorem origin_eq (covers : Covers t bare aside) (path : String) :
    t.origin path = bare.origin path := by
  rw [origin, origin, covers.workingDirectory]

/-- Both trees may get the same entry away from the further files. -/
theorem put (covers : Covers t bare aside) (away : l ∉ aside) (below : l ≠ []) (e : Entry) :
    Covers (t.put l e) (bare.put l e) aside where
  workingDirectory := covers.workingDirectory
  outside m free := by rw [lookup_put below, lookup_put below, covers.outside m free]
  inside m member := by
    have differs : l ≠ m := fun same => away (same ▸ member)
    rw [lookup_put below, lookup_put below, if_neg differs, if_neg differs]
    exact covers.inside m member

/-- Both trees may lose a file away from the further ones. -/
theorem cleared (covers : Covers t bare aside) (away : l ∉ aside) :
    Covers (t.cleared l) (bare.cleared l) aside where
  workingDirectory := by
    rw [workingDirectory_cleared, workingDirectory_cleared, covers.workingDirectory]
  outside m free := by
    rw [lookup_cleared, lookup_cleared, covers.file?_eq away, covers.outside m free]
  inside m member := by
    have differs : l ≠ m := fun same => away (same ▸ member)
    rw [lookup_cleared, lookup_cleared, if_neg fun h => differs h.1, if_neg fun h => differs h.1]
    exact covers.inside m member

/-- A file where the second tree has nothing is one more. -/
theorem hold (covers : Covers t bare aside) (free : bare.lookup l = none) (content : ByteArray) :
    Covers (t.put l (.file content)) bare (aside ++ [l]) := by
  have below := ne_nil_of_lookup_eq_none free
  constructor
  case workingDirectory => exact covers.workingDirectory
  case outside =>
    intro m away
    rw [List.mem_append, List.mem_singleton, not_or] at away
    rw [lookup_put below, if_neg (Ne.symm away.2), covers.outside m away.1]
  case inside =>
    intro m member
    rw [lookup_put below]
    split
    next same =>
      subst same
      exact ⟨free, content, rfl⟩
    next differs =>
      rcases List.mem_append.1 member with member | last
      · exact covers.inside m member
      · exact (differs (List.mem_singleton.1 last).symm).elim

/-- Without the first further file the others are left. -/
theorem release (covers : Covers t bare (l :: aside)) (single : l ∉ aside) :
    Covers (t.cleared l) bare aside := by
  obtain ⟨free, content, there⟩ := covers.inside l List.mem_cons_self
  have file : t.file? l = some content := file?_eq_some.2 there
  constructor
  case workingDirectory => rw [workingDirectory_cleared, covers.workingDirectory]
  case outside =>
    intro m away
    rw [lookup_cleared, file]
    by_cases same : l = m
    · subst same
      rw [if_pos ⟨rfl, nofun⟩, free]
    · rw [if_neg fun h => same h.1]
      refine covers.outside m ?_
      rw [List.mem_cons, not_or]
      exact ⟨Ne.symm same, away⟩
  case inside =>
    intro m member
    have differs : l ≠ m := fun same => single (same ▸ member)
    rw [lookup_cleared, if_neg fun h => differs h.1]
    exact covers.inside m (List.mem_cons_of_mem _ member)

/-- Making directories away from the further files does the same to both trees. -/
theorem createAlong (covers : Covers t bare aside) (missing : Bool) {l : Location}
    {cs : List PathComponent}
    (away : ∀ steps, steps <+: cs → steps.foldl advance l ∉ aside) :
    (t.createAlong missing l cs).outcome = (bare.createAlong missing l cs).outcome ∧
      Covers (t.createAlong missing l cs).tree (bare.createAlong missing l cs).tree aside := by
  induction cs generalizing t bare missing l with
  | nil => exact ⟨rfl, covers⟩
  | cons c cs ih =>
      have here : l ∉ aside := away [] List.nil_prefix
      have behind : ∀ steps, steps <+: cs → steps.foldl advance (advance l c) ∉ aside :=
        fun steps front => away (c :: steps) (List.cons_prefix_cons.2 ⟨rfl, front⟩)
      have next : advance l c ∉ aside := behind [] List.nil_prefix
      rw [FileTree.createAlong, FileTree.createAlong, step_congr (covers.outside l here)]
      cases stepped : bare.step l c with
      | error e => exact ⟨rfl, covers⟩
      | ok place =>
          obtain rfl := eq_advance_of_step stepped
          dsimp only
          rw [covers.outside _ next]
          split
          next => exact ih covers missing behind
          next => exact ⟨rfl, covers⟩
          next free => exact ih (covers.put next (ne_nil_of_lookup_eq_none free) _) true behind

end Covers
end FileTree

namespace DirectorySink

variable {d : DirectorySink} {t bare : FileTree} {aside : List Location}

/-! ## The call with its files aside in the tree -/

/-- A staged artifact and the place of the file that holds its content. -/
structure Beside where
  staged : Staged
  place : Location

/-- The place of a name beside the target of an artifact. -/
def besideTarget (d : DirectorySink) (t : FileTree) (named : Artifact × String) : Location :=
  (d.target t named.1).dropLast ++ [named.2]

/-- Stages an artifact, with its content in a file of the given name beside the target. -/
def stageBeside (d : DirectorySink) (t : FileTree) (named : Artifact × String) :
    FileTree × Except SystemError Beside :=
  match d.stage t named.1 with
  | (t, .error e) => (t, .error e)
  | (t, .ok f) =>
    let place := f.target.dropLast ++ [named.2]
    (t.put place (.file f.content), .ok ⟨f, place⟩)

/-- Removes files aside. -/
def discard (t : FileTree) (files : List Beside) : FileTree :=
  files.foldl (fun t f => t.cleared f.place) t

/-- Stages all artifacts, up to the first failure, which discards what was staged before. -/
def stageAllBeside (d : DirectorySink) (t : FileTree) (staged : List Beside) :
    List (Artifact × String) → FileTree × Except SystemError (List Beside)
  | [] => (t, .ok staged)
  | named :: rest =>
    match d.stageBeside t named with
    | (t, .error e) => (discard t staged, .error e)
    | (t, .ok f) => d.stageAllBeside t (staged ++ [f]) rest

/-- Moves staged files into place. The first one that cannot be moved rolls back those that were,
and discards all that are left. -/
def placeBeside (t : FileTree) (placed : List Staged) :
    List Beside → FileTree × Except Failure Unit
  | [] => (t, .ok ())
  | f :: rest =>
    match t.moveInto f.staged.path f.staged.target f.staged.content with
    | .error e => (discard (rollBack t placed).1 (f :: rest), .error (.system e))
    | .ok t => placeBeside (t.cleared f.place) (placed ++ [f.staged]) rest

/-- Writes artifacts, each by way of a file of the given name. -/
def writeBeside (d : DirectorySink) (named : List (Artifact × String)) (t : FileTree) :
    FileTree × Except Failure Unit :=
  match d.stageAllBeside t [] named with
  | (t, .error e) => (t, .error (.system e))
  | (t, .ok files) => placeBeside t [] files

/-- The names are new: nothing stands at their places, no two of them share a place, and the
artifacts need none of these places for directories or as targets. -/
structure Unused (d : DirectorySink) (t : FileTree) (named : List (Artifact × String)) : Prop where
  distinct : (named.map (d.besideTarget t)).Nodup
  free : ∀ n ∈ named, t.lookup (d.besideTarget t n) = none
  unneeded : ∀ n ∈ named, ∀ a ∈ named.map Prod.fst, ¬ t.OnWay (d.fullPath a) (d.besideTarget t n)
  untargeted : ∀ n ∈ named, ∀ a ∈ named.map Prod.fst, d.target t a ≠ d.besideTarget t n

/-! ## New names -/

theorem exists_getLast?_fullPath (d : DirectorySink) (a : Artifact) :
    ∃ n, (Path.components (d.fullPath a)).getLast? = some (.name n) := by
  obtain ⟨n, last⟩ := a.exists_getLast?_relativePath
  exact ⟨n, Path.getLast?_components (Path.getLast?_inner_push last)⟩

/-- Names that occur nowhere in the tree and in no path of the artifacts are new. -/
theorem unused_of_fresh {named : List (Artifact × String)}
    (distinct : (named.map Prod.snd).Nodup)
    (working : ∀ n ∈ named, n.2 ∉ t.workingDirectory)
    (entries : ∀ n ∈ named, ∀ l ∈ t.entries.keys, n.2 ∉ l)
    (paths : ∀ n ∈ named, ∀ a ∈ named.map Prod.fst,
      .name n.2 ∉ Path.components (d.fullPath a)) : d.Unused t named := by
  have away {n : Artifact × String} (member : n ∈ named) {a : Artifact}
      (listed : a ∈ named.map Prod.fst) {steps : List PathComponent}
      (front : steps ⊆ Path.components (d.fullPath a)) :
      n.2 ∉ steps.foldl advance (t.origin (d.fullPath a)) := by
    intro inside
    rcases mem_foldl_advance inside with start | on
    · rw [origin] at start
      split at start
      next => cases start
      next => exact working n member start
    · exact paths n member a listed (front on)
  have last (n : Artifact × String) : (d.besideTarget t n).getLast? = some n.2 := by
    rw [besideTarget, List.getLast?_concat]
  have inside (n : Artifact × String) : n.2 ∈ d.besideTarget t n := List.mem_of_getLast? (last n)
  constructor
  case distinct =>
    have ends : (named.map (d.besideTarget t)).map List.getLast? =
        (named.map Prod.snd).map some := by
      simp only [List.map_map, Function.comp_def, last]
    refine List.Nodup.of_map List.getLast? ?_
    rw [ends]
    exact distinct.map (Option.some_injective _)
  case free =>
    intro n member
    have some : d.besideTarget t n ≠ [] := List.ne_nil_of_mem (inside n)
    rw [lookup, if_neg some]
    by_contra there
    exact entries n member _ (Dictionary.mem_keys.2 there) (inside n)
  case unneeded =>
    rintro n member a listed ⟨steps, front, same⟩
    obtain ⟨_, last⟩ := d.exists_getLast?_fullPath a
    rw [Path.components_parent last] at front
    refine away member listed (front.trans (List.dropLast_prefix _)).subset ?_
    rw [← same]
    exact inside n
  case untargeted =>
    intro n member a listed same
    refine away member listed (List.Subset.refl _) ?_
    rw [← locate, ← target, same]
    exact inside n

/-- There are always new names. -/
theorem exists_unused (d : DirectorySink) (t : FileTree) (artifacts : List Artifact) :
    ∃ named, named.map Prod.fst = artifacts ∧ d.Unused t named := by
  let used : List String := t.workingDirectory ++ t.entries.keys.flatten ++
    (artifacts.flatMap fun a => Path.components (d.fullPath a)).filterMap PathComponent.name?
  have finite : {n | n ∈ used}.Finite := List.finite_toSet used
  obtain ⟨names, fresh, card⟩ := finite.infinite_compl.exists_subset_card_eq artifacts.length
  have unused : ∀ n ∈ artifacts.zip names.toList, n.2 ∉ used := fun n member =>
    fresh (Finset.mem_toList.1 (List.of_mem_zip member).2)
  have long : artifacts.length = names.toList.length := by rw [Finset.length_toList, card]
  have firsts : (artifacts.zip names.toList).map Prod.fst = artifacts :=
    List.map_fst_zip long.le
  refine ⟨artifacts.zip names.toList, firsts, unused_of_fresh ?_ ?_ ?_ ?_⟩
  · rw [List.map_snd_zip long.ge]
    exact names.nodup_toList
  · intro n member working
    exact unused n member (List.mem_append_left _ (List.mem_append_left _ working))
  · intro n member l key inside
    refine unused n member (List.mem_append_left _ (List.mem_append_right _ ?_))
    exact List.mem_flatten.2 ⟨l, key, inside⟩
  · rw [firsts]
    intro n member a listed on
    refine unused n member (List.mem_append_right _ ?_)
    exact List.mem_filterMap.2 ⟨.name n.2, List.mem_flatMap.2 ⟨a, listed, on⟩, rfl⟩

/-! ## Staging -/

theorem stage_covers (covers : Covers t bare aside) {a : Artifact}
    (away : ∀ l, bare.OnWay (d.fullPath a) l → l ∉ aside) :
    (d.stage t a).2 = (d.stage bare a).2 ∧ Covers (d.stage t a).1 (d.stage bare a).1 aside := by
  have apart : ∀ steps, steps <+: Path.components (Path.parent (d.fullPath a)) →
      steps.foldl advance (bare.origin (d.fullPath a)) ∉ aside :=
    fun steps front => away _ ⟨steps, front, rfl⟩
  obtain ⟨outcome, tree⟩ := covers.createAlong false apart
  have made : (t.createDirectories (Path.parent (d.fullPath a))).outcome =
        (bare.createDirectories (Path.parent (d.fullPath a))).outcome ∧
      Covers (t.createDirectories (Path.parent (d.fullPath a))).tree
        (bare.createDirectories (Path.parent (d.fullPath a))).tree aside := by
    rw [createDirectories, createDirectories, origin_parent, origin_parent, covers.origin_eq]
    split
    next => exact ⟨rfl, covers⟩
    next => exact ⟨outcome, tree⟩
  have absolute (path : String) : t.checkAbsolute path = bare.checkAbsolute path := by
    rw [checkAbsolute, checkAbsolute, covers.workingDirectory]
  unfold stage
  dsimp only
  rw [made.1, absolute]
  exact ⟨rfl, made.2⟩

theorem discard_covers {files : List Beside} (covers : Covers t bare (files.map (·.place)))
    (distinct : (files.map (·.place)).Nodup) : Covers (discard t files) bare [] := by
  induction files generalizing t with
  | nil => exact covers
  | cons f files ih =>
      obtain ⟨single, distinct⟩ := List.nodup_cons.1 distinct
      exact ih (covers.release single) distinct

/-- **Staging with files aside** stops where staging stops, and then leaves none of them; otherwise
it leaves one for each artifact. -/
theorem stageAllBeside_spec (staged : List Beside) {named : List (Artifact × String)}
    (covers : Covers t bare (staged.map (·.place)))
    (distinct : (staged.map (·.place) ++ named.map (d.besideTarget bare)).Nodup)
    (free : ∀ n ∈ named, bare.lookup (d.besideTarget bare n) = none)
    (unneeded : ∀ l ∈ staged.map (·.place) ++ named.map (d.besideTarget bare),
      ∀ a ∈ named.map Prod.fst, ¬ bare.OnWay (d.fullPath a) l) :
    (∃ e, (d.stageAll bare (named.map Prod.fst)).2 = .error e ∧
        (d.stageAllBeside t staged named).2 = .error e ∧
        Covers (d.stageAllBeside t staged named).1 (d.stageAll bare (named.map Prod.fst)).1 []) ∨
      ∃ files, (d.stageAll bare (named.map Prod.fst)).2 = .ok (files.map (·.staged)) ∧
        files.map (·.place) = named.map (d.besideTarget bare) ∧
        (d.stageAllBeside t staged named).2 = .ok (staged ++ files) ∧
        Covers (d.stageAllBeside t staged named).1 (d.stageAll bare (named.map Prod.fst)).1
          ((staged ++ files).map (·.place)) := by
  induction named generalizing t bare staged with
  | nil =>
      refine .inr ⟨[], rfl, rfl, ?_, ?_⟩
      · rw [List.append_nil]
        rfl
      · rw [List.append_nil]
        exact covers
  | cons n named ih =>
      have away : ∀ l, bare.OnWay (d.fullPath n.1) l → l ∉ staged.map (·.place) :=
        fun l way member => unneeded l (List.mem_append_left _ member) n.1 List.mem_cons_self way
      obtain ⟨grown, ready⟩ := d.stage_spec bare n.1
      obtain ⟨outcome, covers'⟩ := stage_covers covers away
      rw [List.map_cons, stageAll, stageAllBeside, stageBeside]
      generalize d.stage bare n.1 = result at grown ready outcome covers'
      generalize d.stage t n.1 = result' at outcome covers'
      obtain ⟨bare₁, e | f⟩ := result
      · -- Both calls stop at this artifact, and the files of those before it are discarded.
        obtain ⟨t₁, _⟩ := result'
        obtain rfl : _ = Except.error e := outcome
        exact .inl ⟨e, rfl, rfl, discard_covers covers' (List.nodup_append.1 distinct).1⟩
      · -- The file of this artifact joins those that are covered, before the others are staged.
        obtain ⟨t₁, _⟩ := result'
        obtain rfl : _ = Except.ok f := outcome
        obtain rfl := ready f rfl
        have places : d.besideTarget bare₁ = d.besideTarget bare := by
          funext m
          simp only [besideTarget, target, grown.locate_eq]
        have still (m : Artifact × String) (member : m ∈ n :: named) :
            bare₁.lookup (d.besideTarget bare m) = none :=
          grown.lookup_eq_none (free m member) (unneeded _ (List.mem_append_right _
            (List.mem_map_of_mem member)) n.1 List.mem_cons_self)
        have behind := @ih (t₁.put (d.besideTarget bare n) (.file (d.ready bare n.1).content))
          bare₁ (staged ++ [⟨d.ready bare n.1, d.besideTarget bare n⟩])
        simp only [places, grown.onWay_iff, List.map_append, List.map_singleton,
          List.append_assoc, List.singleton_append] at behind
        specialize behind (covers'.hold (still n List.mem_cons_self) _) distinct
          (fun m member => still m (List.mem_cons_of_mem _ member))
          fun l member a listed => unneeded l member a (List.mem_cons_of_mem _ listed)
        have place : (d.ready bare n.1).target.dropLast ++ [n.2] = d.besideTarget bare n := by
          rw [target_ready]
          rfl
        dsimp only
        rw [place]
        rcases behind with ⟨e, failed, failed', covered⟩ | ⟨files, done, names, done', covered⟩
        · generalize d.stageAll bare₁ (named.map Prod.fst) = rest at failed covered
          obtain ⟨bare₂, _⟩ := rest
          obtain rfl : _ = Except.error e := failed
          exact .inl ⟨e, rfl, failed', covered⟩
        · generalize d.stageAll bare₁ (named.map Prod.fst) = rest at done covered
          obtain ⟨bare₂, _⟩ := rest
          obtain rfl : _ = Except.ok (files.map (·.staged)) := done
          refine .inr ⟨⟨d.ready bare n.1, d.besideTarget bare n⟩ :: files, rfl, ?_, done', ?_⟩
          · rw [List.map_cons, names, List.map_cons]
          · rw [List.map_append, List.map_cons]
            exact covered

/-! ## Moving -/

theorem moveInto_covers (covers : Covers t bare aside) (path : String) {l : Location}
    (away : l ∉ aside) (content : ByteArray) :
    (∃ e, t.moveInto path l content = .error e ∧ bare.moveInto path l content = .error e) ∨
      ∃ t' bare', t.moveInto path l content = .ok t' ∧ bare.moveInto path l content = .ok bare' ∧
        Covers t' bare' aside := by
  have same := covers.isDirectory_eq away
  cases moved : bare.moveInto path l content with
  | error e =>
      refine .inl ⟨e, ?_, rfl⟩
      unfold moveInto at moved ⊢
      rw [same]
      revert moved
      split_ifs <;> simp
  | ok bare' =>
      obtain ⟨⟨possible, free⟩, rfl⟩ := moveInto_eq_ok.1 moved
      exact .inr ⟨_, _, moveInto_eq_ok.2 ⟨⟨possible, same.trans free⟩, rfl⟩, rfl,
        covers.put away (ne_nil_of_isDirectory_eq_false free) _⟩

theorem rollBack_covers {files : List Staged} (covers : Covers t bare aside)
    (away : ∀ f ∈ files, f.target ∉ aside) :
    Covers (rollBack t files).1 (rollBack bare files).1 aside := by
  induction files generalizing t bare with
  | nil => exact covers
  | cons f files ih =>
      obtain ⟨here, away⟩ := List.forall_mem_cons.1 away
      rw [rollBack_cons, rollBack_cons]
      exact ih (covers.cleared here) away

/-- **Moving with files aside** has the outcome of moving, and leaves none of them. -/
theorem placeBeside_spec {placed : List Staged} {files : List Beside}
    (covers : Covers t bare (files.map (·.place))) (distinct : (files.map (·.place)).Nodup)
    (away : ∀ f ∈ placed ++ files.map (·.staged), f.target ∉ files.map (·.place)) :
    (placeBeside t placed files).2 = (place bare placed (files.map (·.staged))).outcome ∧
      Covers (placeBeside t placed files).1
        (place bare placed (files.map (·.staged))).state [] := by
  induction files generalizing t bare placed with
  | nil => exact ⟨rfl, covers⟩
  | cons f files ih =>
      obtain ⟨single, distinct'⟩ := List.nodup_cons.1 distinct
      have here := away f.staged (List.mem_append_right _ List.mem_cons_self)
      rw [List.map_cons, placeBeside, place]
      rcases moveInto_covers covers f.staged.path here f.staged.content with
        ⟨e, stuck, stuck'⟩ | ⟨t', bare', moved, moved', covers'⟩
      · rw [stuck, stuck']
        refine ⟨rfl, discard_covers ?_ distinct⟩
        exact rollBack_covers covers fun g member => away g (List.mem_append_left _ member)
      · rw [moved, moved']
        refine ih (covers'.release single) distinct' fun g member => ?_
        rw [List.append_assoc] at member
        exact fun inside => away g member (List.mem_cons_of_mem _ inside)

/-! ## Whole calls -/

/-- **Files aside make no difference.** A call that keeps each content in a file of a new name
beside its target has the outcome of a call that keeps them elsewhere, and leaves the same tree. So
none of these files remains, whether the call succeeds, stops while staging or is rolled back. -/
theorem writeBeside_eq {named : List (Artifact × String)} (unused : d.Unused t named) :
    (d.writeBeside named t).2 = (d.sink.write (named.map Prod.fst) t).outcome ∧
      ∀ l, (d.writeBeside named t).1.lookup l =
        (d.sink.write (named.map Prod.fst) t).state.lookup l := by
  have staging := stageAllBeside_spec [] (.refl t) unused.distinct unused.free
    fun l member a listed => by
      obtain ⟨n, listed', rfl⟩ := List.mem_map.1 member
      exact unused.unneeded n listed' a listed
  have ready := (d.stageAll_spec t (named.map Prod.fst)).2
  suffices same : (d.writeBeside named t).2 = (d.sink.write (named.map Prod.fst) t).outcome ∧
      Covers (d.writeBeside named t).1 (d.sink.write (named.map Prod.fst) t).state [] from
    ⟨same.1, fun l => same.2.outside l List.not_mem_nil⟩
  rw [writeBeside, sink]
  dsimp only
  generalize d.stageAll t (named.map Prod.fst) = result at staging ready
  generalize d.stageAllBeside t [] named = result' at staging
  obtain ⟨bare, _⟩ := result
  obtain ⟨t', _⟩ := result'
  rcases staging with ⟨e, stuck, stuck', covers⟩ | ⟨files, done, places, done', covers⟩
  · obtain rfl : _ = Except.error e := stuck
    obtain rfl : _ = Except.error e := stuck'
    exact ⟨rfl, covers⟩
  · obtain rfl : _ = Except.ok (files.map (·.staged)) := done
    obtain rfl : _ = Except.ok files := done'
    refine placeBeside_spec covers (places ▸ unused.distinct) fun f member inside => ?_
    rw [List.nil_append, ready _ rfl] at member
    obtain ⟨a, listed, rfl⟩ := List.mem_map.1 member
    rw [target_ready, places] at inside
    obtain ⟨n, member, same⟩ := List.mem_map.1 inside
    exact unused.untargeted n member a listed same.symm

end DirectorySink
end RecordSynthesis
