import RecordSynthesis.Proofs.Artifacts
import RecordSynthesis.Proofs.Elaboration
import RecordSynthesis.Proofs.Merging
import RecordSynthesis.Proofs.WriteEffects

/-!
# Where a pass puts its files

A pass into a directory touches no file except at the targets of artifacts of its classes
(`DirectorySink.touched_run`), and an artifact has its target below the source root when its path
neither begins at the root nor leads upwards (`Path.Descends`).

Whether it does is seen from the class. Schema files may hold any text as the package and as the
wished name of the implementation, and no check refuses one. The names that follow the naming rules
never lead anywhere but into the directory of the package; a wished name and a part of the package
may, and `ModelClass.Contained` says exactly when they do not. So a pass may write outside its
source root (`DirectorySink.orderBatch_escapes`), and it stays below the root when every class that
it writes is contained (`DirectorySink.run_contained`).
-/

set_option autoImplicit false

namespace RecordSynthesis

open RecordSynthesis.Text Snapshot FileTree

/-! ## Paths that lead downwards -/

namespace Path

variable {path more : String}

/-- The path neither begins at the root nor leads upwards anywhere. -/
def Descends (path : String) : Prop :=
  .root ∉ components path ∧ .parent ∉ components path

instance : DecidablePred Descends := fun _ => inferInstanceAs (Decidable (_ ∧ _))

theorem descends_iff : Descends path ↔ isAbsolute path = false ∧ ".." ∉ segments '/' path := by
  rw [Descends, root_mem_components, parent_mem_components, Bool.not_eq_true]

theorem descends_iff_inner (relative : isAbsolute path = false) :
    Descends path ↔ .parent ∉ inner path := by
  rw [Descends, and_iff_right, components_eq, List.mem_append, or_iff_right parent_not_mem_lead]
  rw [root_mem_components, relative]
  exact Bool.false_ne_true

/-- A path leads downwards below another one exactly when both do. -/
theorem descends_push : Descends (push path more) ↔ Descends path ∧ Descends more := by
  cases absolute : isAbsolute more with
  | true => simp [descends_iff, push, absolute]
  | false =>
      by_cases empty : path = ""
      · rw [empty, push_empty, and_iff_right (by decide)]
      · rw [Descends, components_push absolute empty, List.mem_append, List.mem_append,
          or_iff_left root_not_mem_inner, not_or, ← and_assoc, descends_iff_inner absolute,
          Descends]

theorem descends_foldl_push {parts : List String} :
    Descends (parts.foldl push path) ↔ Descends path ∧ ∀ part ∈ parts, Descends part := by
  induction parts generalizing path with
  | nil => simp
  | cons part parts ih => rw [List.foldl_cons, ih, descends_push, List.forall_mem_cons, and_assoc]

/-- Without dots only a slash at the start leads anywhere but downwards. -/
theorem descends_iff_of_not_mem (dotless : '.' ∉ path.toList) :
    Descends path ↔ isAbsolute path = false := by
  rw [descends_iff, and_iff_left]
  exact fun up => dotless (mem_of_mem_segments up (by decide)).1

/-- A source file of this name stays below the directory that it is named in: the name begins with
no slash, and no part of it in front of a slash is made of two dots. -/
def KeepsBelow (name : String) : Prop :=
  isAbsolute name = false ∧ ".." ∉ (segments '/' name).dropLast

instance : DecidablePred KeepsBelow := fun _ => inferInstanceAs (Decidable (_ ∧ _))

/-- The ending of the file keeps two dots at the end of its name from leading upwards. -/
theorem descends_fileName {name : String} : Descends (name ++ ".java") ↔ KeepsBelow name := by
  have first : isAbsolute (name ++ ".java") = isAbsolute name := by
    rw [isAbsolute, isAbsolute, String.toList_append, List.head?_append]
    cases name.toList with
    | nil => rfl
    | cons c cs => rfl
  obtain ⟨others, last, cut, cut'⟩ :=
    exists_segments_append (show '/' ∉ ".java".toList by decide) name
  -- The ending belongs to the last segment, so only the segments in front can be two dots.
  have named : last ++ ".java" ≠ ".." := by
    intro same
    have inside : 'j' ∈ (last ++ ".java").toList := by simp
    rw [same] at inside
    exact absurd inside (by decide)
  rw [descends_iff, KeepsBelow, first, cut, cut', List.dropLast_concat, List.mem_append,
    List.mem_singleton, or_iff_left named.symm]

end Path

/-! ## Artifacts and classes -/

/-- **The path of an artifact leads downwards** exactly when no part of its package begins with a
slash and its name keeps below the package. -/
theorem Artifact.descends_relativePath {a : Artifact} :
    Path.Descends a.relativePath ↔
      (∀ part ∈ segments '.' a.package, Path.isAbsolute part = false) ∧
        Path.KeepsBelow a.typeName := by
  rw [relativePath, Path.descends_push, Path.descends_foldl_push, Path.descends_fileName]
  have above : Path.Descends "" := by decide
  rw [and_iff_right above]
  refine and_congr_left' ⟨fun parts part member => ?_, fun parts part member => ?_⟩
  · by_cases empty : part = ""
    · rw [empty]
      rfl
    · have listed : part ∈ (segments '.' a.package).filter (· ≠ "") :=
        List.mem_filter.2 ⟨member, decide_eq_true empty⟩
      exact (Path.descends_iff.1 (parts part listed)).1
  · obtain ⟨member, _⟩ := List.mem_filter.1 member
    refine (Path.descends_iff_of_not_mem fun inside => ?_).2 (parts part member)
    exact (mem_of_mem_segments member inside).2 rfl

namespace ModelClass

/-- No name of the chain holds a dot. -/
def IsCut (c : ModelClass) : Prop := ∀ name ∈ c.chain, '.' ∉ name.toList

/-- The class keeps its files below the source root: no part of its package begins with a slash, and
if it wishes for a name of the implementation, this name keeps below the package. -/
def Contained (c : ModelClass) : Prop :=
  (∀ part ∈ segments '.' c.package, Path.isAbsolute part = false) ∧
    ∀ name ∈ c.implementation.className, Path.KeepsBelow name

instance : DecidablePred Contained := fun _ => inferInstanceAs (Decidable (_ ∧ _))

variable {c : ModelClass}

/-- Names that follow the naming rules keep below their package. -/
theorem IsCut.keepsBelow (cut : c.IsCut) {start : String} (dotless : '.' ∉ start.toList)
    (some : start ≠ "") (relative : Path.isAbsolute start = false) :
    Path.KeepsBelow (start ++ chainText "_" c.chain) := by
  have clean : '.' ∉ (chainText "_" c.chain).toList :=
    not_mem_joined (by decide) fun name inside => cut name (List.dropWhile_subset _ inside)
  constructor
  · rw [Path.isAbsolute, String.toList_append, List.head?_append_of_ne_nil]
    · exact relative
    · simpa using some
  · intro up
    have dot : '.' ∈ "..".toList := by decide
    have inside := (mem_of_mem_segments ((List.dropLast_sublist _).subset up) dot).1
    rw [String.toList_append, List.mem_append] at inside
    exact inside.elim dotless clean

theorem IsCut.keepsBelow_implementationName (cut : c.IsCut) :
    Path.KeepsBelow c.implementationName ↔
      ∀ name ∈ c.implementation.className, Path.KeepsBelow name := by
  rw [implementationName]
  cases c.implementation.className with
  | none =>
      have rules : Path.KeepsBelow (implementationTypeName c.chain) :=
        cut.keepsBelow (by decide) (by decide) (by decide)
      simpa using rules
  | some name => simp

/-- **The files of a class** have paths that lead downwards exactly when the class is contained. -/
theorem IsCut.descends_artifacts (cut : c.IsCut) {settings : Settings} {s : Snapshot}
    {g : GeneratedClass} (generated : generate settings s c = .ok g) :
    (∀ a ∈ g.artifacts, Path.Descends a.relativePath) ↔ c.Contained := by
  obtain ⟨record, implementation, files⟩ := artifactsOf_eq generated
  rw [artifactsOf_of_generate generated] at files
  have rules : Path.KeepsBelow (recordTypeName c.chain) :=
    cut.keepsBelow (by decide) (by decide) (by decide)
  rw [files, List.forall_mem_cons, List.forall_mem_singleton, Artifact.descends_relativePath,
    Artifact.descends_relativePath, and_iff_left rules, cut.keepsBelow_implementationName,
    and_iff_right_of_imp And.left, Contained]

end ModelClass

/-! ## Classes from schema files -/

theorem ModelEntry.isCut_of_elaborate {e : ModelEntry} {package : String} {settings : Settings}
    {c : ModelClass} (done : e.elaborate package settings = .ok c) : c.IsCut := by
  intro name member inside
  rw [(yields_of_elaborate done).chain] at member
  exact (mem_of_mem_segments member inside).2 rfl

theorem Batch.isCut_of_loadFile {t : FileTree} {settings : Settings} {path : String} {b : Batch}
    (loaded : loadFile t settings path = .ok b) : ∀ c ∈ b.classes, c.IsCut := by
  obtain ⟨file, _, elaborated⟩ := loadFile_eq_ok.1 loaded
  obtain ⟨classes, models, result⟩ := bind_eq_ok.1 elaborated
  cases result
  intro c listed
  obtain ⟨e, _, done⟩ := exists_of_mem_mapM models c listed
  exact ModelEntry.isCut_of_elaborate done

/-- **The classes of schema files** have chains that are cut at dots. -/
theorem Batch.isCut_of_load {t : FileTree} {settings : Settings} {paths : List String} {b : Batch}
    (loaded : load t settings paths = .ok b) : ∀ c ∈ b.classes, c.IsCut := by
  obtain ⟨parts, files, rfl⟩ := load_eq_ok.1 loaded
  intro c listed
  obtain ⟨part, member, listed⟩ := (mem_classes_foldl_merge.1 listed).resolve_left nofun
  obtain ⟨path, _, done⟩ := exists_of_mem_mapM files part member
  exact isCut_of_loadFile done c listed

/-! ## Calls and passes -/

namespace DirectorySink

variable {d : DirectorySink} {t middle after : FileTree} {artifacts others : List Artifact}

/-- Files of two trees differ at the targets of some artifacts only, and a file that is left there
holds the source of one of those for this target. -/
structure Touched (d : DirectorySink) (t after : FileTree) (artifacts : List Artifact) : Prop where
  workingDirectory : after.workingDirectory = t.workingDirectory
  file? : ∀ l, after.file? l = t.file? l ∨ ∃ a ∈ artifacts, l = d.target t a ∧
    ∀ content, after.file? l = some content → content = a.source.toUTF8

theorem Touched.refl (d : DirectorySink) (t : FileTree) (artifacts : List Artifact) :
    d.Touched t t artifacts :=
  ⟨rfl, fun _ => .inl rfl⟩

theorem Touched.trans (first : d.Touched t middle artifacts)
    (second : d.Touched middle after others) : d.Touched t after (artifacts ++ others) where
  workingDirectory := second.workingDirectory.trans first.workingDirectory
  file? l := by
    have target (a : Artifact) : d.target middle a = d.target t a := by
      rw [DirectorySink.target, DirectorySink.target, locate, locate, origin, origin,
        first.workingDirectory]
    rcases second.file? l with same | ⟨a, member, here, source⟩
    · rcases first.file? l with same' | ⟨a, member, here, source⟩
      · exact .inl (same.trans same')
      · exact .inr ⟨a, List.mem_append_left _ member, here, same ▸ source⟩
    · exact .inr ⟨a, List.mem_append_right _ member, here.trans (target a), source⟩

theorem workingDirectory_rollBack (t : FileTree) (files : List Staged) :
    (rollBack t files).1.workingDirectory = t.workingDirectory := by
  induction files generalizing t with
  | nil => rfl
  | cons f files ih => rw [rollBack_cons, ih, workingDirectory_cleared]

theorem workingDirectory_place (t : FileTree) (placed staged : List Staged) :
    (place t placed staged).state.workingDirectory = t.workingDirectory := by
  induction staged generalizing t placed with
  | nil => rfl
  | cons f staged ih =>
      rw [place]
      cases moved : t.moveInto f.path f.target f.content with
      | error e => exact workingDirectory_rollBack t placed
      | ok t' =>
          obtain ⟨_, rfl⟩ := moveInto_eq_ok.1 moved
          exact ih _ _

/-- No call leads to another working directory. -/
theorem workingDirectory_write (d : DirectorySink) (artifacts : List Artifact) (t : FileTree) :
    (d.sink.write artifacts t).state.workingDirectory = t.workingDirectory := by
  have grown := (d.stageAll_spec t artifacts).1
  rw [sink]
  dsimp only
  generalize d.stageAll t artifacts = result at grown
  obtain ⟨t₁, _ | staged⟩ := result
  · exact grown.workingDirectory
  · exact (workingDirectory_place t₁ [] staged).trans grown.workingDirectory

theorem GivenUp.subset {moved : List Artifact} (givenUp : d.GivenUp t after artifacts moved) :
    moved ⊆ artifacts := by
  rcases givenUp.cause with ⟨_, rfl⟩ | ⟨a, rest, rfl, _⟩
  · exact List.nil_subset _
  · exact List.subset_append_left _ _

/-- **A call touches no file** but those at the targets of its artifacts. -/
theorem touched_write (d : DirectorySink) (artifacts : List Artifact) (t : FileTree) :
    d.Touched t (d.sink.write artifacts t).state artifacts where
  workingDirectory := workingDirectory_write d artifacts t
  file? l := by
    cases outcome : (d.sink.write artifacts t).outcome with
    | ok _ =>
        rw [file?_write outcome, contentFor?]
        cases last : (artifacts.filter (d.target t · = l)).getLast? with
        | none => exact .inl rfl
        | some a =>
            obtain ⟨member, here⟩ := List.mem_filter.1 (List.mem_of_getLast? last)
            refine .inr ⟨a, member, (of_decide_eq_true here).symm, ?_⟩
            rintro _ ⟨⟩
            rfl
    | error failure =>
        obtain ⟨moved, givenUp, _⟩ := write_failed outcome
        rw [givenUp.file?]
        split
        next target =>
          obtain ⟨a, member, here⟩ := List.mem_map.1 target
          refine .inr ⟨a, givenUp.subset member, here.symm, ?_⟩
          rintro _ ⟨⟩
        next => exact .inl rfl

/-- Deciding a class touches no file but those at the targets of its artifacts. -/
theorem touched_decideClass (settings : Settings) (s : Snapshot) (d : DirectorySink)
    (p : Progress FileTree) (c : ModelClass) :
    d.Touched p.state (p.decideClass settings s d.sink c).state (artifactsOf settings s c) := by
  simp only [Progress.decideClass]
  split
  next => exact .refl d p.state _
  next =>
    split
    next =>
      simp only [Progress.generateClass]
      cases outcome : generate settings s c with
      | error failure => exact .refl d p.state _
      | ok g =>
          rw [artifactsOf_of_generate outcome]
          simp only [Progress.written, Progress.logged]
          split
          next => exact touched_write d g.artifacts p.state
          next => exact touched_write d g.artifacts p.state
    next => exact .refl d p.state _

/-- **A pass touches no file** but those at the targets of artifacts of its classes. -/
theorem touched_run (settings : Settings) (b : Batch) (d : DirectorySink) (t : FileTree) :
    d.Touched t (run settings b d.sink t).state
      ((firstDeclarations [] b.classes).flatMap (artifactsOf settings (discover b))) := by
  refine run_induction settings b d.sink t
    (motive := fun done _ state =>
      d.Touched t state (done.flatMap (artifactsOf settings (discover b)))) (.refl d t []) ?_
  intro done p c before _
  rw [List.flatMap_append, List.flatMap_singleton]
  exact before.trans (touched_decideClass settings _ d p c)

theorem exists_generate_of_mem_artifactsOf {settings : Settings} {s : Snapshot} {c : ModelClass}
    {a : Artifact} (member : a ∈ artifactsOf settings s c) :
    ∃ g, generate settings s c = .ok g := by
  cases outcome : generate settings s c with
  | error failure =>
      rw [artifactsOf, outcome] at member
      cases member
  | ok g => exact ⟨g, rfl⟩

/-- The target of an artifact whose path leads downwards is below the source root. -/
theorem exists_target_eq {a : Artifact} (descends : Path.Descends a.relativePath)
    (d : DirectorySink) (t : FileTree) :
    ∃ names, names ≠ [] ∧ d.target t a = t.locate d.root ++ names := by
  have relative := (Path.descends_iff.1 descends).1
  obtain ⟨n, last⟩ := a.exists_getLast?_relativePath
  refine ⟨_, ?_, locate_push t relative descends.2⟩
  have named : n ∈ (Path.inner a.relativePath).filterMap PathComponent.name? :=
    List.mem_filterMap.2 ⟨_, List.mem_of_getLast? last, rfl⟩
  exact List.ne_nil_of_mem named

/-! ## Passes over schema files -/

/-- **Where a pass over schema files puts its files.** It touches no file but those at the targets
of artifacts of classes that it can generate. The paths of the artifacts of such a class lead
downwards exactly when the class is contained. So when all of them are contained, every file that
the pass creates, replaces or removes is below its source root. -/
theorem run_contained {source : FileTree} {given : Settings} {paths : List String} {b : Batch}
    (loaded : Batch.load source given paths = .ok b) (settings : Settings) (d : DirectorySink)
    (t : FileTree) :
    (∀ l, (run settings b d.sink t).state.file? l ≠ t.file? l →
      ∃ c ∈ b.classes, ∃ g, generate settings (discover b) c = .ok g ∧
        ∃ a ∈ g.artifacts, l = d.target t a ∧
          ∀ content, (run settings b d.sink t).state.file? l = some content →
            content = a.source.toUTF8) ∧
    (∀ c ∈ b.classes, ∀ g, generate settings (discover b) c = .ok g →
      ((∀ a ∈ g.artifacts, Path.Descends a.relativePath) ↔ c.Contained) ∧
        (c.Contained → ∀ a ∈ g.artifacts,
          ∃ names, names ≠ [] ∧ d.target t a = t.locate d.root ++ names)) ∧
    ((∀ c ∈ b.classes, (∃ g, generate settings (discover b) c = .ok g) → c.Contained) →
      ∀ l, (run settings b d.sink t).state.file? l ≠ t.file? l →
        ∃ names, names ≠ [] ∧ l = t.locate d.root ++ names) := by
  have cut := Batch.isCut_of_load loaded
  have touched : ∀ l, (run settings b d.sink t).state.file? l ≠ t.file? l →
      ∃ c ∈ b.classes, ∃ g, generate settings (discover b) c = .ok g ∧
        ∃ a ∈ g.artifacts, l = d.target t a ∧
          ∀ content, (run settings b d.sink t).state.file? l = some content →
            content = a.source.toUTF8 := by
    intro l differs
    obtain ⟨a, member, here, left⟩ :=
      ((touched_run settings b d t).file? l).resolve_left differs
    obtain ⟨c, first, member⟩ := List.mem_flatMap.1 member
    obtain ⟨g, generated⟩ := exists_generate_of_mem_artifactsOf member
    rw [artifactsOf_of_generate generated] at member
    exact ⟨c, firstDeclarations_subset first, g, generated, a, member, here, left⟩
  have below : ∀ c ∈ b.classes, ∀ g, generate settings (discover b) c = .ok g → c.Contained →
      ∀ a ∈ g.artifacts, ∃ names, names ≠ [] ∧ d.target t a = t.locate d.root ++ names :=
    fun c listed g generated contained a member =>
      exists_target_eq (((cut c listed).descends_artifacts generated).2 contained a member) d t
  refine ⟨touched, fun c listed g generated =>
    ⟨(cut c listed).descends_artifacts generated, below c listed g generated⟩, ?_⟩
  intro contained l differs
  obtain ⟨c, listed, g, generated, a, member, rfl, _⟩ := touched l differs
  exact below c listed g generated (contained c listed ⟨g, generated⟩) a member

/-! ## A model that wishes for a place -/

/-- The text of a schema file with a model that wishes for a name of its implementation. -/
def orderSchema (name : String) : String :=
  "package = \"shop\"\n[[model]]\nname = \"Order\"\ntrigger = \"toRealmObject\"\n" ++
    "implementation = \x7b class_name = \"" ++ name ++ "\" \x7d\n"

/-- A working directory with this file. -/
def orderTree (name : String) : FileTree :=
  (ofWorkingDirectory ["work"]).withFile "shop.toml" (some (orderSchema name).toUTF8)

/-- The batch of this file. -/
def orderBatch (name : String) : Batch :=
  .ofClasses [⟨"shop", [], "Order", some "toRealmObject", [], { className := name }⟩]

/-- What the file holds. -/
def orderFile (name : String) : SchemaFile where
  package := "shop"
  models := [{
    name := "Order"
    trigger := some "toRealmObject"
    implementation := { className := name } }]

theorem load_orderTree {name : String}
    (parsed : SchemaFile.load (orderTree name) "shop.toml" = .ok (orderFile name)) :
    Batch.load (orderTree name) {} ["shop.toml"] = .ok (orderBatch name) := by
  have elaborated : (orderFile name).elaborate {} = .ok (orderBatch name) := by
    simp [SchemaFile.elaborate, orderFile, orderBatch, Batch.ofClasses, ModelEntry.elaborate,
      ModelEntry.triggerFor, elaborateProperties, segments, pieces]
  have loaded : Batch.loadFile (orderTree name) {} "shop.toml" = .ok (orderBatch name) :=
    Batch.loadFile_eq_ok.2 ⟨_, parsed, elaborated⟩
  exact Batch.load_eq_ok.2 ⟨[orderBatch name], mapM_eq_ok.2 (.cons loaded .nil), rfl⟩

/-- A directory inside the package is below the source root. -/
theorem orderBatch_contained :
    Batch.load (orderTree "inner/Order") {} ["shop.toml"] = .ok (orderBatch "inner/Order") ∧
      let after := (run {} (orderBatch "inner/Order") (DirectorySink.mk "out/gen").sink
        (orderTree "inner/Order")).state
      (after.file? ["work", "out", "gen", "shop", "inner", "Order.java"]).isSome ∧
        ∀ l, after.file? l ≠ (orderTree "inner/Order").file? l →
          ∃ names, names ≠ [] ∧ l = ["work", "out", "gen"] ++ names := by
  have loaded : Batch.load (orderTree "inner/Order") {} ["shop.toml"] =
      .ok (orderBatch "inner/Order") := load_orderTree (by decide +kernel)
  refine ⟨loaded, by decide +kernel, fun l differs => ?_⟩
  refine (run_contained loaded {} ⟨"out/gen"⟩ (orderTree "inner/Order")).2.2 ?_ l differs
  intro c listed _
  rw [List.mem_singleton.1 listed]
  decide +kernel

/-- **A pass writes outside its source root.** Two dots in the wished name lead out of it, and no
check refuses them. -/
theorem orderBatch_escapes :
    Batch.load (orderTree "../../Order") {} ["shop.toml"] = .ok (orderBatch "../../Order") ∧
      let result := run {} (orderBatch "../../Order") (DirectorySink.mk "out/gen").sink
        (orderTree "../../Order")
      result.report = ⟨["shop.Order"], [], []⟩ ∧
        (orderTree "../../Order").file? ["work", "out", "Order.java"] = none ∧
        (result.state.file? ["work", "out", "Order.java"]).isSome ∧
        (orderTree "../../Order").locate "out/gen" = ["work", "out", "gen"] ∧
        ¬ ["work", "out", "gen"] <+: ["work", "out", "Order.java"] ∧
        ∃ a ∈ artifactsOf {} (discover (orderBatch "../../Order"))
          ⟨"shop", [], "Order", some "toRealmObject", [], { className := "../../Order" }⟩,
          .parent ∈ Path.components a.relativePath := by
  refine ⟨load_orderTree (by decide +kernel), ?_⟩
  decide +kernel

end DirectorySink

end RecordSynthesis
