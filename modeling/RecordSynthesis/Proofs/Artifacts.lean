import RecordSynthesis.Proofs.Accounting
import RecordSynthesis.Proofs.Generation
import RecordSynthesis.Proofs.Paths

/-!
# Which artifacts are kept

A pass writes two files for every generated class. Their names are fixed by the class and nothing
in a pass keeps two of them from being the same; a later file then takes the place of an earlier
one, and the report still counts both classes as generated (`twinBatch_loses`).

The main statement is `run_holdings`. After a pass that began with the empty memory store, every
path holds the last artifact written there. So all artifacts are kept exactly when those that share
a path have the same source. Classes with plain names never share a path.
-/

set_option autoImplicit false

namespace RecordSynthesis

open Snapshot RecordSynthesis.Text

/-! ## The memory store -/

namespace MemoryStore

/-- The source at a path after writing artifacts: that of the last artifact with the path. -/
def lastSource? (artifacts : List Artifact) (path : String) : Option String :=
  (artifacts.filter fun a => Path.components a.relativePath = Path.components path).getLast?.map
    (·.source)

theorem get?_add (m : MemoryStore) (a : Artifact) (path : String) :
    (m.add a).get? path =
      if Path.components a.relativePath = Path.components path then some a.source
      else m.get? path := by
  rw [get?, add, put, Dictionary.find?_insert]
  split
  next => rfl
  next => rfl

/-- The last artifact with a path wins; a path without artifact keeps its file. -/
theorem get?_foldl_add (artifacts : List Artifact) (m : MemoryStore) (path : String) :
    (artifacts.foldl add m).get? path = (lastSource? artifacts path).or (m.get? path) := by
  induction artifacts using List.reverseRecOn with
  | nil => rfl
  | append_singleton front last ih =>
      rw [List.foldl_append, List.foldl_cons, List.foldl_nil, get?_add, lastSource?,
        List.filter_append]
      split
      next here => simp [here]
      next elsewhere => simp [elsewhere, ih, lastSource?]

theorem lastSource?_eq_some {artifacts : List Artifact} {path source : String}
    (found : lastSource? artifacts path = some source) :
    ∃ a ∈ artifacts, Path.components a.relativePath = Path.components path ∧ a.source = source := by
  obtain ⟨a, last, rfl⟩ := Option.map_eq_some_iff.1 found
  obtain ⟨member, here⟩ := List.mem_filter.1 (List.mem_of_getLast? last)
  exact ⟨a, member, of_decide_eq_true here, rfl⟩

theorem lastSource?_isSome {artifacts : List Artifact} {a : Artifact} (member : a ∈ artifacts) :
    ∃ source, lastSource? artifacts a.relativePath = some source := by
  have some : artifacts.filter (fun other =>
      Path.components other.relativePath = Path.components a.relativePath) ≠ [] :=
    List.ne_nil_of_mem (List.mem_filter.2 ⟨member, decide_eq_true rfl⟩)
  exact ⟨_, by rw [lastSource?, List.getLast?_eq_some_getLast some]; rfl⟩

/-- All artifacts are kept exactly when those that share a path have the same source. -/
theorem all_kept_iff (artifacts : List Artifact) :
    (∀ a ∈ artifacts, lastSource? artifacts a.relativePath = some a.source) ↔
      ∀ a ∈ artifacts, ∀ other ∈ artifacts, a.SamePath other → a.source = other.source := by
  constructor
  · intro kept a member other member' same
    have first := kept a member
    rw [lastSource?, show Path.components a.relativePath = Path.components other.relativePath
      from same] at first
    exact Option.some.inj (first.symm.trans (kept other member'))
  · intro agree a member
    obtain ⟨source, found⟩ := lastSource?_isSome member
    obtain ⟨other, member', here, rfl⟩ := lastSource?_eq_some found
    rw [found, agree a member other member' here.symm]

end MemoryStore

/-! ## The artifacts of a class -/

/-- The artifacts of the generated classes, in the order of the batch. -/
def generatedArtifacts (settings : Settings) (b : Batch) (r : Report) : List Artifact :=
  (callsFor settings (discover b) r b.classes).flatten

/-- A class has two artifacts in its package, the record and the implementation. -/
theorem artifactsOf_eq {settings : Settings} {s : Snapshot} {c : ModelClass} {g : GeneratedClass}
    (generated : generate settings s c = .ok g) :
    ∃ record implementation, artifactsOf settings s c =
      [⟨c.package, recordTypeName c.chain, record⟩,
        ⟨c.package, c.implementationName, implementation⟩] := by
  rw [artifactsOf_of_generate generated]
  rw [generate] at generated
  obtain ⟨_, _, generated⟩ := bind_eq_ok.1 generated
  obtain ⟨_, _, generated⟩ := bind_eq_ok.1 generated
  obtain ⟨v, valid, generated⟩ := bind_eq_ok.1 generated
  obtain ⟨_, _, generated⟩ := bind_eq_ok.1 generated
  obtain ⟨stored, _, last⟩ := bind_eq_ok.1 generated
  obtain ⟨_, rfl⟩ := validate_eq_ok.1 valid
  cases last
  exact ⟨_, _, rfl⟩

theorem mem_artifactsOf {settings : Settings} {s : Snapshot} {c : ModelClass} {a : Artifact}
    (member : a ∈ artifactsOf settings s c) :
    a.package = c.package ∧
      (a.typeName = recordTypeName c.chain ∨ a.typeName = c.implementationName) := by
  cases outcome : generate settings s c with
  | error failure =>
      rw [artifactsOf, outcome] at member
      cases member
  | ok g =>
      obtain ⟨record, implementation, files⟩ := artifactsOf_eq outcome
      rw [files] at member
      rcases List.mem_cons.1 member with rfl | member
      · exact ⟨rfl, .inl rfl⟩
      · rw [List.mem_singleton.1 member]
        exact ⟨rfl, .inr rfl⟩

/-! ## Plain names -/

/-- A class whose names are read off its files: it leaves the name of the implementation to the
naming rules, no name of its chain holds an underscore or a slash, and no part of its package is
empty or holds a slash. -/
structure ModelClass.PlainlyNamed (c : ModelClass) : Prop where
  className : c.implementation.className = none
  underscore : ∀ name ∈ c.chain, '_' ∉ name.toList
  slash : ∀ name ∈ c.chain, '/' ∉ name.toList
  packageSlash : '/' ∉ c.package.toList
  packageParts : c.package = "" ∨ ∀ part ∈ segments '.' c.package, part ≠ ""

theorem not_mem_joined {sep : String} {x : Char} (apart : x ∉ sep.toList) {parts : List String}
    (clean : ∀ part ∈ parts, x ∉ part.toList) : x ∉ (joined sep parts).toList := by
  induction parts with
  | nil => simp [joined]
  | cons part parts ih =>
      obtain ⟨first, others⟩ := List.forall_mem_cons.1 clean
      cases parts with
      | nil => simpa [joined] using first
      | cons second parts =>
          rw [joined, String.intercalate_cons_cons, String.toList_append, String.toList_append,
            List.mem_append, List.mem_append, not_or, not_or]
          exact ⟨⟨first, apart⟩, ih others⟩

namespace ModelClass.PlainlyNamed

variable {c d : ModelClass}

theorem implementationName (plain : c.PlainlyNamed) :
    c.implementationName = implementationTypeName c.chain := by
  rw [ModelClass.implementationName, plain.className]
  rfl

theorem slashless {settings : Settings} {s : Snapshot} (plain : c.PlainlyNamed) {a : Artifact}
    (member : a ∈ artifactsOf settings s c) : a.Slashless := by
  obtain ⟨package, typeName⟩ := mem_artifactsOf member
  have chain : '/' ∉ (chainText "_" c.chain).toList :=
    not_mem_joined (by decide) fun name inside => plain.slash name (List.dropWhile_subset _ inside)
  refine ⟨package ▸ plain.packageSlash, ?_⟩
  rcases typeName with record | implementation
  · rw [record, recordTypeName, String.toList_append, List.mem_append, not_or]
    exact ⟨by decide, chain⟩
  · rw [implementation, plain.implementationName, implementationTypeName, String.toList_append,
      List.mem_append, not_or]
    exact ⟨by decide, chain⟩

/-- Plainly named classes of one package with the same joined chain have the same name. -/
theorem qualifiedName_eq (first : c.PlainlyNamed) (second : d.PlainlyNamed)
    (package : c.package = d.package)
    (same : chainText "_" c.chain = chainText "_" d.chain) :
    c.qualifiedName = d.qualifiedName := by
  have chain := chainText_injective first.underscore second.underscore same
  have name : modelTypeName c.chain = modelTypeName d.chain := by
    rw [modelTypeName, modelTypeName, chainText, chainText, chain]
  rw [ModelClass.qualifiedName, ModelClass.qualifiedName, package, name]

/-- Artifacts of plainly named classes share no path, unless the classes have the same name and
the artifacts are of the same kind. -/
theorem typeName_eq {settings : Settings} {s : Snapshot} (first : c.PlainlyNamed)
    (second : d.PlainlyNamed) {x y : Artifact} (ofFirst : x ∈ artifactsOf settings s c)
    (ofSecond : y ∈ artifactsOf settings s d) (same : x.SamePath y) :
    c.qualifiedName = d.qualifiedName ∧ x.typeName = y.typeName := by
  obtain ⟨directories, typeName⟩ :=
    (Artifact.samePath_iff (first.slashless ofFirst) (second.slashless ofSecond)).1 same
  obtain ⟨package, kind⟩ := mem_artifactsOf ofFirst
  obtain ⟨package', kind'⟩ := mem_artifactsOf ofSecond
  rw [Artifact.directories, Artifact.directories, package, package'] at directories
  have packages :=
    Artifact.package_eq_of_directories first.packageParts second.packageParts directories
  refine ⟨first.qualifiedName_eq second packages ?_, typeName⟩
  rw [first.implementationName] at kind
  rw [second.implementationName] at kind'
  rcases kind with kind | kind
  · rcases kind' with kind' | kind'
    · rw [kind, kind'] at typeName
      exact (String.append_right_inj _).1 typeName
    · rw [kind, kind'] at typeName
      exact (recordTypeName_ne_implementationTypeName _ _ typeName).elim
  · rcases kind' with kind' | kind'
    · rw [kind, kind'] at typeName
      exact (recordTypeName_ne_implementationTypeName _ _ typeName.symm).elim
    · rw [kind, kind'] at typeName
      exact (String.append_right_inj _).1 typeName

end ModelClass.PlainlyNamed

/-! ## The whole pass -/

/-- Every generated class has its two artifacts in the store, each at its path and with the source
that generating the class gives. -/
def AllKept (settings : Settings) (b : Batch) (p : Progress MemoryStore) : Prop :=
  ∀ c ∈ b.classes, c.qualifiedName ∈ p.report.generated →
    ∃ g, generate settings (discover b) c = .ok g ∧
      ∀ a ∈ g.artifacts, p.state.get? a.relativePath = some a.source

/-- What the memory store holds after a pass that began with the empty one. -/
structure Holdings (settings : Settings) (b : Batch) (p : Progress MemoryStore) : Prop where
  /-- Every path holds the last artifact of a generated class that was written there. -/
  latest : ∀ path, p.state.get? path =
    MemoryStore.lastSource? (generatedArtifacts settings b p.report) path
  /-- All artifacts are kept exactly when those that share a path have the same source. -/
  kept : AllKept settings b p ↔
    ∀ a ∈ generatedArtifacts settings b p.report, ∀ other ∈ generatedArtifacts settings b p.report,
      a.SamePath other → a.source = other.source
  /-- Artifacts share a path exactly when they have the same directories and the same type name. -/
  shared : ∀ a ∈ generatedArtifacts settings b p.report,
    ∀ other ∈ generatedArtifacts settings b p.report, a.Slashless → other.Slashless →
      (a.SamePath other ↔ a.directories = other.directories ∧ a.typeName = other.typeName)
  /-- Artifacts of plainly named classes share no path, and so all are kept. -/
  plain : (∀ c ∈ b.classes, c.qualifiedName ∈ p.report.generated → c.PlainlyNamed) →
    (generatedArtifacts settings b p.report).Pairwise (¬ ·.SamePath ·) ∧ AllKept settings b p

section Pass

variable {settings : Settings} {b : Batch}

theorem get?_run (path : String) :
    (run settings b MemoryStore.sink .empty).state.get? path =
      MemoryStore.lastSource?
        (generatedArtifacts settings b (run settings b MemoryStore.sink .empty).report) path := by
  have writes := (tally_run settings b MemoryStore.empty MemoryStore.keepsOnFailure_sink).writes
  rw [callsFor_firstDeclarations (List.append_nil _).symm] at writes
  rw [writes.memory, MemoryStore.get?_foldl_add, generatedArtifacts]
  exact Option.or_none

theorem mem_generatedArtifacts {r : Report} {a : Artifact} :
    a ∈ generatedArtifacts settings b r ↔ ∃ c ∈ b.classes, c.qualifiedName ∈ r.generated ∧
      a ∈ artifactsOf settings (discover b) c := by
  simp [generatedArtifacts, callsFor, and_assoc]

/-- All artifacts are kept exactly when those that share a path have the same source. -/
theorem allKept_run_iff :
    AllKept settings b (run settings b MemoryStore.sink .empty) ↔
      ∀ a ∈ generatedArtifacts settings b (run settings b MemoryStore.sink .empty).report,
      ∀ other ∈ generatedArtifacts settings b (run settings b MemoryStore.sink .empty).report,
        a.SamePath other → a.source = other.source := by
  rw [← MemoryStore.all_kept_iff]
  constructor
  · intro kept a member
    obtain ⟨c, listed, generated, ofClass⟩ := mem_generatedArtifacts.1 member
    obtain ⟨g, outcome, files⟩ := kept c listed generated
    rw [artifactsOf_of_generate outcome] at ofClass
    rw [← get?_run, files a ofClass]
  · intro kept c listed generated
    obtain ⟨_, g, outcome⟩ := generate_of_mem_generated listed generated
    refine ⟨g, outcome, ?_⟩
    intro a ofClass
    rw [get?_run]
    refine kept a (mem_generatedArtifacts.2 ⟨c, listed, generated, ?_⟩)
    rw [artifactsOf_of_generate outcome]
    exact ofClass

/-- Artifacts of plainly named classes share no path. -/
theorem pairwise_generatedArtifacts {σ : Type} {sink : Sink σ} {start : σ}
    (plain : ∀ c ∈ b.classes, c.qualifiedName ∈ (run settings b sink start).report.generated →
      c.PlainlyNamed) :
    (generatedArtifacts settings b (run settings b sink start).report).Pairwise
      (¬ ·.SamePath ·) := by
  rw [generatedArtifacts, callsFor, List.pairwise_flatten, List.pairwise_map, List.pairwise_filter]
  constructor
  · -- the two artifacts of one class
    intro artifacts member
    obtain ⟨c, generated, rfl⟩ := List.mem_map.1 member
    obtain ⟨listed, generated⟩ := List.mem_filter.1 generated
    have generated := of_decide_eq_true generated
    have named := plain c listed generated
    obtain ⟨_, g, outcome⟩ := generate_of_mem_generated listed generated
    obtain ⟨record, implementation, files⟩ := artifactsOf_eq outcome
    rw [files, List.pairwise_pair]
    intro same
    have kinds := (named.typeName_eq named (by rw [files]; exact List.mem_cons_self)
      (by rw [files]; exact List.mem_cons_of_mem _ List.mem_cons_self) same).2
    rw [named.implementationName] at kinds
    exact recordTypeName_ne_implementationTypeName _ _ kinds
  · -- artifacts of two classes
    have differ : b.classes.Pairwise fun c d =>
        decide (d.qualifiedName ∈ (run settings b sink start).report.generated) →
          c.qualifiedName ≠ d.qualifiedName :=
      pairwise_of_not_isAmbiguous (P := fun name =>
          name ∈ (run settings b sink start).report.generated)
        fun c listed generated =>
          isAmbiguous_of_mem_generated listed (of_decide_eq_true generated)
    apply differ.imp_of_mem
    intro c d listed listed' differs generated generated' x ofFirst y ofSecond same
    apply differs generated'
    exact ((plain c listed (of_decide_eq_true generated)).typeName_eq
      (plain d listed' (of_decide_eq_true generated')) ofFirst ofSecond same).1

/-- **What the memory store holds after a pass.** -/
theorem run_holdings (settings : Settings) (b : Batch) :
    Holdings settings b (run settings b MemoryStore.sink .empty) where
  latest := get?_run
  kept := allKept_run_iff
  shared _ _ _ _ first second := Artifact.samePath_iff first second
  plain named := by
    have apart := pairwise_generatedArtifacts named
    refine ⟨apart, allKept_run_iff.2 ?_⟩
    intro a member other member' same
    have : Std.Symm fun x y : Artifact => ¬ x.SamePath y := ⟨fun _ _ fresh same => fresh same.symm⟩
    by_contra differs
    exact apart.forall member member' (fun equal => differs (congrArg _ equal)) same

end Pass

/-- A class with the files of `nestedTwin`. -/
def topLevelTwin : ModelClass := ⟨"shop", [], "Order_Line", some "toRealmObject", [], {}⟩

/-- A nested class with the files of `topLevelTwin`. -/
def nestedTwin : ModelClass := ⟨"shop", ["Order"], "Line", some "toRealmObject", [], {}⟩

def twinBatch : Batch := .ofClasses [topLevelTwin, nestedTwin]

/-- Both classes count as generated, and the record of the nested one takes the place of the
other. -/
theorem twinBatch_loses :
    (run {} twinBatch MemoryStore.sink .empty).report =
        ⟨["shop.Order_Line", "shop.Order.Line"], [], []⟩ ∧
      ¬ AllKept {} twinBatch (run {} twinBatch MemoryStore.sink .empty) := by
  have report : (run {} twinBatch MemoryStore.sink .empty).report =
      ⟨["shop.Order_Line", "shop.Order.Line"], [], []⟩ := by decide +kernel
  refine ⟨report, ?_⟩
  intro kept
  have path : (artifactsOf {} (discover twinBatch) topLevelTwin).head?.map (·.relativePath) =
      some "shop/$RealmOrder_Line.java" := by decide +kernel
  have replaced : (run {} twinBatch MemoryStore.sink .empty).state.get?
      "shop/$RealmOrder_Line.java" ≠
        (artifactsOf {} (discover twinBatch) topLevelTwin).head?.map (·.source) := by
    decide +kernel
  obtain ⟨g, outcome, files⟩ := kept topLevelTwin List.mem_cons_self (by rw [report]; decide)
  rw [artifactsOf_of_generate outcome, GeneratedClass.artifacts, List.head?_cons,
    Option.map_some] at path replaced
  have found := files g.record.artifact List.mem_cons_self
  rw [Option.some.inj path] at found
  exact replaced found

end RecordSynthesis
