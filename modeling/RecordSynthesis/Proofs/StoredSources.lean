import RecordSynthesis.Proofs.Artifacts
import RecordSynthesis.Proofs.DottedNames

/-!
# Looking up sources by type names

The memory store knows paths only. A type is looked up by its qualified name, which is cut at the
last dot to find out the path. This gives the artifact back that was written for the type, and no
other one, because on artifacts whose names can be told apart (`Artifact.Locatable`) both ways to
write the two names in one text lose nothing: the qualified name is cut into them again
(`splitQualified_qualifiedName`), and the path determines them (`samePath_iff_qualifiedName`). The
main statement is `source?_writes`.
-/

set_option autoImplicit false

namespace RecordSynthesis

open RecordSynthesis.Text

/-! ## Keys of dictionaries -/

namespace Dictionary

variable {κ α : Type} [Ord κ] [Std.TransOrd κ] [DecidableEq κ]

omit [DecidableEq κ] in
theorem nodup_keys (d : Dictionary κ α) : d.keys.Nodup := by
  rw [keys, List.nodup_iff_pairwise_ne, List.pairwise_map]
  refine d.ascending.imp fun {a b} before same => ?_
  have equal : compare b.1 b.1 = .eq := Std.ReflCmp.compare_self
  rw [same, equal] at before
  cases before

theorem mem_keys_insert [Std.LawfulEqOrd κ] {d : Dictionary κ α} {k j : κ} {v : α} :
    j ∈ (d.insert k v).keys ↔ k = j ∨ j ∈ d.keys := by
  rw [mem_keys, mem_keys, find?_insert]
  split
  next same => simp [same]
  next differs => simp [differs]

end Dictionary

/-! ## Artifacts that can be looked up -/

namespace Artifact

/-- The names of the artifact can be read off its path and off its qualified name. The package is
the unnamed one or has parts that are neither empty nor hold slashes, and the name of the type is
not empty and holds neither dots nor slashes. -/
structure Locatable (a : Artifact) : Prop where
  package : a.package = "" ∨ ∀ part ∈ segments '.' a.package, part ≠ "" ∧ '/' ∉ part.toList
  nonempty : a.typeName ≠ ""
  noDot : '.' ∉ a.typeName.toList
  noSlash : '/' ∉ a.typeName.toList

variable {a b : Artifact}

theorem Locatable.parts (locatable : a.Locatable) :
    a.package = "" ∨ ∀ part ∈ segments '.' a.package, part ≠ "" :=
  locatable.package.imp_right fun parts part member => (parts part member).1

theorem Locatable.slashless (locatable : a.Locatable) : a.Slashless := by
  refine ⟨?_, locatable.noSlash⟩
  rcases locatable.package with unnamed | parts
  · simp [unnamed]
  · rw [← joined_segments '.' a.package]
    exact not_mem_joined (by decide) fun part member => (parts part member).2

/-- The qualified name is that of a class which no other class encloses. -/
theorem qualifiedName_eq_canonicalName (a : Artifact) :
    a.qualifiedName = (ClassName.topLevel a.package a.typeName).canonicalName := rfl

/-- **Cutting a qualified name at the last dot gives the two names back.** -/
theorem Locatable.splitQualified_qualifiedName (locatable : a.Locatable) :
    MemoryStore.splitQualified a.qualifiedName = (a.package, a.typeName) := by
  let c := ClassName.topLevel a.package a.typeName
  have clean : ∀ part ∈ c.packageSegments ++ [a.typeName], '.' ∉ part.toList := by
    refine List.forall_mem_append.2 ⟨fun part member inside => ?_,
      List.forall_mem_singleton.2 locatable.noDot⟩
    rw [ClassName.packageSegments] at member
    split at member
    next => cases member
    next => exact (mem_of_mem_segments member inside).2 rfl
  have cut : segments '.' a.qualifiedName = c.packageSegments ++ [a.typeName] := by
    rw [qualifiedName_eq_canonicalName, ClassName.canonicalName_eq_joined List.not_mem_nil]
    exact segments_joined (by simp [ClassName.chain]) clean
  rw [MemoryStore.splitQualified, cut, List.dropLast_concat, List.getLast?_concat,
    c.joined_packageSegments, Option.getD_some]
  rfl

/-- Artifacts with the same qualified name have the same package and the same name of the type. -/
theorem qualifiedName_inj (first : a.Locatable) (second : b.Locatable) :
    a.qualifiedName = b.qualifiedName ↔ a.package = b.package ∧ a.typeName = b.typeName := by
  constructor
  · intro same
    have cut := congrArg MemoryStore.splitQualified same
    rw [first.splitQualified_qualifiedName, second.splitQualified_qualifiedName] at cut
    exact Prod.mk.inj cut
  · rintro ⟨package, typeName⟩
    rw [qualifiedName, qualifiedName, package, typeName]

/-- **Artifacts share a path exactly when they have the same qualified name.** -/
theorem samePath_iff_qualifiedName (first : a.Locatable) (second : b.Locatable) :
    a.SamePath b ↔ a.qualifiedName = b.qualifiedName := by
  rw [samePath_iff first.slashless second.slashless, qualifiedName_inj first second]
  refine and_congr_left fun _ => ⟨fun same => ?_, fun same => ?_⟩
  · exact package_eq_of_directories first.parts second.parts same
  · rw [directories, directories, same]

/-- The texts of paths agree when the paths do. -/
theorem relativePath_eq_iff (first : a.Locatable) (second : b.Locatable) :
    a.relativePath = b.relativePath ↔ a.qualifiedName = b.qualifiedName := by
  constructor
  · intro same
    refine (samePath_iff_qualifiedName first second).1 ?_
    rw [SamePath, same]
  · intro same
    obtain ⟨package, typeName⟩ := (qualifiedName_inj first second).1 same
    rw [relativePath, relativePath, package, typeName]

end Artifact

/-! ## The memory store -/

namespace MemoryStore

theorem mem_keys_foldl_add (artifacts : List Artifact) (m : MemoryStore)
    (key : List PathComponent) :
    key ∈ (artifacts.foldl add m).files.keys ↔
      (∃ a ∈ artifacts, Path.components a.relativePath = key) ∨ key ∈ m.files.keys := by
  induction artifacts generalizing m with
  | nil => simp
  | cons a artifacts ih =>
      rw [List.foldl_cons, ih, add, put, Dictionary.mem_keys_insert]
      simp only [List.mem_cons, exists_eq_or_imp]
      exact or_left_comm.trans or_assoc.symm

/-- The path by which a qualified name is looked up. -/
def pathOf (name : String) : List PathComponent :=
  Path.components (Artifact.relativePath ⟨(splitQualified name).1, (splitQualified name).2, ""⟩)

theorem pathOf_qualifiedName {a : Artifact} (locatable : a.Locatable) :
    pathOf a.qualifiedName = Path.components a.relativePath := by
  rw [pathOf, locatable.splitQualified_qualifiedName]
  rfl

/-- A look-up by name finds the last artifact with the name. -/
theorem source?_foldl_add {artifacts : List Artifact} (locatable : ∀ a ∈ artifacts, a.Locatable)
    {a : Artifact} (probe : a.Locatable) :
    (artifacts.foldl add empty).source? a.qualifiedName =
      (artifacts.filter fun other =>
        other.package = a.package ∧ other.typeName = a.typeName).getLast?.map (·.source) := by
  have found : (artifacts.foldl add empty).source? a.qualifiedName =
      (artifacts.foldl add empty).get? a.relativePath := by
    rw [source?, probe.splitQualified_qualifiedName]
    rfl
  have selected : ∀ other ∈ artifacts,
      decide (Path.components other.relativePath = Path.components a.relativePath) =
        decide (other.package = a.package ∧ other.typeName = a.typeName) := by
    intro other member
    have same := Artifact.samePath_iff_qualifiedName (locatable other member) probe
    rw [Artifact.qualifiedName_inj (locatable other member) probe] at same
    exact decide_eq_decide.2 same
  rw [found, get?_foldl_add, lastSource?, List.filter_congr selected]
  exact Option.or_none

/-- There is one file for each name. -/
theorem size_foldl_add {artifacts : List Artifact} (locatable : ∀ a ∈ artifacts, a.Locatable) :
    (artifacts.foldl add empty).size = (artifacts.map (·.qualifiedName)).eraseDups.length := by
  let names := (artifacts.map (·.qualifiedName)).eraseDups
  have named : ∀ name ∈ names, ∃ a ∈ artifacts, a.qualifiedName = name := by
    intro name member
    exact List.mem_map.1 (List.mem_eraseDups.1 member)
  have distinct : (names.map pathOf).Nodup := by
    refine (nodup_eraseDups _).map_on fun name member other member' same => ?_
    obtain ⟨a, listed, rfl⟩ := named name member
    obtain ⟨b, listed', rfl⟩ := named other member'
    have first := locatable a listed
    have second := locatable b listed'
    rw [pathOf_qualifiedName first, pathOf_qualifiedName second] at same
    exact (Artifact.samePath_iff_qualifiedName first second).1 same
  have same : (artifacts.foldl add empty).files.keys.Perm (names.map pathOf) := by
    refine (List.perm_ext_iff_of_nodup (Dictionary.nodup_keys _) distinct).2 fun key => ?_
    rw [mem_keys_foldl_add, List.mem_map]
    constructor
    · rintro (⟨a, listed, rfl⟩ | none)
      · refine ⟨a.qualifiedName, ?_, pathOf_qualifiedName (locatable a listed)⟩
        exact List.mem_eraseDups.2 (List.mem_map_of_mem listed)
      · cases none
    · rintro ⟨name, member, rfl⟩
      obtain ⟨a, listed, rfl⟩ := named name member
      exact .inl ⟨a, listed, (pathOf_qualifiedName (locatable a listed)).symm⟩
  have length := same.length_eq
  rw [List.length_map, Dictionary.keys, List.length_map] at length
  exact length

/-- The state after calls, from the empty store on. -/
def written (calls : List (List Artifact)) : MemoryStore :=
  calls.foldl (fun m artifacts => (sink.write artifacts m).state) empty

theorem written_eq (calls : List (List Artifact)) :
    written calls = calls.flatten.foldl add empty := by
  rw [List.foldl_flatten]
  rfl

/-- **Sources are found by type names.** After any calls, the qualified name of a type finds the
source of the last artifact that was written for the type, and nothing if there was none. Artifacts
share a path, as a text and by its components, exactly when they have the same qualified name, and
there are as many files as names. -/
theorem source?_writes (calls : List (List Artifact))
    (locatable : ∀ artifacts ∈ calls, ∀ a ∈ artifacts, a.Locatable) :
    (∀ a : Artifact, a.Locatable → (written calls).source? a.qualifiedName =
        (calls.flatten.filter fun other =>
          other.package = a.package ∧ other.typeName = a.typeName).getLast?.map (·.source)) ∧
      (∀ a b : Artifact, a.Locatable → b.Locatable →
        (a.SamePath b ↔ a.qualifiedName = b.qualifiedName) ∧
          (a.relativePath = b.relativePath ↔ a.qualifiedName = b.qualifiedName)) ∧
      (written calls).size = (calls.flatten.map (·.qualifiedName)).eraseDups.length := by
  have all : ∀ a ∈ calls.flatten, a.Locatable := by
    intro a member
    obtain ⟨artifacts, listed, inside⟩ := List.mem_flatten.1 member
    exact locatable artifacts listed a inside
  rw [written_eq]
  refine ⟨fun a probe => source?_foldl_add all probe, fun a b first second => ?_,
    size_foldl_add all⟩
  exact ⟨Artifact.samePath_iff_qualifiedName first second,
    Artifact.relativePath_eq_iff first second⟩

/-- A type of the unnamed package, one of a package with two parts, and a later version of it. -/
def revisedCalls : List (List Artifact) :=
  [[⟨"", "Order", "loose"⟩, ⟨"shop.model", "Order", "draft"⟩], [⟨"shop.model", "Order", "final"⟩]]

/-- The later version is found, the type of the other package is not mistaken for it, and a type
that was never written is not found. -/
theorem revisedCalls_sources :
    (∀ artifacts ∈ revisedCalls, ∀ a ∈ artifacts, a.Locatable) ∧
      (written revisedCalls).source? "shop.model.Order" = some "final" ∧
      (written revisedCalls).source? "Order" = some "loose" ∧
      (written revisedCalls).source? "shop.Order" = none ∧ (written revisedCalls).size = 2 := by
  have loose : Artifact.Locatable ⟨"", "Order", "loose"⟩ :=
    ⟨.inl rfl, by decide, by decide, by decide⟩
  have draft : Artifact.Locatable ⟨"shop.model", "Order", "draft"⟩ :=
    ⟨.inr (by decide), by decide, by decide, by decide⟩
  have final : Artifact.Locatable ⟨"shop.model", "Order", "final"⟩ :=
    ⟨.inr (by decide), by decide, by decide, by decide⟩
  have missing : Artifact.Locatable ⟨"shop", "Order", ""⟩ :=
    ⟨.inr (by decide), by decide, by decide, by decide⟩
  have locatable : ∀ artifacts ∈ revisedCalls, ∀ a ∈ artifacts, a.Locatable := by
    simp [revisedCalls, loose, draft, final]
  obtain ⟨sources, -, size⟩ := source?_writes revisedCalls locatable
  refine ⟨locatable, ?_, ?_, ?_, size.trans (by decide +kernel)⟩
  · exact (sources _ final).trans (by decide +kernel)
  · exact (sources _ loose).trans (by decide +kernel)
  · exact (sources _ missing).trans (by decide +kernel)

end MemoryStore

end RecordSynthesis
