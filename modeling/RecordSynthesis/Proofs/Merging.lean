import RecordSynthesis.Loading
import RecordSynthesis.Proofs.Traversal

/-!
# Merging and loading

Merging keeps all classes, and adds to the external names of the first batch each new name of the
second one once, at its first occurrence (`Batch.externalModels_merge`). It is associative: a name
is new behind a merged batch exactly when it is new behind both parts.

Schema files are merged one after the other into a batch that grows. Because merging is associative
this is the same as loading two parts of the list on their own and merging them, and the first part
in error decides (`Batch.load_append`). Both are put together in `Batch.merge_load`.
-/

set_option autoImplicit false

namespace RecordSynthesis.Batch

/-! ## Adding names -/

section Names

variable {names more : List String} {name : String}

theorem mem_addName {other : String} :
    other ∈ addName names name ↔ other ∈ names ∨ other = name := by
  rw [addName]
  split
  next known =>
    constructor
    · exact .inl
    · rintro (member | rfl)
      · exact member
      · exact known
  next => rw [List.mem_append, List.mem_singleton]

theorem addName_of_mem (known : name ∈ names) : addName names name = names := by
  rw [addName, if_pos known]

theorem addName_of_not_mem (fresh : name ∉ names) : addName names name = names ++ [name] := by
  rw [addName, if_neg fresh]

/-- Adding names loses none and brings no other. -/
theorem mem_foldl_addName : name ∈ more.foldl addName names ↔ name ∈ names ∨ name ∈ more := by
  induction more generalizing names with
  | nil => simp
  | cons first more ih => rw [List.foldl_cons, ih, mem_addName, List.mem_cons, or_assoc]

/-- Adding names puts each new one behind the others, at its first occurrence. -/
theorem foldl_addName (names more : List String) :
    more.foldl addName names = names ++ (more.filter (· ∉ names)).eraseDups := by
  induction more generalizing names with
  | nil => rw [List.foldl_nil, List.filter_nil, List.eraseDups_nil, List.append_nil]
  | cons name more ih =>
      rw [List.foldl_cons, ih]
      by_cases known : name ∈ names
      · rw [addName_of_mem known, List.filter_cons_of_neg (by simpa using known)]
      · -- From now on the name is known, so its further occurrences drop out on both sides.
        rw [addName_of_not_mem known, List.filter_cons_of_pos (by simpa using known),
          List.eraseDups_cons, List.append_assoc, List.singleton_append, List.filter_filter]
        congr 3
        apply List.filter_congr
        intro other _
        rw [Bool.eq_iff_iff]
        simp [and_comm]

/-- Names that are added to added names may as well be added one after the other. -/
theorem foldl_addName_assoc (first second third : List String) :
    (third.foldl addName second).foldl addName first =
      third.foldl addName (second.foldl addName first) := by
  induction third generalizing second with
  | nil => rfl
  | cons name third ih =>
      rw [List.foldl_cons, List.foldl_cons, ih]
      by_cases known : name ∈ second
      · rw [addName_of_mem known, addName_of_mem (mem_foldl_addName.2 (.inr known))]
      · rw [addName_of_not_mem known, List.foldl_append]
        rfl

end Names

/-! ## Merging -/

/-- The external names of another batch that this one lacks, each at its first occurrence. -/
def newNames (b other : Batch) : List String :=
  (other.externalModels.filter (· ∉ b.externalModels)).eraseDups

theorem externalModels_merge (b other : Batch) :
    (b.merge other).externalModels = b.externalModels ++ b.newNames other :=
  foldl_addName b.externalModels other.externalModels

theorem mem_externalModels_merge {b other : Batch} {name : String} :
    name ∈ (b.merge other).externalModels ↔
      name ∈ b.externalModels ∨ name ∈ other.externalModels :=
  mem_foldl_addName

/-- **Merging is associative.** -/
theorem merge_assoc (b c d : Batch) : (b.merge c).merge d = b.merge (c.merge d) := by
  simp only [merge, List.append_assoc, foldl_addName_assoc]

theorem merge_empty (b : Batch) : b.merge {} = b := by
  simp only [merge, List.append_nil, List.foldl_nil]

/-! ## Loading -/

section Loading

variable {t : FileTree} {settings : Settings}

theorem loadBehind_cons (b : Batch) (path : String) (paths : List String) :
    b.loadBehind t settings (path :: paths) =
      loadFile t settings path >>= fun loaded => (b.merge loaded).loadBehind t settings paths :=
  rfl

theorem loadBehind_append (b : Batch) (p q : List String) :
    b.loadBehind t settings (p ++ q) =
      b.loadBehind t settings p >>= fun loaded => loaded.loadBehind t settings q := by
  induction p generalizing b with
  | nil => rfl
  | cons path p ih => simp only [List.cons_append, loadBehind_cons, ih, bind_assoc]

/-- Loading behind a batch is loading on its own and merging, wherever the batch came from. -/
theorem loadBehind_merge (b c : Batch) (paths : List String) :
    (b.merge c).loadBehind t settings paths = b.merge <$> c.loadBehind t settings paths := by
  induction paths generalizing c with
  | nil => rfl
  | cons path paths ih =>
      simp only [loadBehind_cons, merge_assoc, ih, map_bind]

theorem loadBehind_eq (b : Batch) (paths : List String) :
    b.loadBehind t settings paths = b.merge <$> load t settings paths := by
  rw [load, ← loadBehind_merge, merge_empty]

/-- **Loading two lists** is loading one after the other, and merging. -/
theorem load_append (p q : List String) :
    load t settings (p ++ q) =
      load t settings p >>= fun first => first.merge <$> load t settings q := by
  rw [load, loadBehind_append]
  exact bind_congr fun first => loadBehind_eq first q

/-- Two lists load exactly when both parts do, into their batches merged. -/
theorem load_append_eq_ok {p q : List String} {b : Batch} :
    load t settings (p ++ q) = .ok b ↔
      ∃ first second, load t settings p = .ok first ∧ load t settings q = .ok second ∧
        b = first.merge second := by
  rw [load_append, bind_eq_ok]
  constructor
  · rintro ⟨first, loaded, merged⟩
    cases outcome : load t settings q with
    | error failure =>
        rw [outcome] at merged
        cases merged
    | ok second =>
        rw [outcome] at merged
        cases merged
        exact ⟨first, second, loaded, rfl, rfl⟩
  · rintro ⟨first, second, loaded, loaded', rfl⟩
    exact ⟨first, loaded, by rw [loaded']; rfl⟩

/-- The error of two lists is that of the first part, or that of the second part when the first one
loads. -/
theorem load_append_eq_error {p q : List String} {failure : Failure} :
    load t settings (p ++ q) = .error failure ↔
      load t settings p = .error failure ∨
        ∃ first, load t settings p = .ok first ∧ load t settings q = .error failure := by
  rw [load_append, bind_eq_error]
  refine or_congr_right (exists_congr fun first => and_congr_right fun _ => ?_)
  cases load t settings q with
  | error other =>
      constructor
      · rintro ⟨⟩
        rfl
      · rintro ⟨⟩
        rfl
  | ok second => exact ⟨nofun, nofun⟩

/-- A file loads exactly when it holds a schema that can be elaborated. -/
theorem loadFile_eq_ok {path : String} {b : Batch} :
    loadFile t settings path = .ok b ↔
      ∃ file, SchemaFile.load t path = .ok file ∧ file.elaborate settings = .ok b := by
  rw [loadFile, bind_eq_ok]
  refine exists_congr fun file => and_congr_right fun _ => ?_
  cases file.elaborate settings with
  | ok found => rfl
  | error cause =>
      constructor
      · rintro ⟨⟩
      · rintro ⟨⟩

/-- Loading is loading every file and merging what they hold. -/
theorem loadBehind_eq_mapM (b : Batch) (paths : List String) :
    b.loadBehind t settings paths =
      (fun parts => parts.foldl merge b) <$> paths.mapM (loadFile t settings) := by
  induction paths generalizing b with
  | nil => rfl
  | cons path paths ih =>
      rw [loadBehind_cons, List.mapM_cons, map_bind]
      refine bind_congr fun loaded => ?_
      rw [ih, map_bind, map_eq_pure_bind]
      rfl

/-- Files load exactly when each of them does, and then their batches are merged in order. -/
theorem load_eq_ok {paths : List String} {b : Batch} :
    load t settings paths = .ok b ↔
      ∃ parts, paths.mapM (loadFile t settings) = .ok parts ∧ b = parts.foldl merge {} := by
  rw [load, loadBehind_eq_mapM, map_eq_pure_bind, bind_eq_ok]
  refine exists_congr fun parts => and_congr_right fun _ => ⟨?_, ?_⟩
  · rintro ⟨⟩
    rfl
  · rintro rfl
    rfl

/-- Otherwise the error is that of the first file that does not load. -/
theorem load_eq_error {paths : List String} {failure : Failure} :
    load t settings paths = .error failure ↔
      ∃ before path after, paths = before ++ path :: after ∧
        (∀ earlier ∈ before, ∃ part, loadFile t settings earlier = .ok part) ∧
        loadFile t settings path = .error failure := by
  rw [load, loadBehind_eq_mapM, map_eq_pure_bind, bind_eq_error, ← mapM_eq_error]
  exact or_iff_left fun ⟨_, _, failed⟩ => nomatch failed

theorem mem_classes_foldl_merge {b : Batch} {parts : List Batch} {c : ModelClass} :
    c ∈ (parts.foldl merge b).classes ↔ c ∈ b.classes ∨ ∃ part ∈ parts, c ∈ part.classes := by
  induction parts generalizing b with
  | nil => simp
  | cons part parts ih =>
      rw [List.foldl_cons, ih, merge, List.mem_append, or_assoc, List.exists_mem_cons_iff]

end Loading

/-- **Merging and loading compose.** Merging is associative. It puts the classes one behind the
other, and behind the external names of the first batch those of the second that are new; so no name
is lost. Two lists of schema files load as the two batches merged, and when they do not load the
error is that of the first list in error. -/
theorem merge_load :
    (∀ b c d : Batch, (b.merge c).merge d = b.merge (c.merge d)) ∧
      (∀ b c : Batch, (b.merge c).classes = b.classes ++ c.classes ∧
        (b.merge c).externalModels = b.externalModels ++ b.newNames c ∧
        ∀ name, name ∈ (b.merge c).externalModels ↔
          name ∈ b.externalModels ∨ name ∈ c.externalModels) ∧
      ∀ (t : FileTree) (settings : Settings) (p q : List String),
        (∀ b, load t settings (p ++ q) = .ok b ↔
          ∃ first second, load t settings p = .ok first ∧ load t settings q = .ok second ∧
            b = first.merge second) ∧
        ∀ failure, load t settings (p ++ q) = .error failure ↔
          load t settings p = .error failure ∨
            ∃ first, load t settings p = .ok first ∧ load t settings q = .error failure :=
  ⟨merge_assoc,
    fun b c => ⟨rfl, externalModels_merge b c, fun _ => mem_externalModels_merge⟩,
    fun _ _ _ _ => ⟨fun _ => load_append_eq_ok, fun _ => load_append_eq_error⟩⟩

end RecordSynthesis.Batch
