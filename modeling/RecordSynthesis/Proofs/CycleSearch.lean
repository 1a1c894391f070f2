import RecordSynthesis.Proofs.Discovery
import RecordSynthesis.Proofs.ReferenceGraph

/-!
# Which cycle is found

The search for cycles skips the names that it has finished. `Explores` is the same search without
them: it keeps nothing but its path, follows every reference in order and returns the first cycle
that closes. Both give the same answer for every start (`Snapshot.findCycle?_eq_iff`), for a
finished name leads to no cycle and so is worth no second visit (`explores_none`).

The plain search has no depth and no state, so it shows what the answer depends on: the references
of the names that can be reached. Where a name leads to no cycle, not even its references matter
(`Snapshot.findCycle?_congr`).

The main statement is `findCycle?_discover`. It says of the snapshot of a batch that the search
misses no cycle and reports nothing else.
-/

set_option autoImplicit false

namespace RecordSynthesis

variable {references : String → List String} {start : String} {path names : List String}

/-! ## Acyclic names -/

theorem AcyclicFrom.of_reaches {a b : String} (acyclic : AcyclicFrom references a)
    (way : Reaches references a b) : AcyclicFrom references b := by
  intro c onward
  exact acyclic c (way.trans onward)

theorem AcyclicFrom.of_refers {a b : String} (acyclic : AcyclicFrom references a)
    (refers : Refers references a b) : AcyclicFrom references b :=
  acyclic.of_reaches (.single refers)

theorem head?_closedAt {name : String} (again : name ∈ path) :
    (closedAt name path).head? = some name := by
  obtain ⟨before, after, rfl, fresh⟩ := List.eq_append_cons_of_mem again
  rw [closedAt_append name fresh]
  rfl

/-- A name that comes back to the path is on a cycle. -/
theorem Walk.onCycle {name : String} (walk : Walk references start path name)
    (again : name ∈ path) : OnCycle references name :=
  (walk.isCycle_closedAt again).onCycle (head?_closedAt again)

/-- All names on a path refer to something. -/
theorem Walk.inside {known : List String} (covers : ∀ a b, Refers references a b → a ∈ known)
    {name : String} (walk : Walk references start path name) : path ⊆ known := by
  intro a onPath
  obtain ⟨before, after, rfl⟩ := List.append_of_mem onPath
  have linked := walk.linked
  rw [List.append_assoc, List.cons_append] at linked
  have rest := (List.isChain_split.1 linked).2
  cases after with
  | nil => exact covers a name (List.isChain_cons_cons.1 rest).1
  | cons next after => exact covers a next (List.isChain_cons_cons.1 rest).1

/-! ## The plain search -/

/-- Searches names one after the other below a path, and below each fresh name everything that it
refers to. The result is the first cycle that closes. -/
inductive Explores (references : String → List String) :
    List String → List String → Option (List String) → Prop where
  | done (path : List String) : Explores references path [] none
  | again {path names : List String} {name : String} (onPath : name ∈ path) :
      Explores references path (name :: names) (some (closedAt name path))
  | found {path names way : List String} {name : String} (fresh : name ∉ path)
      (below : Explores references (path ++ [name]) (references name) (some way)) :
      Explores references path (name :: names) (some way)
  | next {path names : List String} {name : String} {result : Option (List String)}
      (fresh : name ∉ path)
      (below : Explores references (path ++ [name]) (references name) none)
      (others : Explores references path names result) :
      Explores references path (name :: names) result

namespace Explores

/-- The plain search has one result. -/
theorem unique {first second : Option (List String)} (one : Explores references path names first)
    (other : Explores references path names second) : first = second := by
  induction one generalizing second with
  | done path =>
      cases other
      rfl
  | again onPath =>
      cases other with
      | again _ => rfl
      | found fresh _ => exact (fresh onPath).elim
      | next fresh _ _ => exact (fresh onPath).elim
  | found fresh _ ih =>
      cases other with
      | again onPath => exact (fresh onPath).elim
      | found _ below => exact ih below
      | next _ below _ => cases ih below
  | next fresh _ _ ihBelow ihOthers =>
      cases other with
      | again onPath => exact (fresh onPath).elim
      | found _ below => cases ihBelow below
      | next _ _ others => exact ihOthers others

/-- Names without a cycle are passed over. -/
theorem append {more : List String} {result : Option (List String)}
    (quiet : Explores references path names none) (others : Explores references path more result) :
    Explores references path (names ++ more) result := by
  generalize nothing : (none : Option (List String)) = outcome at quiet
  induction quiet with
  | done path => exact others
  | again _ => cases nothing
  | found _ _ _ => cases nothing
  | next fresh below _ _ ih => exact .next fresh (nothing ▸ below) (ih others nothing)

/-- A cycle that is found lies below one of the names. -/
theorem exists_not_acyclicFrom {way : List String}
    (explores : Explores references path names (some way))
    (walks : ∀ name ∈ names, Walk references start path name) :
    ∃ name ∈ names, ¬ AcyclicFrom references name := by
  generalize something : some way = outcome at explores
  induction explores with
  | done path => cases something
  | again onPath =>
      refine ⟨_, List.mem_cons_self, fun acyclic => ?_⟩
      exact acyclic _ .refl ((walks _ List.mem_cons_self).onCycle onPath)
  | found fresh _ ih =>
      have walk := walks _ List.mem_cons_self
      obtain ⟨next, refers, leads⟩ := ih (fun next refers => walk.step fresh refers) something
      exact ⟨_, List.mem_cons_self, fun acyclic => leads (acyclic.of_refers refers)⟩
  | next _ _ _ _ ih =>
      obtain ⟨name, member, leads⟩ :=
        ih (fun name member => walks name (List.mem_cons_of_mem _ member)) something
      exact ⟨name, List.mem_cons_of_mem _ member, leads⟩

end Explores

section Finite

variable {known : List String} (covers : ∀ a b, Refers references a b → a ∈ known)
include covers

/-- The plain search ends, for its path repeats no name. -/
theorem exists_explores (depth : Nat) (distinct : path.Nodup) (inside : path ⊆ known)
    (granted : known.length < path.length + depth) (names : List String) :
    ∃ result, Explores references path names result := by
  induction depth generalizing path names with
  | zero =>
      have := (distinct.subperm inside).length_le
      omega
  | succ depth ih =>
      induction names with
      | nil => exact ⟨none, .done path⟩
      | cons name names ihNames =>
          by_cases onPath : name ∈ path
          · exact ⟨_, .again onPath⟩
          have below : ∃ result, Explores references (path ++ [name]) (references name) result := by
            by_cases empty : references name = []
            · rw [empty]
              exact ⟨none, .done _⟩
            obtain ⟨next, refers⟩ := List.exists_mem_of_ne_nil _ empty
            refine ih ?_ ?_ ?_ _
            · rw [← List.concat_eq_append]
              exact distinct.concat onPath
            · exact List.append_subset.2 ⟨inside, by simpa using covers name next refers⟩
            · rw [List.length_append, List.length_singleton]
              omega
          obtain ⟨result, below⟩ := below
          cases result with
          | some way => exact ⟨_, .found onPath below⟩
          | none =>
              obtain ⟨result, others⟩ := ihNames
              exact ⟨result, .next onPath below others⟩

/-- Names that lead to no cycle are passed over, whatever the path. -/
theorem explores_none (walks : ∀ name ∈ names, Walk references start path name)
    (acyclic : ∀ name ∈ names, AcyclicFrom references name) :
    Explores references path names none := by
  cases names with
  | nil => exact .done path
  | cons name names =>
      have walk := walks name List.mem_cons_self
      obtain ⟨result, explores⟩ := exists_explores covers (known.length + 1) walk.distinct
        (walk.inside covers) (by omega) (name :: names)
      cases result with
      | none => exact explores
      | some way =>
          obtain ⟨other, member, leads⟩ := explores.exists_not_acyclicFrom walks
          exact (leads (acyclic other member)).elim

/-- **The search reports the cycle that the plain search finds.** In front of the name that it
comes from stand names below which all is finished, and they lead to no cycle. -/
theorem explores_of_searchCycle_error (depth : Nat) {finished : List String} {name : String}
    {way : List String} (walk : Walk references start path name)
    (granted : known.length < path.length + depth) (settled : Settled references path finished)
    (report : searchCycle references depth path finished name = .error way) (names : List String) :
    Explores references path (name :: names) (some way) := by
  induction depth generalizing path finished name names with
  | zero => cases report
  | succ depth ih =>
      rw [searchCycle] at report
      split at report
      next again =>
        cases report
        exact .again again
      next fresh =>
        split at report
        next => cases report
        next unfinished =>
          rcases bind_eq_error.1 report with below | ⟨_, _, last⟩
          · obtain ⟨before, next, after, u, split, passed, failed⟩ := foldlM_eq_error below
            have walks : ∀ b ∈ references name, Walk references start (path ++ [name]) b :=
              fun b refers => walk.step fresh refers
            have refers : next ∈ references name := by
              rw [split]
              exact List.mem_append_right _ List.mem_cons_self
            have earlier : ∀ b ∈ before, b ∈ references name := by
              intro b member
              rw [split]
              exact List.mem_append_left _ member
            have walkNext := walks next refers
            have granted' : known.length < (path ++ [name]).length + depth := by
              rw [List.length_append, List.length_singleton]
              omega
            obtain ⟨settledU, _, done⟩ := (settled.push unfinished).foldlM passed
              fun b _ u v settledU => searchCycle_ok covers depth walkNext.distinct
                (walkNext.inside covers) granted' settledU
            have quiet : Explores references (path ++ [name]) before none := by
              refine explores_none covers (fun b member => walks b (earlier b member)) ?_
              intro b member c onward
              exact settledU.acyclic c (settledU.reaches (done b member) onward)
            refine .found fresh ?_
            rw [split]
            exact quiet.append (ih walkNext granted' settledU failed after)
          · cases last

/-- Names that lead to no cycle may change their references, as long as they still lead to none. -/
theorem Explores.congr {references' : String → List String} {result : Option (List String)}
    (agree : ∀ a, Reaches references' start a → references a = references' a ∨
      AcyclicFrom references' a ∧ AcyclicFrom references a)
    (explores : Explores references' path names result)
    (walks' : ∀ name ∈ names, Walk references' start path name)
    (walks : ∀ name ∈ names, Walk references start path name) :
    Explores references path names result := by
  induction explores with
  | done path => exact .done path
  | again onPath => exact .again onPath
  | @found path names way name fresh below ih =>
      have walk' := walks' name List.mem_cons_self
      have walk := walks name List.mem_cons_self
      rcases agree name (walk'.reached name (by simp)) with same | ⟨acyclic, _⟩
      · refine .found fresh ?_
        rw [same]
        refine ih (fun b refers => walk'.step fresh refers) fun b refers => walk.step fresh ?_
        rw [Refers, same]
        exact refers
      · obtain ⟨b, refers, leads⟩ :=
          below.exists_not_acyclicFrom fun b refers => walk'.step fresh refers
        exact (leads (acyclic.of_refers refers)).elim
  | @next path names name result fresh below others ihBelow ihOthers =>
      have walk' := walks' name List.mem_cons_self
      have walk := walks name List.mem_cons_self
      refine .next fresh ?_ (ihOthers (fun b member => walks' b (List.mem_cons_of_mem _ member))
        fun b member => walks b (List.mem_cons_of_mem _ member))
      rcases agree name (walk'.reached name (by simp)) with same | ⟨_, acyclic⟩
      · rw [same]
        refine ihBelow (fun b refers => walk'.step fresh refers) fun b refers => walk.step fresh ?_
        rw [Refers, same]
        exact refers
      · exact explores_none covers (fun b refers => walk.step fresh refers)
          fun b refers => acyclic.of_refers refers

end Finite

/-! ## The search in a snapshot -/

namespace Snapshot

theorem walk_of_mem_singleton {s : Snapshot} {start : String} :
    ∀ name ∈ [start], Walk s.references start [] name := by
  intro name member
  rw [List.mem_singleton.1 member]
  exact .nil start

theorem explores_findCycle? (s : Snapshot) (start : String) :
    Explores s.references [] [start] (s.findCycle? start) := by
  have covers : ∀ a b, Refers s.references a b → a ∈ s.models.keys := fun _ _ =>
    s.mem_keys_of_refers
  cases found : s.findCycle? start with
  | none =>
      refine explores_none covers walk_of_mem_singleton fun name member => ?_
      rw [List.mem_singleton.1 member]
      exact findCycle?_eq_none.1 found
  | some way =>
      rw [findCycle?] at found
      split at found
      next cycle report =>
        cases found
        exact explores_of_searchCycle_error covers (s.size + 1) (.nil start)
          (by simp [Dictionary.keys, size, Dictionary.size]) (.nil []) report []
      next => cases found

/-- **The search finds what the plain search finds.** -/
theorem findCycle?_eq_iff {s : Snapshot} {start : String} {result : Option (List String)} :
    s.findCycle? start = result ↔ Explores s.references [] [start] result := by
  constructor
  · rintro rfl
    exact s.explores_findCycle? start
  · exact (s.explores_findCycle? start).unique

/-- The answer depends on the references of the names that can be reached, and not on those of a
name that leads to no cycle. -/
theorem findCycle?_congr {s s' : Snapshot} {start : String}
    (agree : ∀ a, Reaches s.references start a → s'.references a = s.references a ∨
      AcyclicFrom s.references a ∧ AcyclicFrom s'.references a) :
    s'.findCycle? start = s.findCycle? start :=
  findCycle?_eq_iff.2 ((s.explores_findCycle? start).congr
    (fun _ _ => s'.mem_keys_of_refers) agree walk_of_mem_singleton walk_of_mem_singleton)

/-! ## The snapshot of a batch -/

section Discovered

variable {b : Batch}

/-- A name refers to what the properties of its last class refer to. -/
theorem refers_discover {a model : String} :
    Refers (discover b).references a model ↔
      ∃ c, (declarations b.classes a).getLast? = some c ∧ ∃ p ∈ c.generatedProperties,
        ((discover b).classify p.type).referencedModel? = some model := by
  rw [Refers, references_eq_last]
  cases (declarations b.classes a).getLast? with
  | none => simp
  | some c => simp [referencesOf, classify]

/-- **The search for cycles in the snapshot of a batch.** A name refers to what the properties of
its last class refer to. Nothing is found exactly when no cycle of these references can be reached
from the start, which need not be a known name; what is found is a cycle that can be reached. -/
theorem findCycle?_discover (b : Batch) (start : String) :
    (∀ a model, Refers (discover b).references a model ↔
      ∃ c, (declarations b.classes a).getLast? = some c ∧ ∃ p ∈ c.generatedProperties,
        ((discover b).classify p.type).referencedModel? = some model) ∧
      ((discover b).findCycle? start = none ↔ AcyclicFrom (discover b).references start) ∧
      ∀ way, (discover b).findCycle? start = some way →
        IsCycle (discover b).references way ∧
          ∀ a ∈ way, Reaches (discover b).references start a :=
  ⟨fun _ _ => refers_discover, findCycle?_eq_none, fun _ => findCycle?_eq_some⟩

end Discovered

end Snapshot

/-! ## A family -/

/-- A class of the shop with one property for each model that it refers to. -/
def shopClass (name : String) (models : List String) : ModelClass where
  package := "shop"
  simpleName := name
  trigger := some "toRealmObject"
  properties := models.map fun model => .ofAccessor model (.declared model [])

/-- A holder refers to a leaf and to a child, which refers to its parent and so to itself. -/
def familyBatch : Batch :=
  .ofClasses [shopClass "Holder" ["shop.Leaf", "shop.Child"], shopClass "Parent" ["shop.Child"],
    shopClass "Child" ["shop.Leaf", "shop.Parent"], shopClass "Leaf" []]

/-- The cycle does not go through the holder. The leaf leads to none, nor does an unknown name. -/
theorem familyBatch_findCycle? :
    IsCycle (Snapshot.discover familyBatch).references
        ["shop.Child", "shop.Parent", "shop.Child"] ∧
      Reaches (Snapshot.discover familyBatch).references "shop.Holder" "shop.Child" ∧
      AcyclicFrom (Snapshot.discover familyBatch).references "shop.Leaf" ∧
      AcyclicFrom (Snapshot.discover familyBatch).references "shop.Stranger" := by
  have found : (Snapshot.discover familyBatch).findCycle? "shop.Holder" =
      some ["shop.Child", "shop.Parent", "shop.Child"] := by rfl
  have leaf : (Snapshot.discover familyBatch).findCycle? "shop.Leaf" = none := by rfl
  have stranger : (Snapshot.discover familyBatch).findCycle? "shop.Stranger" = none := by rfl
  obtain ⟨_, _, sound⟩ := Snapshot.findCycle?_discover familyBatch "shop.Holder"
  obtain ⟨cycle, reached⟩ := sound _ found
  exact ⟨cycle, reached _ List.mem_cons_self,
    (Snapshot.findCycle?_discover familyBatch "shop.Leaf").2.1.1 leaf,
    (Snapshot.findCycle?_discover familyBatch "shop.Stranger").2.1.1 stranger⟩

end RecordSynthesis
