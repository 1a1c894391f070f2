import Mathlib.Data.List.Chain
import Mathlib.Data.List.Nodup
import Mathlib.Data.List.Perm.Subperm
import Mathlib.Logic.Relation
import RecordSynthesis.Proofs.Traversal
import RecordSynthesis.Snapshot.Cycle

/-!
# The graph of references and the search for its cycles

A name refers to the names that the reference function lists for it. A name is on a cycle when one
or more references lead from it back to itself, and a list is a cycle when it is such a way, closed
and without other repetitions.

The depth-first search carries two invariants. Along its path every name refers to the next, so a
cycle that it reports is one (`Walk`, `searchCycle_error`). Its finished names refer to finished
names only, are on no cycle and lie off the path (`Settled`, `searchCycle_ok`). A path repeats no
name, and every name on it refers to something, so the granted depth is never used up.

For a snapshot this says that nothing is found exactly when no cycle can be reached
(`Snapshot.findCycle?_eq_none`), and that a cycle which is found is one that can be reached
(`Snapshot.findCycle?_eq_some`).
-/

set_option autoImplicit false

namespace RecordSynthesis

/-! ## References, ways and cycles -/

section Graph

variable (references : String → List String)

/-- One name refers to another. -/
def Refers (a b : String) : Prop := b ∈ references a

/-- References lead from one name to another, or the names are the same. -/
abbrev Reaches (a b : String) : Prop := Relation.ReflTransGen (Refers references) a b

/-- References lead from a name back to it. -/
abbrev OnCycle (a : String) : Prop := Relation.TransGen (Refers references) a a

/-- A closed way along references: the first name stands again at the end, and no name is repeated
otherwise. -/
structure IsCycle (way : List String) : Prop where
  long : 2 ≤ way.length
  closed : way.head? = way.getLast?
  distinct : way.dropLast.Nodup
  linked : way.IsChain (Refers references)

/-- No cycle can be reached from a name. -/
def AcyclicFrom (start : String) : Prop := ∀ a, Reaches references start a → ¬ OnCycle references a

end Graph

variable {references : String → List String}

/-- The first name of a chain leads to all of its names. -/
theorem reaches_of_isChain {a : String} {way : List String}
    (linked : (a :: way).IsChain (Refers references)) : ∀ b ∈ a :: way, Reaches references a b := by
  induction way generalizing a with
  | nil =>
      intro b hb
      rw [List.mem_singleton] at hb
      exact hb ▸ .refl
  | cons next way ih =>
      obtain ⟨step, rest⟩ := List.isChain_cons_cons.1 linked
      intro b hb
      rcases List.mem_cons.1 hb with rfl | hb
      · exact .refl
      · exact .head step (ih rest b hb)

/-- The first name of a cycle is on a cycle. -/
theorem IsCycle.onCycle {way : List String} (cycle : IsCycle references way) {a : String}
    (first : way.head? = some a) : OnCycle references a := by
  obtain ⟨long, closed, _, linked⟩ := cycle
  match way, first with
  | b :: c :: rest, first =>
      obtain rfl : b = a := by simpa using first
      obtain ⟨step, tail⟩ := List.isChain_cons_cons.1 linked
      have last : b ∈ c :: rest := by
        refine List.mem_of_getLast? ?_
        rw [← closed.trans (List.getLast?_cons_cons ..)]
        rfl
      exact .head' step (reaches_of_isChain tail b last)

/-! ## The path of the search -/

/-- What the search keeps of its path: no name stands on it twice, every name refers to the next
and the last one to the name in question, and all of them can be reached from the start. -/
structure Walk (references : String → List String) (start : String) (path : List String)
    (name : String) : Prop where
  distinct : path.Nodup
  linked : (path ++ [name]).IsChain (Refers references)
  reached : ∀ a ∈ path ++ [name], Reaches references start a

theorem Walk.nil (start : String) : Walk references start [] start where
  distinct := .nil
  linked := .singleton _
  reached a ha := by
    rw [List.nil_append, List.mem_singleton] at ha
    exact ha ▸ .refl

/-- A fresh name joins the path, and the search goes on with a name that it refers to. -/
theorem Walk.step {start : String} {path : List String} {name next : String}
    (walk : Walk references start path name) (fresh : name ∉ path)
    (refers : Refers references name next) : Walk references start (path ++ [name]) next where
  distinct := by
    rw [List.nodup_append]
    refine ⟨walk.distinct, List.nodup_singleton name, ?_⟩
    rintro a ha b hb rfl
    exact fresh (List.mem_singleton.1 hb ▸ ha)
  linked := by
    rw [List.append_assoc]
    exact List.isChain_split.2 ⟨walk.linked, List.isChain_pair.2 refers⟩
  reached a ha := by
    rcases List.mem_append.1 ha with ha | ha
    · exact walk.reached a ha
    · obtain rfl := List.mem_singleton.1 ha
      exact (walk.reached name (by simp)).tail refers

theorem closedAt_append (name : String) {before after : List String} (fresh : name ∉ before) :
    closedAt name (before ++ name :: after) = name :: (after ++ [name]) := by
  have skipped : ∀ a ∈ before, decide (a ≠ name) = true := by
    rintro a ha
    exact decide_eq_true fun same => fresh (same ▸ ha)
  rw [closedAt, List.dropWhile_append_of_pos skipped]
  simp

/-- A path that comes back to one of its names closes a cycle. -/
theorem Walk.isCycle_closedAt {start : String} {path : List String} {name : String}
    (walk : Walk references start path name) (again : name ∈ path) :
    IsCycle references (closedAt name path) := by
  obtain ⟨before, after, rfl, fresh⟩ := List.eq_append_cons_of_mem again
  rw [closedAt_append name fresh]
  refine ⟨by simp, ?_, ?_, ?_⟩
  · rw [← List.cons_append, List.getLast?_concat]
    rfl
  · rw [← List.cons_append, List.dropLast_concat]
    exact (List.nodup_append.1 walk.distinct).2.1
  · have linked := walk.linked
    rw [List.append_assoc, List.cons_append] at linked
    exact (List.isChain_split.1 linked).2

/-- **A reported cycle is one.** It can be reached from the start of the search. -/
theorem searchCycle_error {start : String} (depth : Nat) {path finished : List String}
    {name : String} {way : List String} (walk : Walk references start path name)
    (found : searchCycle references depth path finished name = .error way) :
    IsCycle references way ∧ ∀ a ∈ way, Reaches references start a := by
  induction depth generalizing path finished name with
  | zero => cases found
  | succ depth ih =>
      rw [searchCycle] at found
      split at found
      next again =>
        cases found
        refine ⟨walk.isCycle_closedAt again, ?_⟩
        intro a ha
        rcases List.mem_append.1 ha with ha | ha
        · exact walk.reached a
            (List.mem_append_left _ ((List.dropWhile_sublist _).subset ha))
        · exact walk.reached a (List.mem_append_right _ ha)
      next fresh =>
        split at found
        next => cases found
        next =>
          -- the report comes from the search below one of the references
          rcases bind_eq_error.1 found with below | ⟨_, _, last⟩
          · obtain ⟨before, next, after, _, split, _, below⟩ := foldlM_eq_error below
            have refers : Refers references name next := by
              rw [Refers, split]
              exact List.mem_append_right _ List.mem_cons_self
            exact ih (walk.step fresh refers) below
          · cases last

/-! ## The finished names -/

/-- What the search keeps of its finished names: they refer to finished names only, none of them is
on a cycle, and none of them is on the path. -/
structure Settled (references : String → List String) (path finished : List String) : Prop where
  closed : ∀ a ∈ finished, ∀ b, Refers references a b → b ∈ finished
  acyclic : ∀ a ∈ finished, ¬ OnCycle references a
  apart : ∀ a ∈ finished, a ∉ path

theorem Settled.nil (path : List String) : Settled references path [] := ⟨nofun, nofun, nofun⟩

/-- From a finished name only finished names can be reached. -/
theorem Settled.reaches {path finished : List String} (settled : Settled references path finished)
    {a b : String} (done : a ∈ finished) (way : Reaches references a b) : b ∈ finished := by
  induction way with
  | refl => exact done
  | tail _ step ih => exact settled.closed _ ih _ step

/-- A finished name stays finished while a name outside joins the path. -/
theorem Settled.push {path finished : List String} {name : String}
    (settled : Settled references path finished) (fresh : name ∉ finished) :
    Settled references (path ++ [name]) finished where
  closed := settled.closed
  acyclic := settled.acyclic
  apart a ha := by
    rintro onPath
    rcases List.mem_append.1 onPath with onPath | onPath
    · exact settled.apart a ha onPath
    · exact fresh (List.mem_singleton.1 onPath ▸ ha)

/-- When everything that a name refers to is finished, the name leaves the path and is finished. -/
theorem Settled.finish {path finished : List String} {name : String}
    (settled : Settled references (path ++ [name]) finished) (fresh : name ∉ path)
    (below : ∀ b, Refers references name b → b ∈ finished) :
    Settled references path (name :: finished) where
  closed a ha b refers := by
    rcases List.mem_cons.1 ha with rfl | ha
    · exact List.mem_cons_of_mem _ (below b refers)
    · exact List.mem_cons_of_mem _ (settled.closed a ha b refers)
  acyclic a ha := by
    rcases List.mem_cons.1 ha with rfl | ha
    · -- a cycle through the name would come back to it through finished names
      rintro cycle
      obtain ⟨b, refers, back⟩ := Relation.TransGen.head'_iff.1 cycle
      exact settled.apart a (settled.reaches (below b refers) back) (by simp)
    · exact settled.acyclic a ha
  apart a ha := by
    rcases List.mem_cons.1 ha with rfl | ha
    · exact fresh
    · exact fun onPath => settled.apart a ha (List.mem_append_left _ onPath)

/-- While names are searched one after the other, those already searched stay finished. -/
theorem Settled.foldlM {f : List String → String → Except (List String) (List String)}
    {path finished finished' names : List String} (settled : Settled references path finished)
    (result : names.foldlM f finished = .ok finished')
    (step : ∀ name ∈ names, ∀ u v, Settled references path u → f u name = .ok v →
      Settled references path v ∧ u ⊆ v ∧ name ∈ v) :
    Settled references path finished' ∧ finished ⊆ finished' ∧
      ∀ name ∈ names, name ∈ finished' := by
  refine foldlM_ok_induction (fun searched u => Settled references path u ∧ finished ⊆ u ∧
    ∀ name ∈ searched, name ∈ u) result ⟨settled, fun _ h => h, nofun⟩ ?_
  rintro searched name member u v ⟨settledU, moreU, belowU⟩ next
  obtain ⟨settledV, moreV, done⟩ := step name member u v settledU next
  refine ⟨settledV, fun a ha => moreV (moreU ha), ?_⟩
  intro a ha
  rcases List.mem_append.1 ha with ha | ha
  · exact moreV (belowU a ha)
  · exact List.mem_singleton.1 ha ▸ done

/-- **A search without report leaves its name finished.** Here `known` holds every name that refers
to something; the depth suffices for a path that stays inside it. -/
theorem searchCycle_ok {known : List String} (covers : ∀ a b, Refers references a b → a ∈ known)
    (depth : Nat) {path finished finished' : List String} {name : String}
    (distinct : path.Nodup) (inside : path ⊆ known) (granted : known.length < path.length + depth)
    (settled : Settled references path finished)
    (result : searchCycle references depth path finished name = .ok finished') :
    Settled references path finished' ∧ finished ⊆ finished' ∧ name ∈ finished' := by
  induction depth generalizing path finished finished' name with
  | zero =>
      have := (distinct.subperm inside).length_le
      omega
  | succ depth ih =>
      rw [searchCycle] at result
      split at result
      next => cases result
      next fresh =>
        split at result
        next done =>
          cases result
          exact ⟨settled, fun _ h => h, done⟩
        next unfinished =>
          obtain ⟨last, fold, same⟩ := bind_eq_ok.1 result
          cases same
          have distinct' : (path ++ [name]).Nodup := by
            rw [← List.concat_eq_append]
            exact distinct.concat fresh
          have granted' : known.length < (path ++ [name]).length + depth := by
            rw [List.length_append, List.length_singleton]
            omega
          obtain ⟨settled', more, below⟩ := (settled.push unfinished).foldlM fold
            fun b refers u v settledU next => by
              have inside' : path ++ [name] ⊆ known :=
                List.append_subset.2 ⟨inside, by simpa using covers name b refers⟩
              exact ih distinct' inside' granted' settledU next
          exact ⟨settled'.finish fresh below, fun a ha => List.mem_cons_of_mem _ (more ha),
            List.mem_cons_self⟩

/-! ## The search in a snapshot -/

namespace Snapshot

theorem mem_keys_of_refers (s : Snapshot) {a b : String} (refers : Refers s.references a b) :
    a ∈ s.models.keys := by
  have known : s.find? a ≠ none := by
    rintro unknown
    simp [Refers, references, unknown] at refers
  exact Dictionary.mem_keys.2 known

/-- A found cycle is one, and its names can be reached. -/
theorem findCycle?_eq_some {s : Snapshot} {start : String} {way : List String}
    (found : s.findCycle? start = some way) :
    IsCycle s.references way ∧ ∀ a ∈ way, Reaches s.references start a := by
  rw [findCycle?] at found
  split at found
  next cycle report =>
    cases found
    exact searchCycle_error _ (Walk.nil start) report
  next => cases found

/-- Nothing is found exactly when no cycle can be reached. -/
theorem findCycle?_eq_none {s : Snapshot} {start : String} :
    s.findCycle? start = none ↔ AcyclicFrom s.references start := by
  cases found : s.findCycle? start with
  | some way =>
      obtain ⟨cycle, reached⟩ := findCycle?_eq_some found
      refine ⟨nofun, fun acyclic => ?_⟩
      match way, cycle.long with
      | first :: _, _ =>
          exact (acyclic first (reached first List.mem_cons_self) (cycle.onCycle rfl)).elim
  | none =>
      refine ⟨fun _ a way => ?_, fun _ => rfl⟩
      rw [findCycle?] at found
      split at found
      next => cases found
      next finished result =>
        have covers : ∀ a b, Refers s.references a b → a ∈ s.models.keys := fun _ _ =>
          s.mem_keys_of_refers
        obtain ⟨settled, _, done⟩ := searchCycle_ok covers (s.size + 1) .nil (List.nil_subset _)
          (by simp [Dictionary.keys, size, Dictionary.size]) (.nil []) result
        exact settled.acyclic a (settled.reaches done way)

end Snapshot

end RecordSynthesis
