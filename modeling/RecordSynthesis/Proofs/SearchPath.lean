import Mathlib.Data.List.Basic
import RecordSynthesis.Proofs.CycleSearch

/-!
# One path and no memory

Two searches give the same answers as the search for cycles. The first one forgets: it keeps nothing
but its path and goes below every name again whenever a reference leads there
(`Snapshot.plainCycle?`). It ends because every name with references is on the path at most once.

The second one changes its state in place: it has a single path, puts a name at its end before it
goes below the name, and takes the last name off again when nothing has been found there (`Visits`).
That this is the right name to take off is not said by any of its rules. It holds because a search
that finds nothing leaves the path as it found it (`Visits.path_eq`). So the two searches go through
the same states (`answers_searchCycle`), and the one in place ends as well (`exists_visits`).

The main statement is `Snapshot.findCycle?_eq_plainCycle?`.
-/

set_option autoImplicit false

namespace RecordSynthesis

variable {references : String → List String}

/-! ## Names off the path -/

/-- The known names that are not on a path. -/
def offPath (known path : List String) : List String := known.filter (· ∉ path)

/-- Fewer names are off the path when one of them joins it. -/
theorem length_offPath_lt {known path : List String} {name : String} (member : name ∈ known)
    (fresh : name ∉ path) :
    (offPath known (path ++ [name])).length < (offPath known path).length := by
  have again : offPath known (path ++ [name]) = (offPath known path).filter (· ≠ name) := by
    rw [offPath, offPath, List.filter_filter]
    refine List.filter_congr fun a _ => ?_
    simp [and_comm]
  rw [again, List.length_filter_lt_length_iff_exists]
  exact ⟨name, List.mem_filter.2 ⟨member, by simpa using fresh⟩, by simp⟩

/-! ## The search that forgets -/

/-- Searches below a name that a path leads to. The result is the first cycle that closes. -/
def Snapshot.plainCycle? (s : Snapshot) (path : List String) (name : String) :
    Option (List String) :=
  if name ∈ path then some (closedAt name path)
  else
    (s.references name).attach.findSome? fun ⟨next, _⟩ => s.plainCycle? (path ++ [name]) next
termination_by (offPath s.models.keys path).length
decreasing_by
  have known := s.mem_keys_of_refers ‹next ∈ s.references name›
  exact length_offPath_lt known ‹name ∉ path›

theorem Snapshot.plainCycle?_eq (s : Snapshot) (path : List String) (name : String) :
    s.plainCycle? path name =
      if name ∈ path then some (closedAt name path)
      else (s.references name).findSome? (s.plainCycle? (path ++ [name])) := by
  rw [plainCycle?]
  simp

namespace Explores

/-- Of the searches below several names the first one with a result counts. -/
theorem first {path names : List String} {below : String → Option (List String)}
    (each : ∀ name ∈ names, Explores references path [name] (below name)) :
    Explores references path names (names.findSome? below) := by
  induction names with
  | nil => exact .done path
  | cons name names ih =>
      obtain ⟨first, others⟩ := List.forall_mem_cons.1 each
      rw [List.findSome?_cons]
      cases result : below name with
      | none =>
          rw [result] at first
          exact first.append (ih others)
      | some way =>
          rw [result] at first
          cases first with
          | again onPath => exact .again onPath
          | found fresh below => exact .found fresh below
          | next _ _ nothing => cases nothing

/-- A fresh name has the result of the search below it. -/
theorem fresh {path : List String} {name : String} {result : Option (List String)}
    (fresh : name ∉ path) (below : Explores references (path ++ [name]) (references name) result) :
    Explores references path [name] result := by
  cases result with
  | none => exact .next fresh below (.done path)
  | some way => exact .found fresh below

end Explores

theorem Snapshot.explores_plainCycle? (s : Snapshot) (path : List String) (name : String) :
    Explores s.references path [name] (s.plainCycle? path name) := by
  induction path, name using Snapshot.plainCycle?.induct s with
  | case1 path name onPath =>
      rw [plainCycle?_eq, if_pos onPath]
      exact .again onPath
  | case2 path name fresh ih =>
      rw [plainCycle?_eq, if_neg fresh]
      exact .fresh fresh (.first ih)

/-! ## The search in place -/

/-- What a search in place changes: the path from its start and the names that it has finished. -/
structure Trail where
  path : List String
  finished : List String

namespace Trail

/-- Goes below a name. -/
def enter (t : Trail) (name : String) : Trail := { t with path := t.path ++ [name] }

/-- Takes the last name off the path, and counts a name as finished. -/
def leave (t : Trail) (name : String) : Trail := ⟨t.path.dropLast, name :: t.finished⟩

end Trail

/-- Searches names one after the other, from one state to another. A finished name is passed over.
The result is the first cycle that closes, and the search stops there without putting its path in
order. -/
inductive Visits (references : String → List String) :
    Trail → List String → Option (List String) → Trail → Prop where
  | done (t : Trail) : Visits references t [] none t
  | again {t : Trail} {name : String} {names : List String} (onPath : name ∈ t.path) :
      Visits references t (name :: names) (some (closedAt name t.path)) t
  | known {t u : Trail} {name : String} {names : List String} {result : Option (List String)}
      (fresh : name ∉ t.path) (finished : name ∈ t.finished)
      (others : Visits references t names result u) : Visits references t (name :: names) result u
  | found {t u : Trail} {name : String} {names way : List String} (fresh : name ∉ t.path)
      (unfinished : name ∉ t.finished)
      (below : Visits references (t.enter name) (references name) (some way) u) :
      Visits references t (name :: names) (some way) u
  | next {t u v : Trail} {name : String} {names : List String} {result : Option (List String)}
      (fresh : name ∉ t.path) (unfinished : name ∉ t.finished)
      (below : Visits references (t.enter name) (references name) none u)
      (others : Visits references (u.leave name) names result v) :
      Visits references t (name :: names) result v

namespace Visits

variable {t u v : Trail} {names more : List String} {result : Option (List String)}

/-- **A search that finds nothing leaves the path as it found it.** -/
theorem path_eq (visits : Visits references t names none u) : u.path = t.path := by
  generalize nothing : (none : Option (List String)) = outcome at visits
  induction visits with
  | done t => rfl
  | again _ => cases nothing
  | known _ _ _ ih => exact ih nothing
  | found _ _ _ _ => cases nothing
  | @next t u v name names result _ _ below _ ihBelow ihOthers =>
      -- The name that is taken off is the one that was put on.
      have inner : u.path = t.path ++ [name] := ihBelow rfl
      have outer : v.path = u.path.dropLast := ihOthers nothing
      rw [outer, inner, List.dropLast_concat]

/-- A search has one result and leaves one state behind. -/
theorem unique {result' : Option (List String)} {u' : Trail}
    (one : Visits references t names result u) (other : Visits references t names result' u') :
    result = result' ∧ u = u' := by
  induction one generalizing result' u' with
  | done t =>
      cases other
      exact ⟨rfl, rfl⟩
  | again onPath =>
      cases other with
      | again _ => exact ⟨rfl, rfl⟩
      | known fresh _ _ => exact (fresh onPath).elim
      | found fresh _ _ => exact (fresh onPath).elim
      | next fresh _ _ _ => exact (fresh onPath).elim
  | known fresh finished _ ih =>
      cases other with
      | again onPath => exact (fresh onPath).elim
      | known _ _ others => exact ih others
      | found _ unfinished _ => exact (unfinished finished).elim
      | next _ unfinished _ _ => exact (unfinished finished).elim
  | found fresh unfinished _ ih =>
      cases other with
      | again onPath => exact (fresh onPath).elim
      | known _ finished _ => exact (unfinished finished).elim
      | found _ _ below => exact ih below
      | next _ _ below _ => cases (ih below).1
  | next fresh unfinished _ _ ihBelow ihOthers =>
      cases other with
      | again onPath => exact (fresh onPath).elim
      | known _ finished _ => exact (unfinished finished).elim
      | found _ _ below => cases (ihBelow below).1
      | next _ _ below others =>
          obtain ⟨_, rfl⟩ := ihBelow below
          exact ihOthers others

/-- Where nothing is found, the search goes on in the state that is left behind. -/
theorem append (quiet : Visits references t names none u)
    (others : Visits references u more result v) :
    Visits references t (names ++ more) result v := by
  generalize nothing : (none : Option (List String)) = outcome at quiet
  induction quiet with
  | done t => exact others
  | again _ => cases nothing
  | known fresh finished _ ih => exact .known fresh finished (ih others nothing)
  | found _ _ _ _ => cases nothing
  | next fresh unfinished below _ _ ih => exact .next fresh unfinished below (ih others nothing)

/-- Where a cycle is found, nothing else is searched. -/
theorem stop {way : List String} (found : Visits references t names (some way) u)
    (more : List String) : Visits references t (names ++ more) (some way) u := by
  generalize something : some way = outcome at found
  induction found with
  | done t => cases something
  | again onPath => exact .again onPath
  | known fresh finished _ ih => exact .known fresh finished (ih something)
  | found fresh unfinished below _ => exact .found fresh unfinished below
  | next fresh unfinished below _ _ ih => exact .next fresh unfinished below (ih something)

end Visits

/-! ## Both ways to keep the path -/

/-- What a search that is handed its path says about the search in place: nothing is found, the
names that it returns are finished and the path is the same, or the same cycle is found. -/
def Answers (references : String → List String) (t : Trail) (names : List String) :
    Except (List String) (List String) → Prop
  | .ok finished => Visits references t names none ⟨t.path, finished⟩
  | .error way => ∃ u, Visits references t names (some way) u

/-- Searches of names one after the other answer as the search of each. -/
theorem answers_foldlM {path names : List String}
    {below : List String → String → Except (List String) (List String)}
    (each : ∀ name ∈ names, ∀ finished,
      Answers references ⟨path, finished⟩ [name] (below finished name))
    (finished : List String) :
    Answers references ⟨path, finished⟩ names (names.foldlM below finished) := by
  induction names generalizing finished with
  | nil => exact .done _
  | cons name names ih =>
      obtain ⟨first, others⟩ := List.forall_mem_cons.1 each
      have here := first finished
      rw [List.foldlM_cons]
      cases step : below finished name with
      | error way =>
          rw [step] at here
          obtain ⟨u, found⟩ := here
          exact ⟨u, found.stop names⟩
      | ok finished' =>
          rw [step] at here
          change Answers references ⟨path, finished⟩ ([name] ++ names) (names.foldlM below finished')
          have rest := ih others finished'
          cases end' : names.foldlM below finished' with
          | error way =>
              rw [end'] at rest
              obtain ⟨u, found⟩ := rest
              exact ⟨u, here.append found⟩
          | ok last =>
              rw [end'] at rest
              exact here.append rest

/-- **The search that is handed its path goes through the states of the search in place**, if its
depth suffices for the known names off the path. -/
theorem Snapshot.answers_searchCycle (s : Snapshot) (depth : Nat) {path : List String}
    (granted : (offPath s.models.keys path).length < depth) (finished : List String)
    (name : String) :
    Answers s.references ⟨path, finished⟩ [name]
      (searchCycle s.references depth path finished name) := by
  induction depth generalizing path finished name with
  | zero => omega
  | succ depth ih =>
      rw [searchCycle]
      split
      next onPath => exact ⟨_, .again onPath⟩
      next fresh =>
        split
        next finished => exact .known fresh finished (.done _)
        next unfinished =>
          have inside : Answers s.references ⟨path ++ [name], finished⟩ (s.references name)
              ((s.references name).foldlM (searchCycle s.references depth (path ++ [name]))
                finished) := by
            refine answers_foldlM (fun next refers finished => ?_) finished
            -- The name that joins the path is one that is off it no longer, as the depth is one less.
            have fewer := length_offPath_lt (s.mem_keys_of_refers refers) fresh
            exact ih (by omega) finished next
          cases fold : (s.references name).foldlM
              (searchCycle s.references depth (path ++ [name])) finished with
          | error way =>
              rw [fold] at inside
              obtain ⟨u, found⟩ := inside
              exact ⟨u, .found fresh unfinished found⟩
          | ok finished' =>
              rw [fold] at inside
              have left : (⟨path ++ [name], finished'⟩ : Trail).leave name =
                  ⟨path, name :: finished'⟩ := by
                rw [Trail.leave, List.dropLast_concat]
              exact .next fresh unfinished inside (left ▸ .done _)

/-- What answers for the search in place shows its result. -/
theorem Answers.exists_visits {t : Trail} {names : List String}
    {outcome : Except (List String) (List String)} (answers : Answers references t names outcome) :
    ∃ result u, Visits references t names result u := by
  cases outcome with
  | ok finished => exact ⟨none, _, answers⟩
  | error way =>
      obtain ⟨u, found⟩ := answers
      exact ⟨some way, u, found⟩

namespace Snapshot

variable (s : Snapshot)

/-- The search in place ends, in whatever state it begins. -/
theorem exists_visits (t : Trail) (names : List String) :
    ∃ result u, Visits s.references t names result u := by
  have each : ∀ name ∈ names, ∀ finished, Answers s.references ⟨t.path, finished⟩ [name]
      (searchCycle s.references ((offPath s.models.keys t.path).length + 1) t.path finished name) :=
    fun name _ finished => s.answers_searchCycle _ (Nat.lt_succ_self _) finished name
  exact (answers_foldlM each t.finished).exists_visits

theorem exists_visits_findCycle? (start : String) :
    ∃ u, Visits s.references ⟨[], []⟩ [start] (s.findCycle? start) u := by
  have granted : (offPath s.models.keys []).length < s.size + 1 := by
    have few := List.length_filter_le (· ∉ ([] : List String)) s.models.keys
    have all : s.models.keys.length = s.size := List.length_map _
    rw [offPath]
    omega
  have answers := s.answers_searchCycle (s.size + 1) granted [] start
  rw [findCycle?]
  cases outcome : searchCycle s.references (s.size + 1) [] [] start with
  | ok finished =>
      rw [outcome] at answers
      exact ⟨_, answers⟩
  | error way =>
      rw [outcome] at answers
      exact answers

/-- **The search needs no memory and only one path.** From every start it finds what the search
without finished names finds, the same cycle or none. It also finds what the search in place finds
from the empty state. In whatever state the search in place begins, it ends in one way only, and
whenever it finds nothing the path is as before. -/
theorem findCycle?_eq_plainCycle? (start : String) :
    s.findCycle? start = s.plainCycle? [] start ∧
      (∃ u, Visits s.references ⟨[], []⟩ [start] (s.findCycle? start) u) ∧
      ∀ (t : Trail) (names : List String),
        (∃ result u, Visits s.references t names result u ∧
          ∀ result' u', Visits s.references t names result' u' → result' = result ∧ u' = u) ∧
        ∀ u, Visits s.references t names none u → u.path = t.path := by
  refine ⟨findCycle?_eq_iff.2 (s.explores_plainCycle? [] start), s.exists_visits_findCycle? start,
    fun t names => ⟨?_, fun u quiet => quiet.path_eq⟩⟩
  obtain ⟨result, u, visits⟩ := s.exists_visits t names
  exact ⟨result, u, visits, fun result' u' other => other.unique visits⟩

end Snapshot

/-- The search that forgets comes to the leaf twice on its way to the cycle. The search of the leaf
on a path with the holder takes the leaf off again. -/
theorem familyBatch_plainCycle? :
    (Snapshot.discover familyBatch).plainCycle? [] "shop.Holder" =
        some ["shop.Child", "shop.Parent", "shop.Child"] ∧
      ∃ u, Visits (Snapshot.discover familyBatch).references ⟨["shop.Holder"], []⟩ ["shop.Leaf"]
          none u ∧ u.path = ["shop.Holder"] := by
  have found : (Snapshot.discover familyBatch).findCycle? "shop.Holder" =
      some ["shop.Child", "shop.Parent", "shop.Child"] := by rfl
  have leaf : (Snapshot.discover familyBatch).references "shop.Leaf" = [] := by rfl
  have below : Visits (Snapshot.discover familyBatch).references ⟨["shop.Holder", "shop.Leaf"], []⟩
      ((Snapshot.discover familyBatch).references "shop.Leaf") none
      ⟨["shop.Holder", "shop.Leaf"], []⟩ := by
    rw [leaf]
    exact .done _
  have visits : Visits (Snapshot.discover familyBatch).references ⟨["shop.Holder"], []⟩
      ["shop.Leaf"] none ⟨["shop.Holder"], ["shop.Leaf"]⟩ :=
    .next (by decide) (by decide) below (.done _)
  obtain ⟨same, _, inPlace⟩ :=
    (Snapshot.discover familyBatch).findCycle?_eq_plainCycle? "shop.Holder"
  exact ⟨same ▸ found, _, visits, (inPlace _ _).2 _ visits⟩

end RecordSynthesis
