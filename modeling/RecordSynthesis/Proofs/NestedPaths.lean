import RecordSynthesis.Proofs.Paths

/-!
# Paths below paths

A relative path below another one adds its segments to those of the other path
(`Path.components_push`). So a path below another one ends like the lower path, and the path of an
artifact always ends with the name of its file, whatever its package and the name of its type hold.
-/

set_option autoImplicit false

namespace RecordSynthesis

open RecordSynthesis.Text

/-! ## Cutting texts that are put together -/

namespace Text

/-- A text cut at one place where the separator stands is cut on both sides of it. -/
theorem pieces_append_cons (sep : Char) (front back : List Char) :
    pieces sep (front ++ sep :: back) = pieces sep front ++ pieces sep back := by
  induction front with
  | nil => simp [pieces]
  | cons c front ih =>
      rw [List.cons_append, pieces, pieces, ih]
      split
      next => rfl
      next =>
        obtain ⟨first, others, cut⟩ := List.exists_cons_of_ne_nil (pieces_ne_nil sep front)
        rw [cut]
        rfl

/-- A text without the separator that is put behind another one goes to its last piece. -/
theorem exists_pieces_append {sep : Char} {tail : List Char} (clean : sep ∉ tail)
    (front : List Char) :
    ∃ others last, pieces sep front = others ++ [last] ∧
      pieces sep (front ++ tail) = others ++ [last ++ tail] := by
  induction front with
  | nil =>
      refine ⟨[], [], rfl, ?_⟩
      induction tail with
      | nil => rfl
      | cons c tail ih =>
          rw [List.mem_cons, not_or] at clean
          rw [List.nil_append, pieces, if_neg (Ne.symm clean.1), ← List.nil_append tail,
            ih clean.2]
          rfl
  | cons c front ih =>
      obtain ⟨others, last, cut, cut'⟩ := ih
      rw [List.cons_append, pieces, pieces, cut, cut']
      split
      next => exact ⟨[] :: others, last, rfl, rfl⟩
      next =>
        cases others with
        | nil => exact ⟨[], c :: last, rfl, rfl⟩
        | cons first others => exact ⟨(c :: first) :: others, last, rfl, rfl⟩

/-- A text without the separator that is put behind another one goes to its last segment. -/
theorem exists_segments_append {sep : Char} {ending : String} (clean : sep ∉ ending.toList)
    (front : String) : ∃ others last, segments sep front = others ++ [last] ∧
      segments sep (front ++ ending) = others ++ [last ++ ending] := by
  obtain ⟨others, last, cut, cut'⟩ := exists_pieces_append clean front.toList
  refine ⟨others.map String.ofList, String.ofList last, ?_, ?_⟩
  · rw [segments, cut, List.map_append, List.map_singleton]
  · rw [segments, String.toList_append, cut', List.map_append, List.map_singleton,
      String.ofList_append, String.ofList_toList]

theorem segments_append_slash (front back : String) :
    segments '/' (front ++ "/" ++ back) = segments '/' front ++ segments '/' back := by
  have chars : (front ++ "/" ++ back).toList = front.toList ++ '/' :: back.toList := by simp
  rw [segments, chars, pieces_append_cons, List.map_append]
  rfl

end Text

/-! ## Components -/

namespace Path

variable {path more : String}

/-- The component at the start of a path that shows whether it begins at the root or here. -/
def lead (path : String) : List PathComponent :=
  if isAbsolute path then [.root]
  else if (segments '/' path).head? = some "." then [.here]
  else []

/-- The components that a path adds when it stands below another one. -/
def inner (path : String) : List PathComponent :=
  (segments '/' path).filterMap PathComponent.ofSegment?

theorem components_eq (path : String) : components path = lead path ++ inner path := by
  rw [components, lead, inner]

theorem ofSegment?_ne_root (part : String) : PathComponent.ofSegment? part ≠ some .root := by
  intro same
  rw [PathComponent.ofSegment?] at same
  split at same
  next => cases same
  next => split at same <;> cases same

theorem ofSegment?_eq_parent {part : String} :
    PathComponent.ofSegment? part = some .parent ↔ part = ".." := by
  rw [PathComponent.ofSegment?]
  constructor
  · intro same
    split at same
    next => cases same
    next =>
      split at same
      next up => exact up
      next => cases same
  · rintro rfl
    rfl

theorem root_not_mem_inner : .root ∉ inner path := by
  intro member
  obtain ⟨part, _, same⟩ := List.mem_filterMap.1 member
  exact ofSegment?_ne_root part same

/-- All components of a relative path count below another one, apart from a single dot in front. -/
theorem inner_eq_components (relative : isAbsolute path = false)
    (below : .here ∉ components path) : inner path = components path := by
  have first : lead path = [] := by
    rw [components_eq, List.mem_append, not_or] at below
    rw [lead, relative, if_neg Bool.false_ne_true] at below ⊢
    split
    next here =>
      rw [if_pos here] at below
      exact (below.1 List.mem_cons_self).elim
    next => rfl
  rw [components_eq, first, List.nil_append]

/-- A path holds the root exactly when it begins there. -/
theorem root_mem_components : .root ∈ components path ↔ isAbsolute path = true := by
  rw [components_eq, List.mem_append, or_iff_left root_not_mem_inner, lead]
  split
  next absolute => simp [absolute]
  next relative => split <;> simp [relative]

theorem parent_not_mem_lead : .parent ∉ lead path := by
  rw [lead]
  split
  next => simp
  next => split <;> simp

/-- A path leads upwards exactly where a segment of it is made of two dots. -/
theorem parent_mem_components : .parent ∈ components path ↔ ".." ∈ segments '/' path := by
  rw [components_eq, List.mem_append, or_iff_right parent_not_mem_lead, inner, List.mem_filterMap]
  simp only [ofSegment?_eq_parent, exists_eq_right]

/-! ## Paths below paths -/

theorem inner_slash (front back : String) :
    inner (front ++ "/" ++ back) = inner front ++ inner back := by
  rw [inner, segments_append_slash, List.filterMap_append, inner, inner]

theorem lead_slash (front back : String) : lead (front ++ "/" ++ back) = lead (front ++ "/") := by
  have first : isAbsolute (front ++ "/" ++ back) = isAbsolute (front ++ "/") := by
    rw [isAbsolute, isAbsolute, String.toList_append, List.head?_append_of_ne_nil]
    simp
  have cut := segments_append_slash front ""
  rw [String.append_empty] at cut
  rw [lead, lead, first, segments_append_slash, cut,
    List.head?_append_of_ne_nil _ (segments_ne_nil '/' front),
    List.head?_append_of_ne_nil _ (segments_ne_nil '/' front)]

theorem lead_concat_slash {front : String} (some : front ≠ "") :
    lead (front ++ "/") = lead front := by
  have first : isAbsolute (front ++ "/") = isAbsolute front := by
    rw [isAbsolute, isAbsolute, String.toList_append, List.head?_append_of_ne_nil]
    simpa using some
  have cut := segments_append_slash front ""
  rw [String.append_empty] at cut
  rw [lead, lead, first, cut, List.head?_append_of_ne_nil _ (segments_ne_nil '/' front)]

/-- Either the path ends with a slash and has one more slash for every text behind it, or a slash is
put in between. -/
theorem push_eq (relative : isAbsolute more = false) (some : path ≠ "") :
    ∃ front, push path more = front ++ "/" ++ more ∧ lead (front ++ "/") = lead path ∧
      inner front = inner path := by
  rw [push, relative, if_neg Bool.false_ne_true]
  split
  next ends =>
    have slash : path.toList.getLast? = Option.some '/' := by simpa [some] using ends
    obtain ⟨chars, all⟩ := List.getLast?_eq_some_iff.1 slash
    obtain ⟨front, rfl⟩ : ∃ front, path = front ++ "/" :=
      ⟨String.ofList chars, by rw [← String.toList_inj]; simp [all]⟩
    have idle := inner_slash front ""
    rw [String.append_empty] at idle
    refine ⟨front, rfl, rfl, ?_⟩
    rw [idle]
    exact (List.append_nil _).symm
  next => exact ⟨path, rfl, lead_concat_slash some, rfl⟩

/-- A relative path below another one adds its components to those of the other path. -/
theorem components_push (relative : isAbsolute more = false) (some : path ≠ "") :
    components (push path more) = components path ++ inner more := by
  obtain ⟨front, all, first, others⟩ := push_eq relative some
  rw [all, components_eq, components_eq, lead_slash, inner_slash, first, others, List.append_assoc]

theorem push_empty (more : String) : push "" more = more := by
  rw [push]
  split
  next => rfl
  next => rw [if_pos (by simp), String.empty_append]

theorem inner_push (relative : isAbsolute more = false) :
    inner (push path more) = inner path ++ inner more := by
  by_cases empty : path = ""
  · rw [empty, push_empty]
    rfl
  · obtain ⟨front, all, _, others⟩ := push_eq relative empty
    rw [all, inner_slash, others]

/-! ## The ends of paths -/

theorem getLast?_components {c : PathComponent} (last : (inner path).getLast? = some c) :
    (components path).getLast? = some c := by
  rw [components_eq, List.getLast?_append, last, Option.some_or]

/-- A path below another one ends as it does on its own. -/
theorem getLast?_inner_push {c : PathComponent} (last : (inner more).getLast? = some c) :
    (inner (push path more)).getLast? = some c := by
  cases absolute : isAbsolute more with
  | true => rwa [push, absolute, if_pos rfl]
  | false => rw [inner_push absolute, List.getLast?_append, last, Option.some_or]

/-- A text with an ending that holds no slash and is longer than two characters ends with a name. -/
theorem exists_getLast?_inner {ending : String} (clean : '/' ∉ ending.toList)
    (long : 2 < ending.length) (front : String) :
    ∃ n, (inner (front ++ ending)).getLast? = some (.name n) := by
  obtain ⟨others, last, _, cut⟩ := exists_segments_append clean front
  have differs : ∀ short : String, short.length ≤ 2 → last ++ ending ≠ short := by
    rintro short bound rfl
    rw [String.length_append] at bound
    omega
  have name : PathComponent.ofSegment? (last ++ ending) = some (.name (last ++ ending)) := by
    simp [PathComponent.ofSegment?, differs "" (by decide), differs "." (by decide),
      differs ".." (by decide)]
  refine ⟨last ++ ending, ?_⟩
  rw [inner, cut, List.filterMap_append, List.filterMap_cons_some name, List.filterMap_nil,
    List.getLast?_concat]

end Path

/-! ## Paths of artifacts -/

namespace Artifact

/-- The path of an artifact ends with the name of a file, whatever its names hold. -/
theorem exists_getLast?_relativePath (a : Artifact) :
    ∃ n, (Path.inner a.relativePath).getLast? = some (.name n) := by
  obtain ⟨n, last⟩ := Path.exists_getLast?_inner (show '/' ∉ ".java".toList by decide)
    (by decide) a.typeName
  exact ⟨n, Path.getLast?_inner_push last⟩

/-- A dot stands in the name of a file and in no name of a directory. -/
theorem fileName_not_mem_directories (a b : Artifact) :
    a.typeName ++ ".java" ∉ b.directories := by
  intro member
  have inside : '.' ∈ (a.typeName ++ ".java").toList := by simp
  exact (mem_of_mem_segments (List.mem_of_mem_filter member) inside).2 rfl

variable {a : Artifact}

theorem Slashless.isAbsolute_relativePath (slashless : a.Slashless) :
    Path.isAbsolute a.relativePath = false := by
  rw [← Bool.not_eq_true, ← Path.root_mem_components, components_relativePath slashless]
  simp

/-- The path of an artifact without slashes adds its names to any path that it stands below. -/
theorem Slashless.components_push (slashless : a.Slashless) (path : String) :
    Path.components (Path.push path a.relativePath) =
      Path.components path ++ (a.directories ++ [a.typeName ++ ".java"]).map .name := by
  have names := components_relativePath slashless
  by_cases empty : path = ""
  · rw [empty, Path.push_empty, names]
    rfl
  · have below : .here ∉ Path.components a.relativePath := by
      rw [names]
      simp
    rw [Path.components_push slashless.isAbsolute_relativePath empty,
      Path.inner_eq_components slashless.isAbsolute_relativePath below, names]

end Artifact
end RecordSynthesis
