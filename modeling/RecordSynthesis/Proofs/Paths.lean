import Mathlib.Data.List.Basic
import Mathlib.Data.List.Induction
import RecordSynthesis.Naming
import RecordSynthesis.Store.Artifact

/-!
# Names in paths

Cutting and joining are inverse to each other on segments without the separator
(`segments_joined`, `joined_segments`). Two consequences serve the question which artifacts share a
path: names of a chain without the separator can be read off the joined chain, up to empty names in
front (`chainText_injective`), and the path of an artifact without slashes in its names leads
through the directories of its package to the file of its type (`Artifact.components_relativePath`).
The parent of a path that ends with a name has the components of the path without that name
(`Path.components_parent`).
-/

set_option autoImplicit false

namespace RecordSynthesis

open RecordSynthesis.Text

/-! ## Cutting and joining -/

namespace Text

theorem pieces_eq_splitOn (sep : Char) (cs : List Char) : pieces sep cs = cs.splitOn sep := by
  induction cs with
  | nil => rfl
  | cons c cs ih =>
      rw [pieces, List.splitOn_cons_eq_if_modifyHead, ih]
      exact if_congr beq_iff_eq.symm rfl rfl

theorem joined_segments (sep : Char) (s : String) :
    joined (String.singleton sep) (segments sep s) = s := by
  rw [joined, segments, ← String.toList_inj, String.toList_intercalate, List.map_map,
    pieces_eq_splitOn]
  simp only [Function.comp_def, String.toList_ofList, List.map_id', String.toList_singleton]
  exact List.intercalate_splitOn sep

theorem segments_joined {sep : Char} {parts : List String} (some : parts ≠ [])
    (clean : ∀ part ∈ parts, sep ∉ part.toList) :
    segments sep (joined (String.singleton sep) parts) = parts := by
  have clean' : ∀ cs ∈ parts.map String.toList, sep ∉ cs := by
    intro cs member
    obtain ⟨part, listed, rfl⟩ := List.mem_map.1 member
    exact clean part listed
  rw [joined, segments, String.toList_intercalate, pieces_eq_splitOn, String.toList_singleton,
    List.splitOn_intercalate sep clean' (by simpa using some), List.map_map]
  simp [Function.comp_def]

theorem segments_injective {sep : Char} {s t : String} (same : segments sep s = segments sep t) :
    s = t := by
  rw [← joined_segments sep s, same, joined_segments]

/-- A segment holds characters of the text, and the separator is none of them. -/
theorem mem_of_mem_segments {sep : Char} {s part : String} (member : part ∈ segments sep s)
    {c : Char} (inside : c ∈ part.toList) : c ∈ s.toList ∧ c ≠ sep := by
  have general : ∀ cs : List Char, ∀ piece ∈ pieces sep cs, c ∈ piece → c ∈ cs ∧ c ≠ sep := by
    intro cs
    induction cs with
    | nil => simp [pieces]
    | cons d cs ih =>
        intro piece member inside
        rw [pieces] at member
        split at member
        next =>
          rcases List.mem_cons.1 member with rfl | member
          · cases inside
          · exact ⟨List.mem_cons_of_mem _ (ih piece member inside).1, (ih piece member inside).2⟩
        next differs =>
          obtain ⟨first, others, cut⟩ := List.exists_cons_of_ne_nil (pieces_ne_nil sep cs)
          rw [cut] at member ih
          rcases List.mem_cons.1 member with rfl | member
          · rcases List.mem_cons.1 inside with rfl | inside
            · exact ⟨List.mem_cons_self, differs⟩
            · obtain ⟨known, apart⟩ := ih first List.mem_cons_self inside
              exact ⟨List.mem_cons_of_mem _ known, apart⟩
          · obtain ⟨known, apart⟩ := ih piece (List.mem_cons_of_mem _ member) inside
            exact ⟨List.mem_cons_of_mem _ known, apart⟩
  obtain ⟨piece, listed, rfl⟩ := List.mem_map.1 member
  rw [String.toList_ofList] at inside
  exact general s.toList piece listed inside

end Text

/-! ## Chains -/

/-- The names of a chain that count are the segments of the joined chain. -/
theorem dropWhile_eq_segments {sep : Char} {chain : List String}
    (clean : ∀ name ∈ chain, sep ∉ name.toList) :
    chain.dropWhile (· = "") =
      if chainText (String.singleton sep) chain = "" then []
      else segments sep (chainText (String.singleton sep) chain) := by
  have clean' : ∀ name ∈ chain.dropWhile (· = ""), sep ∉ name.toList := fun name member =>
    clean name ((List.dropWhile_subset _) member)
  have head := List.head?_dropWhile_not (· = "") chain
  rw [chainText]
  cases names : chain.dropWhile (· = "") with
  | nil => rfl
  | cons name rest =>
      rw [names] at head clean'
      have read := segments_joined (List.cons_ne_nil name rest) clean'
      rw [read, if_neg]
      intro empty
      rw [empty] at read
      obtain ⟨rfl, -⟩ := List.cons.inj read
      simp at head

/-- Names without the separator can be read off the joined chain, up to empty names in front. -/
theorem chainText_injective {sep : Char} {first second : List String}
    (clean : ∀ name ∈ first, sep ∉ name.toList) (clean' : ∀ name ∈ second, sep ∉ name.toList)
    (same : chainText (String.singleton sep) first = chainText (String.singleton sep) second) :
    first.dropWhile (· = "") = second.dropWhile (· = "") := by
  rw [dropWhile_eq_segments clean, dropWhile_eq_segments clean', same]

/-- A record never has the name that the naming rules give to an implementation. -/
theorem recordTypeName_ne_implementationTypeName (first second : List String) :
    recordTypeName first ≠ implementationTypeName second := by
  intro same
  have chars := congrArg String.toList same
  simp [recordTypeName, implementationTypeName] at chars

/-! ## Paths of plain names -/

namespace Path

/-- A name that is a step downwards in a path. -/
structure IsPlain (name : String) : Prop where
  nonempty : name ≠ ""
  notHere : name ≠ "."
  notParent : name ≠ ".."
  noSlash : '/' ∉ name.toList

theorem IsPlain.not_isAbsolute {name : String} (plain : IsPlain name) :
    isAbsolute name = false := by
  rw [isAbsolute, decide_eq_false_iff_not]
  intro first
  exact plain.noSlash (List.mem_of_head? first)

theorem IsPlain.getLast?_ne {name : String} (plain : IsPlain name) :
    name.toList.getLast? ≠ some '/' := by
  intro last
  exact plain.noSlash (List.mem_of_getLast? last)

theorem IsPlain.ofSegment? {name : String} (plain : IsPlain name) :
    PathComponent.ofSegment? name = some (.name name) := by
  simp [PathComponent.ofSegment?, plain.nonempty, plain.notHere, plain.notParent]

/-- A segment between dots that is not empty is plain. -/
theorem IsPlain.of_mem_segments {text part : String} (member : part ∈ segments '.' text)
    (noSlash : '/' ∉ text.toList) (nonempty : part ≠ "") : IsPlain part := by
  have noDot : '.' ∉ part.toList := by
    intro inside
    exact (mem_of_mem_segments member inside).2 rfl
  refine ⟨nonempty, ?_, ?_, fun inside => noSlash (mem_of_mem_segments member inside).1⟩
  · rintro rfl
    exact noDot (by decide)
  · rintro rfl
    exact noDot (by decide)

/-- A joined path begins like its first name. -/
theorem isAbsolute_joined {first : String} {rest : List String} (nonempty : first ≠ "") :
    isAbsolute (joined "/" (first :: rest)) = isAbsolute first := by
  rcases rest with _ | ⟨second, rest⟩
  · rw [joined, String.intercalate_singleton]
  · rw [joined, String.intercalate_cons_cons, isAbsolute, isAbsolute, String.toList_append,
      String.toList_append, List.append_assoc, List.head?_append_of_ne_nil]
    simpa using nonempty

/-- A joined path ends like its last name. -/
theorem getLast?_joined (front : List String) {last : String} (nonempty : last ≠ "") :
    (joined "/" (front ++ [last])).toList.getLast? = last.toList.getLast? := by
  rcases front with _ | ⟨first, front⟩
  · rw [joined, List.nil_append, String.intercalate_singleton]
  · rw [joined, String.intercalate_append_of_ne_nil (List.cons_ne_nil _ _) (List.cons_ne_nil _ _),
      String.intercalate_singleton, String.toList_append, List.getLast?_append_of_ne_nil]
    simpa using nonempty

/-- A plain name below a path of plain names comes behind them. -/
theorem push_joined {parts : List String} (plain : ∀ part ∈ parts, IsPlain part) {name : String}
    (plain' : IsPlain name) : push (joined "/" parts) name = joined "/" (parts ++ [name]) := by
  rw [push, plain'.not_isAbsolute]
  rcases List.eq_nil_or_concat parts with rfl | ⟨front, last, rfl⟩
  · simp [joined]
  · rw [List.concat_eq_append] at plain ⊢
    have lastPlain : IsPlain last := plain last (by simp)
    have ends := (getLast?_joined front lastPlain.nonempty).trans_ne
      lastPlain.getLast?_ne
    have some : joined "/" (front ++ [last]) ≠ "" := by
      intro empty
      have ends := getLast?_joined front lastPlain.nonempty
      rw [empty, String.toList_empty, List.getLast?_nil, eq_comm, List.getLast?_eq_none_iff] at ends
      exact lastPlain.nonempty (String.toList_eq_nil_iff.1 ends)
    have behind : front ++ [last] ≠ [] :=
      List.append_ne_nil_of_right_ne_nil _ (List.cons_ne_nil _ _)
    rw [if_neg (by simp), if_neg (by simp [some, ends])]
    simp only [joined]
    rw [String.intercalate_append_of_ne_nil behind (List.cons_ne_nil _ _),
      String.intercalate_singleton]

/-- Plain names, one below the other, are joined by slashes. -/
theorem foldl_push {parts : List String} (plain : ∀ part ∈ parts, IsPlain part) :
    parts.foldl push "" = joined "/" parts := by
  induction parts using List.reverseRecOn with
  | nil => rfl
  | append_singleton front last ih =>
      rw [List.foldl_append, ih fun part member => plain part (List.mem_append_left _ member)]
      exact push_joined (fun part member => plain part (List.mem_append_left _ member))
        (plain last (by simp))

/-- The components of plain names joined by slashes are the names. -/
theorem components_joined {parts : List String} (plain : ∀ part ∈ parts, IsPlain part)
    (some : parts ≠ []) : components (joined "/" parts) = parts.map .name := by
  have read : segments '/' (joined "/" parts) = parts :=
    segments_joined some fun part member => (plain part member).noSlash
  have steps : parts.filterMap PathComponent.ofSegment? = parts.map .name := by
    rw [← List.filterMap_eq_map]
    exact List.filterMap_congr fun part member => (plain part member).ofSegment?
  obtain ⟨first, rest, rfl⟩ := List.exists_cons_of_ne_nil some
  have firstPlain := plain first List.mem_cons_self
  rw [components, read, steps, isAbsolute_joined firstPlain.nonempty, firstPlain.not_isAbsolute]
  simp [firstPlain.notHere]

/-! ## The path without its last component -/

section Parent

variable {path : String} {parts : List String}

/-- Segments that do not count may be left out. -/
theorem filterMap_dropWhile {α β : Type} (f : α → Option β) (xs : List α) :
    (xs.dropWhile fun x => (f x).isNone).filterMap f = xs.filterMap f := by
  induction xs with
  | nil => rfl
  | cons x xs ih =>
      cases idle : f x with
      | none => rw [List.dropWhile_cons_of_pos (by simp [idle]), ih, List.filterMap_cons_none idle]
      | some y => rw [List.dropWhile_cons_of_neg (by simp [idle])]

theorem filterMap_tail_dropWhile {α β : Type} (f : α → Option β) (xs : List α) :
    ((xs.dropWhile fun x => (f x).isNone).drop 1).filterMap f = (xs.filterMap f).tail := by
  induction xs with
  | nil => rfl
  | cons x xs ih =>
      cases idle : f x with
      | none => rw [List.dropWhile_cons_of_pos (by simp [idle]), ih, List.filterMap_cons_none idle]
      | some y =>
          rw [List.dropWhile_cons_of_neg (by simp [idle]), List.filterMap_cons_some idle]
          rfl

theorem filterMap_withoutLast (parts : List String) :
    (withoutLast parts).filterMap PathComponent.ofSegment? =
      (parts.filterMap PathComponent.ofSegment?).dropLast := by
  rw [withoutLast, List.filterMap_reverse, filterMap_dropWhile, filterMap_tail_dropWhile,
    List.filterMap_reverse, List.tail_reverse, List.reverse_reverse]

theorem prefix_withoutLast (parts : List String) : withoutLast parts <+: parts := by
  rw [withoutLast, ← List.reverse_suffix, List.reverse_reverse]
  exact ((List.dropWhile_suffix _).trans (List.drop_suffix _ _)).trans (List.dropWhile_suffix _)

/-- The segments of a path hold no slash. -/
def Clean (parts : List String) : Prop := ∀ part ∈ parts, '/' ∉ part.toList

theorem clean_segments (path : String) : Clean (segments '/' path) := by
  intro part member inside
  exact (mem_of_mem_segments member inside).2 rfl

theorem filterMap_segments_joined (clean : Clean parts) :
    (segments '/' (joined "/" parts)).filterMap PathComponent.ofSegment? =
      parts.filterMap PathComponent.ofSegment? := by
  cases parts with
  | nil => rfl
  | cons first rest => 
    have read : segments '/' (joined "/" (first :: rest)) = first :: rest :=
      segments_joined (List.cons_ne_nil _ _) clean
    rw [read]

theorem segments_slash (path : String) : segments '/' ("/" ++ path) = "" :: segments '/' path := by
  simp [segments, pieces]

theorem components_slash (path : String) :
    components ("/" ++ path) = .root :: (segments '/' path).filterMap PathComponent.ofSegment? := by
  have absolute : isAbsolute ("/" ++ path) = true := by simp [isAbsolute]
  rw [components, absolute, segments_slash]
  simp [PathComponent.ofSegment?]

theorem exists_of_isAbsolute (absolute : isAbsolute path = true) : ∃ rest, path = "/" ++ rest := by
  obtain ⟨cs, chars⟩ : ∃ cs, path.toList = '/' :: cs := by
    simpa [isAbsolute, List.head?_eq_some_iff] using absolute
  exact ⟨String.ofList cs, by rw [← String.toList_inj]; simp [chars]⟩

/-- The components of a relative path, by its first segment. -/
theorem components_relative {first : String} {rest : List String}
    (relative : isAbsolute path = false) (cut : segments '/' path = first :: rest) :
    components path =
      (if first = "." then [.here] else []) ++
        (first :: rest).filterMap PathComponent.ofSegment? := by
  simp [components, relative, cut]

/-- Only the empty path is relative and begins with an empty segment. -/
theorem eq_nil_of_isAbsolute_eq_false {rest : List String} (relative : isAbsolute path = false)
    (cut : segments '/' path = "" :: rest) : rest = [] := by
  cases rest with
  | nil => rfl
  | cons second rest =>
      have text := joined_segments '/' path
      rw [cut, joined, String.intercalate_cons_cons] at text
      rw [← text] at relative
      simp [isAbsolute] at relative

/-- The parent of a relative path is relative, and its components begin alike. -/
theorem parent_relative {first : String} {rest : List String}
    (relative : isAbsolute path = false) (cut : segments '/' path = first :: rest) :
    isAbsolute (parent path) = false ∧ components (parent path) =
      if first = "." then .here :: (withoutLast rest).filterMap PathComponent.ofSegment?
      else (withoutLast (first :: rest)).filterMap PathComponent.ofSegment? := by
  have clean : Clean (first :: rest) := cut ▸ clean_segments path
  rw [parent, cut, relative]
  by_cases here : first = "."
  · subst here
    have clean' : Clean ("." :: withoutLast rest) := by
      refine List.forall_mem_cons.2 ⟨by decide, fun part member => ?_⟩
      exact clean part (List.mem_cons_of_mem _ ((prefix_withoutLast rest).subset member))
    have relative' : isAbsolute (joined "/" ("." :: withoutLast rest)) = false := by
      rw [isAbsolute_joined (by decide)]
      decide
    have read : segments '/' (joined "/" ("." :: withoutLast rest)) = "." :: withoutLast rest :=
      segments_joined (List.cons_ne_nil _ _) clean'
    refine ⟨relative', ?_⟩
    simp [components_relative relative' read, PathComponent.ofSegment?]
  · have front := prefix_withoutLast (first :: rest)
    cases kept : withoutLast (first :: rest) with
    | nil => simp [here, kept, joined, isAbsolute, components, segments, pieces,
        PathComponent.ofSegment?]
    | cons head tail =>
        rw [kept] at front
        obtain ⟨rfl, -⟩ := List.cons_prefix_cons.1 front
        have clean' : Clean (head :: tail) := fun part member => clean part (front.subset member)
        have nonempty : head ≠ "" := by
          rintro rfl
          rw [eq_nil_of_isAbsolute_eq_false relative cut] at kept
          simp [withoutLast, PathComponent.ofSegment?] at kept
        have relative' : isAbsolute (joined "/" (head :: tail)) = false := by
          rw [isAbsolute_joined nonempty, isAbsolute, decide_eq_false_iff_not]
          intro slash
          exact clean' head List.mem_cons_self (List.mem_of_head? slash)
        have read : segments '/' (joined "/" (head :: tail)) = head :: tail :=
          segments_joined (List.cons_ne_nil _ _) clean'
        simp [here, kept, relative', components_relative relative' read]

theorem isAbsolute_parent (path : String) : isAbsolute (parent path) = isAbsolute path := by
  cases absolute : isAbsolute path with
  | true =>
      obtain ⟨rest, rfl⟩ := exists_of_isAbsolute absolute
      rw [parent, segments_slash, absolute]
      simp [isAbsolute]
  | false =>
      obtain ⟨first, rest, cut⟩ := List.exists_cons_of_ne_nil (segments_ne_nil '/' path)
      exact (parent_relative absolute cut).1

/-- The parent of a path that ends with a name has its components without that name. -/
theorem components_parent {path name : String}
    (last : (components path).getLast? = some (.name name)) :
    components (parent path) = (components path).dropLast := by
  cases absolute : isAbsolute path with
  | true =>
      obtain ⟨rest, rfl⟩ := exists_of_isAbsolute absolute
      have cleanRest : Clean (withoutLast (segments '/' rest)) := fun part member =>
        clean_segments rest part ((prefix_withoutLast _).subset member)
      rw [components_slash] at last ⊢
      rw [parent, segments_slash, absolute]
      dsimp only
      rw [if_pos rfl, components_slash, filterMap_segments_joined cleanRest, filterMap_withoutLast,
        List.dropLast_cons_of_ne_nil]
      intro none
      rw [none] at last
      cases last
  | false =>
      obtain ⟨first, rest, cut⟩ := List.exists_cons_of_ne_nil (segments_ne_nil '/' path)
      rw [(parent_relative absolute cut).2]
      rw [components_relative absolute cut] at last ⊢
      by_cases here : first = "."
      · subst here
        have idle : ("." :: rest).filterMap PathComponent.ofSegment? =
            rest.filterMap PathComponent.ofSegment? := List.filterMap_cons_none rfl
        rw [idle, if_pos rfl] at last
        rw [idle, if_pos rfl, if_pos rfl, filterMap_withoutLast, List.singleton_append,
          List.dropLast_cons_of_ne_nil]
        intro none
        rw [none] at last
        cases last
      · rw [if_neg here, if_neg here, filterMap_withoutLast]
        rfl

end Parent

end Path

/-! ## Paths of artifacts -/

namespace Artifact

/-- The directories of an artifact below a source root. -/
def directories (a : Artifact) : List String := (segments '.' a.package).filter (· ≠ "")

/-- Every part of a package is a directory, unless a part is empty. -/
theorem directories_of_parts {package : String}
    (parts : package = "" ∨ ∀ part ∈ segments '.' package, part ≠ "") :
    (segments '.' package).filter (· ≠ "") =
      if package = "" then [] else segments '.' package := by
  split
  next empty =>
    rw [empty]
    rfl
  next some =>
    rw [List.filter_eq_self]
    intro part member
    exact decide_eq_true (parts.resolve_left some part member)

/-- Packages without empty parts are told apart by their directories. -/
theorem package_eq_of_directories {first second : String}
    (parts : first = "" ∨ ∀ part ∈ segments '.' first, part ≠ "")
    (parts' : second = "" ∨ ∀ part ∈ segments '.' second, part ≠ "")
    (same : (segments '.' first).filter (· ≠ "") = (segments '.' second).filter (· ≠ "")) :
    first = second := by
  rw [directories_of_parts parts, directories_of_parts parts'] at same
  split at same
  next empty =>
    split at same
    next empty' => rw [empty, empty']
    next => exact (segments_ne_nil _ _ same.symm).elim
  next =>
    split at same
    next => exact (segments_ne_nil _ _ same).elim
    next => exact segments_injective same

/-- An artifact without slashes in its names. -/
structure Slashless (a : Artifact) : Prop where
  package : '/' ∉ a.package.toList
  typeName : '/' ∉ a.typeName.toList

theorem Slashless.fileName {a : Artifact} (slashless : a.Slashless) :
    Path.IsPlain (a.typeName ++ ".java") := by
  have long : 5 ≤ (a.typeName ++ ".java").length := by
    rw [String.length_append]
    exact Nat.le_add_left 5 _
  have differs : ∀ short : String, short.length < 5 → a.typeName ++ ".java" ≠ short := by
    rintro short bound rfl
    omega
  refine ⟨differs _ (by decide), differs _ (by decide), differs _ (by decide), ?_⟩
  intro inside
  rw [String.toList_append, List.mem_append] at inside
  rcases inside with inside | inside
  · exact slashless.typeName inside
  · revert inside
    decide

/-- The path of an artifact leads through the directories of its package to the file of its
type. -/
theorem components_relativePath {a : Artifact} (slashless : a.Slashless) :
    Path.components a.relativePath = (a.directories ++ [a.typeName ++ ".java"]).map .name := by
  have plain : ∀ part ∈ a.directories, Path.IsPlain part := by
    intro part member
    obtain ⟨listed, some⟩ := List.mem_filter.1 member
    exact .of_mem_segments listed slashless.package (of_decide_eq_true some)
  have path : a.relativePath = joined "/" (a.directories ++ [a.typeName ++ ".java"]) := by
    rw [relativePath, ← directories, Path.foldl_push plain]
    exact Path.push_joined plain slashless.fileName
  rw [path, Path.components_joined]
  · intro part member
    rcases List.mem_append.1 member with inside | last
    · exact plain part inside
    · rw [List.mem_singleton.1 last]
      exact slashless.fileName
  · exact List.append_ne_nil_of_right_ne_nil _ (List.cons_ne_nil _ _)

/-- Two artifacts have the same path. -/
def SamePath (a b : Artifact) : Prop :=
  Path.components a.relativePath = Path.components b.relativePath

/-- Artifacts share a path exactly when they share the directories and the name of the type. -/
theorem samePath_iff {a b : Artifact} (first : a.Slashless) (second : b.Slashless) :
    a.SamePath b ↔ a.directories = b.directories ∧ a.typeName = b.typeName := by
  have names : Function.Injective PathComponent.name := by
    intro first second same
    exact PathComponent.name.inj same
  rw [SamePath, components_relativePath first, components_relativePath second,
    (List.map_injective_iff.2 names).eq_iff]
  constructor
  · intro same
    obtain ⟨directories, file⟩ := List.append_inj' same rfl
    exact ⟨directories, (String.append_left_inj _).1 (List.cons.inj file).1⟩
  · rintro ⟨directories, file⟩
    rw [directories, file]

end Artifact

end RecordSynthesis
