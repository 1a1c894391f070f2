import Mathlib.Data.List.TakeWhile
import RecordSynthesis.Declaration.ClassName
import RecordSynthesis.Proofs.Paths

/-!
# Dotted names and class names

A dotted name is cut at its dots, and the border between package and classes is drawn by the letters
(`ClassName.ofDotted`). Nothing is lost: the segments of the package and the chain of the class are
the segments of the text, so the canonical name is the text again (`canonicalName_ofDotted`). In the
other direction a class is found again when the letters show where its package ends
(`ClassName.Conventional`), for the border of the joined list is then where the two lists meet
(`border_append`). The main statement is `ofDotted_inverse`.

An empty segment is lost where it is the only enclosing class, since no dot is written behind
enclosing classes that make up the empty text.
-/

set_option autoImplicit false

namespace RecordSynthesis

open RecordSynthesis.Text

/-- No segment of the text is empty. -/
def IsDotted (s : String) : Prop := "" ∉ segments '.' s

instance : DecidablePred IsDotted := fun s => inferInstanceAs (Decidable ("" ∉ segments '.' s))

/-! ## Joined segments -/

theorem joined_append {front back : List String} (first : front ≠ []) (second : back ≠ []) :
    joined "." (front ++ back) = joined "." front ++ "." ++ joined "." back :=
  String.intercalate_append_of_ne_nil first second

/-- Names that are not empty are joined to the empty text only when there are none. -/
theorem joined_eq_empty {names : List String} (named : "" ∉ names) :
    joined "." names = "" ↔ names = [] := by
  refine ⟨fun empty => ?_, fun none => none ▸ rfl⟩
  cases names with
  | nil => rfl
  | cons name names =>
      have some : name ≠ "" := fun same => named (same ▸ List.mem_cons_self)
      have chars := congrArg String.toList empty
      cases names with
      | nil => exact (some (by simpa [joined] using empty)).elim
      | cons second names => simp [joined] at chars

namespace ClassName

/-! ## The parts of a class name -/

/-- The segments of the package. The unnamed package has none. -/
def packageSegments (c : ClassName) : List String :=
  if c.package = "" then [] else segments '.' c.package

/-- The classes of the name, outermost first. -/
def chain (c : ClassName) : List String := c.enclosing ++ [c.simple]

variable {c : ClassName}

theorem joined_packageSegments (c : ClassName) : joined "." c.packageSegments = c.package := by
  rw [packageSegments]
  split
  next unnamed => exact unnamed.symm
  next => exact joined_segments '.' c.package

theorem head?_chain (c : ClassName) : c.chain.head? = some c.outermost.simple := by
  rw [chain, outermost, topLevel]
  cases c.enclosing with
  | nil => rfl
  | cons outer inner => rfl

/-- The name within the package joins the chain, unless names of enclosing classes are empty. -/
theorem referenceName_eq_joined (named : "" ∉ c.enclosing) :
    c.referenceName = joined "." c.chain := by
  rw [referenceName, chain]
  simp only [joined_eq_empty named]
  split
  next alone => rw [alone, List.nil_append, joined, String.intercalate_singleton]
  next nested =>
    rw [joined_append nested (List.cons_ne_nil _ _)]
    simp [joined]

/-- The canonical name joins the segments of the package and the chain. -/
theorem canonicalName_eq_joined (named : "" ∉ c.enclosing) :
    c.canonicalName = joined "." (c.packageSegments ++ c.chain) := by
  have chained : c.chain ≠ [] := by simp [chain]
  rw [canonicalName, referenceName_eq_joined named]
  split
  next unnamed => rw [packageSegments, if_pos unnamed, List.nil_append]
  next package =>
    have some : c.packageSegments ≠ [] := by
      rw [packageSegments, if_neg package]
      exact segments_ne_nil '.' c.package
    rw [joined_append some chained, joined_packageSegments]

/-! ## The border -/

theorem border_append_eq (names : List String) : (border names).1 ++ (border names).2 = names := by
  rw [border]
  split
  next => rw [List.dropLast_eq_take, List.take_append_drop]
  next => exact List.takeWhile_append_dropWhile

/-- There is always a class. -/
theorem border_snd_ne_nil {names : List String} (some : names ≠ []) : (border names).2 ≠ [] := by
  have long := List.length_pos_iff.2 some
  rw [border]
  split
  next =>
    intro none
    have short := List.drop_eq_nil_iff.1 none
    omega
  next lower =>
    intro none
    rw [List.dropWhile_eq_nil_iff] at none
    exact lower (List.all_eq_true.2 none)

theorem border_fst_lower {names : List String} : ∀ part ∈ (border names).1, isLowerSegment part := by
  intro part member
  rw [border] at member
  split at member
  next lower => exact List.all_eq_true.1 lower part ((List.dropLast_sublist _).subset member)
  next => exact List.mem_takeWhile_imp member

/-- Where not all names begin with a lowercase letter, the first class does not. -/
theorem border_snd_head {names : List String} (upper : ¬ ∀ part ∈ names, isLowerSegment part)
    {name : String} (first : (border names).2.head? = some name) : isLowerSegment name = false := by
  rw [border, if_neg (by simpa using upper)] at first
  have head := List.head?_dropWhile_not isLowerSegment names
  rw [first] at head
  simpa using head

/-- Lowercase names in front of a class that begins otherwise are the package. -/
theorem border_append {package classes : List String} {name : String}
    (lower : ∀ part ∈ package, isLowerSegment part) (first : classes.head? = some name)
    (upper : isLowerSegment name = false) : border (package ++ classes) = (package, classes) := by
  obtain ⟨inner, rfl⟩ := List.head?_eq_some_iff.1 first
  have mixed : ¬ (package ++ name :: inner).all isLowerSegment := by simp [upper]
  have stop : ¬ isLowerSegment name := by simp [upper]
  rw [border, if_neg mixed, List.takeWhile_append_of_pos lower, List.takeWhile_cons_of_neg stop,
    List.append_nil, List.dropWhile_append_of_pos lower, List.dropWhile_cons_of_neg stop]

/-! ## Cutting -/

section Cut

variable {s : String}

theorem package_ofDotted (s : String) :
    (ofDotted s).package = joined "." (border (segments '.' s)).1 := rfl

theorem chain_ofDotted (s : String) : (ofDotted s).chain = (border (segments '.' s)).2 := by
  have some := border_snd_ne_nil (segments_ne_nil '.' s)
  change (border (segments '.' s)).2.dropLast ++ [(border (segments '.' s)).2.getLast?.getD ""] = _
  rw [List.getLast?_eq_some_getLast some]
  exact List.dropLast_append_getLast some

theorem packageSegments_ofDotted (dotted : IsDotted s) :
    (ofDotted s).packageSegments = (border (segments '.' s)).1 := by
  have parts : ∀ part ∈ (border (segments '.' s)).1, part ∈ segments '.' s := by
    intro part member
    rw [← border_append_eq (segments '.' s)]
    exact List.mem_append_left _ member
  have named : "" ∉ (border (segments '.' s)).1 := fun empty => dotted (parts "" empty)
  have clean : ∀ part ∈ (border (segments '.' s)).1, '.' ∉ part.toList :=
    fun part member inside => (mem_of_mem_segments (parts part member) inside).2 rfl
  rw [packageSegments, package_ofDotted]
  simp only [joined_eq_empty named]
  split
  next none => exact none.symm
  next some => exact segments_joined some clean

/-- **Nothing is lost**: the parts of the class name are the segments of the text. -/
theorem segments_ofDotted (dotted : IsDotted s) :
    (ofDotted s).packageSegments ++ (ofDotted s).chain = segments '.' s := by
  rw [packageSegments_ofDotted dotted, chain_ofDotted, border_append_eq]

/-- **A dotted text is the canonical name of its class.** -/
theorem canonicalName_ofDotted (dotted : IsDotted s) : (ofDotted s).canonicalName = s := by
  have named : "" ∉ (ofDotted s).enclosing := by
    intro empty
    refine dotted ?_
    rw [← segments_ofDotted dotted, chain]
    exact List.mem_append_right _ (List.mem_append_left _ empty)
  rw [canonicalName_eq_joined named, segments_ofDotted dotted]
  exact joined_segments '.' s

/-- The outermost class begins with a lowercase letter only when every segment does. -/
theorem lower_outermost_ofDotted :
    isLowerSegment (ofDotted s).outermost.simple ↔
      ∀ part ∈ segments '.' s, isLowerSegment part := by
  have first := head?_chain (ofDotted s)
  rw [chain_ofDotted] at first
  constructor
  · intro lower
    by_contra upper
    rw [border_snd_head upper first] at lower
    cases lower
  · intro all
    refine all _ ?_
    rw [← border_append_eq (segments '.' s)]
    exact List.mem_append_right _ (List.mem_of_head? first)

/-- Of lowercase segments only the last one is a class. -/
theorem enclosing_ofDotted (lower : ∀ part ∈ segments '.' s, isLowerSegment part) :
    (ofDotted s).enclosing = [] := by
  change (border (segments '.' s)).2.dropLast = []
  rw [border, if_pos (List.all_eq_true.2 lower), ← List.length_eq_zero_iff, List.length_dropLast,
    List.length_drop]
  omega

end Cut

/-! ## Joining -/

/-- The letters show where the package of the class ends: its segments begin with lowercase letters,
and so are not empty, and the outermost class does not. The names of the chain have no dots and are
not empty. -/
structure Conventional (c : ClassName) : Prop where
  package : c.package = "" ∨ ∀ part ∈ segments '.' c.package, isLowerSegment part
  named : ∀ name ∈ c.chain, name ≠ "" ∧ '.' ∉ name.toList
  outermost : isLowerSegment c.outermost.simple = false

namespace Conventional

variable (conventional : c.Conventional)
include conventional

theorem lower : ∀ part ∈ c.packageSegments, isLowerSegment part := by
  intro part member
  rw [packageSegments] at member
  split at member
  next => cases member
  next some => exact conventional.package.resolve_left some part member

/-- The canonical name is cut into the parts that it joins. -/
theorem segments_canonicalName :
    segments '.' c.canonicalName = c.packageSegments ++ c.chain := by
  have enclosing : "" ∉ c.enclosing := fun empty =>
    (conventional.named "" (List.mem_append_left _ empty)).1 rfl
  have clean : ∀ part ∈ c.packageSegments ++ c.chain, '.' ∉ part.toList := by
    refine List.forall_mem_append.2 ⟨fun part member inside => ?_, fun name member =>
      (conventional.named name member).2⟩
    rw [packageSegments] at member
    split at member
    next => cases member
    next => exact (mem_of_mem_segments member inside).2 rfl
  rw [canonicalName_eq_joined enclosing]
  exact segments_joined (by simp [chain]) clean

/-- **A class is found again from its canonical name** when the letters show its package. -/
theorem ofDotted_canonicalName : ofDotted c.canonicalName = c := by
  have cut : border (segments '.' c.canonicalName) = (c.packageSegments, c.chain) := by
    rw [conventional.segments_canonicalName]
    exact border_append conventional.lower c.head?_chain conventional.outermost
  rw [ofDotted, cut]
  simp only [joined_packageSegments, chain, List.dropLast_concat, List.getLast?_concat,
    Option.getD_some]

end Conventional

/-- **Cutting and joining names are inverse.** A text without empty segments is the canonical name
of the class that it names, and none of its segments is lost. Those of the package begin with
lowercase letters. The first class does so only if all segments do, and then it is the last segment
and alone. In the other direction every class whose package can be told by the letters is found
again from its canonical name. -/
theorem ofDotted_inverse :
    (∀ s, IsDotted s →
      (ofDotted s).canonicalName = s ∧
        (ofDotted s).packageSegments ++ (ofDotted s).chain = segments '.' s ∧
        (∀ part ∈ (ofDotted s).packageSegments, isLowerSegment part) ∧
        (isLowerSegment (ofDotted s).outermost.simple ↔
          ∀ part ∈ segments '.' s, isLowerSegment part) ∧
        ((∀ part ∈ segments '.' s, isLowerSegment part) → (ofDotted s).enclosing = [])) ∧
      ∀ c : ClassName, c.Conventional → ofDotted c.canonicalName = c := by
  refine ⟨fun s dotted => ⟨canonicalName_ofDotted dotted, segments_ofDotted dotted, ?_,
    lower_outermost_ofDotted, enclosing_ofDotted⟩, fun c conventional =>
      conventional.ofDotted_canonicalName⟩
  rw [packageSegments_ofDotted dotted]
  exact border_fst_lower

/-- A package with a letter beyond ASCII and a class that is found again; and a name of lowercase
segments, of which the last one is the class. -/
theorem innerName_inverse :
    (ofDotted "öl.preise.Äpfel.Sorte").canonicalName = "öl.preise.Äpfel.Sorte" ∧
      ofDotted (ClassName.canonicalName ⟨"öl.preise", ["Äpfel"], "Sorte"⟩) =
        ⟨"öl.preise", ["Äpfel"], "Sorte"⟩ ∧
      (ofDotted "lower.case.only").enclosing = [] := by
  have mixed : IsDotted "öl.preise.Äpfel.Sorte" := by decide +kernel
  have small : IsDotted "lower.case.only" := by decide +kernel
  have lower : ∀ part ∈ segments '.' "lower.case.only", isLowerSegment part := by decide +kernel
  have conventional : Conventional ⟨"öl.preise", ["Äpfel"], "Sorte"⟩ :=
    ⟨by decide +kernel, by decide +kernel, by decide +kernel⟩
  exact ⟨(ofDotted_inverse.1 _ mixed).1, ofDotted_inverse.2 _ conventional,
    (ofDotted_inverse.1 _ small).2.2.2.2 lower⟩

end ClassName

end RecordSynthesis
