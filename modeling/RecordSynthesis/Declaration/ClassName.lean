import RecordSynthesis.Text.LetterCase
import RecordSynthesis.Text.Segments

/-!
# Class names

A class is named by its package, the classes that enclose it, outermost first, and its simple
name. A dotted text does not show where the package ends; `ClassName.ofDotted` puts the border in
front of the first segment that does not begin with a lowercase letter, and takes the last segment
for the class when every segment begins with one.
-/

set_option autoImplicit false

namespace RecordSynthesis

open RecordSynthesis.Text

/-- A class, possibly nested in others. -/
structure ClassName where
  package : String
  enclosing : List String
  simple : String
  deriving DecidableEq, Inhabited

/-- Class names are ordered by package, then by enclosing classes, then by simple name. -/
instance : Ord ClassName where
  compare a b :=
    (compare a.package b.package).then
      ((compare a.enclosing b.enclosing).then (compare a.simple b.simple))

instance : Std.TransOrd ClassName :=
  inferInstanceAs (Std.TransCmp (compareLex (compareOn ClassName.package)
    (compareLex (compareOn ClassName.enclosing) (compareOn ClassName.simple))))

instance : Std.LawfulEqOrd ClassName where
  eq_of_compare {a b} same := by
    obtain ⟨package, rest⟩ := Ordering.then_eq_eq.1 same
    obtain ⟨enclosing, simple⟩ := Ordering.then_eq_eq.1 rest
    cases a
    cases b
    rw [ClassName.mk.injEq]
    exact ⟨Std.LawfulEqOrd.eq_of_compare package, Std.LawfulEqOrd.eq_of_compare enclosing,
      Std.LawfulEqOrd.eq_of_compare simple⟩

namespace ClassName

/-- A class that no other class encloses. -/
def topLevel (package simple : String) : ClassName := ⟨package, [], simple⟩

/-! ## Dotted texts -/

/-- Begins with a lowercase letter. The empty segment does not. -/
def isLowerSegment (s : String) : Bool :=
  match s.toList with
  | [] => false
  | c :: _ => isLowercase c

/-- The segments of the package and those of the class. -/
def border (names : List String) : List String × List String :=
  if names.all isLowerSegment then (names.dropLast, names.drop (names.length - 1))
  else (names.takeWhile isLowerSegment, names.dropWhile isLowerSegment)

/-- The class that a dotted text names. -/
def ofDotted (s : String) : ClassName :=
  let (package, classes) := border (segments '.' s)
  ⟨joined "." package, classes.dropLast, classes.getLast?.getD ""⟩

/-! ## Spellings -/

/-- The outermost class around this one, which is itself when nothing encloses it. -/
def outermost (c : ClassName) : ClassName := topLevel c.package (c.enclosing.head?.getD c.simple)

/-- The name within the package. -/
def referenceName (c : ClassName) : String :=
  let outer := joined "." c.enclosing
  if outer = "" then c.simple else outer ++ "." ++ c.simple

/-- The name with the package in front. -/
def canonicalName (c : ClassName) : String :=
  if c.package = "" then c.referenceName else c.package ++ "." ++ c.referenceName

end ClassName

end RecordSynthesis
