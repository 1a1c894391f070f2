import RecordSynthesis.Text.Segments

/-!
# Paths

A path is a text. Two texts may mean the same path: repeated slashes, inner single dots and slashes
at the end do not count. `Path.components` is what remains, and paths are compared by it. Following
a path takes one step for each segment, also for those that do not count (`Path.steps`).

A path that a file system takes has a limited length, and so has every name in it.
-/

set_option autoImplicit false

namespace RecordSynthesis

open RecordSynthesis.Text

/-- A part of a path that counts. -/
inductive PathComponent where
  /-- The slash at the start of an absolute path. -/
  | root
  /-- The single dot at the start of a relative path. -/
  | here
  /-- Two dots. -/
  | parent
  | name (text : String)
  deriving DecidableEq, Inhabited

namespace PathComponent

/-- The place of a component in the order: root, here, parent, then names by their text. -/
def rank : PathComponent → Nat × String
  | root => (0, "")
  | here => (1, "")
  | parent => (2, "")
  | name text => (3, text)

theorem rank_injective {a b : PathComponent} (h : a.rank = b.rank) : a = b := by
  cases a <;> cases b <;> simp_all [rank]

instance : Ord PathComponent where
  compare a b := (compare a.rank.1 b.rank.1).then (compare a.rank.2 b.rank.2)

theorem compare_eq (a b : PathComponent) :
    compare a b = (compare a.rank.1 b.rank.1).then (compare a.rank.2 b.rank.2) := rfl

instance : Std.TransOrd PathComponent where
  eq_swap {a b} := by
    rw [compare_eq, compare_eq, Ordering.swap_then, ← Std.OrientedCmp.eq_swap,
      ← Std.OrientedCmp.eq_swap]
  isLE_trans {a b c} hab hbc := by
    have h : Std.TransCmp
        (compareLex (compareOn Prod.fst) (compareOn Prod.snd) : Nat × String → _ → _) :=
      inferInstance
    exact h.isLE_trans (a := a.rank) (b := b.rank) (c := c.rank) hab hbc

instance : Std.LawfulEqOrd PathComponent where
  compare_self {a} := by simp
  eq_of_compare {a b} h := by
    rw [compare_eq, Ordering.then_eq_eq] at h
    exact rank_injective (Prod.ext (Std.LawfulEqOrd.eq_of_compare h.1)
      (Std.LawfulEqOrd.eq_of_compare h.2))

/-- The component that a segment of a path stands for, if it counts inside a path. -/
def ofSegment? (s : String) : Option PathComponent :=
  if s = "" || s = "." then none else if s = ".." then some parent else some (name s)

end PathComponent

namespace Path

/-- Begins at the root. -/
def isAbsolute (path : String) : Bool := path.toList.head? = some '/'

/-- The components of a path. -/
def components (path : String) : List PathComponent :=
  let parts := segments '/' path
  let start :=
    if isAbsolute path then [PathComponent.root]
    else if parts.head? = some "." then [PathComponent.here]
    else []
  start ++ parts.filterMap PathComponent.ofSegment?

/-- The steps of a path, one for each segment. A segment that does not count stays in its place. -/
def steps (path : String) : List PathComponent :=
  (segments '/' path).map fun s => (PathComponent.ofSegment? s).getD .here

/-- The segments before the last one that counts, without those at their end that do not count. -/
def withoutLast (parts : List String) : List String :=
  let idle (s : String) : Bool := (PathComponent.ofSegment? s).isNone
  (((parts.reverse.dropWhile idle).drop 1).dropWhile idle).reverse

/-- The path without its last component. The slash of an absolute path and the single dot at the
start of a relative one stay. -/
def parent (path : String) : String :=
  match segments '/' path with
  | [] => ""
  | first :: rest =>
    if isAbsolute path then "/" ++ joined "/" (withoutLast rest)
    else if first = "." then joined "/" (first :: withoutLast rest)
    else joined "/" (withoutLast (first :: rest))

/-- A path below another one. An absolute path stands for itself. -/
def push (path more : String) : String :=
  if isAbsolute more then more
  else if path = "" || path.toList.getLast? = some '/' then path ++ more
  else path ++ "/" ++ more

/-! ## Limits -/

/-- Holds the character that ends a text for the file system. -/
def holdsNul (path : String) : Bool := path.toList.contains '\x00'

/-- Has fewer bytes than the 4096 at which a path is too long. -/
def fits (path : String) : Bool := path.utf8ByteSize < 4096

/-- Has no more than the 255 bytes of the longest name. -/
def nameFits (name : String) : Bool := name.utf8ByteSize ≤ 255

end Path

end RecordSynthesis
