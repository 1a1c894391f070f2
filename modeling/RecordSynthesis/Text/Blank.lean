import RecordSynthesis.Text.Alphanumeric

/-!
# White space

The characters with the Unicode property White_Space. They are few, and none of them is
alphanumeric (`isAlphanumeric_eq_false_of_isBlank`), so that white space always ends a name.
-/

set_option autoImplicit false

namespace RecordSynthesis.Text

/-- The code points with the property White_Space. -/
def blankCodes : List Nat :=
  [0x09, 0x0A, 0x0B, 0x0C, 0x0D, 0x20, 0x85, 0xA0, 0x1680, 0x2000, 0x2001, 0x2002, 0x2003,
    0x2004, 0x2005, 0x2006, 0x2007, 0x2008, 0x2009, 0x200A, 0x2028, 0x2029, 0x202F, 0x205F,
    0x3000]

/-- Has the property White_Space. -/
def isBlank (c : Char) : Bool := blankCodes.contains c.toNat

/-- Core's white space is white space here. -/
theorem isBlank_of_isWhitespace {c : Char} (h : c.isWhitespace = true) : isBlank c = true := by
  simp only [Char.isWhitespace, Bool.or_eq_true, decide_eq_true_eq] at h
  rcases h with ((rfl | rfl) | rfl) | rfl <;> decide

/-- White space is never part of a name. -/
theorem isAlphanumeric_eq_false_of_isBlank {c : Char} (h : isBlank c = true) :
    isAlphanumeric c = false := by
  have all : blankCodes.all (fun n => !(alphanumericRuns.any (·.contains n))) = true := by
    decide +kernel
  have mem : c.toNat ∈ blankCodes := by simpa [isBlank] using h
  have := List.all_eq_true.1 all _ mem
  simpa [isAlphanumeric, inRuns] using this

end RecordSynthesis.Text
