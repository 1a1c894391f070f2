/-!
# Scanning characters

A scanner takes characters from the front of a text and gives a result, or refuses. The one loop
is `Scanner.loop`: it repeats a step until the step says that it is over. A step that goes on has
taken at least one character, so the number of remaining characters bounds the turns.
-/

set_option autoImplicit false

namespace RecordSynthesis.Document

/-- Takes characters from the front of a text. -/
abbrev Scanner := StateT (List Char) Option

namespace Scanner

variable {α : Type}

/-- Accepts nothing. -/
def refuse : Scanner α := fun _ => none

/-- The next character, which stays. -/
def peek : Scanner (Option Char) := fun cs => some (cs.head?, cs)

/-- Takes one character with a property. -/
def satisfying (p : Char → Bool) : Scanner Char
  | c :: rest => if p c then some (c, rest) else none
  | [] => none

/-- Takes one given character. -/
def exactly (c : Char) : Scanner Unit := do discard (satisfying (· = c))

/-- Takes a given text. -/
def word (s : String) : Scanner Unit := fun cs =>
  (s.toList.isPrefixOf? cs).map fun rest => ((), rest)

/-- Whether a given text comes next. Nothing is taken. -/
def comesNext (s : String) : Scanner Bool := fun cs => some (s.toList.isPrefixOf cs, cs)

/-- Takes all characters with a property up to the first without it. -/
def span (p : Char → Bool) : Scanner (List Char) := fun cs =>
  some (cs.takeWhile p, cs.dropWhile p)

/-- Takes nothing where a scanner refuses. -/
def attempt (s : Scanner α) : Scanner (Option α) := fun cs =>
  match s cs with
  | some (a, rest) => some (some a, rest)
  | none => some (none, cs)

/-- Takes what the first scanner accepts, else what the second accepts. -/
def either (first second : Scanner α) : Scanner α := fun cs =>
  match first cs with
  | some result => some result
  | none => second cs

/-- The text that a scanner takes. -/
def written (s : Scanner α) : Scanner String := fun cs =>
  (s cs).map fun (_, rest) => (String.ofList (cs.take (cs.length - rest.length)), rest)

/-- Repeats a step for a bounded number of turns, until it gives no result. -/
def repeated (step : Scanner (Option α)) : Nat → Scanner (List α)
  | 0 => refuse
  | turns + 1 => do
    match ← step with
    | none => return []
    | some a => return a :: (← repeated step turns)

/-- Repeats a step until it gives no result. -/
def loop (step : Scanner (Option α)) : Scanner (List α) := fun cs =>
  repeated step (cs.length + 1) cs

end Scanner

/-! ## Blanks, line ends and comments -/

open Scanner

/-- A space or a tab. -/
def isBlankChar (c : Char) : Bool := c = ' ' || c = '\t'

/-- Not an ASCII character. -/
def isWide (c : Char) : Bool := 0x80 ≤ c.toNat

/-- A tab or a character that is not a control character. -/
def isPrintable (c : Char) : Bool := c = '\t' || (0x20 ≤ c.toNat && c.toNat ≤ 0x7E) || isWide c

/-- Skips blanks. -/
def blanks : Scanner Unit := do discard (span isBlankChar)

/-- Takes a line feed, or a carriage return with a line feed. -/
def newline : Scanner Unit := either (exactly '\n') (word "\r\n")

/-- Takes a comment up to the end of its line. -/
def comment : Scanner Unit := do
  exactly '#'
  discard (span isPrintable)

/-- Takes the end of a line or of the text. -/
def lineEnd : Scanner Unit := do
  match ← peek with
  | none => return
  | some _ => newline

/-- Takes what may stand behind a statement on its line. -/
def lineRest : Scanner Unit := do
  blanks
  discard (attempt comment)
  lineEnd

/-- Skips blanks, comments and line ends. -/
def blankLines : Scanner Unit := do
  discard <| loop do
    blanks
    match ← peek with
    | some '#' =>
      comment
      newline
      return some ()
    | some '\n' =>
      newline
      return some ()
    | some '\r' =>
      newline
      return some ()
    | _ => return none

end RecordSynthesis.Document
