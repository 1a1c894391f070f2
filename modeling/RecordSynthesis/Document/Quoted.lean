import RecordSynthesis.Document.Scanner

/-!
# Quoted texts

Basic texts stand in double quotes and know escapes; literal texts stand in single quotes and know
none. Either may span lines in threefold quotes. A line feed right behind the opening quotes does
not count, up to two further quotes may stand before the closing ones, and every line end within
counts as one line feed.
-/

set_option autoImplicit false

namespace RecordSynthesis.Document

open Scanner

/-! ## Escapes -/

/-- A digit of a hexadecimal number. -/
def isHexDigit (c : Char) : Bool :=
  c.isDigit || ('a' ≤ c && c ≤ 'f') || ('A' ≤ c && c ≤ 'F')

/-- The value of a digit in any base up to sixteen. -/
def digitValue (c : Char) : Nat :=
  if c.isDigit then c.toNat - 48 else if 'a' ≤ c then c.toNat - 87 else c.toNat - 55

/-- The number that digits write in a base. -/
def numberOf (base : Nat) (digits : List Char) : Nat :=
  digits.foldl (fun n c => n * base + digitValue c) 0

/-- Takes the given number of hexadecimal digits and gives the character with that code. -/
def codedChar (count : Nat) : Scanner Char := fun cs =>
  let digits := cs.take count
  if digits.length = count && digits.all isHexDigit then
    let code := numberOf 16 digits
    if Nat.isValidChar code then some (Char.ofNat code, cs.drop count) else none
  else none

/-- Takes what follows the backslash of an escape. -/
def escaped : Scanner Char := do
  match ← satisfying fun _ => true with
  | 'b' => return '\x08'
  | 't' => return '\t'
  | 'n' => return '\n'
  | 'f' => return '\x0C'
  | 'r' => return '\r'
  | '\x22' => return '\x22'
  | '\\' => return '\\'
  | 'u' => codedChar 4
  | 'U' => codedChar 8
  | _ => refuse

/-! ## Texts on one line -/

/-- A character that stands for itself in a basic text. -/
def isBasicChar (c : Char) : Bool := isPrintable c && c ≠ '\x22' && c ≠ '\\'

/-- A character of a literal text. -/
def isLiteralChar (c : Char) : Bool := isPrintable c && c ≠ '\x27'

/-- Takes a basic text. -/
def basicText : Scanner String := do
  exactly '\x22'
  let content ← loop do
    match ← peek with
    | some '\x22' => return none
    | some '\\' =>
      exactly '\\'
      return some (← escaped)
    | _ => return some (← satisfying isBasicChar)
  exactly '\x22'
  return String.ofList content

/-- Takes a literal text. -/
def literalText : Scanner String := do
  exactly '\x27'
  let content ← span isLiteralChar
  exactly '\x27'
  return String.ofList content

/-! ## Texts over several lines -/

/-- Takes the closing quotes of a text over several lines, and gives those that still belong to
the text. -/
def closingQuotes (quote : Char) : Scanner (List Char) := do
  let quotes ← span (· = quote)
  if 3 ≤ quotes.length && quotes.length ≤ 5 then return quotes.drop 3 else refuse

/-- Takes the rest of a line behind a backslash that ends it, with all white space that follows. -/
def continuedLine : Scanner Unit := do
  blanks
  newline
  discard <| loop do
    match ← peek with
    | some c =>
      if isBlankChar c then
        exactly c
        return some ()
      else attempt newline
    | none => return none

/-- Takes a basic text in threefold quotes. -/
def basicLines : Scanner String := do
  word "\x22\x22\x22"
  discard (attempt newline)
  let content ← loop do
    if ← comesNext "\x22\x22\x22" then return none
    match ← peek with
    | some '\x22' =>
      exactly '\x22'
      return some ['\x22']
    | some '\\' =>
      exactly '\\'
      match ← attempt continuedLine with
      | some _ => return some []
      | none => return some [← escaped]
    | some '\n' =>
      newline
      return some ['\n']
    | some '\r' =>
      newline
      return some ['\n']
    | _ => return some [← satisfying isBasicChar]
  let last ← closingQuotes '\x22'
  return String.ofList (content.flatten ++ last)

/-- Takes a literal text in threefold quotes. -/
def literalLines : Scanner String := do
  word "\x27\x27\x27"
  discard (attempt newline)
  let content ← loop do
    if ← comesNext "\x27\x27\x27" then return none
    match ← peek with
    | some '\x27' =>
      exactly '\x27'
      return some '\x27'
    | some '\n' =>
      newline
      return some '\n'
    | some '\r' =>
      newline
      return some '\n'
    | _ => return some (← satisfying isLiteralChar)
  let last ← closingQuotes '\x27'
  return String.ofList (content ++ last)

/-- Takes a text in any of the four forms. -/
def quotedText : Scanner String := do
  if ← comesNext "\x22\x22\x22" then basicLines
  else if ← comesNext "\x22" then basicText
  else if ← comesNext "\x27\x27\x27" then literalLines
  else literalText

end RecordSynthesis.Document
