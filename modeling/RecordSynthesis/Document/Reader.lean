import RecordSynthesis.Document.Moment
import RecordSynthesis.Document.Number

/-!
# Reading documents

The grammar of TOML 1.0. Arrays and inline tables may be nested 79 deep, and a dotted key may have
79 parts; the nesting bound is what the recursion on values runs on. A byte order mark in front is
skipped.
-/

set_option autoImplicit false

namespace RecordSynthesis.Document

open Scanner

/-- How deep arrays and inline tables may be nested, and how long a dotted key may be. -/
def nestingLimit : Nat := 79

/-! ## Keys -/

/-- A character of a key without quotes. -/
def isBareKeyChar (c : Char) : Bool := c.isAlphanum || c = '-' || c = '_'

/-- Takes a key without quotes. -/
def bareKey : Scanner String := do
  match ← span isBareKeyChar with
  | [] => refuse
  | letters => return String.ofList letters

/-- Takes one part of a key. -/
def simpleKey : Scanner String := do
  match ← peek with
  | some '\x22' => basicText
  | some '\x27' => literalText
  | _ => bareKey

/-- Takes one part of a key with the blanks around it. -/
def paddedKey : Scanner String := do
  blanks
  let part ← simpleKey
  blanks
  return part

/-- Takes a key of one or more parts. -/
def key : Scanner (List String) := do
  let first ← paddedKey
  let more ← loop do
    match ← peek with
    | some '.' =>
      exactly '.'
      return some (← paddedKey)
    | _ => return none
  let parts := first :: more
  if parts.length ≤ nestingLimit then return parts else refuse

/-! ## Values -/

/-- Takes a value that has no values inside. -/
def simpleValue : Scanner Value := do
  match ← peek with
  | some '\x22' => return .text (← quotedText)
  | some '\x27' => return .text (← quotedText)
  | some 't' =>
    word "true"
    return .boolean true
  | some 'f' =>
    word "false"
    return .boolean false
  | _ => either moment (either float integer)

/-- Takes an array of values. A comma may stand behind the last one. -/
def arrayOf (value : Scanner Value) : Scanner Value := do
  exactly '['
  let elements ← loop do
    blankLines
    match ← peek with
    | some ']' => return none
    | _ =>
      let element ← value
      blankLines
      match ← peek with
      | some ',' => exactly ','
      | some ']' => pure ()
      | _ => refuse
      return some element
  exactly ']'
  return .array .bracketed elements

/-- Takes a key and its value. -/
def pairOf (value : Scanner Value) : Scanner (List String × Value) := do
  let k ← key
  exactly '='
  blanks
  let v ← value
  blanks
  return (k, v)

/-- Takes a table in braces. It stays on one line, and no comma stands behind the last pair. -/
def inlineTableOf (value : Scanner Value) : Scanner Value := do
  exactly '\x7b'
  blanks
  let pairs ←
    match ← peek with
    | some '\x7d' => pure []
    | _ =>
      let first ← pairOf value
      let more ← loop do
        match ← peek with
        | some ',' =>
          exactly ','
          return some (← pairOf value)
        | _ => return none
      pure (first :: more)
  exactly '\x7d'
  match pairs.foldlM (fun entries (k, v) => Entries.assign v k entries) ([] : Entries) with
  | some entries => return .table .inline entries
  | none => refuse

/-- Takes a value with at most so many levels of arrays and inline tables. -/
def valueWithin : Nat → Scanner Value
  | 0 => simpleValue
  | levels + 1 => do
    match ← peek with
    | some '[' => arrayOf (valueWithin levels)
    | some '\x7b' => inlineTableOf (valueWithin levels)
    | _ => simpleValue

/-! ## Statements -/

/-- Takes a header with its line. -/
def header : Scanner Statement := do
  let statement ←
    if ← comesNext "[[" then
      word "[["
      let path ← key
      word "]]"
      pure (Statement.openElement path)
    else
      exactly '['
      let path ← key
      exactly ']'
      pure (Statement.openTable path)
  lineRest
  return statement

/-- Takes a key with its value and its line. -/
def assignment : Scanner Statement := do
  let (k, v) ← pairOf (valueWithin nestingLimit)
  lineRest
  return .assign k v

/-- Takes one line: a comment, nothing, a header or an assignment. -/
def line : Scanner (List Statement) := do
  match ← peek with
  | some '#' =>
    comment
    lineEnd
    return []
  | some '\n' =>
    newline
    return []
  | some '\r' =>
    newline
    return []
  | some '[' => return [← header]
  | _ => return [← assignment]

/-- Takes all lines. -/
def lines : Scanner (List Statement) := do
  discard (attempt (exactly '\uFEFF'))
  blanks
  let groups ← loop do
    match ← peek with
    | none => return none
    | some _ =>
      let statements ← line
      blanks
      return some statements
  return groups.flatten

/-- The root table of a document. -/
def read (s : String) : Option Entries := do
  let (statements, _) ← lines s.toList
  assembled statements

end RecordSynthesis.Document
