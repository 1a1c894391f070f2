/-!
# Documents as values

A TOML document is a table of values. A table remembers how it came to be, because that decides
what may still be added to it: an inline table is closed, a table with a header of its own takes
no dotted keys from outside, and a table that only the headers of its parts imply may still get
its own header. Every operation that would define something twice gives `none`.
-/

set_option autoImplicit false

namespace RecordSynthesis.Document

/-- How a table came to be. -/
inductive Origin where
  /-- Written in braces. -/
  | inline
  /-- Opened by its own header. -/
  | header
  /-- Only mentioned on the way to the header of another table. -/
  | implied
  /-- Only mentioned on the way of a dotted key. -/
  | dotted
  deriving DecidableEq

/-- Whether an array is written in brackets or made of tables with headers. -/
inductive ArrayForm where
  | bracketed
  | ofTables
  deriving DecidableEq

/-- A value of a document. A float or a moment is kept as it is written. -/
inductive Value where
  | text (content : String)
  | integer (number : Int)
  | float (written : String)
  | boolean (truth : Bool)
  | moment (written : String)
  | array (form : ArrayForm) (elements : List Value)
  | table (origin : Origin) (entries : List (String × Value))
  deriving Inhabited

/-- The keys of a table with their values, in order of appearance. -/
abbrev Entries := List (String × Value)

/-- Gives a present key another value. -/
def Entries.replace (entries : Entries) (key : String) (value : Value) : Entries :=
  entries.map fun e => if e.1 = key then (key, value) else e

/-- Gives a new key a value. -/
def Entries.add (entries : Entries) (key : String) (value : Value) : Option Entries :=
  match entries.lookup key with
  | none => some (entries ++ [(key, value)])
  | some _ => none

/-- Changes the table that is the last element of an array of tables. -/
def changeLast (elements : List Value) (change : Entries → Option Entries) :
    Option (List Value) :=
  match elements.getLast? with
  | some (.table origin entries) => do
    return elements.dropLast ++ [.table origin (← change entries)]
  | _ => none

/-! ## Keys with values -/

/-- Gives a dotted key its value, counted from the table with the entries. The tables on the way
must be open to dotted keys, and the one that gets the value must come from dotted keys. -/
def Entries.assign (value : Value) : List String → Entries → Option Entries
  | [], _ => none
  | [key], entries => entries.add key value
  | key :: next :: path, entries =>
    match entries.lookup key with
    | none => do
      entries.add key (.table .dotted (← assign value (next :: path) []))
    | some (.table .dotted inner) => do
      return entries.replace key (.table .dotted (← assign value (next :: path) inner))
    | some (.table .implied inner) =>
      if path.isEmpty then none
      else do return entries.replace key (.table .implied (← assign value (next :: path) inner))
    | some (.array .ofTables elements) =>
      if path.isEmpty then none
      else do
        let elements ← changeLast elements (assign value (next :: path))
        return entries.replace key (.array .ofTables elements)
    | _ => none

/-! ## Headers -/

/-- Changes the table at a path of headers. Missing tables on the way are implied, and an array of
tables stands for its last element. -/
def Entries.changeAt (change : Entries → Option Entries) : List String → Entries → Option Entries
  | [], entries => change entries
  | key :: path, entries =>
    match entries.lookup key with
    | none => do entries.add key (.table .implied (← changeAt change path []))
    | some (.table .inline _) => none
    | some (.table origin inner) => do
      return entries.replace key (.table origin (← changeAt change path inner))
    | some (.array .ofTables elements) => do
      let elements ← changeLast elements (changeAt change path)
      return entries.replace key (.array .ofTables elements)
    | _ => none

/-- Opens a table by its header. The table must be new or implied. -/
def Entries.openTable (path : List String) (entries : Entries) : Option Entries :=
  match path.getLast? with
  | none => none
  | some key =>
    entries.changeAt (fun inner =>
      match inner.lookup key with
      | none => inner.add key (.table .header [])
      | some (.table .implied below) => some (inner.replace key (.table .header below))
      | _ => none) path.dropLast

/-- Opens the next element of an array of tables by its header. -/
def Entries.openElement (path : List String) (entries : Entries) : Option Entries :=
  match path.getLast? with
  | none => none
  | some key =>
    entries.changeAt (fun inner =>
      match inner.lookup key with
      | none => inner.add key (.array .ofTables [.table .header []])
      | some (.array .ofTables elements) =>
        some (inner.replace key (.array .ofTables (elements ++ [.table .header []])))
      | _ => none) path.dropLast

/-! ## Statements -/

/-- A line of a document that says something. -/
inductive Statement where
  | assign (key : List String) (value : Value)
  | openTable (path : List String)
  | openElement (path : List String)

/-- A document under way: the entries of the root and the path of the table last opened. -/
structure Draft where
  root : Entries := []
  current : List String := []

/-- Follows one statement. -/
def Draft.follow (d : Draft) : Statement → Option Draft
  | .assign key value => do
    return { d with root := ← d.root.changeAt (Entries.assign value key) d.current }
  | .openTable path => do return ⟨← d.root.openTable path, path⟩
  | .openElement path => do return ⟨← d.root.openElement path, path⟩

/-- The root table that the statements describe. -/
def assembled (statements : List Statement) : Option Entries := do
  return (← statements.foldlM Draft.follow {}).root

end RecordSynthesis.Document
