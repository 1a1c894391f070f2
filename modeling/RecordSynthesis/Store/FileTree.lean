import RecordSynthesis.Dictionary
import RecordSynthesis.Failure
import RecordSynthesis.Store.Path

/-!
# File trees

Directories and regular files by location, a location being the names on the way down from the
root. Paths are followed from the root or from the working directory; every step leaves from a
directory that exists, two dots lead to the directory above, and no name on the way is too long.
There are no links, and no operation is refused for lack of permission or space.
-/

set_option autoImplicit false

namespace RecordSynthesis

open RecordSynthesis.Text

/-- The names from the root down to a place. -/
abbrev Location := List String

/-- What stands at a location. -/
inductive Entry where
  | directory
  | file (content : ByteArray)
  deriving Inhabited

namespace Entry

/-- Whether the entry is a directory. -/
def isDirectory : Entry → Bool
  | directory => true
  | file _ => false

/-- Whether two entries are directories, or files with the same bytes. -/
def isLike : Entry → Entry → Bool
  | directory, directory => true
  | file a, file b => a.toList = b.toList
  | _, _ => false

end Entry

/-- A file tree with a working directory. -/
structure FileTree where
  workingDirectory : Location
  entries : Dictionary Location Entry
  deriving Inhabited

namespace FileTree

/-! ## Locations -/

/-- What stands at a location. The root is always a directory. -/
def lookup (t : FileTree) (l : Location) : Option Entry :=
  if l = [] then some .directory else t.entries.find? l

/-- Whether a directory stands at the location. -/
def isDirectory (t : FileTree) (l : Location) : Bool := (t.lookup l).any (·.isDirectory)

/-- Puts an entry at a location. -/
def put (t : FileTree) (l : Location) (e : Entry) : FileTree :=
  { t with entries := t.entries.insert l e }

/-- Takes the entry at a location away. -/
def remove (t : FileTree) (l : Location) : FileTree := { t with entries := t.entries.erase l }

/-- The absolute path of a location. -/
def absolutePath (l : Location) : String := "/" ++ joined "/" l

/-- Where a path begins. -/
def origin (t : FileTree) (path : String) : Location :=
  if Path.isAbsolute path then [] else t.workingDirectory

/-! ## Following paths -/

/-- One step from a location, which must be a directory. The place where it arrives need not
exist. -/
def step (t : FileTree) (l : Location) (c : PathComponent) : Except SystemError Location :=
  match t.lookup l with
  | none => .error .notFound
  | some (.file _) => .error .notADirectory
  | some .directory =>
    match c with
    | .root => .ok []
    | .here => .ok l
    | .parent => .ok l.dropLast
    | .name n => if Path.nameFits n then .ok (l ++ [n]) else .error .nameTooLong

/-- Takes steps one after the other. -/
def follow (t : FileTree) (l : Location) : List PathComponent → Except SystemError Location
  | [] => .ok l
  | c :: rest =>
    match t.step l c with
    | .error e => .error e
    | .ok next => t.follow next rest

/-- Refuses a text that is too long for a path or holds what no path can hold. -/
def checkPath (path : String) : Except SystemError Unit :=
  if Path.holdsNul path then .error .nulInName
  else if Path.fits path then .ok ()
  else .error .nameTooLong

/-- The location that a path leads to. The empty path leads nowhere. -/
def resolve (t : FileTree) (path : String) : Except SystemError Location :=
  match checkPath path with
  | .error e => .error e
  | .ok () =>
    if path = "" then .error .notFound else t.follow (t.origin path) (Path.steps path)

/-! ## Reading -/

/-- The text of the file at a path. -/
def readText (t : FileTree) (path : String) : Except SystemError String := do
  match t.lookup (← t.resolve path) with
  | none => throw .notFound
  | some .directory => throw .isADirectory
  | some (.file content) =>
    match String.fromUTF8? content with
    | some text => return text
    | none => throw .notUtf8

/-! ## Writing -/

/-- What creating directories leaves behind. -/
structure Created where
  tree : FileTree
  outcome : Except SystemError Location

/-- Creates the missing directories along components. A file in the way stops it: where something
was missing before it, and at the end, it already exists in place of a directory, and otherwise it
is no directory to step on from. -/
def createAlong (t : FileTree) (missing : Bool) (l : Location) : List PathComponent → Created
  | [] => ⟨t, .ok l⟩
  | c :: rest =>
    match t.step l c with
    | .error e => ⟨t, .error e⟩
    | .ok next =>
      match t.lookup next with
      | some .directory => t.createAlong missing next rest
      | some (.file _) =>
        ⟨t, .error (if missing || rest.isEmpty then .alreadyExists else .notADirectory)⟩
      | none => (t.put next .directory).createAlong true next rest

/-- Creates the directory at a path with the directories on the way. Those that exist stay. -/
def createDirectories (t : FileTree) (path : String) : Created :=
  match checkPath path with
  | .error e => ⟨t, .error e⟩
  | .ok () => t.createAlong false (t.origin path) (Path.components path)

/-- Refuses a path that is too long when it begins at the root instead of the working directory. -/
def checkAbsolute (t : FileTree) (path : String) : Except SystemError Unit :=
  checkPath (Path.push (absolutePath t.workingDirectory) path)

/-- Moves a file into the place that a path leads to, over a file that is there. A directory cannot
be replaced. -/
def moveInto (t : FileTree) (path : String) (l : Location) (content : ByteArray) :
    Except SystemError FileTree :=
  if Path.holdsNul path then .error .invalidArgument
  else if !(Path.fits path && l.all Path.nameFits) then .error .nameTooLong
  else if t.isDirectory l then .error .isADirectory
  else .ok (t.put l (.file content))

/-- Removes a file. -/
def removeFile (t : FileTree) (l : Location) : Except SystemError FileTree :=
  match t.lookup l with
  | none => .error .notFound
  | some .directory => .error .isADirectory
  | some (.file _) => .ok (t.remove l)

/-! ## Whole trees -/

/-- The tree that holds only an empty working directory. -/
def ofWorkingDirectory (l : Location) : FileTree :=
  (⟨l, .empty⟩ : FileTree).createAlong false [] (l.map .name) |>.tree

/-- Adds a file or, without content, a directory at a path, with the directories on the way. -/
def withFile (t : FileTree) (path : String) (content : Option ByteArray) : FileTree :=
  let parts := Path.components path
  match content with
  | none => (t.createAlong false (t.origin path) parts).tree
  | some bytes =>
    let made := t.createAlong false (t.origin path) parts.dropLast
    match made.outcome, parts.getLast? with
    | .ok l, some (.name n) => made.tree.put (l ++ [n]) (.file bytes)
    | _, _ => made.tree

/-- What lies below the directory at a path: each relative path, written with a slash at the end
for a directory, and the content of a file. The paths are in the order of their texts. -/
def listing (t : FileTree) (path : String) : List (String × Option ByteArray) :=
  match t.resolve path with
  | .error _ => []
  | .ok l =>
    if t.isDirectory l then
      let below := t.entries.entries.filterMap fun e =>
        match l.isPrefixOf? e.1 with
        | some (n :: more) =>
          let relative := joined "/" (n :: more)
          match e.2 with
          | .directory => some (relative ++ "/", none)
          | .file content => some (relative, some content)
        | _ => none
      below.mergeSort fun a b => (compare a.1 b.1).isLE
    else []

/-- How another tree differs from this one: the locations with nothing there any more, and those
with a new entry, every directory before what it holds. -/
def changes (t after : FileTree) : List (Location × Option Entry) :=
  let gone := t.entries.keys.filter fun l => !after.entries.contains l
  let fresh := after.entries.entries.filter fun e => !(t.entries.find? e.1).any (·.isLike e.2)
  gone.map (fun l => (l, none)) ++ fresh.map (fun e => (e.1, some e.2))

end FileTree

end RecordSynthesis
