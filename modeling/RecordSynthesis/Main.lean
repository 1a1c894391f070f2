import RecordSynthesis.CommandLine

/-!
# The program

Runs a call on the disk. What the call may look at is taken into a file tree first; the outcome is
that of `CommandLine.run` on this tree, and the changes of the tree are made on the disk.
-/

set_option autoImplicit false

namespace RecordSynthesis.CommandLine

open RecordSynthesis.Text

/-- What stands on the disk at a location. -/
def entryOnDisk (l : Location) : IO (Option Entry) := do
  let place := (← IO.currentDir) / FileTree.absolutePath l
  if ← place.isDir then return some .directory
  else if ← place.pathExists then return some (.file (← IO.FS.readBinFile place))
  else return none

/-- Takes everything along components into a tree. -/
def observeAlong (t : FileTree) (l : Location) : List PathComponent → IO FileTree
  | [] => return t
  | .name n :: rest => do
    let next := l ++ [n]
    match ← entryOnDisk next with
    | some e => observeAlong (t.put next e) next rest
    | none => observeAlong t next rest
  | .parent :: rest => observeAlong t l.dropLast rest
  | .root :: rest => observeAlong t l rest
  | .here :: rest => observeAlong t l rest

/-- Takes what stands at paths, and on the way there, into a tree. -/
def observe (t : FileTree) (paths : List String) : IO FileTree :=
  paths.foldlM (fun t path => observeAlong t (t.origin path) (Path.components path)) t

/-- The part of the disk that a request concerns. -/
def observed (request : Request) : IO FileTree := do
  let t := FileTree.ofWorkingDirectory ((segments '/' (← IO.currentDir).toString).filter (· ≠ ""))
  match request with
  | .generate a =>
    let t ← observe t a.pathsRead
    observe t (pathsWritten t a)
  | _ => return t

/-- Makes a change on the disk. A file is written aside and then moved into place. -/
def makeChange (l : Location) : Option Entry → IO Unit
  | none => IO.FS.removeFile (FileTree.absolutePath l)
  | some .directory => IO.FS.createDirAll (FileTree.absolutePath l)
  | some (.file content) => do
    let aside := FileTree.absolutePath l ++ ".part"
    IO.FS.writeBinFile aside content
    IO.FS.rename aside (FileTree.absolutePath l)

end RecordSynthesis.CommandLine

open RecordSynthesis RecordSynthesis.CommandLine

/-- Runs a call with the given arguments and ends with its code. -/
def main (args : List String) : IO UInt32 := do
  let before ← observed (parse args)
  let outcome := run args before
  for (l, e) in before.changes outcome.tree do
    makeChange l e
  IO.print outcome.stdout
  IO.eprint outcome.stderr
  return UInt32.ofNat outcome.code
