import TextMate.CommandLine.Run
import TextMate.Oniguruma.Check

/-
  This file defines the command line program.  The entries of
  the file system that a command may touch are put on a disk,
  the command runs on it, and what changed is written back.

  Key definitions include:
    * `CommandLine.loadPath`
    * `CommandLine.store`
    * `main`
-/

namespace TextMate

namespace CommandLine

------------------------------------------------------------
-- Paths of a Command
------------------------------------------------------------

/- The paths that a command reads or writes. -/
def Command.paths : Command → List String
  | .decompile path outFolder formatting _ =>
      [path, outFolder] ++ formatting.program.toList ++
        formatting.style.toList
  | .normalize path outFolder _ configFolder =>
      [path, outFolder] ++ configFolder.toList
  | .version => []

/- The absolute path of a place. -/
def placePath
    (place : Disk.Place) : String :=
  "/" ++ String.intercalate "/" place

/- The place of an absolute path without steps up. -/
def placeOf
    (path : String) : Disk.Place :=
  (Path.steps path).filterMap fun step =>
    match step with
    | .down name => some name
    | .stay | .up => none

/- Do an operation on a disk, whether or not it succeeds. -/
def change
    (disk : Disk)
    (access : Disk.Access Unit) : Disk :=
  ((ExceptT.run access).run disk).2

------------------------------------------------------------
-- Loading and Storing
------------------------------------------------------------

/- Put a file on a disk.  Any file may be run. -/
def loadFile
    (disk : Disk)
    (path : String) : IO Disk := do
  let contents ← IO.FS.readFile path
  let disk := change disk (Disk.writeDeep path contents)
  return change disk (Disk.makeProgram path)

/-
  Put a file, or a folder with all in it, on a disk.  What is
  missing or unreadable is left out.
-/
partial def load
    (disk : Disk)
    (path : String) : IO Disk := do
  try
    let found ← IO.FS.realPath path
    if ← found.isDir then
      let mut disk := change disk (Disk.makeFolders path)
      for entry in ← found.readDir do
        disk ← load disk (Path.join path entry.fileName)
      return disk
    else loadFile disk path
  catch _ => return disk

/- Put an entry on a disk, without what is in it. -/
def loadParent
    (disk : Disk)
    (path : String) : IO Disk := do
  try
    let found ← IO.FS.realPath path
    if ← found.isDir then
      return change disk (Disk.makeFolders path)
    else return change disk (Disk.writeDeep path "")
  catch _ => return disk

/- Put a path on a disk, with the parents that are there. -/
def loadPath
    (disk : Disk)
    (path : String) : IO Disk := do
  let parents := (Path.parents path).filter (· != "")
  load (← parents.reverse.foldlM loadParent disk) path

/- Remove an entry from the file system. -/
def remove
    (entry : Disk.Place × Entry) : IO Unit :=
  match entry.2 with
  | .folder => IO.FS.removeDir (placePath entry.1)
  | .file _ _ => IO.FS.removeFile (placePath entry.1)

/- Write an entry to the file system. -/
def store
    (entry : Disk.Place × Entry) : IO Unit :=
  match entry.2 with
  | .folder => IO.FS.createDirAll (placePath entry.1)
  | .file contents _ =>
      IO.FS.writeFile (placePath entry.1) contents

/- Shorter places come first. -/
def isOuter
    (x y : Disk.Place × Entry) : Bool :=
  x.1.length ≤ y.1.length

/- Write what changed to the file system. -/
def storeChanges
    (old : Disk)
    (new : Disk) : IO Unit := do
  let removed := old.entries.filter fun (place, entry) =>
    new.entryAt? place ≠ some entry
  let added := new.entries.filter fun (place, entry) =>
    old.entryAt? place ≠ some entry
  (removed.mergeSort isOuter).reverse.forM remove
  (added.mergeSort isOuter).forM store

def runOnSystem
    (command : Command) : IO Reply := do
  let workFolder := (← IO.currentDir).toString
  let start : Disk := ⟨[], placeOf workFolder⟩
  let mut disk := change start (Disk.makeFolders workFolder)
  for path in command.paths do
    disk ← loadPath disk path
  let (reply, workspace) :=
    (command.run Oniguruma.check).run ⟨disk, []⟩
  storeChanges disk workspace.disk
  return reply

end CommandLine

end TextMate

/- Run the command that the arguments make. -/
def main
    (arguments : List String) : IO UInt32 := do
  let reply ←
    match TextMate.CommandLine.Command.ofArguments?
        arguments with
    | some command =>
        TextMate.CommandLine.runOnSystem command
    | none => pure TextMate.CommandLine.refusal
  IO.print reply.output
  IO.eprint reply.errors
  return reply.exitStatus.toUInt32
