import TextMate.Disk.Basic

/-
  This file defines operations on disks.  An operation that
  fails may have changed the disk before.

  Key definitions include:
    * `Disk.Access`
    * `Disk.makeFolder`
    * `Disk.makeFolders`
    * `Disk.removeAll`
    * `Disk.write`
    * `Disk.copy`
    * `Disk.clean`
    * `Disk.makeProgram`
-/

namespace TextMate

namespace Disk

/- A computation on a disk that may fail. -/
abbrev Access := ExceptT OsError (StateM Disk)

/- A part of the computation that leaves the disk alone. -/
def query
    {α : Type}
    (read : Disk → Except OsError α) : Access α := do
  match read (← get) with
  | .ok value => return value
  | .error error => throw error

/- A part of the computation that may fail on its own. -/
def attempt
    {α : Type}
    (action : Access α) : Access (Except OsError α) :=
  ExceptT.lift (ExceptT.run action)

------------------------------------------------------------
-- Folders
------------------------------------------------------------

/- Make a folder where there is no entry yet. -/
def makeFolder
    (path : String) : Access Unit := do
  match ← query fun disk => disk.locate path with
  | .named folder name =>
      let disk ← get
      if disk.has (folder ++ [name]) then throw .fileExists
      set (disk.put (folder ++ [name]) .folder)
  | .stay | .up | .root => throw .fileExists

/-
  Make a folder, after the parents that are missing.  A folder
  that is there already is kept.
-/
def makeChain : List String → Access Unit
  | [] => return ()
  | path :: parents => do
      if path = "" then return ()
      let keepFolder (error : OsError) : Access Unit := do
        if (← get).isFolder path then return ()
        else throw error
      match ← attempt (makeFolder path) with
      | .ok () => return ()
      | .error .notFound =>
          makeChain parents
          match ← attempt (makeFolder path) with
          | .ok () => return ()
          | .error error => keepFolder error
      | .error error => keepFolder error

/- Make a folder and the parents that are missing. -/
def makeFolders
    (path : String) : Access Unit :=
  makeChain (path :: Path.parents path)

/- Remove a folder that is empty. -/
def removeFolder
    (path : String) : Access Unit := do
  match ← query fun disk => disk.locate path with
  | .named folder name =>
      let disk ← get
      let place := folder ++ [name]
      match disk.entryAt? place with
      | none => throw .notFound
      | some (.file _ _) => throw .notDirectory
      | some .folder =>
          if disk.names place ≠ [] then
            throw .directoryNotEmpty
          set (disk.erase place)
  | .stay => throw .invalidArgument
  | .up => throw .directoryNotEmpty
  | .root => throw .busy

/- Remove a folder with everything in it. -/
def removeAll
    (path : String) : Access Unit := do
  let place ← query fun disk => disk.resolve path
  match (← get).entryAt? place with
  | some .folder =>
      modify fun disk => disk.clearBelow place
      match ← attempt (removeFolder path) with
      | .ok () | .error .notFound => return ()
      | .error error => throw error
  | _ => throw .notDirectory

/- Leave an empty folder at a path. -/
def clean
    (path : String) : Access Unit := do
  match ← attempt (removeAll path) with
  | .ok () | .error .notFound => makeFolders path
  | .error error => throw error

------------------------------------------------------------
-- Files
------------------------------------------------------------

/- The place of a file that is to be written. -/
def writable
    (disk : Disk)
    (path : String) : Except OsError Place :=
  if Path.endsInSlash path then
    -- The name in front of the slash is not looked up.
    match disk.approach path with
    | .error error => .error error
    | .ok _ => .error .isDirectory
  else
    match disk.locate path with
    | .error error => .error error
    | .ok (.named folder name) =>
        if disk.entryAt? (folder ++ [name]) = some .folder then
          .error .isDirectory
        else .ok (folder ++ [name])
    | .ok .stay | .ok .up | .ok .root => .error .isDirectory

/- A file that is written anew is no program. -/
def isProgram
    (disk : Disk)
    (place : Place) : Bool :=
  match disk.entryAt? place with
  | some (.file _ isExecutable) => isExecutable
  | _ => false

/- Write a file, in place of its old contents. -/
def write
    (path : String)
    (contents : String) : Access Unit := do
  let place ← query fun disk => disk.writable path
  modify fun disk =>
    disk.put place (.file contents (disk.isProgram place))

/-
  Copy a file.  The target is emptied before the source is
  read, so a copy of a file to itself leaves it empty.
-/
def copy
    (source : String)
    (target : String) : Access Unit := do
  match ← query fun disk => disk.find source with
  | .folder => throw .notFile
  | .file _ isExecutable =>
      let place ← query fun disk => disk.writable target
      modify fun disk =>
        disk.put place (.file "" isExecutable)
      match ← query fun disk => disk.find source with
      | .folder => throw .notFile
      | .file contents _ =>
          modify fun disk =>
            disk.put place (.file contents isExecutable)

/- Let a file be run as a program. -/
def makeProgram
    (path : String) : Access Unit := do
  let place ← query fun disk => disk.resolve path
  match (← get).entryAt? place with
  | some (.file contents _) =>
      modify fun disk => disk.put place (.file contents true)
  | _ => throw .isDirectory

/-
  Write a file in a folder that is made where missing.  A path
  without a parent is written to as it is.
-/
def writeDeep
    (path : String)
    (contents : String) : Access Unit := do
  match Path.parent? path with
  | some folder => makeFolders folder
  | none => pure ()
  write path contents

end Disk

end TextMate
