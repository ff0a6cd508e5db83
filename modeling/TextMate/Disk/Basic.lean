import TextMate.Disk.OsError
import TextMate.Disk.Path
import TextMate.Text.Word

/-
  This file defines disks: trees of folders and files, with a
  folder to start relative paths from.

  A disk leaves out links and special files, so no path leads
  out of the tree or around in it.  It leaves out permissions,
  quotas and full devices, so an operation fails for what the
  tree holds and for the length of names and paths alone.  Of a
  file it keeps the contents and whether it can be run.  Names
  and contents are texts in UTF-8.  The folder to start from is
  taken to be a place of the tree that is not removed.

  Key definitions include:
    * `Entry`
    * `Disk.Place`
    * `Disk`
    * `Disk.entryAt?`
    * `Disk.walk`
    * `Disk.resolve`
    * `Disk.approach`
    * `Disk.locate`
-/

namespace TextMate

------------------------------------------------------------
-- Disks
------------------------------------------------------------

/- What a place of a disk holds. -/
inductive Entry where
  | folder
  | file (contents : String) (isExecutable : Bool)
deriving DecidableEq

/- A place of a disk: the names from the root down to it. -/
abbrev Disk.Place := List String

/- The entries of a disk, without the root, which is always
  there. -/
structure Disk where
  entries : List (Disk.Place × Entry)
  workFolder : Disk.Place
deriving DecidableEq

namespace Disk

/- A disk with nothing but its root. -/
def empty : Disk := ⟨[], []⟩

instance : Inhabited Disk := ⟨empty⟩

def entryAt?
    (disk : Disk)
    (place : Place) : Option Entry :=
  if place = [] then some .folder
  else List.lookup place disk.entries

/- There is an entry at the place. -/
def has
    (disk : Disk)
    (place : Place) : Bool :=
  (disk.entryAt? place).isSome

/- Put an entry in a list, in place of one that is there. -/
def putEntry
    (place : Place)
    (entry : Entry) :
    List (Place × Entry) → List (Place × Entry)
  | [] => [(place, entry)]
  | (other, old) :: rest =>
      if other = place then (place, entry) :: rest
      else (other, old) :: putEntry place entry rest

/- Put an entry at a place. -/
def put
    (disk : Disk)
    (place : Place)
    (entry : Entry) : Disk :=
  { disk with entries := putEntry place entry disk.entries }

/- The first place is the second one, or below it. -/
def isWithin
    (place : Place)
    (folder : Place) : Bool :=
  folder.isPrefixOf place

/- Remove all entries below a place. -/
def clearBelow
    (disk : Disk)
    (folder : Place) : Disk :=
  { disk with
    entries := disk.entries.filter fun (place, _) =>
      !(isWithin place folder && place != folder) }

/- Remove the entry at a place. -/
def erase
    (disk : Disk)
    (place : Place) : Disk :=
  { disk with
    entries := disk.entries.filter fun (other, _) =>
      other != place }

/- The name of a place that is directly in a folder. -/
def nameIn?
    (folder : Place)
    (place : Place) : Option String :=
  match place.getLast? with
  | some name =>
      if place = folder ++ [name] then some name else none
  | none => none

/- The names in a folder, in some order. -/
def names
    (disk : Disk)
    (folder : Place) : List String :=
  disk.entries.filterMap fun (place, _) =>
    nameIn? folder place

------------------------------------------------------------
-- Paths
------------------------------------------------------------

/- The longest name, in bytes. -/
def nameLimit : Nat := 255

/- The longest path, in bytes. -/
def pathLimit : Nat := 4095

/- Follow steps from a place. -/
def walk
    (disk : Disk)
    (place : Place) :
    List Path.Step → Except OsError Place
  | [] => .ok place
  | step :: rest =>
      match disk.entryAt? place with
      | none => .error .notFound
      | some (.file _ _) => .error .notDirectory
      | some .folder =>
          match step with
          | .stay => walk disk place rest
          | .up => walk disk place.dropLast rest
          | .down name =>
              if nameLimit < Text.byteLength name.toList then
                .error .nameTooLong
              else if disk.has (place ++ [name]) then
                walk disk (place ++ [name]) rest
              else .error .notFound

/- The place from which the steps of a path are followed. -/
def start
    (disk : Disk)
    (path : String) : Place :=
  if Path.isAbsolute path then [] else disk.workFolder

/- The fault of a text that cannot be a path. -/
def pathFault?
    (path : String) : Option OsError :=
  if path.toList.contains '\x00' then some .nulInPath
  else if path = "" then some .notFound
  else if pathLimit < Text.byteLength path.toList then
    some .nameTooLong
  else none

/- The place of the entry that a path leads to. -/
def resolve
    (disk : Disk)
    (path : String) : Except OsError Place :=
  match pathFault? path with
  | some error => .error error
  | none =>
      match disk.walk (disk.start path) (Path.steps path) with
      | .error error => .error error
      | .ok place =>
          if Path.endsInSlash path &&
              disk.entryAt? place ≠ some .folder then
            .error .notDirectory
          else .ok place

/- The entry that a path leads to. -/
def find
    (disk : Disk)
    (path : String) : Except OsError Entry :=
  match disk.resolve path with
  | .error error => .error error
  | .ok place =>
      match disk.entryAt? place with
      | some entry => .ok entry
      | none => .error .notFound

/- The path leads to a folder. -/
def isFolder
    (disk : Disk)
    (path : String) : Bool :=
  match disk.find path with
  | .ok .folder => true
  | _ => false

/- The path leads to a file. -/
def isFile
    (disk : Disk)
    (path : String) : Bool :=
  match disk.find path with
  | .ok (.file _ _) => true
  | _ => false

------------------------------------------------------------
-- Targets
------------------------------------------------------------

/-
  Where a path leads that may be made or removed: to a name in
  a folder, or to a folder that is there by another name.
-/
inductive Target where
  | named (folder : Place) (name : String)
  | stay
  | up
  | root
deriving DecidableEq

/- The folder at a place where a name is looked up. -/
def enter
    (disk : Disk)
    (place : Place)
    (name : String) : Except OsError Target :=
  match disk.entryAt? place with
  | none => .error .notFound
  | some (.file _ _) => .error .notDirectory
  | some .folder => .ok (.named place name)

/- The target that a path leads to, however long its name is. -/
def approach
    (disk : Disk)
    (path : String) : Except OsError Target :=
  match pathFault? path with
  | some error => .error error
  | none =>
      let steps := Path.steps path
      let start := disk.start path
      match steps.getLast? with
      | none => .ok .root
      | some (.down name) =>
          (disk.walk start steps.dropLast).bind
            fun place => disk.enter place name
      | some .stay =>
          (disk.walk start steps).map fun _ => .stay
      | some .up =>
          (disk.walk start steps).map fun _ => .up

/- A target whose name is not too long. -/
def Target.check : Target → Except OsError Target
  | .named folder name =>
      if nameLimit < Text.byteLength name.toList then
        .error .nameTooLong
      else .ok (.named folder name)
  | target => .ok target

/- The target that a path leads to. -/
def locate
    (disk : Disk)
    (path : String) : Except OsError Target :=
  (disk.approach path).bind Target.check

end Disk

end TextMate
