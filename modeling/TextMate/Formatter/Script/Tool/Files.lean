import TextMate.Formatter.Script.Tool.Source

/-
  This file defines the commands that make, remove and list
  files and folders, and those on the texts of paths.

  Key definitions include:
    * `Tool.remove`
    * `Tool.makeFolder`
    * `Tool.copy`
    * `Tool.list`
    * `Tool.ofFiles?`
-/

namespace TextMate

namespace Script

/- Do something for each path, and report what fails. -/
def forPaths
    (blame : Blame)
    (act : String → Step (Except OsError Unit)) :
    List String → Step Nat
  | [] => return 0
  | path :: rest => do
      let result ← act path
      match result with
      | .ok _ => pure ()
      | .error error => Step.report (blame path error)
      let status ← forPaths blame act rest
      return if result matches .ok _ then status else 1

def removePath
    (isDeep isForced : Bool)
    (path : String) : Step (Except OsError Unit) := do
  let disk := (← get).disk
  match disk.resolve path with
  | .error error =>
      return if isForced && error = .notFound then .ok ()
        else .error error
  | .ok place =>
      if disk.entryAt? place = some .folder then
        if isDeep then Step.access (Disk.removeAll path)
        else return .error .isDirectory
      else
        modify fun shell =>
          { shell with disk := shell.disk.erase place }
        return .ok ()

/- Remove files, or folders with what is in them. -/
def Tool.remove : Tool := fun arguments => do
  let (given, paths) := options [] arguments
  let isDeep := hasOption given 'r' || hasOption given 'R'
  forPaths (blameTask "cannot remove" "")
    (removePath isDeep (hasOption given 'f')) paths

/- Remove a folder that nothing is in. -/
def removeFolder
    (path : String) : Step (Except OsError Unit) := do
  let disk := (← get).disk
  match disk.resolve path with
  | .error error => return .error error
  | .ok place =>
      if disk.entryAt? place ≠ some .folder then
        return .error
          (if disk.has place then .notDirectory else .notFound)
      else if !(disk.names place).isEmpty then
        return .error .directoryNotEmpty
      else
        modify fun shell =>
          { shell with disk := shell.disk.erase place }
        return .ok ()

def Tool.removeFolders : Tool := fun arguments =>
  forPaths (blameTask "failed to remove" "") removeFolder
    (options [] arguments).2

def Tool.makeFolder : Tool := fun arguments =>
  let (given, paths) := options ['m'] arguments
  let make :=
    if hasOption given 'p' then Disk.makeFolders
    else Disk.makeFolder
  forPaths (blameTask "cannot create directory" "")
    (fun path => Step.access (make path)) paths

/- Make files that are not there yet. -/
def Tool.touch : Tool := fun arguments =>
  forPaths (blameTask "cannot touch" "")
    (fun path => do
      if (← get).disk.isFolder path then return .ok ()
      else
        return (← Step.openFile path true).map fun _ => ())
    (options [] arguments).2

def lastStep
    (path : String) : String :=
  match (Path.steps path).getLast? with
  | some step => step.text
  | none => "/"

/- The path of a copy: inside the target if it is a folder. -/
def copyPath
    (disk : Disk)
    (source target : String) : String :=
  if disk.isFolder target then
    Path.join target (lastStep source)
  else target

/- Copy files to a file or a folder, or move them there. -/
def Tool.copy
    (isMove : Bool) : Tool := fun arguments => do
  let paths := (options [] arguments).2
  let target := paths.getLast?.getD ""
  let copyOne (path : String) : Step (Except OsError Unit) := do
    let place := copyPath (← get).disk path target
    match ← Step.access (Disk.copy path place) with
    | .error error => return .error error
    | .ok () =>
        if isMove then removePath false false path
        else return .ok ()
  forPaths (blameTask "cannot stat" "") copyOne
    paths.dropLast

/- Let files be run as programs. -/
def Tool.allow : Tool := fun arguments =>
  forPaths (blameTask "cannot access" "")
    (fun path => Step.access (Disk.makeProgram path))
    (arguments.drop 1)

def listedNames
    (disk : Disk)
    (showsAll : Bool)
    (path : String) : Except OsError (List String) :=
  match disk.resolve path with
  | .error error => .error error
  | .ok place =>
      if disk.entryAt? place = some .folder then
        let isShown (name : String) : Bool :=
          showsAll || name.toList.head? != some '.'
        .ok
          ((if showsAll then [".", ".."] else []) ++
            (((disk.names place).filter isShown).mergeSort
              fun a b => decide (a ≤ b)))
      else .ok [path]

/- List the names in folders. -/
def Tool.list : Tool := fun arguments => do
  let (given, paths) := options [] arguments
  let showsAll := hasOption given 'a'
  let status ←
    forPaths (blameTask "cannot access" "")
      (fun path => do
        match listedNames (← get).disk showsAll path with
        | .error error => return .error error
        | .ok names =>
            Step.print 1 (String.join (names.map (· ++ "\n")))
            return .ok ())
      (if paths.isEmpty then ["."] else paths)
  return 2 * status

/- Print the last step of a path, without an ending. -/
def Tool.baseName : Tool := fun arguments => do
  let name := lastStep (arguments.head?.getD "")
  let ending := (arguments[1]?).getD ""
  let text := name.toList
  let isCut :=
    ending.toList.isSuffixOf text && ending.length < text.length
  let text :=
    if isCut then text.take (text.length - ending.length)
    else text
  Step.print 1 (String.ofList text ++ "\n")
  return 0

/- Print a path without its last step. -/
def Tool.folderName : Tool := fun arguments => do
  let path := arguments.head?.getD ""
  let parent := (Path.parent? path).getD "/"
  Step.print 1 ((if parent = "" then "." else parent) ++ "\n")
  return 0

/- The command of a name that works on files and paths. -/
def Tool.ofFiles? : String → Option Tool
  | "rm" => some Tool.remove
  | "rmdir" => some Tool.removeFolders
  | "mkdir" => some Tool.makeFolder
  | "touch" => some Tool.touch
  | "cp" => some (Tool.copy false)
  | "mv" => some (Tool.copy true)
  | "chmod" => some Tool.allow
  | "ls" => some Tool.list
  | "basename" => some Tool.baseName
  | "dirname" => some Tool.folderName
  | _ => none

end Script

end TextMate
