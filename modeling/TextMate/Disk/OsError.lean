/-
  This file defines the errors of file system operations and
  their texts.

  Key definitions include:
    * `OsError`
    * `OsError.code?`
    * `OsError.message`
-/

namespace TextMate

/- An error of a file system operation. -/
inductive OsError where
  | notFound
  | notProgram
  | permissionDenied
  | busy
  | fileExists
  | notDirectory
  | isDirectory
  | invalidArgument
  | nameTooLong
  | directoryNotEmpty
  | tooManyLinks
  | nulInPath
  | nulInArgument
  | notFile
deriving DecidableEq

namespace OsError

/-
  The number of an error.  A text with a NUL character and a
  source of a copy that is no file are not refused by the
  system, so these errors have no number.
-/
def code? : OsError → Option Nat
  | .notFound => some 2
  | .notProgram => some 8
  | .permissionDenied => some 13
  | .busy => some 16
  | .fileExists => some 17
  | .notDirectory => some 20
  | .isDirectory => some 21
  | .invalidArgument => some 22
  | .nameTooLong => some 36
  | .directoryNotEmpty => some 39
  | .tooManyLinks => some 40
  | .nulInPath | .nulInArgument | .notFile => none

/- What an error says. -/
def description : OsError → String
  | .notFound => "No such file or directory"
  | .notProgram => "Exec format error"
  | .permissionDenied => "Permission denied"
  | .busy => "Device or resource busy"
  | .fileExists => "File exists"
  | .notDirectory => "Not a directory"
  | .isDirectory => "Is a directory"
  | .invalidArgument => "Invalid argument"
  | .nameTooLong => "File name too long"
  | .directoryNotEmpty => "Directory not empty"
  | .tooManyLinks => "Too many levels of symbolic links"
  | .nulInPath =>
      "file name contained an unexpected NUL byte"
  | .nulInArgument => "nul byte found in provided data"
  | .notFile =>
      "the source path is neither a regular file nor a " ++
        "symlink to a regular file"

/- The text of an error, with its number if it has one. -/
def message
    (error : OsError) : String :=
  match error.code? with
  | some code =>
      error.description ++ " (os error " ++ toString code ++
        ")"
  | none => error.description

end OsError

end TextMate
