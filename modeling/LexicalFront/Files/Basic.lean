import LexicalFront.Path
set_option autoImplicit false
set_option relaxedAutoImplicit false

/-!
# File systems

What the rest of the library asks of a file system: to read a file as text, and to list a directory.

## Main definitions

* `LexicalFront.FileError` — why a file or directory cannot be read, with its kind and message.
* `LexicalFront.DirEntry` — an entry of a listing.
* `LexicalFront.FileSystem` — the two questions, and a bound on the nesting of directories.
-/

namespace LexicalFront

/-! ## Errors -/

/-- Errors of the operating system that can be foreseen, and all others by number and text. -/
inductive SystemError where
  | noEntry
  | notDirectory
  | isDirectory
  | nameTooLong
  | tooManyLinks
  | other (number : Nat) (text : String)
  deriving DecidableEq, Repr

namespace SystemError

/-- The number of the error. -/
def number : SystemError → Nat
  | noEntry => 2
  | notDirectory => 20
  | isDirectory => 21
  | nameTooLong => 36
  | tooManyLinks => 40
  | other n _ => n

/-- The error with a number; the text matters only if the error could not be foreseen. -/
def ofNumber (n : Nat) (text : String) : SystemError :=
  ([noEntry, notDirectory, isDirectory, nameTooLong, tooManyLinks].find? fun e => e.number == n).getD
    (other n text)

/-- The text of the error. -/
def text : SystemError → String
  | noEntry => "No such file or directory"
  | notDirectory => "Not a directory"
  | isDirectory => "Is a directory"
  | nameTooLong => "File name too long"
  | tooManyLinks => "Too many levels of symbolic links"
  | other _ t => t

end SystemError

/-- Why a file or a directory cannot be read. -/
inductive FileError where
  /-- No file is stored there. -/
  | noFile
  /-- No directory is stored there. -/
  | noDirectory
  /-- A directory is stored where a file was asked for. -/
  | directoryNotFile
  /-- A file is stored where a directory was asked for. -/
  | fileNotDirectory
  /-- Reading is not permitted. -/
  | denied (message : String)
  /-- The operating system refused. -/
  | system (error : SystemError)
  /-- The contents are not text. -/
  | notText
  /-- The path holds a null character, which no operating system lets through. -/
  | nullInPath
  deriving DecidableEq, Repr

/-- Kinds of errors. -/
inductive FileErrorKind where
  | notFound
  | permissionDenied
  | invalidInput
  | invalidData
  | notADirectory
  | isADirectory
  | invalidFilename
  | filesystemLoop
  | uncategorized
  deriving DecidableEq, Repr

/-- The name of a kind of errors. -/
def FileErrorKind.label : FileErrorKind → String
  | notFound => "NotFound"
  | permissionDenied => "PermissionDenied"
  | invalidInput => "InvalidInput"
  | invalidData => "InvalidData"
  | notADirectory => "NotADirectory"
  | isADirectory => "IsADirectory"
  | invalidFilename => "InvalidFilename"
  | filesystemLoop => "FilesystemLoop"
  | uncategorized => "Uncategorized"

namespace FileError

/-- The kind of an error. -/
def kind : FileError → FileErrorKind
  | noFile | noDirectory => .notFound
  | directoryNotFile | fileNotDirectory | nullInPath => .invalidInput
  | denied _ => .permissionDenied
  | notText => .invalidData
  | system .noEntry => .notFound
  | system .notDirectory => .notADirectory
  | system .isDirectory => .isADirectory
  | system .nameTooLong => .invalidFilename
  | system .tooManyLinks => .filesystemLoop
  | system (.other n _) => if n = 1 ∨ n = 13 then .permissionDenied else .uncategorized

/-- The message of an error. Errors of the operating system end with their number. -/
def message : FileError → String
  | noFile => "no such file"
  | noDirectory => "no such directory"
  | directoryNotFile => "is a directory"
  | fileNotDirectory => "not a directory"
  | denied m => m
  | system e => s!"{e.text} (os error {e.number})"
  | notText => "stream did not contain valid UTF-8"
  | nullInPath => "file name contained an unexpected NUL byte"

end FileError

/-! ## Listings and reading -/

/-- An entry of a listing. -/
structure DirEntry where
  /-- The path of the entry: that of the directory and the name of the entry. -/
  path : Path
  /-- Whether the entry is a directory. -/
  isDir : Bool
  deriving DecidableEq, Repr

/-- A file system, as far as reading goes. -/
structure FileSystem where
  /-- The name in inspection texts. -/
  label : String
  /-- A bound on the number of directories that lie inside each other. -/
  depth : Nat
  /-- The text of a file. -/
  read : Path → Except FileError String
  /-- The entries of a directory, in any order. -/
  list : Path → Except FileError (List DirEntry)

end LexicalFront
