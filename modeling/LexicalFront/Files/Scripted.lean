import LexicalFront.Files.Basic
set_option autoImplicit false
set_option relaxedAutoImplicit false

/-!
# Recorded answers of a file system

A script holds what a file system answers to the questions that were recorded, by the spelling of
the path that was asked for.

## Main definitions

* `LexicalFront.Script` — the recorded answers.
* `LexicalFront.Script.toFileSystem` — the file system that gives them.
-/

namespace LexicalFront

/-- Recorded answers of a file system. -/
structure Script where
  /-- The name in inspection texts. -/
  label : String
  /-- What listing a directory gives. -/
  listings : List (Path × Except FileError (List DirEntry))
  /-- What reading a file gives. -/
  texts : List (Path × Except FileError String)

namespace Script

/-- The recorded text of a file. -/
def read (s : Script) (p : Path) : Except FileError String :=
  (s.texts.lookup p).getD (.error .noFile)

/-- The recorded listing of a directory. -/
def list (s : Script) (p : Path) : Except FileError (List DirEntry) :=
  (s.listings.lookup p).getD (.error .noDirectory)

/-- The script as a file system. Directories that lie inside each other have different paths, so
that no more of them do than are recorded, and one more that is not. -/
def toFileSystem (s : Script) : FileSystem where
  label := s.label
  depth := s.listings.length + 1
  read := s.read
  list := s.list

end Script

end LexicalFront
