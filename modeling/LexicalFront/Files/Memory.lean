import LexicalFront.Files.Basic
set_option autoImplicit false
set_option relaxedAutoImplicit false

/-!
# Files kept in memory

Files and directories are kept in one list, ordered by path. Writing a file or making a directory
makes the directories above it, where nothing is stored yet. Paths are compared by components; a
path that is stored again keeps its first spelling.

## Main definitions

* `LexicalFront.MemoryFiles` — the stored nodes.
* `LexicalFront.MemoryFiles.write`, `LexicalFront.MemoryFiles.makeDir`,
  `LexicalFront.MemoryFiles.remove` — the updates; `MemoryFiles.ofUpdates` is a run of them.
* `LexicalFront.MemoryFiles.read`, `LexicalFront.MemoryFiles.list` — the questions.
-/

namespace LexicalFront

/-- What is stored at a path. -/
inductive Node where
  | file (text : String)
  | dir
  deriving DecidableEq, Repr

/-- Whether a node is a directory. -/
def Node.isDir : Node → Bool
  | dir => true
  | file _ => false

/-- Files and directories, in the order of their paths. -/
structure MemoryFiles where
  /-- The paths, as they were first spelled, and what is stored there. -/
  entries : List (Path × Node)
  deriving DecidableEq, Repr

namespace MemoryFiles

/-- Nothing is stored. -/
def empty : MemoryFiles := ⟨[]⟩

/-- The node at a path. -/
def find? (fs : MemoryFiles) (p : Path) : Option Node :=
  (fs.entries.find? (·.1.same p)).map (·.2)

/-- Whether something is stored at a path. -/
def exists? (fs : MemoryFiles) (p : Path) : Bool := (fs.find? p).isSome

/-! ## Updates -/

/-- The list with a node put in its place. A path that is there already keeps its spelling. -/
def insertEntry (p : Path) (n : Node) : List (Path × Node) → List (Path × Node)
  | [] => [(p, n)]
  | (q, m) :: es =>
    if p.same q then (q, n) :: es
    else if p.before q then (p, n) :: (q, m) :: es
    else (q, m) :: insertEntry p n es

/-- The files with a node put at a path, whatever was there. -/
def put (fs : MemoryFiles) (p : Path) (n : Node) : MemoryFiles := ⟨insertEntry p n fs.entries⟩

/-- The files with a directory at a path, unless something is there. -/
def putDirIfAbsent (fs : MemoryFiles) (p : Path) : MemoryFiles :=
  if fs.exists? p then fs else fs.put p .dir

/-- The files with directories at all ancestors of a path, the nearest first, where nothing is
stored yet. The empty path is no place to store anything. -/
def putAncestors (fs : MemoryFiles) (p : Path) : MemoryFiles :=
  (p.properAncestors.filter (!·.isEmpty)).foldl putDirIfAbsent fs

/-- The files after writing a file. -/
def write (fs : MemoryFiles) (p : Path) (text : String) : MemoryFiles :=
  (fs.putAncestors p).put p (.file text)

/-- The files after making a directory. -/
def makeDir (fs : MemoryFiles) (p : Path) : MemoryFiles :=
  (fs.putAncestors p).putDirIfAbsent p

/-- Whether a file is stored at a path. -/
def isFile (fs : MemoryFiles) (p : Path) : Bool := (fs.find? p).any (!·.isDir)

/-- The files after removing a file. Directories are not removed. -/
def remove (fs : MemoryFiles) (p : Path) : MemoryFiles :=
  if fs.isFile p then ⟨fs.entries.filter (!·.1.same p)⟩ else fs

/-- An update of the files. -/
inductive Update where
  | write (p : Path) (text : String)
  | makeDir (p : Path)
  | remove (p : Path)
  deriving DecidableEq, Repr

/-- The files after an update. -/
def apply (fs : MemoryFiles) : Update → MemoryFiles
  | .write p text => fs.write p text
  | .makeDir p => fs.makeDir p
  | .remove p => fs.remove p

/-- The files after some updates, of which nothing is stored before the first. -/
def ofUpdates (us : List Update) : MemoryFiles := us.foldl apply empty

/-! ## Questions -/

/-- The text of a file. -/
def read (fs : MemoryFiles) (p : Path) : Except FileError String :=
  match fs.find? p with
  | some (.file text) => .ok text
  | some .dir => .error .directoryNotFile
  | none => .error .noFile

/-- What is stored below a path. Since paths are ordered by components, it stands together,
right after the path itself. -/
def below (fs : MemoryFiles) (p : Path) : List (Path × Node) :=
  (fs.entries.dropWhile (!p.before ·.1)).takeWhile (·.1.startsWith p)

/-- The entries of a directory, in the order of paths. -/
def list (fs : MemoryFiles) (p : Path) : Except FileError (List DirEntry) :=
  match fs.find? p with
  | some .dir =>
    .ok (((fs.below p).filter fun e => e.1.parent?.any (·.same p)).map fun e => ⟨e.1, e.2.isDir⟩)
  | some (.file _) => .error .fileNotDirectory
  | none => .error .noDirectory

/-- The files in inspection texts: how many files and directories there are. -/
def inspect (fs : MemoryFiles) : String :=
  let files := (fs.entries.filter (!·.2.isDir)).length
  "MemoryFileSystem \x7b files: " ++ toString files ++ ", dirs: " ++
    toString (fs.entries.length - files) ++ " \x7d"

/-- The files as a file system. No more directories lie inside each other than are stored. -/
def toFileSystem (fs : MemoryFiles) : FileSystem where
  label := fs.inspect
  depth := fs.entries.length + 1
  read := fs.read
  list := fs.list

end MemoryFiles

end LexicalFront
