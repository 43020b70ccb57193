import LexicalFront.Files.Basic
set_option autoImplicit false
set_option relaxedAutoImplicit false

/-!
# Files of an operating system

A disk holds files of bytes, directories and symbolic links. Looking up a path follows links and
goes up at two points; it can fail in more ways than a look-up in memory.

## Main definitions

* `LexicalFront.Disk` — the nodes of a disk and the working directory.
* `LexicalFront.Disk.follow` — where a path leads to.
* `LexicalFront.Disk.read`, `LexicalFront.Disk.list` — the questions of a file system.
-/

namespace LexicalFront

/-- What is stored at a place of a disk. -/
inductive DiskNode where
  | file (bytes : ByteArray)
  | dir
  | link (target : Path)

/-- A place of a disk: the names on the way from the root. -/
abbrev Place := List OsText

/-- A disk, and the place from which relative paths start. -/
structure Disk where
  /-- The places where something is stored; the root is there by itself. -/
  nodes : List (Place × DiskNode)
  /-- The working directory. -/
  workingDirectory : Place

namespace Disk

/-- The disk with nothing but the root. -/
def empty : Disk := ⟨[], []⟩

/-- How many links a look-up follows. -/
def maxLinks : Nat := 40

/-- The longest name, in bytes. -/
def maxNameLength : Nat := 255

/-- The longest path, in bytes. -/
def maxPathLength : Nat := 4095

/-- The node at a place. -/
def node? (d : Disk) (place : Place) : Option DiskNode :=
  if place.isEmpty then some .dir else d.nodes.lookup place

/-- The disk with a node at a place, and nothing else there. -/
def put (d : Disk) (place : Place) (n : DiskNode) : Disk :=
  { d with nodes := (place, n) :: d.nodes.filter (·.1 != place) }

/-- The disk with a directory at a place, unless something is there. -/
def putDirIfAbsent (d : Disk) (place : Place) : Disk :=
  if (d.node? place).isSome then d else d.put place .dir

/-- The disk with a node at a place, and directories above it. -/
def add (d : Disk) (place : Place) (n : DiskNode) : Disk :=
  (((List.range place.length).map place.take).foldl putDirIfAbsent d).put place n

/-- The names in a path. -/
def segments (p : Path) : List OsText := (slashPieces p.spelling.bytes).map OsText.mk

/-- Where a path leads to that starts at some place, following some links at most. Everything but
the last place has to be a directory; so has the last one, if a slash follows it. -/
def follow (d : Disk) (links : Nat) (place : Place) (names : List OsText) :
    Except SystemError Place :=
  match names with
  | [] => .ok place
  | name :: rest =>
    match d.node? place with
    | some .dir =>
      if name = "" ∨ name = "." then d.follow links place rest
      else if name = ".." then d.follow links place.dropLast rest
      else if maxNameLength < name.bytes.length then .error .nameTooLong
      else
        match d.node? (place ++ [name]) with
        | none => .error .noEntry
        | some (.link target) =>
          match links with
          | 0 => .error .tooManyLinks
          | links + 1 =>
            let start := if target.isAbsolute then [] else place
            d.follow links start (segments target ++ rest)
        | some _ => d.follow links (place ++ [name]) rest
    | some _ => .error .notDirectory
    | none => .error .noEntry
termination_by (links, names.length)

/-- The node that a path leads to. -/
def resolve (d : Disk) (p : Path) : Except SystemError (Place × DiskNode) :=
  if p.isEmpty then .error .noEntry
  else if maxPathLength < p.spelling.bytes.length then .error .nameTooLong
  else do
    let start := if p.isAbsolute then [] else d.workingDirectory
    let place ← d.follow maxLinks start (segments p)
    match d.node? place with
    | some n => .ok (place, n)
    | none => .error .noEntry

/-- The node that a path leads to, or why it leads nowhere. A path with a null character in it cannot
even be asked for. -/
def lookUp (d : Disk) (p : Path) : Except FileError (Place × DiskNode) :=
  if p.spelling.bytes.contains 0 then .error .nullInPath
  else (d.resolve p).mapError .system

/-- The text of a file. -/
def read (d : Disk) (p : Path) : Except FileError String :=
  match d.lookUp p with
  | .error e => .error e
  | .ok (_, .file bytes) =>
    match String.fromUTF8? bytes with
    | some text => .ok text
    | none => .error .notText
  | .ok _ => .error (.system .isDirectory)

/-- Whether a path leads to a directory. -/
def isDir (d : Disk) (p : Path) : Bool :=
  match d.resolve p with
  | .ok (_, .dir) => true
  | _ => false

/-- The names in a directory at a place, with what is stored there. -/
def children (d : Disk) (place : Place) : List (OsText × DiskNode) :=
  d.nodes.filterMap fun (q, n) =>
    if q.dropLast = place then q.getLast?.map fun name => (name, n) else none

/-- The entry of a directory listing for a name, if it is listed: links to directories are left
out, so that no listing leads back to a directory above it. -/
def entry? (d : Disk) (dir : Path) (name : OsText) : DiskNode → Option DirEntry
  | .dir => some ⟨dir.join ⟨name⟩, true⟩
  | .file _ => some ⟨dir.join ⟨name⟩, false⟩
  | .link _ => if d.isDir (dir.join ⟨name⟩) then none else some ⟨dir.join ⟨name⟩, false⟩

/-- The entries of a directory. -/
def list (d : Disk) (p : Path) : Except FileError (List DirEntry) :=
  match d.lookUp p with
  | .error e => .error e
  | .ok (place, .dir) =>
    .ok ((d.children place).filterMap fun (name, n) => d.entry? p name n)
  | .ok _ => .error (.system .notDirectory)

/-- The disk as a file system. -/
def toFileSystem (d : Disk) : FileSystem where
  label := "NativeFileSystem"
  depth := d.nodes.length + 1
  read := d.read
  list := d.list

end Disk

end LexicalFront
