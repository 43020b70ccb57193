import LexicalFront.Config
import LexicalFront.Error
set_option autoImplicit false
set_option relaxedAutoImplicit false

/-!
# Finding the files of a module

The directory of a module is walked depth first, the entries of each directory in the order of
their names, so that the result does not depend on the order in which a file system lists them.

## Main definitions

* `LexicalFront.sortByName` — the entries of a listing in order.
* `LexicalFront.Config.use` — what a walk does with an entry.
* `LexicalFront.walk` — the files below a directory, relative to the directory of the module.
* `LexicalFront.enumerate` — the files of the directory of a module.
-/

namespace LexicalFront

/-- The order of names by their bytes; an entry without a name comes before all others. -/
def nameLe : Option OsText → Option OsText → Bool
  | none, _ => true
  | some _, none => false
  | some a, some b => !decide (b.bytes < a.bytes)

/-- The entries in the order of their names. Entries of the same name stay as they are listed. -/
def sortByName (entries : List DirEntry) : List DirEntry :=
  entries.mergeSort fun a b => nameLe a.path.fileName? b.path.fileName?

/-- What a walk does with an entry of a directory. -/
inductive EntryUse where
  /-- The entry is left alone. -/
  | none
  /-- The entry is a directory that is looked into. -/
  | enter
  /-- The entry is a file that becomes a unit. -/
  | take
  deriving DecidableEq, Repr

/-- What a walk does with an entry: it looks into directories and takes files, but for what has no
name and for what the configuration excludes. -/
def Config.use (config : Config) (entry : DirEntry) : EntryUse :=
  match entry.path.fileName? with
  | none => .none
  | some name =>
    if config.skipsName name then .none
    else if entry.isDir then
      if config.descendsInto name then .enter else .none
    else if config.acceptsExtension entry.path.extension? then .take
    else .none

/-- What an entry of a directory contributes: a directory that is looked into what `descend` finds
in it, and a file that is taken its own location. -/
def visitEntry (config : Config) (root : Path)
    (descend : Path → Except LexicalError (List Path)) (entry : DirEntry) :
    Except LexicalError (List Path) :=
  match config.use entry with
  | .none => .ok []
  | .enter => descend entry.path
  | .take => .ok (entry.path.stripPrefix? root).toList

/-- The locations, relative to `root`, of the files that a walk from `dir` finds. The first argument
bounds how many directories the walk enters one inside the other; beyond it a directory counts as
unreadable. -/
def walk (fs : FileSystem) (config : Config) (root : Path) :
    Nat → Path → Except LexicalError (List Path)
  | 0, dir => .error (.ioFailure dir (.system .tooManyLinks))
  | depth + 1, dir =>
    match fs.list dir with
    | .error e => .error (.ioFailure dir e)
    | .ok entries =>
      ((sortByName entries).mapM (visitEntry config root (walk fs config root depth))).map
        List.flatten

/-- The locations of the files of a directory that become units, relative to the directory. -/
def enumerate (fs : FileSystem) (config : Config) (dir : Path) :
    Except LexicalError (List Path) :=
  walk fs config dir fs.depth dir

end LexicalFront
