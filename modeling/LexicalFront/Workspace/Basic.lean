import LexicalFront.CompilationUnit
import LexicalFront.Enumeration
import LexicalFront.Files.Memory
set_option autoImplicit false
set_option relaxedAutoImplicit false

/-!
# Workspaces

A workspace holds modules and units, told apart by number, and the files that they read. A module
lists its units in order; a unit knows the module it was made for, and whether it has left it.
Numbers are never used again, so that a number always names the same module or unit.

## Main definitions

* `LexicalFront.Workspace` — modules, units and files.
* `Workspace.newModule`, `Workspace.openModule`, `Workspace.restoreModule` — making modules.
* `Workspace.addUnit`, `Workspace.removeUnit`, `Workspace.dropModule` — who belongs where.
* `Workspace.load`, `Workspace.loadAll` — reading the texts of units from their files.
* `Workspace.reference`, `Workspace.resolve`, `Workspace.isValid` — handles.
-/

namespace LexicalFront

/-- Units are told apart by number. -/
abbrev UnitId := Nat

/-- Where a module reads its files. -/
inductive FileSource where
  /-- The files in memory that belong to the workspace. -/
  | memory
  /-- The files outside. -/
  | external
  deriving DecidableEq, Repr

/-- A module: units in order, perhaps on a directory. -/
structure LexicalModule where
  /-- The directory. -/
  location : Option Path
  /-- Where the files are. -/
  source : FileSource
  /-- Which files of the directory become units. -/
  config : Config
  /-- The units. -/
  members : List UnitId
  deriving DecidableEq, Repr

/-- A reference to a token of a unit at some generation. It does not keep the unit. -/
structure Handle where
  /-- The unit. -/
  unit : UnitId
  /-- The generation. -/
  generation : Nat
  /-- The number of the token. -/
  index : Nat
  deriving DecidableEq, Repr

/-- Modules and units by number, and the files that they read. -/
structure Workspace where
  /-- The files in memory. -/
  files : MemoryFiles
  /-- The files outside. -/
  outside : FileSystem
  /-- The modules; a dropped module leaves nothing behind. -/
  modules : List (Option LexicalModule)
  /-- The units. -/
  units : List CompilationUnit

namespace Workspace

/-- The workspace without modules and units, and with no files in memory. -/
def empty (outside : FileSystem) : Workspace := ⟨.empty, outside, [], []⟩

/-! ## Looking up -/

/-- The file system that a module reads. -/
def fileSystem (w : Workspace) : FileSource → FileSystem
  | .memory => w.files.toFileSystem
  | .external => w.outside

/-- The module with a number, unless it was dropped. -/
def module? (w : Workspace) (m : ModuleId) : Option LexicalModule := (w.modules[m]?).join

/-- The unit with a number. -/
def unit? (w : Workspace) (u : UnitId) : Option CompilationUnit := w.units[u]?

/-- The units of a module, in order. -/
def members (w : Workspace) (m : ModuleId) : List UnitId := (w.module? m).elim [] (·.members)

/-- The states of the units of a module, in order. -/
def memberUnits (w : Workspace) (m : ModuleId) : List CompilationUnit :=
  (w.members m).filterMap w.unit?

/-- The module that a unit belongs to, unless it is retired. -/
def ownerOf? (w : Workspace) (u : UnitId) : Option LexicalModule := do
  let state ← w.unit? u
  if state.retired then none else w.module? state.owner

/-- Whether a unit belongs to a module. -/
def belongsTo (w : Workspace) (u : UnitId) (m : ModuleId) : Bool :=
  (w.unit? u).any fun state => !state.retired && state.owner == m && (w.module? m).isSome

/-- The place in the order of a module of its first unit at a location. -/
def indexAtLocation? (w : Workspace) (m : ModuleId) (location : Path) : Option Nat :=
  (w.memberUnits m).findIdx? fun state => state.location.any (·.same location)

/-! ## Changing one module or unit -/

/-- The workspace with a unit changed. -/
def modifyUnit (w : Workspace) (u : UnitId) (f : CompilationUnit → CompilationUnit) : Workspace :=
  { w with units := w.units.modify u f }

/-- The workspace with a module changed. -/
def modifyModule (w : Workspace) (m : ModuleId) (f : LexicalModule → LexicalModule) : Workspace :=
  { w with modules := w.modules.modify m (·.map f) }

/-- The workspace after the tokens of a unit have been asked for. -/
def remember (w : Workspace) (u : UnitId) : Workspace := w.modifyUnit u .remember

/-! ## Making modules and units -/

/-- The number of the next module. -/
def nextModule (w : Workspace) : ModuleId := w.modules.length

/-- The number of the next unit. -/
def nextUnit (w : Workspace) : UnitId := w.units.length

/-- A new module without units. -/
def newModule (w : Workspace) (location : Option Path) (source : FileSource) (config : Config) :
    Workspace :=
  { w with modules := w.modules ++ [some ⟨location, source, config, []⟩] }

/-- A new unit at the end of a module. -/
def addUnit (w : Workspace) (m : ModuleId) (location : Option Path)
    (representation : Option String) : Workspace :=
  { w.modifyModule m fun state => { state with members := state.members ++ [w.nextUnit] } with
    units := w.units ++ [.new m location representation] }

/-- New units at the end of a module. -/
def addUnits (w : Workspace) (m : ModuleId) (units : List (Option Path × Option String)) :
    Workspace :=
  units.foldl (fun w u => w.addUnit m u.1 u.2) w

/-- A new unit without a text at a location, which has to be relative. -/
def addUnitAt (w : Workspace) (m : ModuleId) (location : Path) :
    Except LexicalError Workspace :=
  if location.isAbsolute then .error (.absoluteUnitLocation location)
  else .ok (w.addUnit m (some location) none)

/-- A new module on a directory, which has to be absolute, with a unit for each file that the
configuration accepts. -/
def openModule (w : Workspace) (source : FileSource) (dir : Path) (config : Config) :
    Except LexicalError Workspace :=
  if dir.isAbsolute then
    (enumerate (w.fileSystem source) config dir).map fun locations =>
      (w.newModule (some dir) source config).addUnits w.nextModule
        (locations.map fun p => (some p, none))
  else .error (.relativeModuleLocation dir)

/-- A new module from its record. The location of the module has to be absolute, those of its units
relative. Units without a location come with their texts; no file is read. -/
def restoreModule (w : Workspace) (source : FileSource) (manifest : ModuleManifest)
    (config : Config) : Except LexicalError Workspace :=
  match manifest.location.filter (!·.isAbsolute) with
  | some p => .error (.relativeModuleLocation p)
  | none =>
    match (manifest.units.filterMap (·.location)).find? Path.isAbsolute with
    | some p => .error (.absoluteUnitLocation p)
    | none =>
      .ok ((w.newModule manifest.location source config).addUnits w.nextModule
        (manifest.units.map fun u =>
          (u.location, if u.location.isSome then none else u.representation)))

/-! ## Leaving a module -/

/-- The workspace after a unit has been taken out of a module, and whether it was in there. -/
def removeUnit (w : Workspace) (m : ModuleId) (u : UnitId) : Workspace × Bool :=
  if (w.members m).contains u then
    ((w.modifyModule m fun state => { state with members := state.members.erase u }).modifyUnit u
      .retire, true)
  else (w, false)

/-- The workspace with some units retired. -/
def retireUnits (w : Workspace) (us : List UnitId) : Workspace :=
  us.foldl (fun w u => w.modifyUnit u .retire) w

/-- The workspace after a module has been dropped; its units are retired. -/
def dropModule (w : Workspace) (m : ModuleId) : Workspace :=
  let w' := w.retireUnits (w.members m)
  { w' with modules := w'.modules.set m none }

/-! ## Locations -/

/-- The workspace with a unit at another location, which has to be relative. -/
def setUnitLocation (w : Workspace) (u : UnitId) (location : Option Path) :
    Except LexicalError Workspace :=
  match location.filter Path.isAbsolute with
  | some p => .error (.absoluteUnitLocation p)
  | none => .ok (w.modifyUnit u fun state => { state with location := location })

/-- The workspace with a module at another location, which has to be absolute. Its units are loaded
from there the next time. -/
def setModuleLocation (w : Workspace) (m : ModuleId) (location : Option Path) :
    Except LexicalError Workspace :=
  match location.filter (!·.isAbsolute) with
  | some p => .error (.relativeModuleLocation p)
  | none => .ok (w.modifyModule m fun state => { state with location := location })

/-! ## Texts -/

/-- The workspace with a text installed in a unit, and whether this changed the text of the unit. -/
def replace (w : Workspace) (u : UnitId) (text : String) : Workspace × Bool :=
  (w.modifyUnit u fun state => (state.replace text).1,
    (w.unit? u).any fun state => (state.replace text).2)

/-- The workspace with the text of a unit taken away. -/
def clear (w : Workspace) (u : UnitId) : Workspace := w.modifyUnit u .clear

/-- The file of a unit: the location of the unit below that of its module. -/
def sourceOf? (w : Workspace) (u : UnitId) : Option (FileSource × Path) := do
  let state ← w.unit? u
  let location ← state.location
  let owner ← w.ownerOf? u
  let dir ← owner.location
  return (owner.source, dir.join location)

/-- The workspace after a unit has been loaded from its file, and whether this changed the text of
the unit. -/
def load (w : Workspace) (u : UnitId) : Workspace × Except LexicalError Bool :=
  match w.sourceOf? u with
  | none => (w, .error .noRepresentationSource)
  | some (source, path) =>
    match (w.fileSystem source).read path with
    | .error e => (w, .error (.ioFailure path e))
    | .ok text => ((w.replace u text).1, .ok (w.replace u text).2)

/-- The workspace after some units have been loaded one after the other, up to the first that fails,
and how many of their texts changed. -/
def loadUnits (w : Workspace) : List UnitId → Workspace × Except LexicalError Nat
  | [] => (w, .ok 0)
  | u :: us =>
    match w.load u with
    | (w, .error e) => (w, .error e)
    | (w, .ok changed) =>
      let (w, count) := w.loadUnits us
      (w, count.map fun n => (if changed then 1 else 0) + n)

/-- Whether a unit has a location. -/
def isFileBacked (w : Workspace) (u : UnitId) : Bool :=
  (w.unit? u).any (·.location.isSome)

/-- The workspace after the units of a module that have a location have been loaded in order, up to
the first that fails, and how many of their texts changed. -/
def loadAll (w : Workspace) (m : ModuleId) : Workspace × Except LexicalError Nat :=
  w.loadUnits ((w.members m).filter w.isFileBacked)

/-! ## Handles -/

/-- A handle to a token of a unit, as the unit is now. -/
def reference (w : Workspace) (u : UnitId) (index : Nat) : Option Handle := do
  let state ← w.unit? u
  if state.canRefer index then some ⟨u, state.generation, index⟩ else none

/-- The token that a handle refers to. -/
def resolve (w : Workspace) (h : Handle) : Except LexicalError TokenRef :=
  match w.unit? h.unit with
  | some state => state.resolve h.generation h.index
  | none => .error (.invalidated h.generation none)

/-- Whether a handle is valid. -/
def isValid (w : Workspace) (h : Handle) : Bool :=
  (w.unit? h.unit).any (·.isCurrent h.generation)

/-! ## Records and inspection -/

/-- What is recorded of a module. -/
def manifest (w : Workspace) (m : ModuleId) : ModuleManifest :=
  ⟨(w.module? m).bind (·.location), (w.memberUnits m).map (·.manifest)⟩

/-- A module in inspection texts. -/
def inspectModule (w : Workspace) (m : ModuleId) : String :=
  let location := (w.module? m).bind (·.location)
  let source := (w.module? m).elim .memory (·.source)
  "LexicalModule \x7b location: " ++ inspectOption (location.map fun p => p.spelling.inspect) ++
    ", units: [" ++ ", ".intercalate ((w.memberUnits m).map (·.inspect)) ++ "], fs: " ++
    (w.fileSystem source).label ++ " \x7d"

end Workspace

end LexicalFront
