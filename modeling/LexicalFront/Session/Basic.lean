import LexicalFront.Render
import LexicalFront.Session.Step
set_option autoImplicit false
set_option relaxedAutoImplicit false

/-!
# Sessions

A session is a workspace with names for modules, units, handles and resolved tokens. The name of a
module owns it: a module whose name is given to another one, or given up, is dropped. The name of a
unit keeps the unit after it has left its module; a handle does not.

A step that fails stores nothing, and the names stay as they are.

## Main definitions

* `LexicalFront.Slots` — a table of names.
* `LexicalFront.Session` — a workspace and its names.
* `LexicalFront.Session.step` — the session after a step, and the reply.
* `LexicalFront.Session.run` — the session after some steps, and the replies.
-/

namespace LexicalFront

/-! ## Tables of names -/

/-- A table from names to values. -/
abbrev Slots (α : Type) := List (String × α)

namespace Slots

variable {α : Type}

/-- The value of a name. -/
def get? (t : Slots α) (name : String) : Option α := t.lookup name

/-- The table without a name. -/
def erase (t : Slots α) (name : String) : Slots α := t.filter (·.1 != name)

/-- The table with a value for a name, whatever its value was. -/
def put (t : Slots α) (name : String) (a : α) : Slots α := (name, a) :: Slots.erase t name

end Slots

/-! ## Sessions -/

/-- A workspace with names. -/
structure Session where
  /-- The workspace. -/
  workspace : Workspace
  /-- The names of modules. -/
  modules : Slots ModuleId
  /-- The names of units. -/
  units : Slots UnitId
  /-- The names of handles. -/
  handles : Slots Handle
  /-- The names of resolved tokens. -/
  tokens : Slots TokenRef

namespace Session

/-- The session over an empty workspace, with some files in memory. -/
def start (outside : FileSystem) (files : List (Path × String)) : Session where
  workspace :=
    { Workspace.empty outside with
      files := .ofUpdates (files.map fun f => .write f.1 f.2) }
  modules := []
  units := []
  handles := []
  tokens := []

/-- Whether a unit exists: it belongs to its module, or it has a name. -/
def unitExists (s : Session) (u : UnitId) : Bool :=
  (s.workspace.unit? u).any (!·.retired) || s.units.any (·.2 == u)

/-- The state of a unit that exists. -/
def existingUnit? (s : Session) (u : UnitId) : Option CompilationUnit :=
  if s.unitExists u then s.workspace.unit? u else none

/-- The state of the unit with a name. -/
def namedUnit? (s : Session) (name : String) : Option CompilationUnit :=
  (s.units.get? name).bind s.workspace.unit?

/-! ## Parts of steps -/

/-- The session with another workspace. -/
def withWorkspace (s : Session) (w : Workspace) : Session := { s with workspace := w }

/-- The session with a new name for a module; the module of that name before is dropped. -/
def nameModule (s : Session) (slot : String) (m : ModuleId) : Session :=
  { s with
    workspace := (s.modules.get? slot).elim s.workspace s.workspace.dropModule
    modules := s.modules.put slot m }

/-- The session with a new name for a unit. -/
def nameUnit (s : Session) (slot : String) (u : UnitId) : Session :=
  { s with units := s.units.put slot u }

/-- What follows for the module with a name. -/
def withModule (s : Session) (name : String) (f : ModuleId → Session × Reply) : Session × Reply :=
  (s.modules.get? name).elim (s, .noSuchSlot) f

/-- What follows for the unit with a name. -/
def withUnit (s : Session) (name : String) (f : UnitId → Session × Reply) : Session × Reply :=
  (s.units.get? name).elim (s, .noSuchSlot) f

/-- What follows for the handle with a name. -/
def withHandle (s : Session) (name : String) (f : Handle → Session × Reply) : Session × Reply :=
  (s.handles.get? name).elim (s, .noSuchSlot) f

/-- What follows for a configuration that may be left out. -/
def withConfig (s : Session) (config : Option Json) (f : Config → Session × Reply) :
    Session × Reply :=
  match config with
  | none => f .standard
  | some j => (Config.ofJson? j).elim (s, .badConfig) f

/-- A new module gets its name, and the reply tells the locations of its units; or the workspace
could not make the module. -/
def finishModule (s : Session) (slot : String) (result : Except LexicalError Workspace) :
    Session × Reply :=
  match result with
  | .error e => (s, .failed e)
  | .ok w =>
    let m := s.workspace.nextModule
    ((s.withWorkspace w).nameModule slot m, .locations ((w.memberUnits m).map (·.location)))

/-- A new unit gets its name, and the reply tells its state; or the workspace could not make the
unit. -/
def finishUnit (s : Session) (slot : String) (result : Except LexicalError Workspace) :
    Session × Reply :=
  match result with
  | .error e => (s, .failed e)
  | .ok w =>
    let u := s.workspace.nextUnit
    ((s.withWorkspace w).nameUnit slot u, .maybeUnit (w.unit? u))

/-- An operation without a result, or its failure. -/
def finishUpdate (s : Session) (result : Except LexicalError Workspace) : Session × Reply :=
  match result with
  | .error e => (s, .failed e)
  | .ok w => (s.withWorkspace w, .done)

/-- The contents of a file, or the reason why there are none. -/
def replyRead : Except FileError String → Reply
  | .ok text => .text text
  | .error e => .unreadable e

/-- The session with the files in memory changed. -/
def updateFiles (s : Session) (u : MemoryFiles.Update) : Session :=
  s.withWorkspace { s.workspace with files := s.workspace.files.apply u }

/-- The session after the tokens of some units have been asked for. -/
def remember (s : Session) (us : List UnitId) : Session :=
  s.withWorkspace (us.foldl Workspace.remember s.workspace)

/-! ## Steps by what they are about -/

/-- The steps on the files in memory. -/
def onFiles (s : Session) (step : FileStep) : Session × Reply :=
  let files := s.workspace.files
  match step with
  | .write p text => (s.updateFiles (.write p text), .done)
  | .makeDir p => (s.updateFiles (.makeDir p), .done)
  | .remove p => (s.updateFiles (.remove p), .truth (files.isFile p))
  | .ask p => (s, .truth (files.exists? p))
  | .read p => (s, replyRead (files.read p))
  | .list p =>
    match files.list p with
    | .ok entries => (s, .entries entries)
    | .error e => (s, .unreadable e)
  | .inspect => (s, .text files.inspect)

/-- The steps on a module. -/
def onModule (s : Session) (m : ModuleId) (step : ModuleStep) : Session × Reply :=
  let w := s.workspace
  match step with
  | .restore slot config =>
    s.withConfig config fun c => s.finishModule slot (w.restoreModule .memory (w.manifest m) c)
  | .size => (s, .size (w.members m).length)
  | .units => (s, .units (w.memberUnits m))
  | .pickUnit i slot =>
    match (w.members m)[i]? with
    | some u => (s.nameUnit slot u, .maybeUnit (w.unit? u))
    | none => (s, .maybeUnit none)
  | .findUnit location slot =>
    match w.indexAtLocation? m location with
    | some i => (((w.members m)[i]?).elim s (s.nameUnit slot), .maybeCount (some i))
    | none => (s, .maybeCount none)
  | .addBlankUnit slot => s.finishUnit slot (.ok (w.addUnit m none none))
  | .addUnitAt location slot => s.finishUnit slot (w.addUnitAt m location)
  | .removeUnit unit =>
    s.withUnit unit fun u =>
      (s.withWorkspace (w.removeUnit m u).1, .truth (w.removeUnit m u).2)
  | .owns unit => s.withUnit unit fun u => (s, .truth (w.belongsTo u m))
  | .location => (s, .maybePath ((w.module? m).bind (·.location)))
  | .setLocation location => s.finishUpdate (w.setModuleLocation m location)
  | .loadAll =>
    let (w, result) := w.loadAll m
    match result with
    | .ok n => (s.withWorkspace w, .count n)
    | .error e => (s.withWorkspace w, .failed e)
  | .config => (s, .config ((w.module? m).elim .standard (·.config)))
  | .read path =>
    (s, replyRead ((w.fileSystem ((w.module? m).elim .memory (·.source))).read path))
  | .manifest => (s, .record (w.manifest m).renderCompact (w.manifest m).render)
  | .summary => (s.remember (w.members m), .text (w.summary m))
  | .inspect => (s, .text (w.inspectModule m))

/-- The steps on a unit. -/
def onUnit (s : Session) (u : UnitId) (step : UnitStep) : Session × Reply :=
  let w := s.workspace
  let state? := w.unit? u
  match step with
  | .load =>
    let (w, result) := w.load u
    match result with
    | .ok changed => (s.withWorkspace w, .truth changed)
    | .error e => (s.withWorkspace w, .failed e)
  | .replace text => (s.withWorkspace (w.replace u text).1, .truth (w.replace u text).2)
  | .clear => (s.withWorkspace (w.clear u), .done)
  | .text => (s, .maybeText (state?.bind (·.representation)))
  | .tokens => (s.remember [u], .maybeTokens ((state?.bind (·.tokens?)).map (·.tokens)))
  | .shareTokens => (s.remember [u], .maybeTruth ((state?.bind (·.tokens?)).map fun _ => true))
  | .snapshot =>
    (s.remember [u], .maybeSnapshot (state?.elim 0 (·.generation)) (state?.bind (·.tokens?)))
  | .setLocation location => s.finishUpdate (w.setUnitLocation u location)
  | .locationOfModule => (s, .maybePath ((w.ownerOf? u).bind (·.location)))
  | .manifest => (s, .maybeText (state?.bind fun state => state.manifest.renderCompact))
  | .inspect => (s, .maybeText (state?.map (·.inspect)))
  | .reference index slot =>
    let s := if state?.any (·.retired) then s else s.remember [u]
    match w.reference u index with
    | some h => ({ s with handles := s.handles.put slot h }, .maybeHandle (some h))
    | none => (s, .maybeHandle none)

/-- A handle in inspection texts. -/
def inspectHandle (s : Session) (h : Handle) : String :=
  "ReferenceHandle \x7b generation: " ++ inspectGeneration h.generation ++ ", index: " ++
    toString h.index ++ ", alive: " ++ inspectBool (s.unitExists h.unit) ++ " \x7d"

/-- The steps on a handle. -/
def onHandle (s : Session) (h : Handle) (step : HandleStep) : Session × Reply :=
  match step with
  | .copy slot => ({ s with handles := s.handles.put slot h }, .done)
  | .isValid => (s, .truth (s.workspace.isValid h))
  | .parts => (s, .handle h (s.existingUnit? h.unit))
  | .unit slot =>
    match s.existingUnit? h.unit with
    | some state => (s.nameUnit slot h.unit, .maybeUnit (some state))
    | none => (s, .maybeUnit none)
  | .inspect => (s, .text (s.inspectHandle h))
  | .resolve slot =>
    let result := s.workspace.resolve h
    let s := if s.workspace.isValid h then s.remember [h.unit] else s
    match result with
    | .ok token =>
      (slot.elim s fun name => { s with tokens := s.tokens.put name token }, .resolved token)
    | .error e => (s, .failed e)

/-! ## All steps -/

/-- The session after a step, and the reply. -/
def step (s : Session) : Step → Session × Reply
  | .files step => s.onFiles step
  | .newModule source slot =>
    s.finishModule slot (.ok (s.workspace.newModule none source .standard))
  | .openModule source dir slot config =>
    s.withConfig config fun c => s.finishModule slot (s.workspace.openModule source dir c)
  | .restoreModule manifest slot config =>
    (ModuleManifest.ofJson? manifest).elim (s, .badManifest) fun x =>
      s.withConfig config fun c => s.finishModule slot (s.workspace.restoreModule .memory x c)
  | .dropModule name =>
    match s.modules.get? name with
    | some m =>
      ({ s with workspace := s.workspace.dropModule m, modules := s.modules.erase name },
        .truth true)
    | none => (s, .truth false)
  | .dropUnit name => ({ s with units := s.units.erase name }, .truth (s.units.get? name).isSome)
  | .onModule name step => s.withModule name fun m => s.onModule m step
  | .onUnit name step => s.withUnit name fun u => s.onUnit u step
  | .onHandle name step => s.withHandle name fun h => s.onHandle h step
  | .onToken name .parts => (s, (s.tokens.get? name).elim .noSuchSlot .token)
  | .onToken name .inspect => (s, (s.tokens.get? name).elim .noSuchSlot fun t => .text t.inspect)

/-- The session after some steps. -/
def run (s : Session) (steps : List Step) : Session :=
  steps.foldl (fun s st => (s.step st).1) s

end Session

end LexicalFront
