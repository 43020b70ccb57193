import LexicalFront.Workspace.Basic
set_option autoImplicit false
set_option relaxedAutoImplicit false

/-!
# Histories of workspaces

Everything that can change a workspace, as data, so that one can speak of what holds after any
sequence of changes. An operation that fails leaves the workspace as it is.

## Main definitions

* `LexicalFront.Action` — the changes.
* `LexicalFront.Workspace.perform` — the workspace after a change.
* `LexicalFront.Workspace.run` — the workspace after a sequence of changes.
-/

namespace LexicalFront

/-- A change of a workspace. Modules and units that do not exist are left alone. -/
inductive Action where
  /-- The files in memory are updated. -/
  | update (u : MemoryFiles.Update)
  /-- A module is made without units. -/
  | newModule (source : FileSource)
  /-- A module is made on a directory. -/
  | openModule (source : FileSource) (dir : Path) (config : Config)
  /-- A module is made from its record. -/
  | restoreModule (source : FileSource) (manifest : ModuleManifest) (config : Config)
  | dropModule (m : ModuleId)
  /-- A unit without a location is added to a module. -/
  | addBlankUnit (m : ModuleId)
  | addUnitAt (m : ModuleId) (location : Path)
  | removeUnit (m : ModuleId) (u : UnitId)
  | setModuleLocation (m : ModuleId) (location : Option Path)
  | setUnitLocation (u : UnitId) (location : Option Path)
  | replace (u : UnitId) (text : String)
  | clear (u : UnitId)
  | load (u : UnitId)
  | loadAll (m : ModuleId)
  /-- The tokens of a unit are asked for. -/
  | remember (u : UnitId)
  deriving DecidableEq, Repr

namespace Workspace

/-- The workspace after an operation that may fail. -/
def orSelf (w : Workspace) (result : Except LexicalError Workspace) : Workspace :=
  match result with
  | .ok w' => w'
  | .error _ => w

/-- The workspace after a change. -/
def perform (w : Workspace) : Action → Workspace
  | .update u => { w with files := w.files.apply u }
  | .newModule source => w.newModule none source .standard
  | .openModule source dir config => w.orSelf (w.openModule source dir config)
  | .restoreModule source manifest config => w.orSelf (w.restoreModule source manifest config)
  | .dropModule m => w.dropModule m
  | .addBlankUnit m => if (w.module? m).isSome then w.addUnit m none none else w
  | .addUnitAt m location =>
    if (w.module? m).isSome then w.orSelf (w.addUnitAt m location) else w
  | .removeUnit m u => (w.removeUnit m u).1
  | .setModuleLocation m location => w.orSelf (w.setModuleLocation m location)
  | .setUnitLocation u location => w.orSelf (w.setUnitLocation u location)
  | .replace u text => (w.replace u text).1
  | .clear u => w.clear u
  | .load u => (w.load u).1
  | .loadAll m => (w.loadAll m).1
  | .remember u => w.remember u

/-- The workspace after some changes. -/
def run (w : Workspace) (actions : List Action) : Workspace := actions.foldl perform w

/-- The workspace after some changes, of which there was nothing before the first. -/
def ofHistory (outside : FileSystem) (actions : List Action) : Workspace :=
  (empty outside).run actions

end Workspace

end LexicalFront
