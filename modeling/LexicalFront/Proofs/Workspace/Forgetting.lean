import LexicalFront.Proofs.Workspace.WellFormed
import LexicalFront.Render
import Mathlib.Data.List.Basic
set_option autoImplicit false
set_option relaxedAutoImplicit false

/-!
# Forgetting tokens

A unit remembers its tokens so as not to compute them again. This module takes that away: a unit
that has forgotten its tokens is the same unit in every other way, computes them from its text
whenever it is asked, and every operation does to it what it does to the unit that remembers. So it
does not matter to a change of a workspace, nor to what a workspace tells, whether its units
remember their tokens.

## Main definitions

* `CompilationUnit.forget`, `Workspace.forget` — nothing is remembered any more.

## Main results

* `CompilationUnit.Consistent.tokens?_forget` — what is remembered is what would be computed.
* `Workspace.forget_loadUnits`, `Workspace.forget_dropModule`, `Workspace.forget_addUnits` — changes
  of many units and forgetting may be exchanged.
* `Workspace.WellFormed.summary_forget` — the summary of a module does not tell.
-/

namespace LexicalFront

/-! ## One unit -/

namespace CompilationUnit

/-- The unit with no tokens remembered. -/
def forget (v : CompilationUnit) : CompilationUnit := { v with memo := none }

variable (v : CompilationUnit)

/-- There is nothing to forget twice. -/
@[simp] lemma forget_forget : v.forget.forget = v.forget := rfl

/-- A unit that has forgotten its tokens computes them whenever it is asked. -/
lemma tokens?_forget_eq : v.forget.tokens? = v.representation.map TokenStream.lex := rfl

/-- What is remembered is forgotten. -/
@[simp] lemma forget_remember : v.remember.forget = v.forget := by
  rw [remember_eq]
  rfl

/-- A text is installed all the same, and reported in the same way. -/
lemma forget_replace (text : String) :
    v.forget.replace text = ((v.replace text).1.forget, (v.replace text).2) := by
  have hretired : v.forget.retired = v.retired := rfl
  have hrep : v.forget.representation = v.representation := rfl
  rw [replace, replace, hretired, hrep]
  by_cases h : v.retired = true
  · rw [if_pos h, if_pos h]
  · rw [if_neg h, if_neg h]
    cases v.representation with
    | none => rfl
    | some current =>
      by_cases heq : current = text
      · simp only [if_pos heq]
      · simp only [if_neg heq]
        rfl

/-- The unit is retired all the same. -/
lemma forget_retire : v.forget.retire = v.retire.forget := by
  have hretired : v.forget.retired = v.retired := rfl
  rw [retire, retire, hretired]
  split
  · rfl
  · rfl

variable {v} (hv : v.Consistent)

include hv

/-- A consistent unit tells the same tokens whether it remembers them or not. -/
theorem Consistent.tokens?_forget : v.forget.tokens? = v.tokens? := by
  rw [hv.tokens?_eq, tokens?_forget_eq]

/-- Handles may be taken to the same tokens. -/
lemma Consistent.canRefer_forget (index : Nat) : v.forget.canRefer index = v.canRefer index := by
  rw [canRefer, canRefer, hv.tokens?_forget]
  rfl

/-- Handles give the same tokens. -/
lemma Consistent.resolve_forget (captured index : Nat) :
    v.forget.resolve captured index = v.resolve captured index := by
  rw [resolve, resolve, hv.tokens?_forget]
  rfl

/-- The line in a summary is the same. -/
lemma Consistent.summaryLine_forget (index : Nat) :
    v.forget.summaryLine index = v.summaryLine index := by
  rw [summaryLine, summaryLine, hv.tokens?_forget]
  rfl

end CompilationUnit

/-! ## All units of a workspace -/

namespace Workspace

/-- The workspace with no tokens remembered. -/
def forget (w : Workspace) : Workspace := { w with units := w.units.map .forget }

variable (w : Workspace)

/-- There is nothing to forget twice. -/
@[simp] lemma forget_forget : w.forget.forget = w.forget := by
  rw [forget, forget, List.map_map]
  rfl

/-- The files are the same. -/
lemma fileSystem_forget (source : FileSource) :
    w.forget.fileSystem source = w.fileSystem source := by
  cases source with
  | memory => rfl
  | external => rfl

/-- Each unit has forgotten its tokens. -/
lemma unit?_forget (u : UnitId) : w.forget.unit? u = (w.unit? u).map .forget := List.getElem?_map

/-- The modules are the same. -/
lemma module?_forget (m : ModuleId) : w.forget.module? m = w.module? m := rfl

/-- And they list the same units. -/
lemma members_forget (m : ModuleId) : w.forget.members m = w.members m := rfl

/-- No number is used up. -/
lemma nextUnit_forget : w.forget.nextUnit = w.nextUnit := List.length_map _

/-- The states of the units of a module. -/
lemma memberUnits_forget (m : ModuleId) :
    w.forget.memberUnits m = (w.memberUnits m).map .forget := by
  rw [memberUnits, memberUnits, members_forget, List.map_filterMap]
  exact congrArg (fun f => (w.members m).filterMap f) (funext w.unit?_forget)

/-- A unit belongs to the same module. -/
lemma ownerOf?_forget (u : UnitId) : w.forget.ownerOf? u = w.ownerOf? u := by
  rw [ownerOf?, ownerOf?, unit?_forget]
  cases w.unit? u with
  | none => rfl
  | some v => rfl

/-- A unit belongs to the same modules. -/
lemma belongsTo_forget (u : UnitId) (m : ModuleId) :
    w.forget.belongsTo u m = w.belongsTo u m := by
  rw [belongsTo, belongsTo, unit?_forget]
  cases w.unit? u with
  | none => rfl
  | some v => rfl

/-- A unit has the same file. -/
lemma sourceOf?_forget (u : UnitId) : w.forget.sourceOf? u = w.sourceOf? u := by
  rw [sourceOf?, sourceOf?, unit?_forget, ownerOf?_forget]
  cases w.unit? u with
  | none => rfl
  | some v => rfl

/-- A unit has a location or not. -/
lemma isFileBacked_forget (u : UnitId) : w.forget.isFileBacked u = w.isFileBacked u := by
  rw [isFileBacked, isFileBacked, unit?_forget]
  cases w.unit? u with
  | none => rfl
  | some v => rfl

/-- A unit is found at the same place of a module. -/
lemma indexAtLocation?_forget (m : ModuleId) (location : Path) :
    w.forget.indexAtLocation? m location = w.indexAtLocation? m location := by
  rw [indexAtLocation?, indexAtLocation?, memberUnits_forget, List.findIdx?_map]
  rfl

/-! ## Changes -/

/-- An operation on one unit that may be exchanged with forgetting, within the workspace. -/
lemma forget_modifyUnit (u : UnitId) {f : CompilationUnit → CompilationUnit}
    (hf : ∀ v : CompilationUnit, f v.forget = (f v).forget) :
    w.forget.modifyUnit u f = (w.modifyUnit u f).forget := by
  have hunits : (w.units.map CompilationUnit.forget).modify u f =
      (w.units.modify u f).map CompilationUnit.forget := by
    apply List.ext_getElem?
    intro x
    rw [List.getElem?_modify, List.getElem?_map, List.getElem?_map, List.getElem?_modify]
    cases w.units[x]? with
    | none => split <;> rfl
    | some v =>
      split
      · exact congrArg some (hf v)
      · rfl
  exact congrArg (fun units => { w with units := units }) hunits

/-- What is remembered is forgotten. -/
@[simp] lemma forget_foldl_remember (us : List UnitId) :
    (us.foldl remember w).forget = w.forget := by
  induction us generalizing w with
  | nil => rfl
  | cons u us ih =>
    rw [List.foldl_cons, ih]
    have hunits : (w.units.modify u .remember).map CompilationUnit.forget =
        w.units.map CompilationUnit.forget := by
      apply List.ext_getElem?
      intro x
      rw [List.getElem?_map, List.getElem?_map, List.getElem?_modify]
      cases w.units[x]? with
      | none => split <;> rfl
      | some v => split <;> simp
    exact congrArg (fun units => { w with units := units }) hunits

/-- A unit is made. -/
lemma forget_addUnit (m : ModuleId) (location : Option Path) (text : Option String) :
    w.forget.addUnit m location text = (w.addUnit m location text).forget := by
  rw [addUnit, addUnit, nextUnit_forget, forget, forget, List.map_append]
  rfl

/-- Units are made. -/
lemma forget_addUnits (m : ModuleId) (units : List (Option Path × Option String)) :
    w.forget.addUnits m units = (w.addUnits m units).forget := by
  induction units generalizing w with
  | nil => rfl
  | cons u units ih =>
    rw [addUnits, addUnits, List.foldl_cons, List.foldl_cons, forget_addUnit]
    exact ih (w.addUnit m u.1 u.2)

/-- A unit is made at a location, or refused. -/
lemma forget_addUnitAt (m : ModuleId) (location : Path) :
    w.forget.addUnitAt m location = (w.addUnitAt m location).map forget := by
  rw [addUnitAt, addUnitAt, forget_addUnit]
  split
  · rfl
  · rfl

/-- A module is made with its units. -/
lemma forget_newModule_addUnits (location : Option Path) (source : FileSource) (config : Config)
    (units : List (Option Path × Option String)) :
    (w.forget.newModule location source config).addUnits w.forget.nextModule units =
      ((w.newModule location source config).addUnits w.nextModule units).forget :=
  (w.newModule location source config).forget_addUnits w.nextModule units

/-- A module is made on a directory, or refused. -/
lemma forget_openModule (source : FileSource) (dir : Path) (config : Config) :
    w.forget.openModule source dir config = (w.openModule source dir config).map forget := by
  rw [openModule, openModule, fileSystem_forget]
  split
  · cases enumerate (w.fileSystem source) config dir with
    | error e => rfl
    | ok locations => exact congrArg Except.ok (w.forget_newModule_addUnits _ _ _ _)
  · rfl

/-- A module is made from its record, or refused. -/
lemma forget_restoreModule (source : FileSource) (manifest : ModuleManifest) (config : Config) :
    w.forget.restoreModule source manifest config =
      (w.restoreModule source manifest config).map forget := by
  rw [restoreModule, restoreModule, forget_newModule_addUnits]
  cases manifest.location.filter (!·.isAbsolute) with
  | some p => rfl
  | none =>
    cases (manifest.units.filterMap (·.location)).find? Path.isAbsolute with
    | some p => rfl
    | none => rfl

/-- A unit leaves its module. -/
lemma forget_removeUnit (m : ModuleId) (u : UnitId) :
    w.forget.removeUnit m u = ((w.removeUnit m u).1.forget, (w.removeUnit m u).2) := by
  rw [removeUnit, removeUnit, members_forget]
  split
  · exact congrArg (·, true) ((w.modifyModule m _).forget_modifyUnit u CompilationUnit.forget_retire)
  · rfl

/-- A module is dropped. -/
lemma forget_dropModule (m : ModuleId) : w.forget.dropModule m = (w.dropModule m).forget := by
  have hretire (us : List UnitId) (w : Workspace) :
      w.forget.retireUnits us = (w.retireUnits us).forget := by
    induction us generalizing w with
    | nil => rfl
    | cons u us ih =>
      rw [retireUnits, List.foldl_cons, w.forget_modifyUnit u CompilationUnit.forget_retire]
      exact ih (w.modifyUnit u .retire)
  rw [dropModule, dropModule, members_forget, hretire]
  rfl

/-- A unit is moved, or this is refused. -/
lemma forget_setUnitLocation (u : UnitId) (location : Option Path) :
    w.forget.setUnitLocation u location = (w.setUnitLocation u location).map forget := by
  rw [setUnitLocation, setUnitLocation]
  cases location.filter Path.isAbsolute with
  | some p => rfl
  | none => exact congrArg Except.ok (w.forget_modifyUnit u fun _ => rfl)

/-- A module is moved, or this is refused. -/
lemma forget_setModuleLocation (m : ModuleId) (location : Option Path) :
    w.forget.setModuleLocation m location = (w.setModuleLocation m location).map forget := by
  rw [setModuleLocation, setModuleLocation]
  cases location.filter (!·.isAbsolute) with
  | some p => rfl
  | none => rfl

/-- A text is installed. -/
lemma forget_replace (u : UnitId) (text : String) :
    w.forget.replace u text = ((w.replace u text).1.forget, (w.replace u text).2) := by
  have hreplace (v : CompilationUnit) :
      (v.forget.replace text).1 = (v.replace text).1.forget := by
    rw [v.forget_replace]
  have hchanged : (w.forget.replace u text).2 = (w.replace u text).2 := by
    show (w.forget.unit? u).any _ = (w.unit? u).any _
    rw [unit?_forget]
    cases w.unit? u with
    | none => rfl
    | some v =>
      show (v.forget.replace text).2 = (v.replace text).2
      rw [v.forget_replace]
  exact Prod.ext (w.forget_modifyUnit u hreplace) hchanged

/-- A text is taken away. -/
lemma forget_clear (u : UnitId) : w.forget.clear u = (w.clear u).forget :=
  w.forget_modifyUnit u fun _ => rfl

/-- A unit is loaded, or cannot be. -/
lemma forget_load (u : UnitId) :
    w.forget.load u = ((w.load u).1.forget, (w.load u).2) := by
  rw [load, load, sourceOf?_forget]
  cases w.sourceOf? u with
  | none => rfl
  | some file =>
    obtain ⟨source, path⟩ := file
    simp only [fileSystem_forget]
    cases (w.fileSystem source).read path with
    | error e => rfl
    | ok text => simp only [forget_replace]

/-- Units are loaded up to the first that cannot be. -/
lemma forget_loadUnits (us : List UnitId) :
    w.forget.loadUnits us = ((w.loadUnits us).1.forget, (w.loadUnits us).2) := by
  induction us generalizing w with
  | nil => rfl
  | cons u us ih =>
    rw [loadUnits, loadUnits, forget_load]
    rcases w.load u with ⟨w', e | changed⟩
    · rfl
    · simp only [ih]

/-- The units of a module are loaded. -/
lemma forget_loadAll (m : ModuleId) :
    w.forget.loadAll m = ((w.loadAll m).1.forget, (w.loadAll m).2) := by
  have hbacked : w.forget.isFileBacked = w.isFileBacked := funext w.isFileBacked_forget
  rw [loadAll, loadAll, members_forget, hbacked]
  exact w.forget_loadUnits _

/-! ## What is told -/

/-- What is recorded of a module. -/
lemma manifest_forget (m : ModuleId) : w.forget.manifest m = w.manifest m := by
  rw [manifest, manifest, memberUnits_forget, List.map_map]
  rfl

/-- A module in inspection texts. -/
lemma inspectModule_forget (m : ModuleId) : w.forget.inspectModule m = w.inspectModule m := by
  have hunits : (w.forget.memberUnits m).map (·.inspect) = (w.memberUnits m).map (·.inspect) := by
    rw [memberUnits_forget, List.map_map]
    rfl
  unfold inspectModule
  simp only [hunits, fileSystem_forget, module?_forget]

variable {w}

/-- Handles are valid as before. -/
lemma isValid_forget (h : Handle) : w.forget.isValid h = w.isValid h := by
  rw [isValid, isValid, unit?_forget]
  cases w.unit? h.unit with
  | none => rfl
  | some v => rfl

variable (hw : w.WellFormed)

include hw

/-- A handle is taken to a token or not. -/
lemma WellFormed.reference_forget (u : UnitId) (index : Nat) :
    w.forget.reference u index = w.reference u index := by
  rw [reference, reference, unit?_forget]
  cases hv : w.unit? u with
  | none => rfl
  | some v =>
    have hrefer := (hw.consistent hv).canRefer_forget index
    simp only [Option.map_some, Option.bind_eq_bind, Option.bind_some, hrefer]
    rfl

/-- A handle gives the same token. -/
lemma WellFormed.resolve_forget (h : Handle) : w.forget.resolve h = w.resolve h := by
  rw [resolve, resolve, unit?_forget]
  cases hv : w.unit? h.unit with
  | none => rfl
  | some v => exact (hw.consistent hv).resolve_forget h.generation h.index

/-- The summary of a module is the same. -/
theorem WellFormed.summary_forget (m : ModuleId) : w.forget.summary m = w.summary m := by
  have hconsistent : ∀ v ∈ w.memberUnits m, v.Consistent := by
    intro v hv
    obtain ⟨u, -, hu⟩ := List.mem_filterMap.1 hv
    exact hw.consistent hu
  have hcounts : ((w.memberUnits m).map CompilationUnit.forget).filterMap
      (fun v => v.tokens?.map TokenStream.counts) =
        (w.memberUnits m).filterMap fun v => v.tokens?.map TokenStream.counts := by
    rw [List.filterMap_map]
    refine List.filterMap_congr fun v hv => ?_
    rw [Function.comp_apply, (hconsistent v hv).tokens?_forget]
  have hlines (f : CompilationUnit × Nat → String) (hf : ∀ p, f p = p.1.summaryLine p.2) :
      ((w.memberUnits m).map CompilationUnit.forget).zipIdx.map f =
        (w.memberUnits m).zipIdx.map f := by
    rw [List.zipIdx_map, List.map_map]
    refine List.map_congr_left fun p hp => ?_
    rw [Function.comp_apply, hf, hf]
    exact (hconsistent p.1 (List.fst_mem_of_mem_zipIdx hp)).summaryLine_forget p.2
  simp only [summary, memberUnits_forget, module?_forget, hcounts, List.length_map]
  rw [hlines]
  exact fun _ => rfl

end Workspace

end LexicalFront
