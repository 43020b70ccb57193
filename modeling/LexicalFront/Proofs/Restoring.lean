import LexicalFront.Proofs.Session.Transition
import LexicalFront.Proofs.Workspace.Locations
import LexicalFront.Proofs.Workspace.Opening
set_option autoImplicit false
set_option relaxedAutoImplicit false

/-!
# Restoring recorded modules

A record is accepted if its locations are allowed, and the module made from it has the same record
again, but for the texts of units that have a location: these are left out when a module is recorded
and passed over when it is restored. What is recorded of a module is accepted whatever has been done
before, since no change puts a module or a unit where it must not be.

## Main definitions

* `ModuleManifest.withoutLocatedTexts` — a record without the texts of units that have a location.

## Main results

* `Workspace.manifest_restored`, `Workspace.units_restored` — the restored module and its units.
* `Workspace.restoreModule_faithful` — which records are accepted and what is made of them.
* `Session.Reachable.restoreModule_manifest` — the record of a module of a session is accepted.
-/

namespace LexicalFront

/-- What is recorded of a unit, without the text if there is a location. -/
def UnitManifest.withoutLocatedText (r : UnitManifest) : UnitManifest :=
  ⟨r.location, if r.location.isSome then none else r.representation⟩

/-- What is recorded of a module, without the texts of units that have a location. -/
def ModuleManifest.withoutLocatedTexts (x : ModuleManifest) : ModuleManifest :=
  ⟨x.location, x.units.map (·.withoutLocatedText)⟩

/-- There is nothing to leave out of what is recorded of a unit. -/
lemma CompilationUnit.withoutLocatedText_manifest (v : CompilationUnit) :
    v.manifest.withoutLocatedText = v.manifest := by
  rw [manifest, UnitManifest.withoutLocatedText]
  split
  · rfl
  · rfl

/-- What is recorded of a restored unit is what was recorded before, without the text if there is a
location. -/
lemma CompilationUnit.manifest_restored (m : ModuleId) (r : UnitManifest) :
    (CompilationUnit.new m r.location
      (if r.location.isSome then none else r.representation)).manifest = r.withoutLocatedText := by
  rw [manifest, CompilationUnit.new, UnitManifest.withoutLocatedText]
  split
  · rfl
  · rfl

/-- A restored unit has a text if one was recorded and there is no location. -/
lemma CompilationUnit.isLoaded_restored (m : ModuleId) (r : UnitManifest) :
    (CompilationUnit.new m r.location
      (if r.location.isSome then none else r.representation)).isLoaded = true ↔
        r.location = none ∧ ∃ text, r.representation = some text := by
  rw [isLoaded, CompilationUnit.new]
  cases r.location with
  | none => rw [← Option.isSome_iff_exists]; exact (and_iff_right rfl).symm
  | some p => exact ⟨nofun, fun h => absurd h.1 nofun⟩

namespace Workspace

variable {w : Workspace} {m : ModuleId}

/-- There is nothing to leave out of what is recorded of a module. -/
lemma withoutLocatedTexts_manifest (w : Workspace) (m : ModuleId) :
    (w.manifest m).withoutLocatedTexts = w.manifest m := by
  rw [manifest, ModuleManifest.withoutLocatedTexts, List.map_map]
  refine congrArg (ModuleManifest.mk _) (List.map_congr_left fun v _ => ?_)
  exact v.withoutLocatedText_manifest

/-- The listed units and their states, one by one. -/
lemma ListsUnits.forall₂_unit? (h : w.ListsUnits m) :
    List.Forall₂ (fun u v => w.unit? u = some v) (w.members m) (w.memberUnits m) := by
  have hsome := h.isSome_unit?
  rw [memberUnits]
  generalize w.members m = us at hsome
  induction us with
  | nil => exact .nil
  | cons u us ih =>
    obtain ⟨hu, hus⟩ := List.forall_mem_cons.1 hsome
    obtain ⟨v, hv⟩ := Option.isSome_iff_exists.1 hu
    rw [List.filterMap_cons_some hv]
    exact .cons hv (ih hus)

/-! ## The restored module -/

section Restored

variable (w) (source : FileSource) (x : ModuleManifest) (config : Config)

/-- The units of a restored module are new. -/
lemma memberUnits_restored : (w.restored source x config).memberUnits w.nextModule =
    x.units.map fun r => .new w.nextModule r.location
      (if r.location.isSome then none else r.representation) := by
  rw [restored, (w.newModule_addUnits _ _ _ _).2, List.map_map]
  rfl

/-- A restored module is where it was. -/
lemma location_restored :
    ((w.restored source x config).module? w.nextModule).bind (·.location) = x.location := by
  have hplace := (w.newModule x.location source config).place_addUnits w.nextModule
    (x.units.map fun r => (r.location, if r.location.isSome then none else r.representation))
    w.nextModule
  rw [module?_newModule, if_pos rfl] at hplace
  obtain ⟨state, hstate, hplace⟩ := Option.map_eq_some_iff.1 hplace
  have hmodule : (w.restored source x config).module? w.nextModule = some state := hstate
  rw [hmodule]
  exact (Prod.mk.inj hplace).1

/-- What is recorded of a restored module is what was recorded before, without the texts of units
that have a location. -/
theorem manifest_restored :
    (w.restored source x config).manifest w.nextModule = x.withoutLocatedTexts := by
  rw [manifest, location_restored, memberUnits_restored, List.map_map]
  refine congrArg (ModuleManifest.mk _) (List.map_congr_left fun r _ => ?_)
  exact CompilationUnit.manifest_restored w.nextModule r

/-- The units of a restored module are those that were recorded, one by one, each at the first
generation, and loaded if there is no location but a text. -/
theorem units_restored : List.Forall₂ (fun u r =>
    (w.restored source x config).belongsTo u w.nextModule = true ∧
      ∃ v, (w.restored source x config).unit? u = some v ∧ v.generation = 0 ∧
        v.retired = false ∧
        (v.isLoaded = true ↔ r.location = none ∧ ∃ text, r.representation = some text))
    ((w.restored source x config).members w.nextModule) x.units := by
  have hlists : (w.restored source x config).ListsUnits w.nextModule :=
    (w.newModule_addUnits _ _ _ _).1
  have hunits := hlists.forall₂_unit?
  rw [memberUnits_restored, List.forall₂_map_right_iff] at hunits
  refine hunits.imp fun u r hu => ⟨?_, _, hu, rfl, rfl, CompilationUnit.isLoaded_restored _ r⟩
  rw [belongsTo, hu]
  simp [CompilationUnit.new, hlists.isSome_module?]

end Restored

/-! ## Restoring a record -/

/-- Where modules and units are where they may be, what is recorded of a module is accepted, and the
restored module has that very record. -/
theorem WellPlaced.restoreModule_manifest (hw : w.WellPlaced) (m : ModuleId) (w' : Workspace)
    (source : FileSource) (config : Config) :
    ∃ w'', w'.restoreModule source (w.manifest m) config = .ok w'' ∧
      w''.manifest w'.nextModule = w.manifest m := by
  refine ⟨_, restoreModule_eq_ok_iff.2 ⟨hw.manifest m, rfl⟩, ?_⟩
  rw [manifest_restored, withoutLocatedTexts_manifest]

/-- A record is accepted exactly if its locations are allowed; otherwise the location of the module
is reported, or else the first of a unit that is not. The restored module has the same record, but
for the texts of units that have a location, and its units start anew. What is recorded of a module
after any changes is accepted, and the restored module has that very record.

**Proof sketch.** Which records are accepted is `restoreModule_eq_ok_iff`; the two errors follow the
order in which the locations are looked at. What is restored is made of new units, one for each
entry of the record. For the last part, no changes put a module or a unit where the record would not
be accepted (`WellPlaced.run`). -/
theorem restoreModule_faithful (w : Workspace) (source : FileSource) (config : Config) :
    -- (1) which records are accepted
    (∀ x, (∃ w', w.restoreModule source x config = .ok w') ↔
      (∀ dir, x.location = some dir → dir.isAbsolute = true) ∧
        ∀ r ∈ x.units, ∀ p, r.location = some p → p.isAbsolute = false) ∧
    -- (2) the location of the module is reported first
    (∀ x p, x.location = some p → p.isAbsolute = false →
      w.restoreModule source x config = .error (.relativeModuleLocation p)) ∧
    -- (3) and then the first location of a unit that is not allowed
    (∀ x before r after p, (∀ dir, x.location = some dir → dir.isAbsolute = true) →
      x.units = before ++ r :: after →
      (∀ r' ∈ before, ∀ p', r'.location = some p' → p'.isAbsolute = false) →
      r.location = some p → p.isAbsolute = true →
      w.restoreModule source x config = .error (.absoluteUnitLocation p)) ∧
    -- (4) what is made of a record that is accepted
    (∀ x w', w.restoreModule source x config = .ok w' →
      w'.manifest w.nextModule = x.withoutLocatedTexts ∧
      List.Forall₂ (fun u r => w'.belongsTo u w.nextModule = true ∧
        ∃ v, w'.unit? u = some v ∧ v.generation = 0 ∧ v.retired = false ∧
          (v.isLoaded = true ↔ r.location = none ∧ ∃ text, r.representation = some text))
        (w'.members w.nextModule) x.units) ∧
    -- (5) what is recorded of a module is accepted, and recorded again
    (∀ outside actions m, ∃ w',
      w.restoreModule source ((ofHistory outside actions).manifest m) config = .ok w' ∧
        w'.manifest w.nextModule = (ofHistory outside actions).manifest m) := by
  refine ⟨fun x => ⟨?_, ?_⟩, fun x p hp hrelative => ?_, ?_, fun x w' h => ?_,
    fun outside actions m => ?_⟩
  · rintro ⟨w', h⟩
    obtain ⟨hx, -⟩ := restoreModule_eq_ok_iff.1 h
    exact ⟨hx.module, hx.unit⟩
  · rintro ⟨hmodule, hunit⟩
    exact ⟨_, restoreModule_eq_ok_iff.2 ⟨⟨hmodule, hunit⟩, rfl⟩⟩
  · exact w.restoreModule_of_module source config hp hrelative
  · intro x before r after p hmodule hunits hbefore hp habsolute
    exact w.restoreModule_of_unit source config hmodule hunits hbefore hp habsolute
  · obtain ⟨-, rfl⟩ := restoreModule_eq_ok_iff.1 h
    exact ⟨w.manifest_restored source x config, w.units_restored source x config⟩
  · exact ((WellPlaced.empty outside).run actions).restoreModule_manifest m w source config

end Workspace

/-! ## Sessions -/

/-- No step of a session puts a module at a relative location or a unit at an absolute one. -/
lemma Session.Reachable.wellPlaced {s : Session} (hs : s.Reachable) : s.workspace.WellPlaced := by
  obtain ⟨outside, actions, hhistory⟩ := hs.exists_history
  rw [hhistory]
  exact (Workspace.WellPlaced.empty outside).run actions

/-- In every state of a session the record of each module can be restored, in any workspace. -/
theorem Session.Reachable.restoreModule_manifest {s : Session} (hs : s.Reachable) (m : ModuleId)
    (w : Workspace) (source : FileSource) (config : Config) :
    ∃ w', w.restoreModule source (s.workspace.manifest m) config = .ok w' ∧
      w'.manifest w.nextModule = s.workspace.manifest m :=
  hs.wellPlaced.restoreModule_manifest m w source config

end LexicalFront
