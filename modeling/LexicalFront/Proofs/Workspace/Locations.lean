import LexicalFront.Proofs.Path.Components
import LexicalFront.Proofs.Workspace.Lookup
import LexicalFront.Workspace.Action
set_option autoImplicit false
set_option relaxedAutoImplicit false

/-!
# Where modules and units are

A module is at an absolute location and its units are at relative ones, if they have a location at
all. Each operation that sets a location sees to it by itself: opening a directory takes it off the
paths that are found, and all others refuse what is not allowed. So it is so whatever is done to a
workspace.

## Main definitions

* `LexicalModule.WellPlaced`, `CompilationUnit.WellPlaced` — one module, one unit.
* `ModuleManifest.WellPlaced` — a module and its units, as they are recorded.
* `Workspace.WellPlaced` — all modules and units.

## Main results

* `isAbsolute_of_mem_walk` — a walk finds relative locations.
* `Workspace.WellPlaced.perform`, `Workspace.WellPlaced.run` — no change makes a difference.
-/

namespace LexicalFront

/-- A module is at an absolute location, if it has one. -/
def LexicalModule.WellPlaced (m : LexicalModule) : Prop :=
  ∀ dir, m.location = some dir → dir.isAbsolute = true

/-- A unit is at a relative location, if it has one. -/
def CompilationUnit.WellPlaced (v : CompilationUnit) : Prop :=
  ∀ p, v.location = some p → p.isAbsolute = false

/-- What is recorded of a module is at an absolute location, and what is recorded of its units at
relative ones, if there are any. -/
structure ModuleManifest.WellPlaced (x : ModuleManifest) : Prop where
  /-- The module is at an absolute location. -/
  module : ∀ dir, x.location = some dir → dir.isAbsolute = true
  /-- The units are at relative locations. -/
  unit : ∀ r ∈ x.units, ∀ p, r.location = some p → p.isAbsolute = false

/-- Nothing but its location matters to where a unit is. -/
lemma CompilationUnit.WellPlaced.congr {v v' : CompilationUnit} (hv : v.WellPlaced)
    (h : v'.location = v.location) : v'.WellPlaced :=
  fun p hp => hv p (h.symm.trans hp)

/-- A retired unit is where it was. -/
lemma CompilationUnit.WellPlaced.retire {v : CompilationUnit} (hv : v.WellPlaced) :
    v.retire.WellPlaced := by
  refine hv.congr ?_
  rw [CompilationUnit.retire]
  split
  · rfl
  · rfl

/-! ## Locations that a walk finds -/

/-- Each value that a sequence of steps gives is given by one of the steps. -/
lemma exists_of_mem_of_mapM_eq_ok {α β ε : Type} {g : α → Except ε β} {as : List α} {bs : List β}
    (h : as.mapM g = .ok bs) {b : β} (hb : b ∈ bs) : ∃ a ∈ as, g a = .ok b := by
  induction as generalizing bs with
  | nil =>
    cases h
    cases hb
  | cons a as ih =>
    rw [List.mapM_cons] at h
    cases hfirst : g a with
    | error e =>
      rw [hfirst] at h
      cases h
    | ok b' =>
      cases hrest : as.mapM g with
      | error e =>
        rw [hfirst, hrest] at h
        cases h
      | ok bs' =>
        rw [hfirst, hrest] at h
        cases h
        rcases List.mem_cons.1 hb with rfl | hb
        · exact ⟨a, List.mem_cons_self, hfirst⟩
        · obtain ⟨a', ha', heq⟩ := ih hrest hb
          exact ⟨a', List.mem_cons_of_mem a ha', heq⟩

section Walk

variable {fs : FileSystem} {config : Config} {root dir p : Path} {locations : List Path}

/-- An entry contributes what is left of its own path, or what is found in it. -/
lemma mem_of_visitEntry_eq_ok {descend : Path → Except LexicalError (List Path)} {entry : DirEntry}
    (h : visitEntry config root descend entry = .ok locations) (hp : p ∈ locations) :
    entry.path.stripPrefix? root = some p ∨ descend entry.path = .ok locations := by
  rw [visitEntry] at h
  split at h
  · cases h
    cases hp
  · exact .inr h
  · refine .inl ?_
    rwa [← Except.ok.inj h, Option.mem_toList] at hp

/-- A walk below a path with a component finds relative locations. -/
theorem isAbsolute_of_mem_walk (hroot : root.components ≠ []) {n : Nat}
    (h : walk fs config root n dir = .ok locations) (hp : p ∈ locations) :
    p.isAbsolute = false := by
  induction n generalizing dir locations with
  | zero => cases h
  | succ n ih =>
    rw [walk] at h
    split at h
    · cases h
    · next entries _ =>
      cases hparts : (sortByName entries).mapM
          (visitEntry config root (walk fs config root n)) with
      | error e =>
        rw [hparts] at h
        cases h
      | ok parts =>
        rw [hparts] at h
        cases h
        obtain ⟨part, hpart, hp⟩ := List.mem_flatten.1 hp
        obtain ⟨entry, -, hentry⟩ := exists_of_mem_of_mapM_eq_ok hparts hpart
        rcases mem_of_visitEntry_eq_ok hentry hp with hstrip | hdescend
        · rw [Path.isAbsolute, Path.lead_stripPrefix? hroot hstrip]
          rfl
        · exact ih hdescend hp

end Walk

/-! ## Records that are accepted -/

namespace Workspace

/-- The workspace with a new module that is made from its record. -/
def restored (w : Workspace) (source : FileSource) (x : ModuleManifest) (config : Config) :
    Workspace :=
  (w.newModule x.location source config).addUnits w.nextModule (x.units.map fun r =>
    (r.location, if r.location.isSome then none else r.representation))

/-- There is nothing to report of an absolute location. -/
lemma filter_relative_eq_none {location : Option Path}
    (h : ∀ dir, location = some dir → dir.isAbsolute = true) :
    location.filter (fun p => !p.isAbsolute) = none :=
  Option.filter_eq_none_iff.2 fun dir hdir => by rw [h dir hdir]; exact Bool.false_ne_true

/-- There is nothing to report of relative locations. -/
lemma find?_absolute_eq_none {units : List UnitManifest}
    (h : ∀ r ∈ units, ∀ p, r.location = some p → p.isAbsolute = false) :
    (units.filterMap (·.location)).find? Path.isAbsolute = none := by
  refine List.find?_eq_none.2 fun p hp => ?_
  obtain ⟨r, hr, hp⟩ := List.mem_filterMap.1 hp
  rw [h r hr p hp]
  exact Bool.false_ne_true

/-- A module at a relative location is rejected, whatever its units are. -/
lemma restoreModule_of_module (w : Workspace) (source : FileSource) {x : ModuleManifest}
    (config : Config) {p : Path} (hp : x.location = some p) (hrelative : p.isAbsolute = false) :
    w.restoreModule source x config = .error (.relativeModuleLocation p) := by
  rw [restoreModule, hp, Option.filter_some, if_pos (by rw [hrelative]; rfl)]

/-- The first unit at an absolute location is rejected. -/
lemma restoreModule_of_unit (w : Workspace) (source : FileSource) {x : ModuleManifest}
    (config : Config) {before after : List UnitManifest} {r : UnitManifest} {p : Path}
    (hmodule : ∀ dir, x.location = some dir → dir.isAbsolute = true)
    (hunits : x.units = before ++ r :: after)
    (hbefore : ∀ r ∈ before, ∀ p, r.location = some p → p.isAbsolute = false)
    (hp : r.location = some p) (habsolute : p.isAbsolute = true) :
    w.restoreModule source x config = .error (.absoluteUnitLocation p) := by
  have hfind : (x.units.filterMap (·.location)).find? Path.isAbsolute = some p := by
    rw [hunits, List.filterMap_append, List.find?_append, find?_absolute_eq_none hbefore,
      List.filterMap_cons_some hp, List.find?_cons_of_pos habsolute]
    rfl
  rw [restoreModule, filter_relative_eq_none hmodule, hfind]

/-- A record is accepted exactly if its locations are allowed. -/
lemma restoreModule_eq_ok_iff {w w' : Workspace} {source : FileSource} {x : ModuleManifest}
    {config : Config} :
    w.restoreModule source x config = .ok w' ↔ x.WellPlaced ∧ w' = w.restored source x config := by
  constructor
  · intro h
    rw [restoreModule] at h
    split at h
    · cases h
    · next hmodule =>
      split at h
      · cases h
      · next hunits =>
        refine ⟨⟨fun dir hdir => ?_, fun r hr p hp => ?_⟩, (Except.ok.inj h).symm⟩
        · simpa using Option.filter_eq_none_iff.1 hmodule dir hdir
        · simpa using List.find?_eq_none.1 hunits p (List.mem_filterMap.2 ⟨r, hr, hp⟩)
  · rintro ⟨hx, rfl⟩
    rw [restoreModule, filter_relative_eq_none hx.module, find?_absolute_eq_none hx.unit]
    rfl

/-! ## Changes -/

/-- All modules are at absolute locations and all units at relative ones, if they have any. -/
structure WellPlaced (w : Workspace) : Prop where
  /-- Modules are at absolute locations. -/
  module : ∀ {m : ModuleId} {state : LexicalModule}, w.module? m = some state → state.WellPlaced
  /-- Units are at relative locations. -/
  unit : ∀ {u : UnitId} {v : CompilationUnit}, w.unit? u = some v → v.WellPlaced

namespace WellPlaced

variable {w : Workspace}

/-- Nothing is where it must not be. -/
lemma empty (outside : FileSystem) : (Workspace.empty outside).WellPlaced :=
  ⟨nofun, nofun⟩

/-- The files do not matter. -/
lemma files (hw : w.WellPlaced) (files : MemoryFiles) : { w with files := files }.WellPlaced :=
  ⟨hw.module, hw.unit⟩

/-- A module may be made at an absolute location. -/
lemma newModule (hw : w.WellPlaced) {location : Option Path}
    (hlocation : ∀ dir, location = some dir → dir.isAbsolute = true) (source : FileSource)
    (config : Config) : (w.newModule location source config).WellPlaced := by
  refine ⟨fun {m state} h => ?_, hw.unit⟩
  rw [module?_newModule] at h
  split at h
  · obtain rfl := Option.some.inj h
    exact hlocation
  · exact hw.module h

/-- A unit may be changed unless it gets an absolute location. -/
lemma modifyUnit (hw : w.WellPlaced) (u : UnitId) {f : CompilationUnit → CompilationUnit}
    (hf : ∀ v : CompilationUnit, v.WellPlaced → (f v).WellPlaced) :
    (w.modifyUnit u f).WellPlaced := by
  refine ⟨hw.module, fun {x v'} h => ?_⟩
  rw [unit?_modifyUnit] at h
  split at h
  · obtain ⟨v, hv, rfl⟩ := Option.map_eq_some_iff.1 h
    exact hf v (hw.unit hv)
  · exact hw.unit h

/-- A module may be changed unless it gets a relative location. -/
lemma modifyModule (hw : w.WellPlaced) (m : ModuleId) {f : LexicalModule → LexicalModule}
    (hf : ∀ state : LexicalModule, state.WellPlaced → (f state).WellPlaced) :
    (w.modifyModule m f).WellPlaced := by
  refine ⟨fun {k state'} h => ?_, hw.unit⟩
  rw [module?_modifyModule] at h
  split at h
  · obtain ⟨state, hstate, rfl⟩ := Option.map_eq_some_iff.1 h
    exact hf state (hw.module hstate)
  · exact hw.module h

/-- A unit may be made at a relative location. -/
lemma addUnit (hw : w.WellPlaced) (m : ModuleId) {location : Option Path}
    (hlocation : ∀ p, location = some p → p.isAbsolute = false) (text : Option String) :
    (w.addUnit m location text).WellPlaced := by
  let list (state : LexicalModule) : LexicalModule :=
    { state with members := state.members ++ [w.nextUnit] }
  have hlisted : (w.modifyModule m list).WellPlaced := hw.modifyModule m fun _ h => h
  refine ⟨fun h => hlisted.module h, fun {x v} h => ?_⟩
  rw [unit?_addUnit] at h
  split at h
  · obtain rfl := Option.some.inj h
    exact hlocation
  · exact hw.unit h

/-- Some units may be made at relative locations. -/
lemma addUnits (hw : w.WellPlaced) (m : ModuleId) {units : List (Option Path × Option String)}
    (hunits : ∀ u ∈ units, ∀ p, u.1 = some p → p.isAbsolute = false) :
    (w.addUnits m units).WellPlaced := by
  induction units generalizing w with
  | nil => exact hw
  | cons u units ih =>
    obtain ⟨hu, hunits⟩ := List.forall_mem_cons.1 hunits
    exact ih (hw.addUnit m hu u.2) hunits

/-- A directory may be opened: what is found in it is at relative locations. -/
lemma openModule (hw : w.WellPlaced) {w' : Workspace} {source : FileSource} {dir : Path}
    {config : Config} (h : w.openModule source dir config = .ok w') : w'.WellPlaced := by
  rw [Workspace.openModule] at h
  split at h
  · next hdir =>
    cases hlocations : enumerate (w.fileSystem source) config dir with
    | error e =>
      rw [hlocations] at h
      cases h
    | ok locations =>
      rw [hlocations] at h
      obtain rfl := Except.ok.inj h
      refine (hw.newModule ?_ source config).addUnits w.nextModule ?_
      · rintro _ ⟨⟩
        exact hdir
      · intro u hu p hp
        obtain ⟨l, hl, rfl⟩ := List.mem_map.1 hu
        obtain rfl := Option.some.inj hp
        exact isAbsolute_of_mem_walk (Path.components_ne_nil_of_isAbsolute hdir) hlocations hl
  · cases h

/-- A module may be made from its record: the locations are checked. -/
lemma restoreModule (hw : w.WellPlaced) {w' : Workspace} {source : FileSource}
    {x : ModuleManifest} {config : Config} (h : w.restoreModule source x config = .ok w') :
    w'.WellPlaced := by
  obtain ⟨hx, rfl⟩ := restoreModule_eq_ok_iff.1 h
  refine (hw.newModule hx.module source config).addUnits w.nextModule ?_
  intro u hu p hp
  obtain ⟨r, hr, rfl⟩ := List.mem_map.1 hu
  exact hx.unit r hr p hp

/-- A module may be dropped. -/
lemma dropModule (hw : w.WellPlaced) (m : ModuleId) : (w.dropModule m).WellPlaced := by
  refine ⟨fun {k state} h => ?_, fun {x v'} h => ?_⟩
  · rw [module?_dropModule] at h
    split at h
    · cases h
    · exact hw.module h
  · rw [unit?_dropModule] at h
    split at h
    · obtain ⟨v, hv, rfl⟩ := Option.map_eq_some_iff.1 h
      exact (hw.unit hv).retire
    · exact hw.unit h

/-- A unit may be taken out of a module. -/
lemma removeUnit (hw : w.WellPlaced) (m : ModuleId) (u : UnitId) :
    (w.removeUnit m u).1.WellPlaced := by
  rw [Workspace.removeUnit]
  split
  · let unlist (state : LexicalModule) : LexicalModule :=
      { state with members := state.members.erase u }
    have hlisted : (w.modifyModule m unlist).WellPlaced := hw.modifyModule m fun _ h => h
    exact hlisted.modifyUnit u fun _ h => h.retire
  · exact hw

/-- A module may be moved: the location is checked. -/
lemma setModuleLocation (hw : w.WellPlaced) {w' : Workspace} {m : ModuleId}
    {location : Option Path} (h : w.setModuleLocation m location = .ok w') : w'.WellPlaced := by
  rw [Workspace.setModuleLocation] at h
  split at h
  · cases h
  · next hlocation =>
    obtain rfl := Except.ok.inj h
    refine hw.modifyModule m fun _ _ dir hdir => ?_
    simpa using Option.filter_eq_none_iff.1 hlocation dir hdir

/-- A unit may be moved: the location is checked. -/
lemma setUnitLocation (hw : w.WellPlaced) {w' : Workspace} {u : UnitId}
    {location : Option Path} (h : w.setUnitLocation u location = .ok w') : w'.WellPlaced := by
  rw [Workspace.setUnitLocation] at h
  split at h
  · cases h
  · next hlocation =>
    obtain rfl := Except.ok.inj h
    refine hw.modifyUnit u fun _ _ p hp => ?_
    simpa using Option.filter_eq_none_iff.1 hlocation p hp

/-- A unit may be made at a location of its own: it is checked. -/
lemma addUnitAt (hw : w.WellPlaced) {w' : Workspace} {m : ModuleId} {location : Path}
    (h : w.addUnitAt m location = .ok w') : w'.WellPlaced := by
  rw [Workspace.addUnitAt] at h
  split at h
  · cases h
  · next hlocation =>
    obtain rfl := Except.ok.inj h
    refine hw.addUnit m ?_ none
    rintro _ ⟨⟩
    exact Bool.eq_false_iff.2 hlocation

/-- Texts may be installed. -/
lemma replace (hw : w.WellPlaced) (u : UnitId) (text : String) :
    (w.replace u text).1.WellPlaced :=
  hw.modifyUnit u fun v hv => hv.congr (v.place_replace text).2.1

/-- Units may be loaded. -/
lemma load (hw : w.WellPlaced) (u : UnitId) : (w.load u).1.WellPlaced := by
  rcases w.load_cases u with h | ⟨text, h⟩
  · rw [h]
    exact hw
  · rw [h]
    exact hw.replace u text

/-- Some units may be loaded. -/
lemma loadUnits (hw : w.WellPlaced) (us : List UnitId) : (w.loadUnits us).1.WellPlaced := by
  induction us generalizing w with
  | nil => exact hw
  | cons u us ih =>
    rcases w.loadUnits_cons u us with h | h
    · rw [h]
      exact hw.load u
    · rw [h]
      exact ih (hw.load u)

/-- What may fail does nothing if it does. -/
lemma orSelf (hw : w.WellPlaced) {result : Except LexicalError Workspace}
    (h : ∀ w', result = .ok w' → w'.WellPlaced) : (w.orSelf result).WellPlaced := by
  cases result with
  | error e => exact hw
  | ok w' => exact h w' rfl

/-- No change puts a module at a relative location or a unit at an absolute one.

**Proof sketch.** One case for each change. Locations are given to modules and units when they are
made and when they are moved, and all of these check them, or have no location to check; the other
changes keep the locations. -/
theorem perform (hw : w.WellPlaced) (a : Action) : (w.perform a).WellPlaced := by
  cases a with
  | update u => exact hw.files (w.files.apply u)
  | newModule source => exact hw.newModule (by rintro _ ⟨⟩) source .standard
  | openModule source dir config => exact hw.orSelf fun w' h => hw.openModule h
  | restoreModule source x config => exact hw.orSelf fun w' h => hw.restoreModule h
  | dropModule m => exact hw.dropModule m
  | addBlankUnit m =>
    rw [Workspace.perform]
    split
    · exact hw.addUnit m (by rintro _ ⟨⟩) none
    · exact hw
  | addUnitAt m location =>
    rw [Workspace.perform]
    split
    · exact hw.orSelf fun w' h => hw.addUnitAt h
    · exact hw
  | removeUnit m u => exact hw.removeUnit m u
  | setModuleLocation m location => exact hw.orSelf fun w' h => hw.setModuleLocation h
  | setUnitLocation u location => exact hw.orSelf fun w' h => hw.setUnitLocation h
  | replace u text => exact hw.replace u text
  | clear u => exact hw.modifyUnit u fun _ hv => hv
  | load u => exact hw.load u
  | loadAll m => exact hw.loadUnits _
  | remember u =>
    exact hw.modifyUnit u fun v hv => hv.congr (by rw [v.remember_eq])

/-- After any changes all modules are at absolute locations and all units at relative ones. -/
theorem run (hw : w.WellPlaced) (actions : List Action) : (w.run actions).WellPlaced := by
  induction actions generalizing w with
  | nil => exact hw
  | cons a actions ih => exact ih (hw.perform a)

/-- What is recorded of a module is where it may be. -/
lemma manifest (hw : w.WellPlaced) (m : ModuleId) : (w.manifest m).WellPlaced := by
  refine ⟨fun dir hdir => ?_, fun r hr p hp => ?_⟩
  · obtain ⟨state, hstate, hdir⟩ := Option.bind_eq_some_iff.1 hdir
    exact hw.module hstate dir hdir
  · obtain ⟨v, hv, rfl⟩ := List.mem_map.1 hr
    obtain ⟨u, -, hu⟩ := List.mem_filterMap.1 hv
    exact hw.unit hu p hp

end WellPlaced

end Workspace

end LexicalFront
