import LexicalFront.Proofs.CompilationUnit
import LexicalFront.Workspace.Basic
set_option autoImplicit false
set_option relaxedAutoImplicit false

/-!
# Looking up modules and units after a change

What each change of a workspace does to the unit and to the module of some number, and to the list
of units of a module. All that is said of workspaces elsewhere is said in these terms.

## Main results

* `Workspace.unit?_addUnits_of_some`, `Workspace.unit?_retireUnits`, `Workspace.unit?_loadUnits` —
  the units after the changes that are about many units.
* `Workspace.members_dropModule`, `Workspace.members_removeUnit` — the lists of units.
-/

namespace LexicalFront

/-- The value at some place of a list with one more value at the end. -/
lemma getElem?_concat {α : Type} (l : List α) (a : α) (i : Nat) :
    (l ++ [a])[i]? = if l.length = i then some a else l[i]? := by
  split
  · next heq => rw [← heq, List.getElem?_concat_length]
  · next hne =>
    by_cases hlt : i < l.length
    · rw [List.getElem?_append_left hlt]
    · rw [List.getElem?_eq_none (by rw [List.length_append, List.length_singleton]; omega),
        List.getElem?_eq_none (by omega)]

namespace Workspace

variable (w : Workspace)

/-! ## One unit or one module -/

/-- The unit of a number after one unit has been changed. -/
lemma unit?_modifyUnit (u x : UnitId) (f : CompilationUnit → CompilationUnit) :
    (w.modifyUnit u f).unit? x = if u = x then (w.unit? x).map f else w.unit? x := by
  rw [unit?, modifyUnit, List.getElem?_modify]
  split
  · rfl
  · exact Option.map_id_apply

variable {w} in
/-- A change that leaves a unit as it is leaves the workspace as it is. -/
lemma modifyUnit_eq_self {u : UnitId} {v : CompilationUnit}
    {f : CompilationUnit → CompilationUnit} (hv : w.unit? u = some v) (hf : f v = v) :
    w.modifyUnit u f = w := by
  have hunits : w.units.modify u f = w.units := by
    apply List.ext_getElem?
    intro i
    rw [List.getElem?_modify]
    by_cases hi : u = i
    · subst hi
      have hv' : w.units[u]? = some v := hv
      simp [hv', hf]
    · simp [hi]
  rw [modifyUnit, hunits]

/-- A change of a module leaves the units alone. -/
lemma unit?_modifyModule (m : ModuleId) (f : LexicalModule → LexicalModule) (x : UnitId) :
    (w.modifyModule m f).unit? x = w.unit? x := rfl

/-- The module of a number after one module has been changed. -/
lemma module?_modifyModule (m k : ModuleId) (f : LexicalModule → LexicalModule) :
    (w.modifyModule m f).module? k = if m = k then (w.module? k).map f else w.module? k := by
  rw [module?, modifyModule, List.getElem?_modify, module?]
  cases w.modules[k]? with
  | none => split <;> rfl
  | some o => split <;> rfl

/-- A change of a module is not the end of a module. -/
lemma isSome_module?_modifyModule (m k : ModuleId) (f : LexicalModule → LexicalModule) :
    ((w.modifyModule m f).module? k).isSome = (w.module? k).isSome := by
  rw [module?_modifyModule]
  split
  · rw [Option.isSome_map]
  · rfl

/-- The list of a module after one module has been changed. -/
lemma members_modifyModule (m k : ModuleId) (f : LexicalModule → LexicalModule) :
    (w.modifyModule m f).members k =
      if m = k then (w.module? k).elim [] fun state => (f state).members else w.members k := by
  rw [members, module?_modifyModule]
  split
  · rw [Option.elim_map]
    rfl
  · rfl

variable {w} in
/-- A module that lists a unit exists. -/
lemma isSome_module?_of_mem {m : ModuleId} {u : UnitId} (h : u ∈ w.members m) :
    (w.module? m).isSome = true := by
  rw [members] at h
  cases hm : w.module? m with
  | none =>
    rw [hm] at h
    exact absurd h List.not_mem_nil
  | some state => rfl

/-! ## New modules and units -/

/-- The number of the next module is not in use. -/
lemma module?_nextModule : w.module? w.nextModule = none := by
  rw [module?, nextModule, List.getElem?_eq_none (Nat.le_refl _)]
  rfl

/-- The number of the next unit is not in use. -/
lemma unit?_nextUnit : w.unit? w.nextUnit = none :=
  List.getElem?_eq_none (Nat.le_refl _)

variable {w} in
/-- A unit that exists is not the next one. -/
lemma ne_nextUnit {x : UnitId} {v : CompilationUnit} (h : w.unit? x = some v) :
    w.nextUnit ≠ x := by
  rintro rfl
  rw [unit?_nextUnit] at h
  exact absurd h nofun

variable {w} in
/-- A module that exists is not the next one. -/
lemma ne_nextModule {k : ModuleId} (h : (w.module? k).isSome = true) : w.nextModule ≠ k := by
  rintro rfl
  rw [module?_nextModule] at h
  exact absurd h nofun

/-- The module of a number after a module has been made. -/
lemma module?_newModule (location : Option Path) (source : FileSource) (config : Config)
    (k : ModuleId) :
    (w.newModule location source config).module? k =
      if w.nextModule = k then some ⟨location, source, config, []⟩ else w.module? k := by
  rw [module?, newModule, getElem?_concat, nextModule]
  split
  · rfl
  · rfl

/-- A new module has no units, and the others keep theirs. -/
lemma members_newModule (location : Option Path) (source : FileSource) (config : Config)
    (k : ModuleId) :
    (w.newModule location source config).members k = w.members k := by
  rw [members, module?_newModule]
  split
  · next heq => rw [← heq, members, module?_nextModule]; rfl
  · rfl

/-- The unit of a number after a unit has been made. -/
lemma unit?_addUnit (m : ModuleId) (location : Option Path) (text : Option String) (x : UnitId) :
    (w.addUnit m location text).unit? x =
      if w.nextUnit = x then some (.new m location text) else w.unit? x := by
  rw [unit?, addUnit]
  exact getElem?_concat w.units _ x

/-- A new unit is not the end of a module. -/
lemma isSome_module?_addUnit (m k : ModuleId) (location : Option Path) (text : Option String) :
    ((w.addUnit m location text).module? k).isSome = (w.module? k).isSome :=
  w.isSome_module?_modifyModule m k _

/-- A new unit is the last one of its module. -/
lemma members_addUnit {m : ModuleId} (hm : (w.module? m).isSome = true) (k : ModuleId)
    (location : Option Path) (text : Option String) :
    (w.addUnit m location text).members k =
      if m = k then w.members k ++ [w.nextUnit] else w.members k := by
  show (w.modifyModule m _).members k = _
  rw [members_modifyModule]
  split
  · next heq =>
    subst heq
    obtain ⟨state, hstate⟩ := Option.isSome_iff_exists.1 hm
    rw [members, hstate]
    rfl
  · rfl

/-- The units of a module after a unit has been made. -/
lemma mem_members_addUnit {m : ModuleId} (hm : (w.module? m).isSome = true) (k : ModuleId)
    (location : Option Path) (text : Option String) (x : UnitId) :
    x ∈ (w.addUnit m location text).members k ↔
      x ∈ w.members k ∨ (m = k ∧ w.nextUnit = x) := by
  rw [w.members_addUnit hm]
  split
  · next heq => rw [List.mem_append, List.mem_singleton, and_iff_right heq, eq_comm]
  · next hne => exact ⟨.inl, fun h => h.resolve_right fun h => hne h.1⟩

/-- New units are not the end of a module. -/
lemma isSome_module?_addUnits (m k : ModuleId) (units : List (Option Path × Option String)) :
    ((w.addUnits m units).module? k).isSome = (w.module? k).isSome := by
  induction units generalizing w with
  | nil => rfl
  | cons u units ih =>
    rw [addUnits, List.foldl_cons]
    exact (ih (w.addUnit m u.1 u.2)).trans (w.isSome_module?_addUnit m k u.1 u.2)

/-- The modules after a module has been made together with its units. -/
lemma isSome_module?_newModule_addUnits (location : Option Path) (source : FileSource)
    (config : Config) (units : List (Option Path × Option String)) (k : ModuleId) :
    (((w.newModule location source config).addUnits w.nextModule units).module? k).isSome = true ↔
      w.nextModule = k ∨ (w.module? k).isSome = true := by
  rw [isSome_module?_addUnits, module?_newModule]
  split
  · next heq => exact ⟨fun _ => .inl heq, fun _ => rfl⟩
  · next hne => exact ⟨.inr, fun h => h.resolve_left hne⟩

variable {w} in
/-- A new unit leaves the other ones alone. -/
lemma unit?_addUnit_of_some {x : UnitId} {v : CompilationUnit} (h : w.unit? x = some v)
    (m : ModuleId) (location : Option Path) (text : Option String) :
    (w.addUnit m location text).unit? x = some v := by
  rw [unit?_addUnit, if_neg (ne_nextUnit h)]
  exact h

variable {w} in
/-- New units leave the other ones alone. -/
lemma unit?_addUnits_of_some {x : UnitId} {v : CompilationUnit} (h : w.unit? x = some v)
    (m : ModuleId) (units : List (Option Path × Option String)) :
    (w.addUnits m units).unit? x = some v := by
  induction units generalizing w with
  | nil => exact h
  | cons u units ih =>
    rw [addUnits, List.foldl_cons]
    exact ih (unit?_addUnit_of_some h m u.1 u.2)

variable {w} in
/-- A unit after some units have been made for a module was there before, or it is one of them. -/
lemma unit?_addUnits_cases {x : UnitId} {v : CompilationUnit} {m : ModuleId}
    {units : List (Option Path × Option String)}
    (h : (w.addUnits m units).unit? x = some v) :
    w.unit? x = some v ∨ ∃ location text, v = .new m location text := by
  induction units generalizing w with
  | nil => exact .inl h
  | cons u units ih =>
    rw [addUnits, List.foldl_cons] at h
    rcases ih h with h | h
    · rw [unit?_addUnit] at h
      split at h
      · exact .inr ⟨u.1, u.2, (Option.some.inj h).symm⟩
      · exact .inl h
    · exact .inr h

variable {w} in
/-- A module that is made together with its units leaves the other units alone. -/
lemma unit?_newModule_addUnits {x : UnitId} {v : CompilationUnit} (h : w.unit? x = some v)
    (location : Option Path) (source : FileSource) (config : Config)
    (units : List (Option Path × Option String)) :
    ((w.newModule location source config).addUnits w.nextModule units).unit? x = some v :=
  unit?_addUnits_of_some (w := w.newModule location source config) h w.nextModule units

variable {w} in
/-- A unit at a location is a new unit without a text. -/
lemma addUnitAt_eq_ok {w' : Workspace} {m : ModuleId} {location : Path}
    (h : w.addUnitAt m location = .ok w') : w' = w.addUnit m (some location) none := by
  rw [addUnitAt] at h
  split at h
  · exact absurd h nofun
  · exact (Except.ok.inj h).symm

variable {w} in
/-- A module on a directory is a new module with new units. -/
lemma openModule_eq_ok {w' : Workspace} {source : FileSource} {dir : Path} {config : Config}
    (h : w.openModule source dir config = .ok w') :
    ∃ location units, w' = (w.newModule location source config).addUnits w.nextModule units := by
  rw [openModule] at h
  split at h
  · cases hlocations : enumerate (w.fileSystem source) config dir with
    | error e =>
      rw [hlocations] at h
      exact absurd h nofun
    | ok locations =>
      rw [hlocations] at h
      exact ⟨_, _, (Except.ok.inj h).symm⟩
  · exact absurd h nofun

variable {w} in
/-- A module from its record is a new module with new units. -/
lemma restoreModule_eq_ok {w' : Workspace} {source : FileSource} {manifest : ModuleManifest}
    {config : Config} (h : w.restoreModule source manifest config = .ok w') :
    ∃ location units, w' = (w.newModule location source config).addUnits w.nextModule units := by
  rw [restoreModule] at h
  split at h
  · exact absurd h nofun
  · split at h
    · exact absurd h nofun
    · exact ⟨_, _, (Except.ok.inj h).symm⟩

/-! ## Leaving a module -/

/-- Retiring some units leaves the modules alone. -/
lemma module?_retireUnits (us : List UnitId) (k : ModuleId) :
    (w.retireUnits us).module? k = w.module? k := by
  induction us generalizing w with
  | nil => rfl
  | cons u us ih => exact ih (w.modifyUnit u .retire)

/-- The unit of a number after some units have been retired. -/
lemma unit?_retireUnits (us : List UnitId) (x : UnitId) :
    (w.retireUnits us).unit? x =
      if x ∈ us then (w.unit? x).map .retire else w.unit? x := by
  induction us generalizing w with
  | nil => rw [if_neg List.not_mem_nil]; rfl
  | cons u us ih =>
    show ((w.modifyUnit u .retire).retireUnits us).unit? x = _
    rw [ih, unit?_modifyUnit]
    by_cases hux : u = x
    · subst hux
      rw [if_pos rfl, if_pos List.mem_cons_self]
      split
      · rw [Option.map_map]
        exact congrArg (Option.map · _) (funext CompilationUnit.retire_retire)
      · rfl
    · rw [if_neg hux]
      refine if_congr ?_ rfl rfl
      rw [List.mem_cons]
      exact ⟨.inr, fun h => h.resolve_left fun h => hux h.symm⟩

/-- The units after a module has been dropped. -/
lemma unit?_dropModule (m : ModuleId) (x : UnitId) :
    (w.dropModule m).unit? x =
      if x ∈ w.members m then (w.unit? x).map .retire else w.unit? x :=
  w.unit?_retireUnits (w.members m) x

/-- The modules after a module has been dropped. -/
lemma module?_dropModule (m k : ModuleId) :
    (w.dropModule m).module? k = if m = k then none else w.module? k := by
  rw [module?, dropModule]
  rw [List.getElem?_set]
  split
  · split
    · rfl
    · rfl
  · exact w.module?_retireUnits _ k

/-- The lists after a module has been dropped. -/
lemma members_dropModule (m k : ModuleId) :
    (w.dropModule m).members k = if m = k then [] else w.members k := by
  rw [members, module?_dropModule]
  split
  · rfl
  · rfl

/-- The units after a unit has been taken out of a module. -/
lemma unit?_removeUnit (m : ModuleId) (u x : UnitId) :
    (w.removeUnit m u).1.unit? x =
      if u ∈ w.members m ∧ u = x then (w.unit? x).map .retire else w.unit? x := by
  rw [removeUnit]
  by_cases h : u ∈ w.members m
  · rw [if_pos (List.contains_iff_mem.2 h)]
    simp only [unit?_modifyUnit, unit?_modifyModule, h, true_and]
  · rw [if_neg (mt List.contains_iff_mem.1 h), if_neg (fun hux => h hux.1)]

/-- No module ends when a unit is taken out of one. -/
lemma isSome_module?_removeUnit (m : ModuleId) (u : UnitId) (k : ModuleId) :
    ((w.removeUnit m u).1.module? k).isSome = (w.module? k).isSome := by
  rw [removeUnit]
  split
  · exact w.isSome_module?_modifyModule m k _
  · rfl

/-- The lists after a unit has been taken out of a module. -/
lemma members_removeUnit (m : ModuleId) (u : UnitId) (k : ModuleId) :
    (w.removeUnit m u).1.members k = if m = k then (w.members k).erase u else w.members k := by
  rw [removeUnit]
  by_cases h : u ∈ w.members m
  · rw [if_pos (List.contains_iff_mem.2 h)]
    show (w.modifyModule m _).members k = _
    rw [members_modifyModule]
    refine if_congr Iff.rfl ?_ rfl
    rw [members]
    cases w.module? k with
    | none => rfl
    | some state => rfl
  · rw [if_neg (mt List.contains_iff_mem.1 h)]
    split
    · next heq =>
      subst heq
      rw [List.erase_of_not_mem h]
    · rfl

/-! ## Locations -/

variable {w} in
/-- Where the location of a module is allowed, nothing but the location changes. -/
lemma setModuleLocation_eq_ok {w' : Workspace} {m : ModuleId} {location : Option Path}
    (h : w.setModuleLocation m location = .ok w') :
    w' = w.modifyModule m fun state => { state with location := location } := by
  rw [setModuleLocation] at h
  split at h
  · exact absurd h nofun
  · exact (Except.ok.inj h).symm

variable {w} in
/-- Where the location of a unit is allowed, nothing but the location changes. -/
lemma setUnitLocation_eq_ok {w' : Workspace} {u : UnitId} {location : Option Path}
    (h : w.setUnitLocation u location = .ok w') :
    w' = w.modifyUnit u fun state => { state with location := location } := by
  rw [setUnitLocation] at h
  split at h
  · exact absurd h nofun
  · exact (Except.ok.inj h).symm

/-! ## Texts -/

variable {w} in
/-- A text that changes nothing in a unit changes nothing in the workspace. -/
lemma replace_eq_self {u : UnitId} {v : CompilationUnit} {text : String}
    (hv : w.unit? u = some v) (h : v.replace text = (v, false)) :
    w.replace u text = (w, false) := by
  rw [replace, modifyUnit_eq_self hv (by rw [h]), hv]
  simp [h]

/-- Loading a unit does nothing, or installs a text. -/
lemma load_cases (u : UnitId) :
    (w.load u).1 = w ∨ ∃ text, (w.load u).1 = (w.replace u text).1 := by
  rw [load]
  split
  · exact .inl rfl
  · split
    · exact .inl rfl
    · exact .inr ⟨_, rfl⟩

variable {w} in
/-- A unit that cannot be loaded leaves everything as it is. -/
lemma load_eq_error {w' : Workspace} {u : UnitId} {e : LexicalError}
    (h : w.load u = (w', .error e)) : w' = w := by
  rw [load] at h
  split at h
  · cases h
    rfl
  · split at h
    · cases h
      rfl
    · cases h

/-- Loading some units loads the first one and then, unless that failed, the others. -/
lemma loadUnits_cons (u : UnitId) (us : List UnitId) :
    (w.loadUnits (u :: us)).1 = (w.load u).1 ∨
      (w.loadUnits (u :: us)).1 = ((w.load u).1.loadUnits us).1 := by
  rw [loadUnits]
  split
  · next h => exact .inl (by rw [h])
  · next h => exact .inr (by rw [h])

/-- Units that are not to be loaded stay as they are, and the others are loaded at most once.

**Proof sketch.** Induction on the list. The first load leaves the unit alone, or the unit is the
first one and is replaced. Then it is not in the rest of the list, which has no duplicates, so that
the other loads leave it alone; and the loop may have stopped before them. -/
lemma unit?_loadUnits {us : List UnitId} (hus : us.Nodup) (x : UnitId) :
    (w.loadUnits us).1.unit? x = w.unit? x ∨
      (x ∈ us ∧
        ∃ text, (w.loadUnits us).1.unit? x = (w.unit? x).map fun v => (v.replace text).1) := by
  induction us generalizing w with
  | nil => exact .inl rfl
  | cons u us ih =>
    obtain ⟨hu, hus⟩ := List.nodup_cons.1 hus
    have hload : (w.load u).1.unit? x = w.unit? x ∨
        (x = u ∧ ∃ text, (w.load u).1.unit? x = (w.unit? x).map fun v => (v.replace text).1) := by
      rcases w.load_cases u with h | ⟨text, h⟩
      · exact .inl (by rw [h])
      · rw [h]
        by_cases hux : u = x
        · exact .inr ⟨hux.symm, text, (w.unit?_modifyUnit u x _).trans (if_pos hux)⟩
        · exact .inl ((w.unit?_modifyUnit u x _).trans (if_neg hux))
    rcases w.loadUnits_cons u us with h | h
    · rw [h]
      exact hload.imp_right fun ⟨hx, htext⟩ => ⟨hx ▸ List.mem_cons_self, htext⟩
    · rw [h]
      rcases ih (w.load u).1 hus with hrest | ⟨hx, text, hrest⟩
      · rw [hrest]
        exact hload.imp_right fun ⟨hx, htext⟩ => ⟨hx ▸ List.mem_cons_self, htext⟩
      · refine .inr ⟨List.mem_cons_of_mem _ hx, text, ?_⟩
        rcases hload with hload | ⟨rfl, -⟩
        · rw [hrest, hload]
        · exact absurd hx hu

variable {w} in
/-- What installing a text keeps is kept when a unit is loaded. -/
lemma load_induction {P : Workspace → Prop}
    (hreplace : ∀ w u text, P w → P (replace w u text).1) (hw : P w) (u : UnitId) :
    P (w.load u).1 := by
  rcases w.load_cases u with h | ⟨text, h⟩
  · rw [h]
    exact hw
  · rw [h]
    exact hreplace w u text hw

variable {w} in
/-- What installing a text keeps is kept when some units are loaded. -/
lemma loadUnits_induction {P : Workspace → Prop}
    (hreplace : ∀ w u text, P w → P (replace w u text).1) (hw : P w) (us : List UnitId) :
    P (w.loadUnits us).1 := by
  induction us generalizing w with
  | nil => exact hw
  | cons u us ih =>
    have hload := load_induction hreplace hw u
    rcases w.loadUnits_cons u us with h | h
    · rw [h]
      exact hload
    · rw [h]
      exact ih hload

/-- Loading some units leaves the modules alone. -/
lemma modules_loadUnits (us : List UnitId) : (w.loadUnits us).1.modules = w.modules :=
  loadUnits_induction (P := fun w' => w'.modules = w.modules) (fun _ _ _ h => h) rfl us

/-- Loading some units leaves the lists of units alone. -/
lemma members_loadUnits (us : List UnitId) (m : ModuleId) :
    (w.loadUnits us).1.members m = w.members m := by
  rw [members, module?, modules_loadUnits, ← module?, ← members]

end Workspace

end LexicalFront
