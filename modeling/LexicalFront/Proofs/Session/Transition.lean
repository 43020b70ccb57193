import LexicalFront.Proofs.Workspace.Effect
import LexicalFront.Session.Basic
set_option autoImplicit false
set_option relaxedAutoImplicit false

/-!
# What a step of a session does to the workspace

A step is one change of the workspace at most, but for the name of a module: where the name was in
use, the module that it named is dropped when the new one is there. The modules that exist are those
that have a name, and no module has two.

## Main definitions

* `Session.action?` — the change of the workspace that a step asks for.
* `Session.Transition` — what a step may do to the workspace and to the names of modules.
* `Session.WellFormed` — the names of modules and the workspace agree.
* `Session.Reachable` — the sessions that some steps lead to.

## Main results

* `Session.step_transition` — steps do nothing else.
* `Session.Reachable.wellFormed` — the names of modules and the workspace always agree.
* `Session.Reachable.exists_history` — every session has a workspace that some changes lead to.
* `Session.Transition.unit` — what a step does to a unit.
-/

namespace LexicalFront

/-! ## Tables of names -/

namespace Slots

variable {α : Type}

/-- Every name but the erased one keeps its value. -/
lemma get?_erase (t : Slots α) (name n : String) :
    (Slots.erase t name).get? n = if n = name then none else Slots.get? t n := by
  rw [get?, get?, erase]
  induction t with
  | nil => split <;> rfl
  | cons p t ih =>
    rw [List.filter_cons, List.lookup_cons]
    by_cases hp : p.1 = name
    · rw [if_neg (by simp [hp]), ih]
      split
      · rfl
      · next hn => rw [hp, beq_false_of_ne hn]
    · rw [if_pos (by simpa using hp), List.lookup_cons, ih]
      by_cases hn : n = p.1
      · rw [hn, BEq.rfl]
        exact (if_neg hp).symm
      · rw [beq_false_of_ne hn]

/-- The name has its new value, and every other one keeps its value. -/
lemma get?_put (t : Slots α) (name n : String) (a : α) :
    (Slots.put t name a).get? n = if n = name then some a else Slots.get? t n := by
  rw [put, get?, List.lookup_cons]
  by_cases hn : n = name
  · rw [hn, BEq.rfl, if_pos rfl]
  · rw [beq_false_of_ne hn, if_neg hn]
    exact (get?_erase t name n).trans (if_neg hn)

end Slots

namespace Workspace

/-- To ask for the tokens of some units is to ask for those of one after the other. -/
lemma foldl_remember (w : Workspace) (us : List UnitId) :
    us.foldl remember w = w.run (us.map .remember) := by
  induction us generalizing w with
  | nil => rfl
  | cons u us ih => exact ih (w.remember u)

/-- To update the files in memory leaves everything else alone. -/
lemma run_updates (w : Workspace) (us : List MemoryFiles.Update) :
    w.run (us.map .update) = { w with files := us.foldl MemoryFiles.apply w.files } := by
  induction us generalizing w with
  | nil => rfl
  | cons u us ih => exact ih { w with files := w.files.apply u }

/-- To ask for tokens leaves the modules alone. -/
lemma module?_foldl_remember (w : Workspace) (us : List UnitId) (k : ModuleId) :
    (us.foldl remember w).module? k = w.module? k := by
  induction us generalizing w with
  | nil => rfl
  | cons u us ih => exact ih (w.remember u)

/-- To ask for tokens leaves the texts alone. -/
lemma foldl_remember_kept {w : Workspace} {x : UnitId} {v : CompilationUnit}
    (hv : w.unit? x = some v) (us : List UnitId) :
    ∃ v', (us.foldl remember w).unit? x = some v' ∧ v.Kept v' := by
  induction us generalizing w v with
  | nil => exact ⟨v, hv, .refl v⟩
  | cons u us ih =>
    have hu : ∃ v', (w.remember u).unit? x = some v' ∧ v.Kept v' := by
      rw [remember, unit?_modifyUnit, hv]
      split
      · exact ⟨v.remember, rfl, .remember v⟩
      · exact ⟨v, rfl, .refl v⟩
    obtain ⟨v₁, hv₁, hkept⟩ := hu
    obtain ⟨v', hv', hkept'⟩ := ih hv₁
    exact ⟨v', hv', hkept.trans hkept'⟩

end Workspace

namespace Session

variable {s s' : Session} {step : Step}

/-! ## Steps that ask for a change -/

/-- The change that a step on the files asks for. -/
def fileAction? : FileStep → Option Action
  | .write p text => some (.update (.write p text))
  | .makeDir p => some (.update (.makeDir p))
  | .remove p => some (.update (.remove p))
  | _ => none

/-- The change that a step on a module asks for, unless it makes another module. -/
def moduleAction? (s : Session) (m : ModuleId) : ModuleStep → Option Action
  | .addBlankUnit _ => some (.addBlankUnit m)
  | .addUnitAt location _ => some (.addUnitAt m location)
  | .removeUnit unit => (s.units.get? unit).map (.removeUnit m)
  | .setLocation location => some (.setModuleLocation m location)
  | .loadAll => some (.loadAll m)
  | _ => none

/-- The change that a step on a unit asks for, but for remembering its tokens. -/
def unitAction? (u : UnitId) : UnitStep → Option Action
  | .load => some (.load u)
  | .replace text => some (.replace u text)
  | .clear => some (.clear u)
  | .setLocation location => some (.setUnitLocation u location)
  | _ => none

/-- The change of the workspace that a step asks for, but for modules being made or dropped and
tokens being remembered. -/
def action? (s : Session) : Step → Option Action
  | .files step => fileAction? step
  | .onModule name step => (s.modules.get? name).bind (s.moduleAction? · step)
  | .onUnit name step => (s.units.get? name).bind (unitAction? · step)
  | _ => none

/-- No such change makes modules or drops them. -/
lemma keepsModules_of_action? {step : Step} {a : Action} (h : s.action? step = some a) :
    a.keepsModules = true := by
  cases step with
  | files step => cases step <;> cases h <;> rfl
  | onModule name step =>
    obtain ⟨m, -, h⟩ := Option.bind_eq_some_iff.1 h
    cases step with
    | removeUnit unit =>
      obtain ⟨u, -, rfl⟩ := Option.map_eq_some_iff.1 h
      rfl
    | _ => cases h <;> rfl
  | onUnit name step =>
    obtain ⟨u, -, h⟩ := Option.bind_eq_some_iff.1 h
    cases step <;> cases h <;> rfl
  | _ => cases h

/-! ## Steps by name -/

/-- A step on a unit by one of its names. -/
lemma step_onUnit {name : String} {u : UnitId} (hname : s.units.get? name = some u)
    (step : UnitStep) : s.step (.onUnit name step) = s.onUnit u step := by
  rw [Session.step, withUnit, hname]
  rfl

/-- A step on a module by one of its names. -/
lemma step_onModule {name : String} {m : ModuleId} (hname : s.modules.get? name = some m)
    (step : ModuleStep) : s.step (.onModule name step) = s.onModule m step := by
  rw [Session.step, withModule, hname]
  rfl

/-- A step on a unit by a name that is not in use. -/
lemma step_onUnit_of_none {name : String} (hname : s.units.get? name = none)
    (step : UnitStep) : s.step (.onUnit name step) = (s, .noSuchSlot) := by
  rw [Session.step, withUnit, hname]
  rfl

/-- A step on a module by a name that is not in use. -/
lemma step_onModule_of_none {name : String} (hname : s.modules.get? name = none)
    (step : ModuleStep) : s.step (.onModule name step) = (s, .noSuchSlot) := by
  rw [Session.step, withModule, hname]
  rfl

/-! ## Transitions -/

/-- What a step may do to the workspace and to the names of modules. -/
inductive Transition (s : Session) (step : Step) (s' : Session) : Prop where
  /-- The tokens of some units are asked for, or of none. -/
  | quiet (us : List UnitId) (hw : s'.workspace = us.foldl Workspace.remember s.workspace)
    (hm : s'.modules = s.modules)
  /-- The workspace is changed as the step asks for. -/
  | act (a : Action) (ha : s.action? step = some a) (hw : s'.workspace = s.workspace.perform a)
    (hm : s'.modules = s.modules)
  /-- A module is made, and gets a name. -/
  | make (a : Action) (slot : String) (location : Option Path) (source : FileSource)
    (config : Config) (units : List (Option Path × Option String))
    (ha : s.workspace.perform a = (s.workspace.newModule location source config).addUnits
      s.workspace.nextModule units)
    (h : s' = (s.withWorkspace ((s.workspace.newModule location source config).addUnits
      s.workspace.nextModule units)).nameModule slot s.workspace.nextModule)
  /-- A module is dropped, with its name. -/
  | drop (name : String) (m : ModuleId) (hname : s.modules.get? name = some m)
    (hw : s'.workspace = s.workspace.dropModule m) (hm : s'.modules = s.modules.erase name)

/-- What leaves the workspace and the names of modules alone is quiet. -/
lemma Transition.stay (hw : s'.workspace = s.workspace) (hm : s'.modules = s.modules) :
    s.Transition step s' :=
  .quiet [] hw hm

/-- A module that cannot be made leaves everything alone. -/
lemma finishModule_transition {slot : String} {result : Except LexicalError Workspace} {a : Action}
    (ha : s.workspace.perform a = s.workspace.orSelf result)
    (h : ∀ w, result = .ok w → ∃ location source config units,
      w = (s.workspace.newModule location source config).addUnits s.workspace.nextModule units) :
    s.Transition step (s.finishModule slot result).1 := by
  cases result with
  | error e => exact .stay rfl rfl
  | ok w =>
    obtain ⟨location, source, config, units, rfl⟩ := h w rfl
    exact .make a slot location source config units ha rfl

/-- A unit that cannot be made leaves everything alone. -/
lemma finishUnit_transition {slot : String} {result : Except LexicalError Workspace} {a : Action}
    (ha : s.action? step = some a) (h : ∀ w, result = .ok w → s.workspace.perform a = w) :
    s.Transition step (s.finishUnit slot result).1 := by
  cases result with
  | error e => exact .stay rfl rfl
  | ok w => exact .act a ha (h w rfl).symm rfl

/-- An update that is not allowed leaves everything alone. -/
lemma finishUpdate_transition {result : Except LexicalError Workspace} {a : Action}
    (ha : s.action? step = some a) (h : s.workspace.perform a = s.workspace.orSelf result) :
    s.Transition step (s.finishUpdate result).1 := by
  cases result with
  | error e => exact .stay rfl rfl
  | ok w => exact .act a ha h.symm rfl

/-- A configuration that is none leaves everything alone. -/
lemma withConfig_transition {config : Option Json} {f : Config → Session × Reply}
    (h : ∀ c, s.Transition step (f c).1) : s.Transition step (s.withConfig config f).1 := by
  cases config with
  | none => exact h .standard
  | some j =>
    rw [withConfig]
    cases Config.ofJson? j with
    | none => exact .stay rfl rfl
    | some c => exact h c

/-- The steps on the files in memory change nothing else. -/
lemma onFiles_transition (step : FileStep) :
    s.Transition (.files step) (s.onFiles step).1 := by
  cases step with
  | write p text => exact .act (.update (.write p text)) rfl rfl rfl
  | makeDir p => exact .act (.update (.makeDir p)) rfl rfl rfl
  | remove p => exact .act (.update (.remove p)) rfl rfl rfl
  | ask p => exact .stay rfl rfl
  | read p => exact .stay rfl rfl
  | list p =>
    rw [onFiles]
    split <;> exact .stay rfl rfl
  | inspect => exact .stay rfl rfl

/-- The steps on a module that exists.

**Proof sketch.** One case for each step. Steps that only ask leave the workspace alone, but for the
tokens that the summary makes the units remember; the others are the action of the same name, or
make a module. -/
lemma onModule_transition {name : String} {m : ModuleId} (hname : s.modules.get? name = some m)
    (hm : (s.workspace.module? m).isSome = true) (step : ModuleStep) :
    s.Transition (.onModule name step) (s.onModule m step).1 := by
  have haction : s.action? (.onModule name step) = s.moduleAction? m step := by
    rw [action?, hname]
    rfl
  cases step with
  | restore slot config =>
    refine withConfig_transition fun c => finishModule_transition
      (a := .restoreModule .memory (s.workspace.manifest m) c) rfl fun w h => ?_
    obtain ⟨location, units, hw⟩ := Workspace.restoreModule_eq_ok h
    exact ⟨location, _, _, units, hw⟩
  | pickUnit i slot =>
    rw [onModule]
    split <;> exact .stay rfl rfl
  | findUnit location slot =>
    rw [onModule]
    split
    · next i _ =>
      cases (s.workspace.members m)[i]? with
      | none => exact .stay rfl rfl
      | some u => exact .stay rfl rfl
    · exact .stay rfl rfl
  | addBlankUnit slot =>
    refine finishUnit_transition haction fun w h => ?_
    rw [← Except.ok.inj h, Workspace.perform, if_pos hm]
  | addUnitAt location slot =>
    refine finishUnit_transition haction fun w h => ?_
    rw [Workspace.perform, if_pos hm, h]
    rfl
  | removeUnit unit =>
    rw [onModule, withUnit]
    cases hunit : s.units.get? unit with
    | none => exact .stay rfl rfl
    | some u =>
      exact .act (.removeUnit m u) (haction.trans (by rw [moduleAction?, hunit]; rfl)) rfl rfl
  | owns unit =>
    rw [onModule, withUnit]
    cases s.units.get? unit with
    | none => exact .stay rfl rfl
    | some u => exact .stay rfl rfl
  | setLocation location =>
    exact finishUpdate_transition haction rfl
  | loadAll =>
    have hload : (s.onModule m .loadAll).1 = s.withWorkspace (s.workspace.loadAll m).1 := by
      rw [onModule]
      rcases s.workspace.loadAll m with ⟨w, e | n⟩
      · rfl
      · rfl
    rw [hload]
    exact .act (.loadAll m) haction rfl rfl
  | summary => exact .quiet (s.workspace.members m) rfl rfl
  | _ => exact .stay rfl rfl

/-- The steps on a unit.

**Proof sketch.** One case for each step. Loading, replacing, clearing and moving are the action of
the same name. The steps that look at tokens make the unit remember them, and the others leave it
alone. -/
lemma onUnit_transition {name : String} {u : UnitId} (hname : s.units.get? name = some u)
    (step : UnitStep) : s.Transition (.onUnit name step) (s.onUnit u step).1 := by
  have haction : s.action? (.onUnit name step) = unitAction? u step := by
    rw [action?, hname]
    rfl
  cases step with
  | load =>
    have hload : (s.onUnit u .load).1 = s.withWorkspace (s.workspace.load u).1 := by
      rw [onUnit]
      rcases s.workspace.load u with ⟨w, e | changed⟩
      · rfl
      · rfl
    rw [hload]
    exact .act (.load u) haction rfl rfl
  | replace text => exact .act (.replace u text) haction rfl rfl
  | clear => exact .act (.clear u) haction rfl rfl
  | tokens => exact .quiet [u] rfl rfl
  | shareTokens => exact .quiet [u] rfl rfl
  | snapshot => exact .quiet [u] rfl rfl
  | setLocation location =>
    exact finishUpdate_transition haction rfl
  | reference index slot =>
    rw [onUnit]
    split
    · split
      · exact .stay rfl rfl
      · exact .quiet [u] rfl rfl
    · split
      · exact .stay rfl rfl
      · exact .quiet [u] rfl rfl
  | _ => exact .stay rfl rfl

/-- The steps on a handle. -/
lemma onHandle_transition (name : String) (h : Handle) (step : HandleStep) :
    s.Transition (.onHandle name step) (s.onHandle h step).1 := by
  cases step with
  | unit slot =>
    rw [onHandle]
    split <;> exact .stay rfl rfl
  | resolve slot =>
    rw [onHandle]
    cases s.workspace.isValid h with
    | false =>
      cases s.workspace.resolve h with
      | error e => exact .stay rfl rfl
      | ok token => cases slot <;> exact .stay rfl rfl
    | true =>
      cases s.workspace.resolve h with
      | error e => exact .quiet [h.unit] rfl rfl
      | ok token => cases slot <;> exact .quiet [h.unit] rfl rfl
  | _ => exact .stay rfl rfl

/-- Where the named modules exist, a step does nothing else to the workspace.

**Proof sketch.** One case for each kind of step. Making a module, from a directory or from a
record, is a module with its units or an error that changes nothing. A name that is not in the table
changes nothing either, and under a name that is, the steps on a module, a unit and a handle have
their own lemmas. -/
theorem step_transition (hs : ∀ name m, s.modules.get? name = some m →
    (s.workspace.module? m).isSome = true) (step : Step) : s.Transition step (s.step step).1 := by
  cases step with
  | files step => exact onFiles_transition step
  | newModule source slot =>
    refine finishModule_transition (a := .newModule source) rfl fun w h =>
      ⟨none, source, .standard, [], ?_⟩
    exact (Except.ok.inj h).symm
  | openModule source dir slot config =>
    refine withConfig_transition fun c => finishModule_transition
      (a := .openModule source dir c) rfl fun w h => ?_
    obtain ⟨location, units, hw⟩ := Workspace.openModule_eq_ok h
    exact ⟨location, source, c, units, hw⟩
  | restoreModule manifest slot config =>
    rw [Session.step]
    cases ModuleManifest.ofJson? manifest with
    | none => exact .stay rfl rfl
    | some x =>
      refine withConfig_transition fun c => finishModule_transition
        (a := .restoreModule .memory x c) rfl fun w h => ?_
      obtain ⟨location, units, hw⟩ := Workspace.restoreModule_eq_ok h
      exact ⟨location, .memory, c, units, hw⟩
  | dropModule name =>
    rw [Session.step]
    cases hname : s.modules.get? name with
    | none => exact .stay rfl rfl
    | some m => exact .drop name m hname rfl rfl
  | dropUnit name => exact .stay rfl rfl
  | onModule name step =>
    cases hname : s.modules.get? name with
    | none =>
      rw [step_onModule_of_none hname]
      exact .stay rfl rfl
    | some m =>
      rw [step_onModule hname]
      exact onModule_transition hname (hs name m hname) step
  | onUnit name step =>
    cases hname : s.units.get? name with
    | none =>
      rw [step_onUnit_of_none hname]
      exact .stay rfl rfl
    | some u =>
      rw [step_onUnit hname]
      exact onUnit_transition hname step
  | onHandle name step =>
    rw [Session.step, withHandle]
    cases s.handles.get? name with
    | none => exact .stay rfl rfl
    | some h => exact onHandle_transition name h step
  | onToken name step => cases step <;> exact .stay rfl rfl

/-! ## Names of modules -/

/-- The names of modules and the workspace agree. -/
structure WellFormed (s : Session) : Prop where
  /-- The workspace is well-formed. -/
  workspace : s.workspace.WellFormed
  /-- The modules that exist are those that have a name. -/
  named : ∀ m, (∃ name, s.modules.get? name = some m) ↔ (s.workspace.module? m).isSome = true
  /-- No module has two names. -/
  distinct : ∀ name name' m, s.modules.get? name = some m → s.modules.get? name' = some m →
    name = name'

/-- The names agree with the workspace at the start. -/
lemma WellFormed.start (outside : FileSystem) (files : List (Path × String)) :
    (Session.start outside files).WellFormed where
  workspace := (Workspace.WellFormed.empty outside).files _
  named := fun _ => ⟨nofun, nofun⟩
  distinct := nofun

/-- Where neither the names nor the modules change, they still agree. -/
lemma WellFormed.of_modules_eq (hs : s.WellFormed) (hw : s'.workspace.WellFormed)
    (hmodule : ∀ k, (s'.workspace.module? k).isSome = (s.workspace.module? k).isSome)
    (hm : s'.modules = s.modules) : s'.WellFormed where
  workspace := hw
  named := fun m => by
    rw [hm, hmodule]
    exact hs.named m
  distinct := by
    rw [hm]
    exact hs.distinct

/-- To name a module is to drop the one that had the name. -/
lemma nameModule_workspace (s : Session) (slot : String) (m : ModuleId) :
    (s.nameModule slot m).workspace =
      (s.modules.get? slot).elim s.workspace s.workspace.dropModule := rfl

/-- The modules that exist after a module has got a name. -/
lemma isSome_module?_nameModule (s : Session) (slot : String) (m k : ModuleId) :
    ((s.nameModule slot m).workspace.module? k).isSome = true ↔
      s.modules.get? slot ≠ some k ∧ (s.workspace.module? k).isSome = true := by
  rw [nameModule_workspace]
  cases s.modules.get? slot with
  | none => exact ⟨fun h => ⟨nofun, h⟩, fun h => h.2⟩
  | some old =>
    show ((s.workspace.dropModule old).module? k).isSome = true ↔ _
    rw [Workspace.module?_dropModule]
    split
    · next heq => exact ⟨nofun, fun h => absurd (congrArg some heq) h.1⟩
    · next hne => exact ⟨fun h => ⟨fun heq => hne (Option.some.inj heq), h⟩, fun h => h.2⟩

/-- A module that is made gets its name, and the module that had the name before is dropped.

**Proof sketch.** The workspace is well-formed by adding units to a new module, and then by dropping
the module that had the name. The number of the new module is fresh, so no other name has it, and
the name is one that no other module keeps: both directions of `named`, and `distinct`, split on
whether the name is the one that was given. -/
lemma WellFormed.make (hs : s.WellFormed) (slot : String) (location : Option Path)
    (source : FileSource) (config : Config) (units : List (Option Path × Option String)) :
    ((s.withWorkspace ((s.workspace.newModule location source config).addUnits
      s.workspace.nextModule units)).nameModule slot s.workspace.nextModule).WellFormed := by
  have hw := hs.workspace.newModule_addUnits location source config units
  have hnew (k : ModuleId) (hk : (s.workspace.module? k).isSome = true) :
      s.workspace.nextModule ≠ k := Workspace.ne_nextModule hk
  refine ⟨?_, ?_, ?_⟩
  · rw [nameModule_workspace]
    show ((s.modules.get? slot).elim _ _ : Workspace).WellFormed
    cases s.modules.get? slot with
    | none => exact hw
    | some m => exact hw.dropModule m
  · intro k
    rw [isSome_module?_nameModule, nameModule, withWorkspace,
      Workspace.isSome_module?_newModule_addUnits]
    simp only [Slots.get?_put]
    constructor
    · rintro ⟨name, hname⟩
      split at hname
      · obtain rfl := Option.some.inj hname
        exact ⟨fun h => hnew _ ((hs.named _).1 ⟨slot, h⟩) rfl, .inl rfl⟩
      · next hne =>
        exact ⟨fun h => hne (hs.distinct name slot k hname h), .inr ((hs.named k).1 ⟨name, hname⟩)⟩
    · rintro ⟨hslot, rfl | hk⟩
      · exact ⟨slot, if_pos rfl⟩
      · obtain ⟨name, hname⟩ := (hs.named k).2 hk
        refine ⟨name, (if_neg ?_).trans hname⟩
        rintro rfl
        exact hslot hname
  · intro name name' k h h'
    rw [nameModule, Slots.get?_put] at h h'
    have hfresh (name : String) : s.modules.get? name ≠ some s.workspace.nextModule :=
      fun h => hnew _ ((hs.named _).1 ⟨name, h⟩) rfl
    split at h
    · next hname =>
      obtain rfl := Option.some.inj h
      split at h'
      · next hname' => exact hname.trans hname'.symm
      · exact absurd h' (hfresh name')
    · split at h'
      · obtain rfl := Option.some.inj h'
        exact absurd h (hfresh name)
      · exact hs.distinct name name' k h h'

/-- A module that is dropped loses its name.

**Proof sketch.** Dropping the module keeps the workspace well-formed. The module loses its one
name, and by `distinct` no other name leads to it, so that the names that are left are those of the
modules that are left. -/
lemma WellFormed.drop (hs : s.WellFormed) {name : String} {m : ModuleId}
    (hname : s.modules.get? name = some m) (hw : s'.workspace = s.workspace.dropModule m)
    (hm : s'.modules = s.modules.erase name) : s'.WellFormed := by
  refine ⟨?_, ?_, ?_⟩
  · rw [hw]
    exact hs.workspace.dropModule m
  · intro k
    rw [hw, hm, Workspace.module?_dropModule]
    simp only [Slots.get?_erase]
    constructor
    · rintro ⟨n, hn⟩
      split at hn
      · exact absurd hn nofun
      · next hne =>
        rw [if_neg]
        · exact (hs.named k).1 ⟨n, hn⟩
        · rintro rfl
          exact hne (hs.distinct n name m hn hname)
    · intro hk
      split at hk
      · exact absurd hk nofun
      · next hne =>
        obtain ⟨n, hn⟩ := (hs.named k).2 hk
        refine ⟨n, (if_neg ?_).trans hn⟩
        rintro rfl
        exact hne (Option.some.inj (hname.symm.trans hn))
  · intro n n' k h h'
    rw [hm, Slots.get?_erase] at h h'
    split at h
    · exact absurd h nofun
    · split at h'
      · exact absurd h' nofun
      · exact hs.distinct n n' k h h'

/-- The names agree with the workspace after each step. -/
theorem Transition.wellFormed (h : s.Transition step s') (hs : s.WellFormed) : s'.WellFormed := by
  cases h with
  | quiet us hw hm =>
    refine hs.of_modules_eq ?_ ?_ hm
    · rw [hw, Workspace.foldl_remember]
      exact hs.workspace.run _
    · intro k
      rw [hw, Workspace.module?_foldl_remember]
  | act a ha hw hm =>
    refine hs.of_modules_eq ?_ ?_ hm
    · rw [hw]
      exact hs.workspace.perform a
    · intro k
      rw [hw]
      exact Workspace.isSome_module?_perform (keepsModules_of_action? ha) k
  | make a slot location source config units ha h =>
    rw [h]
    exact hs.make slot location source config units
  | drop name m hname hw hm => exact hs.drop hname hw hm

/-- The names agree with the workspace after all steps. -/
theorem WellFormed.run (hs : s.WellFormed) (steps : List Step) : (s.run steps).WellFormed := by
  induction steps generalizing s with
  | nil => exact hs
  | cons step steps ih =>
    have hstep := step_transition (fun name m h => (hs.named m).1 ⟨name, h⟩) step
    exact ih (hstep.wellFormed hs)

/-- The sessions that some steps lead to. -/
def Reachable (s : Session) : Prop :=
  ∃ outside files steps, s = (Session.start outside files).run steps

/-- The names agree with the workspace whatever has been done. -/
theorem Reachable.wellFormed (hs : s.Reachable) : s.WellFormed := by
  obtain ⟨outside, files, steps, rfl⟩ := hs
  exact (WellFormed.start outside files).run steps

/-! ## Histories -/

/-- A step is some changes of the workspace, one after the other. -/
lemma Transition.exists_actions (h : s.Transition step s') :
    ∃ actions, s'.workspace = s.workspace.run actions := by
  cases h with
  | quiet us hw hm => exact ⟨us.map .remember, hw.trans (Workspace.foldl_remember _ us)⟩
  | act a ha hw hm => exact ⟨[a], hw⟩
  | make a slot location source config units ha h =>
    rw [h, nameModule_workspace]
    show ∃ actions, (s.modules.get? slot).elim _ _ = s.workspace.run actions
    cases s.modules.get? slot with
    | none => exact ⟨[a], ha.symm⟩
    | some m => exact ⟨[a, .dropModule m], congrArg (Workspace.dropModule · m) ha.symm⟩
  | drop name m hname hw hm => exact ⟨[.dropModule m], hw⟩

/-- Some steps are some changes of the workspace, one after the other. -/
lemma WellFormed.exists_actions (hs : s.WellFormed) (steps : List Step) :
    ∃ actions, (s.run steps).workspace = s.workspace.run actions := by
  induction steps generalizing s with
  | nil => exact ⟨[], rfl⟩
  | cons step steps ih =>
    have hstep := step_transition (fun name m h => (hs.named m).1 ⟨name, h⟩) step
    obtain ⟨first, hfirst⟩ := hstep.exists_actions
    obtain ⟨rest, hrest⟩ := ih (hstep.wellFormed hs)
    refine ⟨first ++ rest, ?_⟩
    rw [Workspace.run, List.foldl_append]
    exact hrest.trans (congrArg (Workspace.run · rest) hfirst)

/-- What is so after every sequence of changes is so whatever has been done in a session. -/
theorem Reachable.exists_history (hs : s.Reachable) :
    ∃ outside actions, s.workspace = Workspace.ofHistory outside actions := by
  obtain ⟨outside, files, steps, rfl⟩ := hs
  obtain ⟨actions, hactions⟩ := (WellFormed.start outside files).exists_actions steps
  let updates : List MemoryFiles.Update := files.map fun f => .write f.1 f.2
  have hstart := Workspace.run_updates (.empty outside) updates
  refine ⟨outside, updates.map .update ++ actions, ?_⟩
  rw [Workspace.ofHistory, Workspace.run, List.foldl_append]
  exact hactions.trans (congrArg (Workspace.run · actions) hstart.symm)

/-! ## Units -/

/-- A step leaves a unit as it is, or retires it, or does to it what the step asks for.

**Proof sketch.** By the kind of the transition. Remembering keeps the unit, an action does to it
what it says (`perform_does`), and a module that is made adds units beside it. The unit is retired
where its module is dropped, on request or because another module gets the name. -/
theorem Transition.unit (h : s.Transition step s') (hs : s.WellFormed) {x : UnitId}
    {v : CompilationUnit} (hv : s.workspace.unit? x = some v) :
    ∃ v', s'.workspace.unit? x = some v' ∧
      (v.Kept v' ∨ v' = v.retire ∨ ∃ a, s.action? step = some a ∧ a.Does x v v') := by
  have hdrop {w : Workspace} (hv : w.unit? x = some v) (m : ModuleId) :
      ∃ v', (w.dropModule m).unit? x = some v' ∧
        (v.Kept v' ∨ v' = v.retire ∨ ∃ a, s.action? step = some a ∧ a.Does x v v') := by
    rcases Workspace.unit?_dropModule_cases hv m with hv' | hv'
    · exact ⟨v.retire, hv', .inr (.inl rfl)⟩
    · exact ⟨v, hv', .inl (.refl v)⟩
  cases h with
  | quiet us hw hm =>
    rw [hw]
    obtain ⟨v', hv', hkept⟩ := Workspace.foldl_remember_kept hv us
    exact ⟨v', hv', .inl hkept⟩
  | act a ha hw hm =>
    rw [hw]
    obtain ⟨v', hv', hdoes⟩ := Workspace.perform_does hs.workspace hv a
    exact ⟨v', hv', .inr (.inr ⟨a, ha, hdoes⟩)⟩
  | make a slot location source config units ha h =>
    have hnew := Workspace.unit?_newModule_addUnits hv location source config units
    rw [h, nameModule_workspace]
    show ∃ v', ((s.modules.get? slot).elim _ _ : Workspace).unit? x = some v' ∧ _
    cases s.modules.get? slot with
    | none => exact ⟨v, hnew, .inl (.refl v)⟩
    | some m => exact hdrop hnew m
  | drop name m hname hw hm =>
    rw [hw]
    exact hdrop hv m

/-- A step does to the text and the generation of a unit what one operation does, if anything. -/
theorem Transition.touched (h : s.Transition step s') (hs : s.WellFormed) {x : UnitId}
    {v : CompilationUnit} (hv : s.workspace.unit? x = some v) :
    ∃ v', s'.workspace.unit? x = some v' ∧ v.Touched v' := by
  obtain ⟨v', hv', hkept | rfl | ⟨a, -, hdoes⟩⟩ := h.unit hs hv
  · exact ⟨v', hv', .kept hkept⟩
  · exact ⟨v.retire, hv', CompilationUnit.Becomes.retire.touched⟩
  · exact ⟨v', hv', hdoes.becomes.touched⟩

/-- A retired unit stays retired. -/
theorem Transition.retired (h : s.Transition step s') (hs : s.WellFormed) {x : UnitId}
    {v : CompilationUnit} (hv : s.workspace.unit? x = some v) (hretired : v.retired = true) :
    ∃ v', s'.workspace.unit? x = some v' ∧ v'.retired = true := by
  obtain ⟨v', hv', hkept | rfl | ⟨a, -, hdoes⟩⟩ := h.unit hs hv
  · exact ⟨v', hv', hkept.retired.trans hretired⟩
  · exact ⟨v.retire, hv', v.retired_retire⟩
  · exact ⟨v', hv', hdoes.becomes.retired hretired⟩

end Session

end LexicalFront
