import LexicalFront.Proofs.Workspace.WellFormed
set_option autoImplicit false
set_option relaxedAutoImplicit false

/-!
# What a change of a workspace does to each unit

A change of a workspace may be about many units, as that of loading a whole module or of dropping
it. For each unit it is still one operation at most, and no unit is ever forgotten.

## Main definitions

* `Action.Does` — what a change may do to a unit, and which changes may do it.

## Main results

* `Workspace.perform_does` — no change does anything else to a unit.
* `Workspace.perform_new` — how a unit begins.
* `Workspace.isSome_module?_perform` — which modules there are.
-/

namespace LexicalFront

namespace Action

/-- The changes after which there are the same modules as before. -/
def keepsModules : Action → Bool
  | newModule _ => false
  | openModule _ _ _ => false
  | restoreModule _ _ _ => false
  | dropModule _ => false
  | _ => true

/-- The changes that install texts in units. -/
def installs : Action → Bool
  | replace _ _ => true
  | load _ => true
  | loadAll _ => true
  | _ => false

/-- What a change may do to a unit: a text is installed only by a change that installs texts, which
retires no unit, and it is taken away only by the change that takes away the text of this unit. -/
inductive Does (a : Action) (x : UnitId) (v : CompilationUnit) : CompilationUnit → Prop where
  | same : Does a x v v
  | remember : Does a x v v.remember
  | relocate (location : Option Path) : Does a x v { v with location := location }
  | replace (text : String) (ha : a.installs = true) : Does a x v (v.replace text).1
  | clear (ha : a = .clear x) : Does a x v v.clear
  | retire (ha : a.installs = false) : Does a x v v.retire

/-- What a change does is one operation on the unit. -/
lemma Does.becomes {a : Action} {x : UnitId} {v v' : CompilationUnit} (h : a.Does x v v') :
    v.Becomes v' := by
  cases h with
  | same => exact .same
  | remember => exact .remember
  | relocate location => exact .relocate location
  | replace text ha => exact .replace text
  | clear ha => exact .clear
  | retire ha => exact .retire

end Action

namespace Workspace

variable {w : Workspace} {x : UnitId} {v : CompilationUnit} {a : Action}

/-! ## Units that exist -/

/-- An operation on one unit, as the other units see it. -/
lemma modifyUnit_does (hv : w.unit? x = some v) (u : UnitId)
    {f : CompilationUnit → CompilationUnit} (hf : u = x → a.Does x v (f v)) :
    ∃ v', (w.modifyUnit u f).unit? x = some v' ∧ a.Does x v v' := by
  rw [unit?_modifyUnit, hv]
  split
  · next hux => exact ⟨f v, rfl, hf hux⟩
  · exact ⟨v, rfl, .same⟩

/-- Of a change that may fail it is enough to know what it does if it does not. -/
lemma orSelf_does (hv : w.unit? x = some v) {result : Except LexicalError Workspace}
    (h : ∀ w', result = .ok w' → ∃ v', w'.unit? x = some v' ∧ a.Does x v v') :
    ∃ v', (w.orSelf result).unit? x = some v' ∧ a.Does x v v' := by
  cases result with
  | error e => exact ⟨v, hv, .same⟩
  | ok w' => exact h w' rfl

/-- Dropping a module retires its units. -/
lemma unit?_dropModule_cases (hv : w.unit? x = some v) (m : ModuleId) :
    (w.dropModule m).unit? x = some v.retire ∨ (w.dropModule m).unit? x = some v := by
  rw [unit?_dropModule, hv]
  split
  · exact .inl rfl
  · exact .inr rfl

/-- A change does to a unit one operation at most, and which one depends on the change.

**Proof sketch.** Most changes are about one unit or about new ones. Of a module that is loaded no
unit is loaded twice, since the list names each of them once; and to retire a unit again, should the
list name it twice, would do nothing. -/
theorem perform_does (hw : w.WellFormed) (hv : w.unit? x = some v) (a : Action) :
    ∃ v', (w.perform a).unit? x = some v' ∧ a.Does x v v' := by
  cases a with
  | update u => exact ⟨v, hv, .same⟩
  | newModule source => exact ⟨v, hv, .same⟩
  | openModule source dir config =>
    refine orSelf_does hv fun w' h => ?_
    obtain ⟨location, units, rfl⟩ := openModule_eq_ok h
    exact ⟨v, unit?_newModule_addUnits hv location source config units, .same⟩
  | restoreModule source manifest config =>
    refine orSelf_does hv fun w' h => ?_
    obtain ⟨location, units, rfl⟩ := restoreModule_eq_ok h
    exact ⟨v, unit?_newModule_addUnits hv location source config units, .same⟩
  | dropModule m =>
    rcases unit?_dropModule_cases hv m with h | h
    · exact ⟨v.retire, h, .retire rfl⟩
    · exact ⟨v, h, .same⟩
  | addBlankUnit m =>
    rw [perform]
    split
    · exact ⟨v, unit?_addUnit_of_some hv m none none, .same⟩
    · exact ⟨v, hv, .same⟩
  | addUnitAt m location =>
    rw [perform]
    split
    · refine orSelf_does hv fun w' h => ?_
      obtain rfl := addUnitAt_eq_ok h
      exact ⟨v, unit?_addUnit_of_some hv m (some location) none, .same⟩
    · exact ⟨v, hv, .same⟩
  | removeUnit m u =>
    rw [perform, unit?_removeUnit, hv]
    split
    · exact ⟨v.retire, rfl, .retire rfl⟩
    · exact ⟨v, rfl, .same⟩
  | setModuleLocation m location =>
    refine orSelf_does hv fun w' h => ?_
    obtain rfl := setModuleLocation_eq_ok h
    exact ⟨v, hv, .same⟩
  | setUnitLocation u location =>
    refine orSelf_does hv fun w' h => ?_
    obtain rfl := setUnitLocation_eq_ok h
    exact modifyUnit_does hv u fun _ => .relocate location
  | replace u text => exact modifyUnit_does hv u fun _ => .replace text rfl
  | clear u => exact modifyUnit_does hv u fun hux => .clear (congrArg Action.clear hux)
  | load u =>
    rw [perform]
    rcases w.load_cases u with h | ⟨text, h⟩
    · rw [h]
      exact ⟨v, hv, .same⟩
    · rw [h]
      exact modifyUnit_does hv u fun _ => .replace text rfl
  | loadAll m =>
    rw [perform, loadAll]
    rcases w.unit?_loadUnits ((hw.nodup m).filter w.isFileBacked) x with h | ⟨-, text, h⟩
    · rw [h]
      exact ⟨v, hv, .same⟩
    · rw [h, hv]
      exact ⟨(v.replace text).1, rfl, .replace text rfl⟩
  | remember u => exact modifyUnit_does hv u fun _ => .remember

/-! ## New units -/

/-- A unit that a change makes is at the first generation, and it is not retired.

**Proof sketch.** One case for each change that neither makes nor drops modules. Two of them add one
unit, which is new; all others only modify units that are there, so that where there was no unit
there is none. -/
theorem perform_new (hw : w.WellFormed) (ha : a.keepsModules = true) (hx : w.unit? x = none)
    (hv : (w.perform a).unit? x = some v) : v.generation = 0 ∧ v.retired = false := by
  -- a change of one unit makes none
  have hmodify (u : UnitId) (f : CompilationUnit → CompilationUnit) :
      (w.modifyUnit u f).unit? x = none := by
    simp [unit?_modifyUnit, hx]
  have hadd (m : ModuleId) (location : Option Path)
      (h : (w.addUnit m location none).unit? x = some v) :
      v.generation = 0 ∧ v.retired = false := by
    rw [unit?_addUnit, hx] at h
    split at h
    · obtain rfl := Option.some.inj h
      exact ⟨rfl, rfl⟩
    · exact absurd h nofun
  have hno (h : (w.perform a).unit? x = none) : v.generation = 0 ∧ v.retired = false :=
    absurd (h.symm.trans hv) nofun
  cases a with
  | newModule source => exact absurd ha nofun
  | openModule source dir config => exact absurd ha nofun
  | restoreModule source manifest config => exact absurd ha nofun
  | dropModule m => exact absurd ha nofun
  | update u => exact hno hx
  | addBlankUnit m =>
    rw [perform] at hv
    split at hv
    · exact hadd m none hv
    · exact absurd (hx.symm.trans hv) nofun
  | addUnitAt m location =>
    rw [perform] at hv
    split at hv
    · cases hresult : w.addUnitAt m location with
      | error e =>
        rw [hresult] at hv
        exact absurd (hx.symm.trans hv) nofun
      | ok w' =>
        rw [hresult, addUnitAt_eq_ok hresult] at hv
        exact hadd m (some location) hv
    · exact absurd (hx.symm.trans hv) nofun
  | removeUnit m u =>
    apply hno
    rw [perform, unit?_removeUnit, hx]
    simp
  | setModuleLocation m location =>
    apply hno
    rw [perform]
    cases hresult : w.setModuleLocation m location with
    | error e => exact hx
    | ok w' =>
      rw [setModuleLocation_eq_ok hresult]
      exact hx
  | setUnitLocation u location =>
    apply hno
    rw [perform]
    cases hresult : w.setUnitLocation u location with
    | error e => exact hx
    | ok w' =>
      rw [setUnitLocation_eq_ok hresult]
      exact hmodify u _
  | replace u text => exact hno (hmodify u _)
  | clear u => exact hno (hmodify u _)
  | load u =>
    apply hno
    rw [perform]
    rcases w.load_cases u with h | ⟨text, h⟩
    · rw [h]
      exact hx
    · rw [h]
      exact hmodify u _
  | loadAll m =>
    apply hno
    rw [perform, loadAll]
    rcases w.unit?_loadUnits ((hw.nodup m).filter w.isFileBacked) x with h | ⟨-, text, h⟩
    · rw [h]
      exact hx
    · rw [h, hx]
      rfl
  | remember u => exact hno (hmodify u _)

/-! ## Modules -/

/-- Of a change that may fail it is enough to know which modules there are if it does not. -/
lemma isSome_module?_orSelf {result : Except LexicalError Workspace} {k : ModuleId}
    (h : ∀ w', result = .ok w' → (w'.module? k).isSome = (w.module? k).isSome) :
    ((w.orSelf result).module? k).isSome = (w.module? k).isSome := by
  cases result with
  | error e => rfl
  | ok w' => exact h w' rfl

/-- Most changes neither make modules nor drop them.

**Proof sketch.** One case for each change. To add a unit and to move a module modify an entry of
the table of modules, and the other changes do not touch the table. -/
theorem isSome_module?_perform (ha : a.keepsModules = true) (k : ModuleId) :
    ((w.perform a).module? k).isSome = (w.module? k).isSome := by
  cases a with
  | newModule source => exact absurd ha nofun
  | openModule source dir config => exact absurd ha nofun
  | restoreModule source manifest config => exact absurd ha nofun
  | dropModule m => exact absurd ha nofun
  | addBlankUnit m =>
    rw [perform]
    split
    · exact w.isSome_module?_addUnit m k none none
    · rfl
  | addUnitAt m location =>
    rw [perform]
    split
    · refine isSome_module?_orSelf fun w' h => ?_
      obtain rfl := addUnitAt_eq_ok h
      exact w.isSome_module?_addUnit m k (some location) none
    · rfl
  | removeUnit m u => exact w.isSome_module?_removeUnit m u k
  | setModuleLocation m location =>
    refine isSome_module?_orSelf fun w' h => ?_
    obtain rfl := setModuleLocation_eq_ok h
    exact w.isSome_module?_modifyModule m k _
  | setUnitLocation u location =>
    refine isSome_module?_orSelf fun w' h => ?_
    obtain rfl := setUnitLocation_eq_ok h
    rfl
  | load u =>
    rw [perform]
    rcases w.load_cases u with h | ⟨text, h⟩
    · rw [h]
    · rw [h]
      rfl
  | loadAll m => rw [perform, loadAll, module?, modules_loadUnits, module?]
  | update u => rfl
  | replace u text => rfl
  | clear u => rfl
  | remember u => rfl

end Workspace

end LexicalFront
