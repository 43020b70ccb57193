import LexicalFront.Proofs.CompilationUnit
import LexicalFront.Proofs.Workspace.Lookup
import LexicalFront.Workspace.Action
set_option autoImplicit false
set_option relaxedAutoImplicit false

/-!
# Well-formed workspaces

A unit is in the list of the module that it was made for until it is retired, once and in no other
list. This module shows that it is so whatever is done to a workspace.

## Main definitions

* `Workspace.WellFormed` — the lists of the modules and what their units say of themselves agree.

## Main results

* `Workspace.WellFormed.perform`, `Workspace.WellFormed.run` — no change makes them disagree.
-/

namespace LexicalFront

namespace Workspace

/-- The lists of the modules and what the units say of themselves agree. -/
structure WellFormed (w : Workspace) : Prop where
  /-- A listed unit exists, was made for the module, and is not retired. -/
  member : ∀ {m : ModuleId} {u : UnitId}, u ∈ w.members m →
    ∃ v, w.unit? u = some v ∧ v.owner = m ∧ v.retired = false
  /-- No unit is listed twice. -/
  nodup : ∀ m : ModuleId, (w.members m).Nodup
  /-- A unit that is not retired is listed by the module that it was made for. -/
  home : ∀ {u : UnitId} {v : CompilationUnit}, w.unit? u = some v → v.retired = false →
    u ∈ w.members v.owner
  /-- All units are consistent. -/
  consistent : ∀ {u : UnitId} {v : CompilationUnit}, w.unit? u = some v → v.Consistent

namespace WellFormed

variable {w w' : Workspace}

/-- Nothing is wrong with nothing. -/
lemma empty (outside : FileSystem) : (Workspace.empty outside).WellFormed :=
  ⟨nofun, fun _ => List.nodup_nil, nofun, nofun⟩

/-- The files do not matter. -/
lemma files (hw : w.WellFormed) (files : MemoryFiles) : { w with files := files }.WellFormed :=
  ⟨hw.member, hw.nodup, hw.home, hw.consistent⟩

/-- A workspace is well-formed if each unit has become what an operation other than retiring makes
of it, and the lists have stayed.

**Proof sketch.** The lists are the same, and each unit is what it was but for its text, its tokens
and its location. So the owner and the mark of being retired are kept, which is all that the lists
speak of, and a consistent unit stays consistent. -/
lemma of_becomes (hw : w.WellFormed)
    (hunit : ∀ x, (w'.unit? x = none ∧ w.unit? x = none) ∨
      ∃ v v', w.unit? x = some v ∧ w'.unit? x = some v' ∧ v.Becomes v' ∧ v'.retired = v.retired)
    (hmembers : ∀ k, w'.members k = w.members k) : w'.WellFormed := by
  have hsome {x : UnitId} {v' : CompilationUnit} (h : w'.unit? x = some v') :
      ∃ v, w.unit? x = some v ∧ v.Becomes v' ∧ v'.retired = v.retired := by
    rcases hunit x with ⟨hnone, -⟩ | ⟨v, v'', hv, hv'', hbecomes, hretired⟩
    · exact absurd (hnone.symm.trans h) nofun
    · obtain rfl := Option.some.inj (hv''.symm.trans h)
      exact ⟨v, hv, hbecomes, hretired⟩
  refine ⟨?_, ?_, ?_, ?_⟩
  · intro m u hu
    rw [hmembers] at hu
    obtain ⟨v, hv, howner, hretired⟩ := hw.member hu
    rcases hunit u with ⟨-, hnone⟩ | ⟨v₁, v', hv₁, hv', hbecomes, hsame⟩
    · exact absurd (hnone.symm.trans hv) nofun
    · obtain rfl := Option.some.inj (hv₁.symm.trans hv)
      exact ⟨v', hv', hbecomes.owner_eq.trans howner, hsame.trans hretired⟩
  · intro m
    rw [hmembers]
    exact hw.nodup m
  · intro u v' hv' hretired
    obtain ⟨v, hv, hbecomes, hsame⟩ := hsome hv'
    rw [hmembers, hbecomes.owner_eq]
    exact hw.home hv (hsame.symm.trans hretired)
  · intro u v' hv'
    obtain ⟨v, hv, hbecomes, -⟩ := hsome hv'
    exact hbecomes.consistent (hw.consistent hv)

/-- A unit may be changed by an operation other than retiring. -/
lemma modifyUnit (hw : w.WellFormed) (u : UnitId) {f : CompilationUnit → CompilationUnit}
    (hf : ∀ v : CompilationUnit, v.Becomes (f v)) (hretired : ∀ v, (f v).retired = v.retired) :
    (w.modifyUnit u f).WellFormed := by
  refine hw.of_becomes ?_ (fun k => rfl)
  intro x
  rw [unit?_modifyUnit]
  cases hv : w.unit? x with
  | none =>
    refine .inl ⟨?_, rfl⟩
    split
    · rfl
    · rfl
  | some v =>
    refine .inr ⟨v, if u = x then f v else v, rfl, ?_, ?_, ?_⟩
    · split
      · rfl
      · rfl
    · split
      · exact hf v
      · exact .same
    · split
      · exact hretired v
      · rfl

/-- A module may be moved. -/
lemma modifyModule (hw : w.WellFormed) (m : ModuleId) {f : LexicalModule → LexicalModule}
    (hf : ∀ state, (f state).members = state.members) : (w.modifyModule m f).WellFormed := by
  refine hw.of_becomes ?_ ?_
  · intro x
    rw [unit?_modifyModule]
    cases w.unit? x with
    | none => exact .inl ⟨rfl, rfl⟩
    | some v => exact .inr ⟨v, v, rfl, rfl, .same, rfl⟩
  · intro k
    rw [members_modifyModule]
    split
    · rw [members]
      cases w.module? k with
      | none => rfl
      | some state => exact hf state
    · rfl

/-- A module may be made. -/
lemma newModule (hw : w.WellFormed) (location : Option Path) (source : FileSource)
    (config : Config) : (w.newModule location source config).WellFormed := by
  refine hw.of_becomes ?_ (w.members_newModule location source config)
  intro x
  show (w.unit? x = none ∧ w.unit? x = none) ∨ _
  cases hv : w.unit? x with
  | none => exact .inl ⟨rfl, rfl⟩
  | some v => exact .inr ⟨v, v, rfl, hv, .same, rfl⟩

/-- A unit may be made for a module that exists.

**Proof sketch.** The new unit has a fresh number, so that it is not in the list yet, belongs to the
module and is not retired. All other units are where they were; for each condition split on whether
the unit is the new one. -/
lemma addUnit (hw : w.WellFormed) {m : ModuleId} (hm : (w.module? m).isSome = true)
    (location : Option Path) (text : Option String) :
    (w.addUnit m location text).WellFormed := by
  have hold {x : UnitId} {v : CompilationUnit} (h : w.unit? x = some v) :=
    unit?_addUnit_of_some h m location text
  have hnew : (w.addUnit m location text).unit? w.nextUnit =
      some (.new m location text) := by
    rw [unit?_addUnit, if_pos rfl]
  refine ⟨?_, ?_, ?_, ?_⟩
  · intro k u hu
    rcases (w.mem_members_addUnit hm k location text u).1 hu with hu | ⟨rfl, rfl⟩
    · obtain ⟨v, hv, howner, hretired⟩ := hw.member hu
      exact ⟨v, hold hv, howner, hretired⟩
    · exact ⟨_, hnew, rfl, rfl⟩
  · intro k
    rw [w.members_addUnit hm]
    split
    · refine List.nodup_append.2 ⟨hw.nodup k, List.pairwise_singleton _ _, ?_⟩
      intro a ha b hb hab
      obtain ⟨v, hv, -⟩ := hw.member ha
      exact ne_nextUnit hv ((List.mem_singleton.1 hb).symm.trans hab.symm)
    · exact hw.nodup k
  · intro u v hv hretired
    rw [unit?_addUnit] at hv
    rw [w.mem_members_addUnit hm]
    split at hv
    · next heq =>
      obtain rfl := Option.some.inj hv
      exact .inr ⟨rfl, heq⟩
    · exact .inl (hw.home hv hretired)
  · intro u v hv
    rw [unit?_addUnit] at hv
    split at hv
    · obtain rfl := Option.some.inj hv
      exact .new m location text
    · exact hw.consistent hv

/-- Some units may be made for a module that exists. -/
lemma addUnits (hw : w.WellFormed) {m : ModuleId} (hm : (w.module? m).isSome = true)
    (units : List (Option Path × Option String)) : (w.addUnits m units).WellFormed := by
  induction units generalizing w with
  | nil => exact hw
  | cons u units ih =>
    exact ih (hw.addUnit hm u.1 u.2) ((w.isSome_module?_addUnit m m u.1 u.2).trans hm)

/-- A module may be made together with its units. -/
lemma newModule_addUnits (hw : w.WellFormed) (location : Option Path) (source : FileSource)
    (config : Config) (units : List (Option Path × Option String)) :
    ((w.newModule location source config).addUnits w.nextModule units).WellFormed := by
  refine (hw.newModule location source config).addUnits ?_ units
  rw [module?_newModule, if_pos rfl, Option.isSome_some]

/-- Units may be retired if the module of which they are takes them off its list.

**Proof sketch.** Units of a well-formed workspace are in one list at most, so that after the change
no list has a retired one. A unit that is not retired was not before, hence it is still on the list
of its module. -/
lemma retire (hw : w.WellFormed) (m : ModuleId) (us : List UnitId) (hus : us ⊆ w.members m)
    (hunit : ∀ x, w'.unit? x = if x ∈ us then (w.unit? x).map .retire else w.unit? x)
    (hmembers : ∀ k, w'.members k =
      if m = k then (w.members k).filter (· ∉ us) else w.members k) : w'.WellFormed := by
  have hsub {k : ModuleId} {u : UnitId} (hu : u ∈ w'.members k) :
      u ∈ w.members k ∧ u ∉ us := by
    rw [hmembers] at hu
    split at hu
    · exact (List.mem_filter.1 hu).imp_right of_decide_eq_true
    · next hne =>
      refine ⟨hu, ?_⟩
      intro hus'
      apply hne
      obtain ⟨v, hv, howner, -⟩ := hw.member (hus hus')
      obtain ⟨v', hv', howner', -⟩ := hw.member hu
      obtain rfl := Option.some.inj (hv.symm.trans hv')
      exact howner.symm.trans howner'
  refine ⟨?_, ?_, ?_, ?_⟩
  · intro k u hu
    obtain ⟨hu, hus'⟩ := hsub hu
    rw [hunit, if_neg hus']
    exact hw.member hu
  · intro k
    rw [hmembers]
    split
    · exact (hw.nodup k).filter _
    · exact hw.nodup k
  · intro u v' hv' hretired
    rw [hunit] at hv'
    split at hv'
    · obtain ⟨v, -, rfl⟩ := Option.map_eq_some_iff.1 hv'
      exact absurd (hretired.symm.trans v.retired_retire) Bool.false_ne_true
    · next hus' =>
      have hu := hw.home hv' hretired
      rw [hmembers]
      split
      · exact List.mem_filter.2 ⟨hu, decide_eq_true hus'⟩
      · exact hu
  · intro u v' hv'
    rw [hunit] at hv'
    split at hv'
    · obtain ⟨v, hv, rfl⟩ := Option.map_eq_some_iff.1 hv'
      exact CompilationUnit.Becomes.retire.consistent (hw.consistent hv)
    · exact hw.consistent hv'

/-- A module may be dropped. -/
lemma dropModule (hw : w.WellFormed) (m : ModuleId) : (w.dropModule m).WellFormed := by
  refine hw.retire m (w.members m) (fun _ h => h) (w.unit?_dropModule m) ?_
  intro k
  rw [members_dropModule]
  split
  · next heq =>
    subst heq
    refine (List.filter_eq_nil_iff.2 ?_).symm
    intro u hu h
    exact of_decide_eq_true h hu
  · rfl

/-- A unit may be taken out of a module.

**Proof sketch.** The unit is taken off the list and retired if the list has it, and else nothing
changes: this is `retire` with the one unit or with none. That only one entry is erased makes no
difference, since the list has no duplicates. -/
lemma removeUnit (hw : w.WellFormed) (m : ModuleId) (u : UnitId) :
    (w.removeUnit m u).1.WellFormed := by
  refine hw.retire m (if u ∈ w.members m then [u] else []) ?_ ?_ ?_
  · split
    · next h => exact List.cons_subset.2 ⟨h, List.nil_subset _⟩
    · exact List.nil_subset _
  · intro x
    rw [unit?_removeUnit]
    refine if_congr ?_ rfl rfl
    split
    · next h => simp [h, eq_comm]
    · next h => simp [h]
  · intro k
    rw [members_removeUnit]
    split
    · next heq =>
      subst heq
      split
      · rw [(hw.nodup m).erase_eq_filter]
        refine List.filter_congr fun x _ => ?_
        simp [bne, beq_eq_decide]
      · next h =>
        rw [List.erase_of_not_mem h]
        exact (List.filter_eq_self.2 fun x _ => rfl).symm
    · rfl

/-- Texts may be installed. -/
lemma replace (hw : w.WellFormed) (u : UnitId) (text : String) :
    (w.replace u text).1.WellFormed := by
  refine hw.modifyUnit u (fun v => .replace text) ?_
  intro v
  rcases v.replace_cases text with h | ⟨-, -, h⟩ | ⟨-, -, -, h⟩
  · rw [h]
  · rw [h]
  · rw [h]
    rfl

/-- Units may be loaded. -/
lemma load (hw : w.WellFormed) (u : UnitId) : (w.load u).1.WellFormed :=
  load_induction (P := WellFormed) (fun _ u text hw => hw.replace u text) hw u

/-- Some units may be loaded. -/
lemma loadUnits (hw : w.WellFormed) (us : List UnitId) : (w.loadUnits us).1.WellFormed :=
  loadUnits_induction (P := WellFormed) (fun _ u text hw => hw.replace u text) hw us

/-- What may fail does nothing if it does. -/
lemma orSelf (hw : w.WellFormed) {result : Except LexicalError Workspace}
    (h : ∀ w', result = .ok w' → w'.WellFormed) : (w.orSelf result).WellFormed := by
  cases result with
  | error e => exact hw
  | ok w' => exact h w' rfl

/-- Every change leaves a well-formed workspace well-formed.

**Proof sketch.** One case for each change, by the lemma on what it does. A change that can fail is
its result where it succeeds and the same workspace where it fails (`orSelf`). -/
theorem perform (hw : w.WellFormed) (a : Action) : (w.perform a).WellFormed := by
  cases a with
  | update u => exact hw.files (w.files.apply u)
  | newModule source => exact hw.newModule none source .standard
  | openModule source dir config =>
    refine hw.orSelf fun w' h => ?_
    obtain ⟨location, units, rfl⟩ := openModule_eq_ok h
    exact hw.newModule_addUnits location source config units
  | restoreModule source manifest config =>
    refine hw.orSelf fun w' h => ?_
    obtain ⟨location, units, rfl⟩ := restoreModule_eq_ok h
    exact hw.newModule_addUnits location source config units
  | dropModule m => exact hw.dropModule m
  | addBlankUnit m =>
    rw [Workspace.perform]
    split
    · next hm => exact hw.addUnit hm none none
    · exact hw
  | addUnitAt m location =>
    rw [Workspace.perform]
    split
    · next hm =>
      refine hw.orSelf fun w' h => ?_
      obtain rfl := addUnitAt_eq_ok h
      exact hw.addUnit hm _ _
    · exact hw
  | removeUnit m u => exact hw.removeUnit m u
  | setModuleLocation m location =>
    refine hw.orSelf fun w' h => ?_
    obtain rfl := setModuleLocation_eq_ok h
    exact hw.modifyModule m fun _ => rfl
  | setUnitLocation u location =>
    refine hw.orSelf fun w' h => ?_
    obtain rfl := setUnitLocation_eq_ok h
    exact hw.modifyUnit u (fun v => .relocate location) fun _ => rfl
  | replace u text => exact hw.replace u text
  | clear u => exact hw.modifyUnit u (fun v => .clear) fun _ => rfl
  | load u => exact hw.load u
  | loadAll m => exact hw.loadUnits _
  | remember u =>
    exact hw.modifyUnit u (fun v => .remember) fun v => (CompilationUnit.Kept.remember v).retired

/-- A well-formed workspace stays well-formed. -/
theorem run (hw : w.WellFormed) (actions : List Action) : (w.run actions).WellFormed := by
  induction actions generalizing w with
  | nil => exact hw
  | cons a actions ih => exact ih (hw.perform a)

end WellFormed

end Workspace

end LexicalFront
