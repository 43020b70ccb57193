import LexicalFront.Proofs.Session.Handle
import Mathlib.Data.Int.Cast.Lemmas
set_option autoImplicit false
set_option relaxedAutoImplicit false

/-!
# What a generation counts

The generation of a unit counts what has happened to its text: how often it was replaced by another
one, how often it was taken away, and whether the unit was retired. Nothing else moves it. So two
texts of a unit at the same generation are the same text, although the first text of a unit without
one comes without a new generation.

## Main definitions

* `Session.overwrites`, `Session.clears` — the steps that the generation counts.
* `Session.count` — how many steps of a run are of some kind.
* `Session.KeepsGeneration` — calls that the generation does not count.

## Main results

* `Session.run_generation`, `Session.run_generation_of_none` — the count along a run.
* `Session.keepsText_iff_count` — which steps keep a text.
* `Session.generation_counts` — the generation of a unit, and what it says of its text.
-/

namespace LexicalFront

/-- Whether a step is a call to install texts: a unit is given a text or loaded, or the units of a
module are loaded. -/
def Step.installs : Step → Bool
  | .onUnit _ (.replace _) => true
  | .onUnit _ .load => true
  | .onModule _ .loadAll => true
  | _ => false

namespace Session

variable {s s' : Session} {u : UnitId} {v : CompilationUnit} {step : Step}

/-! ## What is counted -/

/-- Whether a step is a call to install texts that replaces the text of a unit by another one. -/
def overwrites (u : UnitId) (s : Session) (step : Step) : Bool :=
  step.installs &&
    match s.textOf? u, (s.step step).1.textOf? u with
    | some old, some new => old != new
    | _, _ => false

/-- Whether a step takes away the text of a unit; there need not be one. -/
def clears (u : UnitId) (s : Session) : Step → Bool
  | .onUnit name .clear => s.units.get? name == some u && (s.workspace.unit? u).isSome
  | _ => false

/-- How many steps of a run are of some kind, each seen from where it is taken. -/
def count (s : Session) (kind : Session → Step → Bool) : List Step → Nat
  | [] => 0
  | step :: steps => (kind s step).toNat + (s.step step).1.count kind steps

/-! ## Steps and the changes that they ask for -/

/-- Only a call to install texts asks for a change that does. -/
lemma installs_of_action? {a : Action} (h : s.action? step = some a) (ha : a.installs = true) :
    step.installs = true := by
  cases step with
  | files step => cases step <;> cases h <;> cases ha
  | onModule name step =>
    obtain ⟨m, -, h⟩ := Option.bind_eq_some_iff.1 h
    cases step with
    | removeUnit unit =>
      obtain ⟨x, -, rfl⟩ := Option.map_eq_some_iff.1 h
      cases ha
    | loadAll => rfl
    | _ => cases h <;> cases ha
  | onUnit name step =>
    obtain ⟨x, -, h⟩ := Option.bind_eq_some_iff.1 h
    cases step with
    | replace text => rfl
    | load => rfl
    | _ => cases h <;> cases ha
  | _ => cases h

/-- Only a call to take away the text of a unit asks for it. -/
lemma clears_of_action? (hv : s.workspace.unit? u = some v)
    (h : s.action? step = some (.clear u)) : clears u s step = true := by
  cases step with
  | files step => cases step <;> cases h
  | onModule name step =>
    obtain ⟨m, -, h⟩ := Option.bind_eq_some_iff.1 h
    cases step with
    | removeUnit unit =>
      obtain ⟨x, -, h⟩ := Option.map_eq_some_iff.1 h
      cases h
    | _ => cases h
  | onUnit name step =>
    obtain ⟨x, hname, h⟩ := Option.bind_eq_some_iff.1 h
    cases step with
    | clear =>
      cases h
      simp [clears, hname, hv]
    | _ => cases h
  | _ => cases h

/-- A call to install texts does nothing, or changes the workspace by installing texts.

**Proof sketch.** Only replacing, loading a unit and loading a module count as installing. Under a
name that is not in the table, such a step does nothing; otherwise it is the action of the same
name. -/
lemma step_of_installs (h : step.installs = true) :
    (s.step step).1.workspace = s.workspace ∨
      ∃ a : Action, a.installs = true ∧ (s.step step).1.workspace = s.workspace.perform a := by
  cases step with
  | onUnit name step =>
    rw [Session.step, withUnit]
    cases s.units.get? name with
    | none => exact .inl rfl
    | some u =>
      cases step with
      | replace text => exact .inr ⟨.replace u text, rfl, rfl⟩
      | load =>
        refine .inr ⟨.load u, rfl, ?_⟩
        show (s.onUnit u .load).1.workspace = (s.workspace.load u).1
        rw [onUnit]
        rcases s.workspace.load u with ⟨w, e | changed⟩ <;> rfl
      | _ => cases h
  | onModule name step =>
    rw [Session.step, withModule]
    cases s.modules.get? name with
    | none => exact .inl rfl
    | some m =>
      cases step with
      | loadAll =>
        refine .inr ⟨.loadAll m, rfl, ?_⟩
        show (s.onModule m .loadAll).1.workspace = (s.workspace.loadAll m).1
        rw [onModule]
        rcases s.workspace.loadAll m with ⟨w, e | n⟩ <;> rfl
      | _ => cases h
  | _ => cases h

/-! ## One step -/

/-- A step that leaves the text as it is, or that finds none or leaves none, overwrites nothing. -/
lemma overwrites_eq_false (h : s.textOf? u = none ∨ (s.step step).1.textOf? u = none ∨
    (s.step step).1.textOf? u = s.textOf? u) : overwrites u s step = false := by
  rw [overwrites]
  rcases h with h | h | h
  · simp [h]
  · rw [h]
    cases s.textOf? u <;> simp
  · rw [h]
    cases s.textOf? u <;> simp

/-- The step that takes away the text of a unit. -/
lemma step_of_clears (h : clears u s step = true) :
    step.installs = false ∧ (s.step step).1.workspace = s.workspace.clear u := by
  cases step with
  | onUnit name step =>
    cases step with
    | clear =>
      simp only [clears, Bool.and_eq_true, beq_iff_eq] at h
      rw [Session.step, withUnit, h.1]
      exact ⟨rfl, rfl⟩
    | _ => cases h
  | _ => cases h

/-- What is left of the generation of a unit when its being retired is taken off. -/
def textChanges (v : CompilationUnit) : Int := v.generation - v.retired.toNat

/-- Where the text is kept nothing is counted. -/
lemma textChanges_of_kept {v' : CompilationUnit} (hv : s.workspace.unit? u = some v)
    (hv' : (s.step step).1.workspace.unit? u = some v') (h : v.Kept v') :
    textChanges v' = textChanges v + (overwrites u s step).toNat := by
  have hoverwrites : overwrites u s step = false := by
    apply overwrites_eq_false
    simp [textOf?, hv, hv', h.representation]
  simp [textChanges, hoverwrites, h.generation, h.retired]

/-- To retire a unit moves its generation once, however often it is done. -/
lemma textChanges_of_retire (hv : s.workspace.unit? u = some v)
    (hv' : (s.step step).1.workspace.unit? u = some v.retire) :
    textChanges v.retire = textChanges v + (overwrites u s step).toNat := by
  by_cases hretired : v.retired = true
  · refine textChanges_of_kept hv hv' ?_
    rw [CompilationUnit.retire, if_pos hretired]
    exact .refl v
  · have hretire : v.retire = { v.advance with representation := none, retired := true } :=
      if_neg hretired
    have hoverwrites : overwrites u s step = false := by
      apply overwrites_eq_false
      simp [textOf?, hv', hretire]
    have hretired : v.retired = false := Bool.eq_false_iff.2 hretired
    simp [textChanges, hoverwrites, hretire, hretired, CompilationUnit.advance]

/-- To install a text moves the generation if it replaces another one. -/
lemma textChanges_of_replace {text : String} (hinstalls : step.installs = true)
    (hv : s.workspace.unit? u = some v)
    (hv' : (s.step step).1.workspace.unit? u = some (v.replace text).1) :
    textChanges (v.replace text).1 = textChanges v + (overwrites u s step).toNat := by
  rcases v.replace_cases text with h | ⟨-, hrep, h⟩ | ⟨-, hrep, hne, h⟩
  · refine textChanges_of_kept hv hv' ?_
    rw [h]
    exact .refl v
  · have hoverwrites : overwrites u s step = false := by
      apply overwrites_eq_false
      simp [textOf?, hv, hrep]
    simp [textChanges, hoverwrites, h]
  · obtain ⟨old, hold⟩ := Option.ne_none_iff_exists'.1 hrep
    have hne' : old ≠ text := fun heq => hne (by rw [hold, heq])
    have hoverwrites : overwrites u s step = true := by
      simp [overwrites, hinstalls, textOf?, hv, hv', h, hold, hne']
    simp [textChanges, hoverwrites, h, CompilationUnit.advance]
    omega

/-- A step moves the generation of a unit by one if it replaces its text by another one, takes it
away, or retires the unit, and else it does not move it.

**Proof sketch.** A step that clears the text of the unit moves its generation by one. Any other
step does to the unit what its transition says (`Transition.unit`), and there replacing a text by
another one is the only change that counts; retiring is taken off again in `textChanges`. -/
theorem step_generation (hs : s.WellFormed) (hv : s.workspace.unit? u = some v) (step : Step) :
    ∃ v', (s.step step).1.workspace.unit? u = some v' ∧
      textChanges v' = textChanges v + (overwrites u s step).toNat + (clears u s step).toNat := by
  cases hclears : clears u s step with
  | true =>
    obtain ⟨hinstalls, hstep⟩ := step_of_clears hclears
    have hoverwrites : overwrites u s step = false := by rw [overwrites, hinstalls]; rfl
    refine ⟨v.clear, ?_, ?_⟩
    · simp [hstep, Workspace.clear, Workspace.unit?_modifyUnit, hv]
    · simp [textChanges, hoverwrites, CompilationUnit.clear, CompilationUnit.advance]
      omega
  | false =>
    have htransition := step_transition (fun name m h => (hs.named m).1 ⟨name, h⟩) step
    obtain ⟨v', hv', hunit⟩ := htransition.unit hs hv
    refine ⟨v', hv', ?_⟩
    simp only [Bool.toNat_false, Nat.cast_zero, add_zero]
    rcases hunit with hkept | rfl | ⟨a, ha, hdoes⟩
    · exact textChanges_of_kept hv hv' hkept
    · exact textChanges_of_retire hv hv'
    · cases hdoes with
      | same => exact textChanges_of_kept hv hv' (.refl v)
      | remember => exact textChanges_of_kept hv hv' (.remember v)
      | relocate location => exact textChanges_of_kept hv hv' ⟨rfl, rfl, rfl⟩
      | replace text hinstalls =>
        exact textChanges_of_replace (installs_of_action? ha hinstalls) hv hv'
      | clear hclear =>
        subst hclear
        exact absurd (hclears.symm.trans (clears_of_action? hv ha)) Bool.false_ne_true
      | retire hinstalls => exact textChanges_of_retire hv hv'

/-- A unit that a step makes is at the first generation, and it is not retired.

**Proof sketch.** By the kind of the transition. Reading, dropping a module and most actions make no
unit (`perform_new` for those that do). A module that is made has new units only, and none of them
belongs to the module that loses its name, since that one was there before. -/
lemma step_new (hs : s.WellFormed) (hu : s.workspace.unit? u = none)
    (hv : (s.step step).1.workspace.unit? u = some v) : v.generation = 0 ∧ v.retired = false := by
  have hnone {w : Workspace} (hw : (s.step step).1.workspace = w) (h : w.unit? u = none) :
      v.generation = 0 ∧ v.retired = false := by
    rw [hw] at hv
    exact absurd (h.symm.trans hv) nofun
  cases step_transition (fun name m h => (hs.named m).1 ⟨name, h⟩) step with
  | quiet us hw hm =>
    apply hnone hw
    generalize s.workspace = w at hu
    clear hw
    induction us generalizing w with
    | nil => exact hu
    | cons x us ih =>
      apply ih
      simp [Workspace.remember, Workspace.unit?_modifyUnit, hu]
  | act a ha hw hm =>
    rw [hw] at hv
    exact Workspace.perform_new hs.workspace (keepsModules_of_action? ha) hu hv
  | make a slot location source config units ha h =>
    have hw := hs.workspace.newModule_addUnits location source config units
    have hnew {x : CompilationUnit} (hx : ((s.workspace.newModule location source config).addUnits
        s.workspace.nextModule units).unit? u = some x) :
        ∃ location text, x = .new s.workspace.nextModule location text := by
      rcases Workspace.unit?_addUnits_cases hx with hold | hnew
      · exact absurd (hu.symm.trans hold) nofun
      · exact hnew
    rw [h, nameModule_workspace] at hv
    change ((s.modules.get? slot).elim _ _ : Workspace).unit? u = some v at hv
    cases hslot : s.modules.get? slot with
    | none =>
      rw [hslot] at hv
      obtain ⟨location, text, rfl⟩ := hnew hv
      exact ⟨rfl, rfl⟩
    | some m =>
      rw [hslot] at hv
      change (Workspace.dropModule _ m).unit? u = some v at hv
      rw [Workspace.unit?_dropModule] at hv
      split at hv
      · -- the units of the module that loses its name were made for that module
        next hmem =>
        exfalso
        obtain ⟨x, hx, howner, -⟩ := hw.member hmem
        obtain ⟨location, text, rfl⟩ := hnew hx
        exact Workspace.ne_nextModule ((hs.named m).1 ⟨slot, hslot⟩) howner
      · obtain ⟨location, text, rfl⟩ := hnew hv
        exact ⟨rfl, rfl⟩
  | drop name m hname hw hm => exact hnone hw (by simp [Workspace.unit?_dropModule, hu])

/-! ## Runs -/

/-- The generation of a unit has moved by what is counted along a run. -/
lemma run_generation (hs : s.WellFormed) (hv : s.workspace.unit? u = some v)
    (steps : List Step) :
    ∃ v', (s.run steps).workspace.unit? u = some v' ∧
      textChanges v' = textChanges v + s.count (overwrites u) steps + s.count (clears u) steps := by
  induction steps generalizing s v with
  | nil => exact ⟨v, hv, by simp [count]⟩
  | cons step steps ih =>
    obtain ⟨v₁, hv₁, hstep⟩ := step_generation hs hv step
    obtain ⟨v', hv', hrun⟩ := ih (hs.step step) hv₁
    refine ⟨v', hv', ?_⟩
    simp only [count]
    omega

/-- The steps that keep a text are those of which the generation counts none and after which the
unit is not retired. -/
theorem keepsText_iff_count {text : String} (hs : s.WellFormed)
    (hv : s.workspace.unit? u = some v) (hrep : v.representation = some text)
    (steps : List Step) : s.KeepsText u steps ↔ s.count (overwrites u) steps = 0 ∧
      s.count (clears u) steps = 0 ∧
        ∃ v', (s.run steps).workspace.unit? u = some v' ∧ v'.retired = false := by
  have hretired := (hs.workspace.consistent hv).retired_eq_false hrep
  obtain ⟨v', hv', hrun⟩ := run_generation hs hv steps
  obtain ⟨v₁, hv₁, hcases⟩ := run_representation hs hv hrep steps
  obtain rfl := Option.some.inj (hv₁.symm.trans hv')
  simp only [textChanges, hretired, Bool.toNat_false] at hrun
  constructor
  · intro hkeeps
    rcases hcases with ⟨-, hrep', hgen⟩ | ⟨hnot, -⟩
    · have hretired' := ((hs.run steps).workspace.consistent hv').retired_eq_false hrep'
      simp only [hretired', Bool.toNat_false] at hrun
      exact ⟨by omega, by omega, v₁, hv', hretired'⟩
    · exact absurd hkeeps hnot
  · rintro ⟨hoverwrites, hclears, v₂, hv₂, hretired'⟩
    obtain rfl := Option.some.inj (hv'.symm.trans hv₂)
    simp only [hretired', hoverwrites, hclears, Bool.toNat_false] at hrun
    rcases hcases with ⟨hkeeps, -⟩ | ⟨-, hgen⟩
    · exact hkeeps
    · omega

/-- The generation of a unit that was made in a run is what is counted along the run.

**Proof sketch.** Induction on the steps. As long as there is no such unit nothing is counted for
it, and the step that makes it makes it at the first generation. -/
lemma run_generation_of_none (hs : s.WellFormed) (hu : s.workspace.unit? u = none)
    (steps : List Step) (hv : (s.run steps).workspace.unit? u = some v) :
    textChanges v = s.count (overwrites u) steps + s.count (clears u) steps := by
  induction steps generalizing s with
  | nil => exact absurd (hu.symm.trans hv) nofun
  | cons step steps ih =>
    have hoverwrites : overwrites u s step = false := by
      apply overwrites_eq_false
      simp [textOf?, hu]
    have hclears : clears u s step = false := by
      cases step with
      | onUnit name step => cases step <;> simp [clears, hu]
      | _ => rfl
    simp only [count, hoverwrites, hclears, Bool.toNat_false, Nat.zero_add]
    cases hv₁ : (s.step step).1.workspace.unit? u with
    | none => exact ih (hs.step step) hv₁ hv
    | some v₁ =>
      obtain ⟨v', hv', hrun⟩ := run_generation (hs.step step) hv₁ steps
      obtain rfl := Option.some.inj (hv'.symm.trans hv)
      obtain ⟨hgen, hretired⟩ := step_new hs hu hv₁
      have hfirst : textChanges v₁ = 0 := by simp [textChanges, hgen, hretired]
      omega

/-! ## Calls that are not counted -/

/-- The calls that leave the generation of a unit alone: it is given the text that it has, or its
first text, or it cannot be loaded, or the texts that are installed leave it with the text that it
has, or a unit or a module gets another location. -/
inductive KeepsGeneration (s : Session) (u : UnitId) (v : CompilationUnit) : Step → Prop where
  | sameText (name : String) (hname : s.units.get? name = some u) (text : String)
    (hrep : v.representation = some text) : KeepsGeneration s u v (.onUnit name (.replace text))
  | firstText (step : Step) (hstep : step.installs = true) (hrep : v.representation = none) :
    KeepsGeneration s u v step
  | failedLoad (name : String) (e : LexicalError)
    (hreply : (s.step (.onUnit name .load)).2 = .failed e) :
    KeepsGeneration s u v (.onUnit name .load)
  | unchanged (step : Step) (hstep : step.installs = true)
    (htext : (s.step step).1.textOf? u = s.textOf? u) : KeepsGeneration s u v step
  | unitLocation (name : String) (location : Option Path) :
    KeepsGeneration s u v (.onUnit name (.setLocation location))
  | moduleLocation (name : String) (location : Option Path) :
    KeepsGeneration s u v (.onModule name (.setLocation location))

/-- A unit that cannot be loaded is left alone, with all others. -/
lemma workspace_of_failedLoad {name : String} {e : LexicalError}
    (hreply : (s.step (.onUnit name .load)).2 = .failed e) :
    (s.step (.onUnit name .load)).1.workspace = s.workspace := by
  cases hname : s.units.get? name with
  | none => rw [step_onUnit_of_none hname]
  | some x =>
    rw [step_onUnit hname, onUnit] at hreply ⊢
    rcases hload : s.workspace.load x with ⟨w, e' | changed⟩
    · exact Workspace.load_eq_error hload
    · rw [hload] at hreply
      cases hreply

/-- A text that is installed leaves the generation alone if it is the first one or the same one.

**Proof sketch.** The step does nothing, or it is an action, which does one of the listed things to
the unit (`perform_does`). Of these only another text in place of one moves the generation, and both
assumptions exclude it; clearing and retiring install nothing. -/
lemma generation_of_installs (hs : s.WellFormed) (hv : s.workspace.unit? u = some v)
    {v' : CompilationUnit} (hv' : (s.step step).1.workspace.unit? u = some v')
    (hstep : step.installs = true)
    (h : v.representation = none ∨ v'.representation = v.representation) :
    v'.generation = v.generation := by
  rcases step_of_installs hstep with hw | ⟨a, ha, hw⟩
  · rw [hw, hv] at hv'
    rw [Option.some.inj hv']
  · obtain ⟨v₁, hv₁, hdoes⟩ := Workspace.perform_does hs.workspace hv a
    rw [hw] at hv'
    obtain rfl := Option.some.inj (hv₁.symm.trans hv')
    cases hdoes with
    | same => rfl
    | remember => exact (CompilationUnit.Kept.remember v).generation
    | relocate location => rfl
    | clear hclear =>
      rw [hclear] at ha
      cases ha
    | retire hinstalls => exact absurd (ha.symm.trans hinstalls) nofun
    | replace text hinstalls =>
      rcases v.replace_cases text with hsame | ⟨-, -, hfirst⟩ | ⟨-, hrep, hne, hother⟩
      · rw [hsame]
      · rw [hfirst]
      · rw [hother] at h
        exact absurd (h.resolve_left hrep).symm hne

/-- Such a call leaves the generation alone.

**Proof sketch.** One case for each kind of call. The same text and a failed load change nothing,
the first text and an unchanged one are `generation_of_installs`, and a new location touches no
text, whether it is accepted or not. -/
lemma generation_of_keepsGeneration (hs : s.WellFormed) (hv : s.workspace.unit? u = some v)
    {v' : CompilationUnit} (hv' : (s.step step).1.workspace.unit? u = some v')
    (h : s.KeepsGeneration u v step) : v'.generation = v.generation := by
  have hsame (hw : (s.step step).1.workspace.unit? u = s.workspace.unit? u) :
      v'.generation = v.generation := by
    rw [hw, hv] at hv'
    rw [Option.some.inj hv']
  cases h with
  | sameText name hname text hrep =>
    have hreplace : (v.replace text).1 = v := by
      rw [CompilationUnit.replace_of_same hrep]
    apply hsame
    rw [step_onUnit hname]
    show (s.workspace.modifyUnit u _).unit? u = _
    rw [Workspace.unit?_modifyUnit, if_pos rfl, hv, Option.map_some, hreplace]
  | firstText step hstep hrep => exact generation_of_installs hs hv hv' hstep (.inl hrep)
  | failedLoad name e hreply => exact hsame (by rw [workspace_of_failedLoad hreply])
  | unchanged step hstep htext =>
    simp only [textOf?, hv, hv', Option.bind_some] at htext
    exact generation_of_installs hs hv hv' hstep (.inr htext)
  | unitLocation name location =>
    cases hname : s.units.get? name with
    | none => exact hsame (by rw [step_onUnit_of_none hname])
    | some x =>
      rw [step_onUnit hname, onUnit] at hv' hsame
      cases hresult : s.workspace.setUnitLocation x location with
      | error e =>
        rw [hresult] at hsame
        exact hsame rfl
      | ok w =>
        rw [hresult] at hv'
        change w.unit? u = some v' at hv'
        rw [Workspace.setUnitLocation_eq_ok hresult, Workspace.unit?_modifyUnit, hv] at hv'
        split at hv' <;> cases hv' <;> rfl
  | moduleLocation name location =>
    cases hname : s.modules.get? name with
    | none => exact hsame (by rw [step_onModule_of_none hname])
    | some m =>
      rw [step_onModule hname, onModule] at hsame
      cases hresult : s.workspace.setModuleLocation m location with
      | error e =>
        rw [hresult] at hsame
        exact hsame rfl
      | ok w =>
        rw [hresult] at hsame
        refine hsame ?_
        show w.unit? u = s.workspace.unit? u
        rw [Workspace.setModuleLocation_eq_ok hresult, Workspace.unit?_modifyModule]

/-! ## Generations and texts -/

/-- Two texts of a unit at the same generation are the same text. -/
lemma text_eq_of_generation_eq {text text' : String} {v' : CompilationUnit} (hs : s.WellFormed)
    (hv : s.workspace.unit? u = some v) (hrep : v.representation = some text)
    (after : List Step) (hv' : (s.run after).workspace.unit? u = some v')
    (hrep' : v'.representation = some text') (hgen : v'.generation = v.generation) :
    text' = text := by
  obtain ⟨v₁, hv₁, ⟨-, hkept, -⟩ | ⟨-, hlt⟩⟩ := run_representation hs hv hrep after
  · obtain rfl := Option.some.inj (hv₁.symm.trans hv')
    exact Option.some.inj (hrep'.symm.trans hkept)
  · obtain rfl := Option.some.inj (hv₁.symm.trans hv')
    omega

/-- A snapshot shows the generation of the unit and the tokens of its text. -/
lemma snapshot_eq_some {name : String} {g : Nat} {stream : TokenStream} (hs : s.WellFormed)
    (hname : s.units.get? name = some u)
    (hreply : (s.step (.onUnit name .snapshot)).2 = .maybeSnapshot g (some stream)) :
    ∃ v text, s.workspace.unit? u = some v ∧ v.generation = g ∧
      v.representation = some text ∧ stream = .lex text := by
  rw [step_onUnit hname, onUnit] at hreply
  simp only [Reply.maybeSnapshot.injEq] at hreply
  obtain ⟨hgen, htokens⟩ := hreply
  cases hv : s.workspace.unit? u with
  | none =>
    rw [hv] at htokens
    cases htokens
  | some v =>
    rw [hv] at hgen htokens
    rw [Option.bind_some, (hs.workspace.consistent hv).tokens?_eq, Option.map_eq_some_iff]
      at htokens
    obtain ⟨text, hrep, hstream⟩ := htokens
    exact ⟨v, text, rfl, hgen, hrep, hstream.symm⟩

/-- The generation of a unit is the number of calls that replaced its text by another one, and of
calls that took its text away, and one more if it is retired. No step moves it back or by more than
one, and the calls of `KeepsGeneration` do not move it. So at each generation there is one text at
most, and the snapshots of a generation show the same tokens.

**Proof sketch.** The count is an induction over the run, by `step_generation` and `step_new`, and
started where there is no unit. One step and the calls that keep the generation are read off what a
step may do to a unit. For the texts, a unit that keeps its generation keeps its text, and a
snapshot shows the tokens of the text. -/
theorem generation_counts {outside : FileSystem} {files : List (Path × String)}
    {steps : List Step} {s : Session} (hrun : s = (start outside files).run steps)
    {u : UnitId} {v : CompilationUnit} (hv : s.workspace.unit? u = some v) :
    v.generation = (start outside files).count (overwrites u) steps +
        (start outside files).count (clears u) steps + v.retired.toNat ∧
      (∀ step, ∃ v', (s.step step).1.workspace.unit? u = some v' ∧
        v.generation ≤ v'.generation ∧ v'.generation ≤ v.generation + 1 ∧
        (s.KeepsGeneration u v step → v'.generation = v.generation)) ∧
      (∀ after v' text text', (s.run after).workspace.unit? u = some v' →
        v'.generation = v.generation → v.representation = some text →
        v'.representation = some text' → text' = text) ∧
      ∀ after name name' g stream stream', s.units.get? name = some u →
        (s.run after).units.get? name' = some u →
        (s.step (.onUnit name .snapshot)).2 = .maybeSnapshot g (some stream) →
        ((s.run after).step (.onUnit name' .snapshot)).2 = .maybeSnapshot g (some stream') →
        stream' = stream := by
  have hs : s.WellFormed := Reachable.wellFormed ⟨outside, files, steps, hrun⟩
  refine ⟨?_, ?_, ?_, ?_⟩
  · have hcount : textChanges v = (start outside files).count (overwrites u) steps +
        (start outside files).count (clears u) steps := by
      subst hrun
      exact run_generation_of_none (WellFormed.start outside files) rfl steps hv
    simp only [textChanges] at hcount
    omega
  · intro step
    obtain ⟨v', hv', htouched⟩ := step_touched hs hv step
    refine ⟨v', hv', htouched.generation_le, ?_, generation_of_keepsGeneration hs hv hv'⟩
    cases htouched with
    | kept h => have := h.generation; omega
    | filled hrep hgen => omega
    | moved hrep hgen => omega
  · intro after v' text text' hv' hgen hrep hrep'
    exact text_eq_of_generation_eq hs hv hrep after hv' hrep' hgen
  · intro after name name' g stream stream' hname hname' hreply hreply'
    obtain ⟨v₁, text, hv₁, hgen, hrep, rfl⟩ := snapshot_eq_some hs hname hreply
    obtain ⟨v', text', hv', hgen', hrep', rfl⟩ := snapshot_eq_some (hs.run after) hname' hreply'
    rw [text_eq_of_generation_eq hs hv₁ hrep after hv' hrep' (hgen'.trans hgen.symm)]

/-- A unit gets two texts, loses its text twice, and leaves its module. -/
def busySteps : List Step :=
  [.newModule .memory "m", .onModule "m" (.addBlankUnit "u"), .onUnit "u" (.replace "a"),
    .onUnit "u" (.replace "b"), .onUnit "u" .clear, .onUnit "u" .clear, .dropModule "m"]

/-- The generation counts one text that replaced another one, two that were taken away, though there
was only one, and the end of the module. -/
theorem generation_counts_busySteps :
    ∃ v, ((start MemoryFiles.empty.toFileSystem []).run busySteps).workspace.unit? 0 = some v ∧
      v.generation = 4 ∧
      (start MemoryFiles.empty.toFileSystem []).count (overwrites 0) busySteps +
        (start MemoryFiles.empty.toFileSystem []).count (clears 0) busySteps = 3 := by
  have hv : ((start MemoryFiles.empty.toFileSystem []).run busySteps).workspace.unit? 0 =
      some ⟨0, none, none, 4, none, true⟩ := by
    decide +kernel
  have hcount := (generation_counts rfl hv).1
  refine ⟨_, hv, rfl, ?_⟩
  simp only [Bool.toNat_true] at hcount
  omega

end Session

end LexicalFront
