import LexicalFront.Proofs.Session.Handle
import Mathlib.Data.List.Nodup
set_option autoImplicit false
set_option relaxedAutoImplicit false

/-!
# Who belongs where

A unit says of itself whether it has left its module, a module lists its units, and a unit knows the
module that it was made for. Whatever is done in a session, the three agree: a unit that is not
retired is listed once, by the module that it was made for, and a retired one is listed nowhere.
A unit never comes back from being retired, and there is nothing to be had from it any more.

## Main definitions

* `Session.Detached` — a unit without a text, which answers nothing and takes nothing.

## Main results

* `Session.run_detached` — a retired unit is detached for ever.
* `Session.membership` — the lists, the back references and the retired units agree.
-/

namespace LexicalFront

namespace CompilationUnit

variable {v : CompilationUnit}

/-- A retired unit takes no text. -/
lemma replace_of_retired (hretired : v.retired = true) (text : String) :
    v.replace text = (v, false) := by
  rw [replace, if_pos hretired]

/-- No handle can be taken to a retired unit. -/
lemma canRefer_of_retired (hretired : v.retired = true) (index : Nat) :
    v.canRefer index = false := by
  simp [canRefer, hretired]

end CompilationUnit

namespace Workspace

variable {w : Workspace} {u : UnitId} {v : CompilationUnit}

/-- A retired unit has no module. -/
lemma ownerOf?_of_retired (hv : w.unit? u = some v) (hretired : v.retired = true) :
    w.ownerOf? u = none := by
  simp [ownerOf?, hv, hretired]

/-- A retired unit has no file. -/
lemma sourceOf?_of_retired (hv : w.unit? u = some v) (hretired : v.retired = true) :
    w.sourceOf? u = none := by
  rw [sourceOf?, ownerOf?_of_retired hv hretired, hv]
  cases v.location with
  | none => simp
  | some location => simp

/-- Installing a text in a retired unit does nothing. -/
lemma replace_of_retired (hv : w.unit? u = some v) (hretired : v.retired = true)
    (text : String) : w.replace u text = (w, false) :=
  replace_eq_self hv (CompilationUnit.replace_of_retired hretired text)

/-- A retired unit cannot be loaded. -/
lemma load_of_retired (hv : w.unit? u = some v) (hretired : v.retired = true) :
    w.load u = (w, .error .noRepresentationSource) := by
  rw [load, sourceOf?_of_retired hv hretired]

/-- No handle can be taken to a retired unit. -/
lemma reference_of_retired (hv : w.unit? u = some v) (hretired : v.retired = true)
    (index : Nat) : w.reference u index = none := by
  simp [reference, hv, CompilationUnit.canRefer_of_retired hretired]

namespace WellFormed

/-- A unit belongs to the module that lists it. -/
lemma belongsTo_iff (hw : w.WellFormed) (u : UnitId) (m : ModuleId) :
    w.belongsTo u m = true ↔ u ∈ w.members m := by
  constructor
  · intro h
    cases hv : w.unit? u with
    | none => simp [belongsTo, hv] at h
    | some v =>
      simp only [belongsTo, hv, Option.any_some, Bool.and_eq_true, Bool.not_eq_true',
        beq_iff_eq] at h
      obtain ⟨⟨hretired, rfl⟩, -⟩ := h
      exact hw.home hv hretired
  · intro h
    obtain ⟨v, hv, rfl, hretired⟩ := hw.member h
    have hmodule := isSome_module?_of_mem h
    simp [belongsTo, hv, hretired, hmodule]

/-- A unit is listed by one module at most. -/
lemma eq_of_mem_members (hw : w.WellFormed) {m k : ModuleId} (hm : u ∈ w.members m)
    (hk : u ∈ w.members k) : k = m := by
  obtain ⟨v, hv, rfl, -⟩ := hw.member hm
  obtain ⟨v', hv', rfl, -⟩ := hw.member hk
  rw [Option.some.inj (hv.symm.trans hv')]

/-- The retired units are those that no module lists. -/
lemma retired_iff (hw : w.WellFormed) (hv : w.unit? u = some v) :
    v.retired = true ↔ ∀ m, u ∉ w.members m := by
  constructor
  · intro hretired m hm
    obtain ⟨v', hv', -, hretired'⟩ := hw.member hm
    obtain rfl := Option.some.inj (hv.symm.trans hv')
    exact Bool.false_ne_true (hretired'.symm.trans hretired)
  · intro h
    by_contra hretired
    exact h v.owner (hw.home hv (Bool.eq_false_iff.2 hretired))

end WellFormed

/-- A unit that is not in a module cannot be taken out of it. -/
lemma removeUnit_of_notMem {m : ModuleId} (h : u ∉ w.members m) :
    w.removeUnit m u = (w, false) := by
  simp [removeUnit, h]

/-- A unit that is in a module can be taken out of it. -/
lemma removeUnit_snd (w : Workspace) (m : ModuleId) (u : UnitId) :
    (w.removeUnit m u).2 = decide (u ∈ w.members m) := by
  by_cases h : u ∈ w.members m
  · simp [removeUnit, h]
  · simp [removeUnit_of_notMem h, h]

end Workspace

namespace Session

variable {s : Session} {u : UnitId} {v : CompilationUnit}

/-! ## Retired units -/

/-- A unit without a text, which under all its names answers nothing and takes nothing. -/
structure Detached (s : Session) (u : UnitId) : Prop where
  unloaded : s.textOf? u = none
  tokens : ∀ name, s.units.get? name = some u →
    (s.step (.onUnit name .tokens)).2 = .maybeTokens none
  snapshot : ∀ name, s.units.get? name = some u →
    ∃ g, (s.step (.onUnit name .snapshot)).2 = .maybeSnapshot g none
  moduleLocation : ∀ name, s.units.get? name = some u →
    (s.step (.onUnit name .locationOfModule)).2 = .maybePath none
  /-- No handle can be taken, to whichever token. -/
  reference : ∀ name, s.units.get? name = some u → ∀ index slot,
    (s.step (.onUnit name (.reference index slot))).2 = .maybeHandle none
  /-- A text is refused, and nothing changes. -/
  replace : ∀ name, s.units.get? name = some u → ∀ text,
    s.step (.onUnit name (.replace text)) = (s, .truth false)
  /-- There is no file to load, and nothing changes. -/
  load : ∀ name, s.units.get? name = some u →
    s.step (.onUnit name .load) = (s, .failed .noRepresentationSource)

/-- A retired unit is detached. -/
lemma detached_of_retired (hs : s.WellFormed) (hv : s.workspace.unit? u = some v)
    (hretired : v.retired = true) : s.Detached u := by
  have hrep : v.representation = none := (hs.workspace.consistent hv).retired hretired
  have htokens : v.tokens? = none := by simp [CompilationUnit.tokens?, hrep]
  refine ⟨?_, ?_, ?_, ?_, ?_, ?_, ?_⟩
  · simp [textOf?, hv, hrep]
  · intro name hname
    simp [step_onUnit hname, onUnit, hv, htokens]
  · intro name hname
    exact ⟨v.generation, by simp [step_onUnit hname, onUnit, hv, htokens]⟩
  · intro name hname
    simp [step_onUnit hname, onUnit, Workspace.ownerOf?_of_retired hv hretired]
  · intro name hname index slot
    simp [step_onUnit hname, onUnit, Workspace.reference_of_retired hv hretired]
  · intro name hname text
    simp [step_onUnit hname, onUnit, Workspace.replace_of_retired hv hretired, withWorkspace]
  · intro name hname
    simp [step_onUnit hname, onUnit, Workspace.load_of_retired hv hretired, withWorkspace]

/-- A retired unit stays retired, and is detached for ever.

**Proof sketch.** Induction on the steps: none of them makes a retired unit one that is not. -/
theorem run_detached (hs : s.WellFormed) (hv : s.workspace.unit? u = some v)
    (hretired : v.retired = true) (steps : List Step) :
    ∃ v', (s.run steps).workspace.unit? u = some v' ∧ v'.retired = true ∧
      (s.run steps).Detached u := by
  induction steps generalizing s v with
  | nil => exact ⟨v, hv, hretired, detached_of_retired hs hv hretired⟩
  | cons step steps ih =>
    have htransition := step_transition (fun name m h => (hs.named m).1 ⟨name, h⟩) step
    obtain ⟨v₁, hv₁, hretired₁⟩ := htransition.retired hs hv hretired
    exact ih (hs.step step) hv₁ hretired₁

/-! ## Taking a unit out of a module -/

/-- A unit is taken out of a module if it is in there. The other units keep their order and their
states, and the other modules their lists. -/
lemma step_removeUnit {name unit : String} {m : ModuleId} (hname : s.modules.get? name = some m)
    (hunit : s.units.get? unit = some u) :
    (s.step (.onModule name (.removeUnit unit))).2 = .truth (decide (u ∈ s.workspace.members m)) ∧
      (u ∉ s.workspace.members m → (s.step (.onModule name (.removeUnit unit))).1 = s) ∧
      (∀ k, (s.step (.onModule name (.removeUnit unit))).1.workspace.members k =
        if m = k then (s.workspace.members k).erase u else s.workspace.members k) ∧
      ∀ x, x ≠ u → (s.step (.onModule name (.removeUnit unit))).1.workspace.unit? x =
        s.workspace.unit? x := by
  have hstep : s.step (.onModule name (.removeUnit unit)) =
      (s.withWorkspace (s.workspace.removeUnit m u).1,
        .truth (s.workspace.removeUnit m u).2) := by
    simp [Session.step, withModule, withUnit, onModule, hname, hunit]
  rw [hstep]
  refine ⟨?_, ?_, ?_, ?_⟩
  · rw [Workspace.removeUnit_snd]
  · intro h
    rw [Workspace.removeUnit_of_notMem h]
    rfl
  · intro k
    exact s.workspace.members_removeUnit m u k
  · intro x hx
    refine (s.workspace.unit?_removeUnit m u x).trans (if_neg ?_)
    rintro ⟨-, rfl⟩
    exact hx rfl

/-- Whatever has been done, a unit belongs to a module exactly if the module lists it, once then and
as the only one; the retired units are those that no module lists; a retired unit is retired and
detached for ever; and of the units of a module those and no others can be taken out that it lists,
which changes neither the order nor the states of the others.

**Proof sketch.** All parts hold of well-formed sessions, and reachable ones are well-formed. The
lists, the owners and the retired units agree by `WellFormed`; that a unit stays retired is an
induction over the further run (`run_detached`), and the last part is what the step does to the
lists. -/
theorem membership (hs : s.Reachable) :
    (∀ u m, s.workspace.belongsTo u m = true ↔ u ∈ s.workspace.members m) ∧
    (∀ u m, u ∈ s.workspace.members m →
      (s.workspace.members m).count u = 1 ∧ ∀ k, u ∈ s.workspace.members k → k = m) ∧
    (∀ u v, s.workspace.unit? u = some v →
      (v.retired = true ↔ ∀ m, u ∉ s.workspace.members m)) ∧
    (∀ u v, s.workspace.unit? u = some v → v.retired = true → ∀ after : List Step,
      ∃ v', (s.run after).workspace.unit? u = some v' ∧ v'.retired = true ∧
        (s.run after).Detached u) ∧
    ∀ name unit m u, s.modules.get? name = some m → s.units.get? unit = some u →
      (s.step (.onModule name (.removeUnit unit))).2 =
          .truth (decide (u ∈ s.workspace.members m)) ∧
        (u ∉ s.workspace.members m → (s.step (.onModule name (.removeUnit unit))).1 = s) ∧
        (∀ k, (s.step (.onModule name (.removeUnit unit))).1.workspace.members k =
          if m = k then (s.workspace.members k).erase u else s.workspace.members k) ∧
        ∀ x, x ≠ u → (s.step (.onModule name (.removeUnit unit))).1.workspace.unit? x =
          s.workspace.unit? x := by
  have hs := hs.wellFormed
  have hw := hs.workspace
  refine ⟨hw.belongsTo_iff, ?_, ?_, ?_, ?_⟩
  · intro u m hm
    exact ⟨List.count_eq_one_of_mem (hw.nodup m) hm, fun k hk => hw.eq_of_mem_members hm hk⟩
  · intro u v hv
    exact hw.retired_iff hv
  · intro u v hv hretired after
    exact run_detached hs hv hretired after
  · intro name unit m u hname hunit
    exact step_removeUnit hname hunit

/-- A module with one unit gives its name to another module. -/
def replacedModule : Session :=
  (start MemoryFiles.empty.toFileSystem []).run
    [.newModule .memory "m", .onModule "m" (.addBlankUnit "u"), .newModule .memory "m"]

/-- The unit of a module that lost its name to another module is retired, and it stays so when it is
given a text. -/
theorem membership_replacedModule :
    replacedModule.Reachable ∧ (∀ m, 0 ∉ replacedModule.workspace.members m) ∧
      ∃ v', (replacedModule.run [.onUnit "u" (.replace "a")]).workspace.unit? 0 = some v' ∧
        v'.retired = true ∧ (replacedModule.run [.onUnit "u" (.replace "a")]).Detached 0 := by
  have hreachable : replacedModule.Reachable := ⟨MemoryFiles.empty.toFileSystem, [], _, rfl⟩
  have hunit : replacedModule.workspace.unit? 0 = some ⟨0, none, none, 1, none, true⟩ := by
    decide +kernel
  obtain ⟨-, -, hretired, hdetached, -⟩ := membership hreachable
  exact ⟨hreachable, (hretired 0 _ hunit).1 rfl, hdetached 0 _ hunit rfl _⟩

end Session

end LexicalFront
