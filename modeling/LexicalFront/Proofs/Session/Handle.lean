import Mathlib.Data.List.Basic
import LexicalFront.Proofs.Session.Transition
set_option autoImplicit false
set_option relaxedAutoImplicit false

/-!
# What handles can be relied on for

A handle gives its token for as long as nothing happens to the text that it was taken from, whatever
happens to other texts, to places and to names; and once something has happened to the text, the
handle is stale for ever, even if the unit gets the same text again.

## Main definitions

* `Session.KeepsText` — no step of some steps changes the text of a unit.
* `Session.EndsText` — calls that change it, whatever is stored.
* `Session.IsHeld` — a unit that some name keeps alive.

## Main results

* `Session.KeepsText.not_endsText` — no such call is among steps that keep a text.
* `Session.run_representation` — the text and the generation of a unit after some steps.
* `Session.resolve_of_reference` — what a handle gives after some steps.
-/

namespace LexicalFront

namespace Session

variable {s : Session} {u : UnitId} {v : CompilationUnit}

/-! ## Texts along a run -/

/-- The text of a unit, if it is loaded. -/
def textOf? (s : Session) (u : UnitId) : Option String :=
  (s.workspace.unit? u).bind (·.representation)

/-- None of the steps changes the text of a unit: none replaces it by another text or takes it away,
and none retires the unit. -/
def KeepsText (s : Session) (u : UnitId) : List Step → Prop
  | [] => True
  | step :: steps => (s.step step).1.textOf? u = s.textOf? u ∧ (s.step step).1.KeepsText u steps

/-- Calls that end a text of a unit, whatever is stored: it is replaced by another one or taken away,
or the unit leaves its module, or the module is dropped. -/
inductive EndsText (s : Session) (u : UnitId) (text : String) : Step → Prop where
  | replace (name : String) (hname : s.units.get? name = some u) (other : String)
    (hne : other ≠ text) : EndsText s u text (.onUnit name (.replace other))
  | clear (name : String) (hname : s.units.get? name = some u) :
    EndsText s u text (.onUnit name .clear)
  | removeUnit (name unit : String) (m : ModuleId) (hname : s.modules.get? name = some m)
    (hunit : s.units.get? unit = some u) (hmem : u ∈ s.workspace.members m) :
    EndsText s u text (.onModule name (.removeUnit unit))
  | dropModule (name : String) (m : ModuleId) (hname : s.modules.get? name = some m)
    (hmem : u ∈ s.workspace.members m) : EndsText s u text (.dropModule name)

/-- A name keeps the unit alive, either its own or that of its module. -/
def IsHeld (s : Session) (u : UnitId) : Prop :=
  (∃ name m, s.modules.get? name = some m ∧ u ∈ s.workspace.members m) ∨
    ∃ name, s.units.get? name = some u

/-- What a step does to the text and the generation of a unit. -/
lemma step_touched (hs : s.WellFormed) (hv : s.workspace.unit? u = some v) (step : Step) :
    ∃ v', (s.step step).1.workspace.unit? u = some v' ∧ v.Touched v' :=
  (step_transition (fun name m h => (hs.named m).1 ⟨name, h⟩) step).touched hs hv

/-- The session is well-formed after a step. -/
lemma WellFormed.step (hs : s.WellFormed) (step : Step) : (s.step step).1.WellFormed :=
  hs.run [step]

/-- After such a call the unit has another text, or none.

**Proof sketch.** One case for each kind of call, in which the unit is looked up after the change.
Another text is not the one asked about; clearing and retiring leave none. That the unit had a text
means that it was not retired before. -/
lemma EndsText.textOf?_ne {text : String} {step : Step} (hs : s.WellFormed)
    (htext : s.textOf? u = some text) (h : s.EndsText u text step) :
    (s.step step).1.textOf? u ≠ some text := by
  obtain ⟨v, hv, hrep⟩ := Option.bind_eq_some_iff.1 htext
  have hretired := (hs.workspace.consistent hv).retired_eq_false hrep
  have hretire : v.retire.representation = none := by
    rw [CompilationUnit.retire, if_neg (by simp [hretired])]
  cases h with
  | replace name hname other hne =>
    have hreplace : (v.replace other).1.representation = some other := by
      simp [CompilationUnit.replace, hretired, hrep, Ne.symm hne]
    rw [step_onUnit hname, textOf?]
    show ((s.workspace.modifyUnit u fun v => (v.replace other).1).unit? u).bind _ ≠ _
    rw [Workspace.unit?_modifyUnit, if_pos rfl, hv, Option.map_some, Option.bind_some, hreplace]
    simpa using hne
  | clear name hname =>
    rw [step_onUnit hname, textOf?]
    show ((s.workspace.modifyUnit u .clear).unit? u).bind _ ≠ _
    rw [Workspace.unit?_modifyUnit, if_pos rfl, hv]
    exact (Option.some_ne_none text).symm
  | removeUnit name unit m hname hunit hmem =>
    rw [step_onModule hname, onModule, withUnit, hunit, textOf?]
    show ((s.workspace.removeUnit m u).1.unit? u).bind _ ≠ _
    rw [Workspace.unit?_removeUnit, if_pos ⟨hmem, rfl⟩, hv, Option.map_some, Option.bind_some,
      hretire]
    exact (Option.some_ne_none text).symm
  | dropModule name m hname hmem =>
    rw [Session.step, hname, textOf?]
    show ((s.workspace.dropModule m).unit? u).bind _ ≠ _
    rw [Workspace.unit?_dropModule, if_pos hmem, hv, Option.map_some, Option.bind_some, hretire]
    exact (Option.some_ne_none text).symm

/-- No such call is among steps that keep the text. -/
theorem KeepsText.not_endsText {text : String} {before after : List Step} {step : Step}
    (hs : s.WellFormed) (htext : s.textOf? u = some text)
    (h : s.KeepsText u (before ++ step :: after)) : ¬(s.run before).EndsText u text step := by
  induction before generalizing s with
  | nil => exact fun hends => hends.textOf?_ne hs htext (h.1.trans htext)
  | cons first before ih => exact ih (hs.step first) (h.1.trans htext) h.2

/-- No run takes a generation back. -/
lemma generation_le_run (hs : s.WellFormed) (hv : s.workspace.unit? u = some v)
    (steps : List Step) :
    ∃ v', (s.run steps).workspace.unit? u = some v' ∧ v.generation ≤ v'.generation := by
  induction steps generalizing s v with
  | nil => exact ⟨v, hv, Nat.le_refl _⟩
  | cons step steps ih =>
    obtain ⟨v₁, hv₁, htouched⟩ := step_touched hs hv step
    obtain ⟨v', hv', hle⟩ := ih (hs.step step) hv₁
    exact ⟨v', hv', Nat.le_trans htouched.generation_le hle⟩

/-- A text is there with its generation while no step changes it, and the generation has moved for
good when one has.

**Proof sketch.** Induction on the steps. A step that leaves the text as it is leaves the
generation, too. The first step that does not moves the generation, and from there on it never comes
back. -/
theorem run_representation {text : String} (hs : s.WellFormed)
    (hv : s.workspace.unit? u = some v) (hrep : v.representation = some text)
    (steps : List Step) :
    ∃ v', (s.run steps).workspace.unit? u = some v' ∧
      ((s.KeepsText u steps ∧ v'.representation = some text ∧ v'.generation = v.generation) ∨
        (¬s.KeepsText u steps ∧ v.generation < v'.generation)) := by
  induction steps generalizing s v with
  | nil => exact ⟨v, hv, .inl ⟨trivial, hrep, rfl⟩⟩
  | cons step steps ih =>
    obtain ⟨v₁, hv₁, htouched⟩ := step_touched hs hv step
    have htext : s.textOf? u = some text := by
      rw [textOf?, hv]
      exact hrep
    have htext₁ : (s.step step).1.textOf? u = v₁.representation := by
      rw [textOf?, hv₁]
      rfl
    rcases htouched.cases_of_representation hrep with ⟨hrep₁, hgen⟩ | ⟨hrep₁, hgen⟩
    · obtain ⟨v', hv', ⟨hkeeps, hrep', hgen'⟩ | ⟨hkeeps, hgen'⟩⟩ := ih (hs.step step) hv₁ hrep₁
      · refine ⟨v', hv', .inl ⟨⟨?_, hkeeps⟩, hrep', hgen'.trans hgen⟩⟩
        rw [htext₁, hrep₁, htext]
      · exact ⟨v', hv', .inr ⟨fun h => hkeeps h.2, by omega⟩⟩
    · obtain ⟨v', hv', hle⟩ := generation_le_run (hs.step step) hv₁ steps
      refine ⟨v', hv', .inr ⟨fun h => hrep₁ ?_, by omega⟩⟩
      rw [← htext₁, h.1, htext]

/-- A unit with a text is held by its module. -/
lemma isHeld_of_representation {text : String} (hs : s.WellFormed)
    (hv : s.workspace.unit? u = some v) (hrep : v.representation = some text) : s.IsHeld u := by
  have hretired := (hs.workspace.consistent hv).retired_eq_false hrep
  have hmember := hs.workspace.home hv hretired
  obtain ⟨name, hname⟩ := (hs.named v.owner).2 (Workspace.isSome_module?_of_mem hmember)
  exact .inl ⟨name, v.owner, hname, hmember⟩

/-! ## Handles along a run -/

/-- A handle is taken to a token of the text of its unit, at the generation of the unit. -/
lemma reference_eq_some (hs : s.WellFormed) {index : Nat} {h : Handle}
    (hh : s.workspace.reference u index = some h) :
    ∃ v text, s.workspace.unit? u = some v ∧ v.representation = some text ∧
      index < (TokenStream.lex text).length ∧ h = ⟨u, v.generation, index⟩ := by
  cases hv : s.workspace.unit? u with
  | none =>
    rw [Workspace.reference, hv] at hh
    exact absurd hh nofun
  | some v =>
    have hv' : (if v.canRefer index then some (⟨u, v.generation, index⟩ : Handle) else none) =
        some h := by
      rw [Workspace.reference, hv] at hh
      exact hh
    split at hv'
    · next hrefer =>
      obtain ⟨text, hrep, hindex⟩ :=
        (CompilationUnit.canRefer_iff (hs.workspace.consistent hv)).1 hrefer
      exact ⟨v, text, rfl, hrep, hindex, (Option.some.inj hv').symm⟩
    · exact absurd hv' nofun

/-- A handle is as good as its unit lets it be. -/
lemma resolve_eq {h : Handle} (hv : s.workspace.unit? h.unit = some v) :
    s.workspace.resolve h = v.resolve h.generation h.index := by
  rw [Workspace.resolve, hv]

/-- What a run changes, a longer one has changed. -/
lemma KeepsText.of_append {steps later : List Step} (h : s.KeepsText u (steps ++ later)) :
    s.KeepsText u steps := by
  induction steps generalizing s with
  | nil => trivial
  | cons step steps ih => exact ⟨h.1, ih h.2⟩

/-- What a handle gives after some steps: its token if none of them changes the text of its unit,
and an error else. -/
lemma resolve_run {text : String} (hs : s.WellFormed) (hv : s.workspace.unit? u = some v)
    (hrep : v.representation = some text) {index : Nat}
    (hindex : index < (TokenStream.lex text).length) (steps : List Step) :
    (s.KeepsText u steps ∧ (s.run steps).IsHeld u ∧
      (s.run steps).workspace.resolve ⟨u, v.generation, index⟩ =
        .ok ⟨.lex text, v.generation, index⟩) ∨
    (¬s.KeepsText u steps ∧ ∃ current,
      (s.run steps).workspace.resolve ⟨u, v.generation, index⟩ =
        .error (.invalidated v.generation current)) := by
  have hs' := hs.run steps
  obtain ⟨v', hv', ⟨hkeeps, hrep', hgen⟩ | ⟨hkeeps, hgen⟩⟩ := run_representation hs hv hrep steps
  · refine .inl ⟨hkeeps, isHeld_of_representation hs' hv' hrep', ?_⟩
    rw [resolve_eq hv', CompilationUnit.resolve_eq_ok_iff (hs'.workspace.consistent hv')]
    exact ⟨hgen, text, hrep', hindex, rfl⟩
  · refine .inr ⟨hkeeps, v'.currentGeneration?, ?_⟩
    rw [resolve_eq hv', CompilationUnit.resolve_eq_error]
    intro r hr
    rw [CompilationUnit.resolve_eq_ok_iff (hs'.workspace.consistent hv')] at hr
    exact absurd hr.1 (Nat.ne_of_gt hgen)

/-- A handle that is taken to a token gives this token for exactly as long as no step changes the
text of its unit, which is then held; and once it does not, it is invalidated for ever.

**Proof sketch.** While no step changes the text, the text and the generation are those at which the
handle was taken. Afterwards the generation has moved, and it never moves back. -/
theorem resolve_of_reference (hs : s.Reachable) {index : Nat} {h : Handle}
    (hh : s.workspace.reference u index = some h) :
    ∃ v stream, s.workspace.unit? u = some v ∧ v.tokens? = some stream ∧
      h.generation = v.generation ∧ ∀ after : List Step,
        ((∃ r, (s.run after).workspace.resolve h = .ok r) ↔
          s.KeepsText u after ∧ (s.run after).IsHeld u) ∧
        (∀ r, (s.run after).workspace.resolve h = .ok r →
          stream.get? index = some r.token ∧ r.stream = stream ∧
            r.generation = h.generation ∧ r.index = index) ∧
        ((∀ r, (s.run after).workspace.resolve h ≠ .ok r) →
          ∀ later : List Step, ∃ current, ((s.run after).run later).workspace.resolve h =
            .error (.invalidated h.generation current)) := by
  have hs := hs.wellFormed
  obtain ⟨v, text, hv, hrep, hindex, rfl⟩ := reference_eq_some hs hh
  refine ⟨v, .lex text, hv, ?_, rfl, ?_⟩
  · rw [(hs.workspace.consistent hv).tokens?_eq, hrep]
    rfl
  · intro after
    rcases resolve_run hs hv hrep hindex after with ⟨hkeeps, hheld, hok⟩ | ⟨hkeeps, _, herror⟩
    · refine ⟨⟨fun _ => ⟨hkeeps, hheld⟩, fun _ => ⟨_, hok⟩⟩, ?_, ?_⟩
      · intro r hr
        obtain rfl := Except.ok.inj (hok.symm.trans hr)
        refine ⟨?_, rfl, rfl, rfl⟩
        rw [TokenRef.token, TokenStream.get?, List.getElem?_eq_getElem hindex]
        rfl
      · intro hnone
        exact absurd hok (hnone _)
    · have hnone (r : TokenRef) :
          (s.run after).workspace.resolve ⟨u, v.generation, index⟩ ≠ .ok r := by
        rw [herror]
        exact nofun
      refine ⟨⟨fun ⟨r, hr⟩ => absurd hr (hnone r), fun h => absurd h.1 hkeeps⟩, ?_, ?_⟩
      · intro r hr
        exact absurd hr (hnone r)
      · intro _ later
        have hrun : (s.run after).run later = s.run (after ++ later) :=
          (List.foldl_append).symm
        rw [hrun]
        rcases resolve_run hs hv hrep hindex (after ++ later) with ⟨hkeeps', -⟩ | ⟨-, hstale⟩
        · exact absurd hkeeps'.of_append hkeeps
        · exact hstale

/-- A unit is made and given a text. -/
def firstText : Session :=
  (start MemoryFiles.empty.toFileSystem []).run
    [.newModule .memory "m", .onModule "m" (.addBlankUnit "u"), .onUnit "u" (.replace "a")]

/-- Four ways in which the unit may lose the text. -/
def losses : List Step :=
  [.onUnit "u" (.replace "b"), .onUnit "u" .clear, .onModule "m" (.removeUnit "u"), .dropModule "m"]

/-- Whichever way the text is lost, the handle stays stale when the unit is given the text back that
the handle was taken from. -/
theorem resolve_of_reference_restored : firstText.workspace.reference 0 0 = some ⟨0, 0, 0⟩ ∧
    losses.Forall fun step => ∃ current,
      ((firstText.run [step]).run [.onUnit "u" (.replace "a")]).workspace.resolve ⟨0, 0, 0⟩ =
        .error (.invalidated 0 current) := by
  have hreference : firstText.workspace.reference 0 0 = some ⟨0, 0, 0⟩ := by decide +kernel
  have hreachable : firstText.Reachable := ⟨MemoryFiles.empty.toFileSystem, [], _, rfl⟩
  obtain ⟨_, _, _, _, _, hall⟩ := resolve_of_reference hreachable hreference
  have hstale : (losses.all fun step =>
      !((firstText.run [step]).workspace.resolve ⟨0, 0, 0⟩).isOk) = true := by decide +kernel
  refine ⟨hreference, List.forall_iff_forall_mem.2 fun step hstep => ?_⟩
  refine (hall [step]).2.2 (fun r hr => ?_) _
  have hstale := List.all_eq_true.1 hstale step hstep
  rw [hr] at hstale
  exact absurd hstale nofun

end Session

end LexicalFront
