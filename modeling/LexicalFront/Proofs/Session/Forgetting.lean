import LexicalFront.Proofs.Session.Handle
import LexicalFront.Proofs.Workspace.Forgetting
set_option autoImplicit false
set_option relaxedAutoImplicit false

/-!
# Remembered tokens cannot be noticed

A unit computes its tokens when it is first asked for them, and remembers them for as long as it has
the text. Whether it does can be noticed by nobody: a session in which all units forget their tokens
before each step, and compute them anew whenever they need them, gives the same replies to the same
steps. This is because what a unit remembers is always what it would compute: to install the first
text of a unit does not make it forget, but a unit without a text has nothing to forget.

## Main definitions

* `Session.forget`, `Reply.forget` — a session, or a reply, with nothing remembered.
* `Session.replies` — the replies to some steps.
* `Session.forgetfulReplies` — the replies of a session that forgets before each step.

## Main results

* `Session.step_forget` — a step does not depend on what is remembered.
* `Session.replies_forget` — nor do the replies to any steps.
* `Session.memo_unobservable` — what units remember, and that it cannot be noticed.
-/

namespace LexicalFront

/-- The reply with no tokens remembered by the units that it shows. -/
def Reply.forget : Reply → Reply
  | .unit v => .unit v.forget
  | .maybeUnit v => .maybeUnit (v.map .forget)
  | .units vs => .units (vs.map .forget)
  | .handle h v => .handle h (v.map .forget)
  | r => r

namespace Session

/-- The session with no tokens remembered. -/
def forget (s : Session) : Session := s.withWorkspace s.workspace.forget

variable (s : Session)

/-- There is nothing to forget twice. -/
@[simp] lemma forget_forget : s.forget.forget = s.forget :=
  congrArg s.withWorkspace s.workspace.forget_forget

/-- What is remembered is forgotten. -/
@[simp] lemma forget_remember (us : List UnitId) : (s.remember us).forget = s.forget :=
  congrArg s.withWorkspace (s.workspace.forget_foldl_remember us)

/-- It is the workspace in which nothing is remembered. -/
lemma workspace_forget : s.forget.workspace = s.workspace.forget := rfl

/-- The same units exist. -/
lemma unitExists_forget (u : UnitId) : s.forget.unitExists u = s.unitExists u := by
  rw [unitExists, unitExists, workspace_forget, Workspace.unit?_forget]
  cases s.workspace.unit? u with
  | none => rfl
  | some v => rfl

/-- A unit that exists has forgotten its tokens. -/
lemma existingUnit?_forget (u : UnitId) :
    s.forget.existingUnit? u = (s.existingUnit? u).map .forget := by
  rw [existingUnit?, existingUnit?, unitExists_forget, workspace_forget, Workspace.unit?_forget]
  split
  · rfl
  · rfl

/-! ## Outcomes -/

/-- Two outcomes of a step differ at most in what units remember. -/
structure Alike (r r' : Session × Reply) : Prop where
  session : r.1.forget = r'.1.forget
  reply : r.2.forget = r'.2.forget

/-- The same reply is alike in a session that has forgotten. -/
lemma Alike.forgotten (s : Session) (r : Reply) : Alike (s.forget, r) (s, r) :=
  ⟨s.forget_forget, rfl⟩

/-- To show a unit is alike. -/
lemma Alike.maybeUnit (s : Session) (v : Option CompilationUnit) :
    Alike (s.forget, .maybeUnit (v.map .forget)) (s, .maybeUnit v) := by
  refine ⟨s.forget_forget, congrArg Reply.maybeUnit ?_⟩
  rw [Option.map_map]
  rfl

/-- To ask for tokens is alike. -/
lemma Alike.remember (s : Session) (us : List UnitId) (r : Reply) :
    Alike (s.forget.remember us, r) (s.remember us, r) := by
  refine ⟨?_, rfl⟩
  rw [forget_remember, forget_remember, forget_forget]

variable {s}

/-- Where a module is named, the module that had the name is dropped all the same. -/
lemma forget_nameModule (slot : String) (m : ModuleId) :
    s.forget.nameModule slot m = (s.nameModule slot m).forget := by
  have hworkspace : (s.modules.get? slot).elim s.workspace.forget s.workspace.forget.dropModule =
      ((s.modules.get? slot).elim s.workspace s.workspace.dropModule).forget := by
    cases s.modules.get? slot with
    | none => rfl
    | some m => exact s.workspace.forget_dropModule m
  exact congrArg (fun w => { s with workspace := w, modules := s.modules.put slot m }) hworkspace

/-- A module that is made is alike. -/
lemma alike_finishModule (slot : String) (result : Except LexicalError Workspace) :
    Alike (s.forget.finishModule slot (result.map .forget)) (s.finishModule slot result) := by
  cases result with
  | error e => exact .forgotten s _
  | ok w =>
    have hlocations : (w.forget.memberUnits s.workspace.nextModule).map (·.location) =
        (w.memberUnits s.workspace.nextModule).map (·.location) := by
      rw [Workspace.memberUnits_forget, List.map_map]
      rfl
    refine ⟨?_, congrArg Reply.locations hlocations⟩
    exact (congrArg Session.forget (forget_nameModule (s := s.withWorkspace w) slot _)).trans
      (forget_forget _)

/-- A unit that is made is alike. -/
lemma alike_finishUnit (slot : String) (result : Except LexicalError Workspace) :
    Alike (s.forget.finishUnit slot (result.map .forget)) (s.finishUnit slot result) := by
  cases result with
  | error e => exact .forgotten s _
  | ok w =>
    have hnext : s.forget.workspace.nextUnit = s.workspace.nextUnit := s.workspace.nextUnit_forget
    show Alike ((s.forget.withWorkspace w.forget).nameUnit slot s.forget.workspace.nextUnit,
      .maybeUnit (w.forget.unit? s.forget.workspace.nextUnit)) _
    rw [hnext, Workspace.unit?_forget]
    exact .maybeUnit ((s.withWorkspace w).nameUnit slot s.workspace.nextUnit) _

/-- An update is alike, and so is its failure. -/
lemma alike_finishUpdate (result : Except LexicalError Workspace) :
    Alike (s.forget.finishUpdate (result.map .forget)) (s.finishUpdate result) := by
  cases result with
  | error e => exact .forgotten s _
  | ok w => exact .forgotten (s.withWorkspace w) _

/-- What follows for a name is alike if it is for each value that the name may have. -/
lemma alike_elim {α : Type} (value : Option α) (r : Reply) {f f' : α → Session × Reply}
    (h : ∀ a, Alike (f a) (f' a)) : Alike (value.elim (s.forget, r) f) (value.elim (s, r) f') := by
  cases value with
  | none => exact .forgotten s r
  | some a => exact h a

/-- What follows for a configuration is alike if it is for each. -/
lemma alike_withConfig (config : Option Json) {f f' : Config → Session × Reply}
    (h : ∀ c, Alike (f c) (f' c)) : Alike (s.forget.withConfig config f) (s.withConfig config f') := by
  cases config with
  | none => exact h .standard
  | some j => exact alike_elim (Config.ofJson? j) .badConfig h

/-! ## Steps -/

/-- The steps on the files in memory. -/
lemma onFiles_forget (step : FileStep) : Alike (s.forget.onFiles step) (s.onFiles step) := by
  cases step with
  | write p text => exact .forgotten (s.updateFiles (.write p text)) _
  | makeDir p => exact .forgotten (s.updateFiles (.makeDir p)) _
  | remove p => exact .forgotten (s.updateFiles (.remove p)) _
  | ask p => exact .forgotten s _
  | read p => exact .forgotten s _
  | list p =>
    simp only [onFiles, show s.forget.workspace.files = s.workspace.files from rfl]
    cases s.workspace.files.list p with
    | ok entries => exact .forgotten s _
    | error e => exact .forgotten s _
  | inspect => exact .forgotten s _

/-- The steps on a module.

**Proof sketch.** One case for each step. Each operation of the workspace commutes with forgetting,
which rewrites the step on the forgetful session to the one on the session; then the replies are
read off. A step that gives units in its reply forgets twice, which is forgetting once. -/
lemma onModule_forget (hs : s.WellFormed) (m : ModuleId) (step : ModuleStep) :
    Alike (s.forget.onModule m step) (s.onModule m step) := by
  cases step with
  | restore slot config =>
    simp only [onModule, workspace_forget, Workspace.manifest_forget,
      Workspace.forget_restoreModule]
    exact alike_withConfig config fun c => alike_finishModule slot _
  | size => exact .forgotten s _
  | units =>
    refine ⟨s.forget_forget, congrArg Reply.units ?_⟩
    rw [workspace_forget, Workspace.memberUnits_forget, List.map_map]
    rfl
  | pickUnit i slot =>
    simp only [onModule, workspace_forget, Workspace.members_forget]
    cases (s.workspace.members m)[i]? with
    | none => exact .forgotten s _
    | some u =>
      show Alike (s.forget.nameUnit slot u, .maybeUnit (s.workspace.forget.unit? u)) _
      rw [Workspace.unit?_forget]
      exact .maybeUnit (s.nameUnit slot u) _
  | findUnit location slot =>
    simp only [onModule, workspace_forget, Workspace.members_forget,
      Workspace.indexAtLocation?_forget]
    cases s.workspace.indexAtLocation? m location with
    | none => exact .forgotten s _
    | some i =>
      show Alike ((s.workspace.members m)[i]?.elim s.forget (s.forget.nameUnit slot), _)
        ((s.workspace.members m)[i]?.elim s (s.nameUnit slot), _)
      cases (s.workspace.members m)[i]? with
      | none => exact .forgotten s _
      | some u => exact .forgotten (s.nameUnit slot u) _
  | addBlankUnit slot =>
    simp only [onModule, workspace_forget, Workspace.forget_addUnit]
    exact alike_finishUnit slot (.ok (s.workspace.addUnit m none none))
  | addUnitAt location slot =>
    simp only [onModule, workspace_forget, Workspace.forget_addUnitAt]
    exact alike_finishUnit slot _
  | removeUnit unit =>
    simp only [onModule, withUnit, workspace_forget, Workspace.forget_removeUnit]
    exact alike_elim (s.units.get? unit) .noSuchSlot fun u =>
      .forgotten (s.withWorkspace (s.workspace.removeUnit m u).1) _
  | owns unit =>
    simp only [onModule, withUnit, workspace_forget, Workspace.belongsTo_forget]
    exact alike_elim (s.units.get? unit) .noSuchSlot fun u => .forgotten s _
  | location => exact .forgotten s _
  | setLocation location =>
    simp only [onModule, workspace_forget, Workspace.forget_setModuleLocation]
    exact alike_finishUpdate _
  | loadAll =>
    simp only [onModule, workspace_forget, Workspace.forget_loadAll]
    rcases s.workspace.loadAll m with ⟨w, e | n⟩
    · exact .forgotten (s.withWorkspace w) _
    · exact .forgotten (s.withWorkspace w) _
  | config => exact .forgotten s _
  | read path =>
    simp only [onModule, workspace_forget, Workspace.fileSystem_forget]
    exact .forgotten s _
  | manifest =>
    simp only [onModule, workspace_forget, Workspace.manifest_forget]
    exact .forgotten s _
  | summary =>
    simp only [onModule, workspace_forget, hs.workspace.summary_forget, Workspace.members_forget]
    exact .remember s _ _
  | inspect =>
    simp only [onModule, workspace_forget, Workspace.inspectModule_forget]
    exact .forgotten s _

/-- The steps on a unit.

**Proof sketch.** One case for each step. The tokens of a unit are the same with and without what it
remembers, because it is consistent; all else that is told of a unit does not look at what it
remembers. -/
lemma onUnit_forget (hs : s.WellFormed) (u : UnitId) (step : UnitStep) :
    Alike (s.forget.onUnit u step) (s.onUnit u step) := by
  have htokens : (s.forget.workspace.unit? u).bind (·.tokens?) =
      (s.workspace.unit? u).bind (·.tokens?) := by
    rw [workspace_forget, Workspace.unit?_forget]
    cases hv : s.workspace.unit? u with
    | none => rfl
    | some v => exact (hs.workspace.consistent hv).tokens?_forget
  -- what is told of a unit without its tokens
  have htold {α : Type} (f : Option CompilationUnit → α)
      (hf : ∀ v : CompilationUnit, f (some v.forget) = f (some v)) :
      f (s.forget.workspace.unit? u) = f (s.workspace.unit? u) := by
    rw [workspace_forget, Workspace.unit?_forget]
    cases s.workspace.unit? u with
    | none => rfl
    | some v => exact hf v
  cases step with
  | load =>
    simp only [onUnit, workspace_forget, Workspace.forget_load]
    rcases s.workspace.load u with ⟨w, e | changed⟩
    · exact .forgotten (s.withWorkspace w) _
    · exact .forgotten (s.withWorkspace w) _
  | replace text =>
    simp only [onUnit, workspace_forget, Workspace.forget_replace]
    exact .forgotten (s.withWorkspace (s.workspace.replace u text).1) _
  | clear =>
    simp only [onUnit, workspace_forget, Workspace.forget_clear]
    exact .forgotten (s.withWorkspace (s.workspace.clear u)) _
  | text =>
    simp only [onUnit, htold (·.bind (·.representation)) fun _ => rfl]
    exact .forgotten s _
  | tokens =>
    simp only [onUnit, htokens]
    exact .remember s [u] _
  | shareTokens =>
    simp only [onUnit, htokens]
    exact .remember s [u] _
  | snapshot =>
    simp only [onUnit, htokens, htold (·.elim 0 (·.generation)) fun _ => rfl]
    exact .remember s [u] _
  | setLocation location =>
    simp only [onUnit, workspace_forget, Workspace.forget_setUnitLocation]
    exact alike_finishUpdate _
  | locationOfModule =>
    simp only [onUnit, workspace_forget, Workspace.ownerOf?_forget]
    exact .forgotten s _
  | manifest =>
    simp only [onUnit, htold (·.bind fun v => v.manifest.renderCompact) fun _ => rfl]
    exact .forgotten s _
  | inspect =>
    simp only [onUnit, htold (·.map (·.inspect)) fun _ => rfl]
    exact .forgotten s _
  | reference index slot =>
    have hreference := hs.workspace.reference_forget u index
    have hretired : (s.workspace.forget.unit? u).any (·.retired) =
        (s.workspace.unit? u).any (·.retired) :=
      htold (·.any (·.retired)) fun _ => rfl
    simp only [onUnit, workspace_forget, hreference, hretired]
    cases s.workspace.reference u index with
    | none =>
      cases (s.workspace.unit? u).any (·.retired) with
      | true => exact .forgotten s _
      | false => exact .remember s [u] _
    | some h =>
      cases (s.workspace.unit? u).any (·.retired) with
      | true => exact .forgotten { s with handles := s.handles.put slot h } _
      | false => exact .remember { s with handles := s.handles.put slot h } [u] _

/-- The steps on a handle.

**Proof sketch.** One case for each step. A handle is resolved against the generation and the tokens
of its unit, which forgetting leaves alone. Where tokens are looked at, both sessions may remember
more than before, and forgetting takes that away again. -/
lemma onHandle_forget (hs : s.WellFormed) (h : Handle) (step : HandleStep) :
    Alike (s.forget.onHandle h step) (s.onHandle h step) := by
  cases step with
  | copy slot => exact .forgotten { s with handles := s.handles.put slot h } _
  | isValid =>
    simp only [onHandle, workspace_forget, Workspace.isValid_forget]
    exact .forgotten s _
  | parts =>
    refine ⟨s.forget_forget, congrArg (Reply.handle h) ?_⟩
    rw [existingUnit?_forget, Option.map_map]
    rfl
  | unit slot =>
    simp only [onHandle, existingUnit?_forget]
    cases s.existingUnit? h.unit with
    | none => exact .forgotten s _
    | some v => exact .maybeUnit (s.nameUnit slot h.unit) (some v)
  | inspect =>
    have htext : s.forget.inspectHandle h = s.inspectHandle h := by
      unfold inspectHandle
      simp only [s.unitExists_forget h.unit]
    rw [onHandle, onHandle, htext]
    exact .forgotten s _
  | resolve slot =>
    simp only [onHandle, workspace_forget, Workspace.isValid_forget, hs.workspace.resolve_forget]
    cases s.workspace.resolve h with
    | error e =>
      cases s.workspace.isValid h with
      | true => exact .remember s [h.unit] _
      | false => exact .forgotten s _
    | ok token =>
      cases slot with
      | none =>
        cases s.workspace.isValid h with
        | true => exact .remember s [h.unit] _
        | false => exact .forgotten s _
      | some name =>
        cases s.workspace.isValid h with
        | true => exact .remember { s with tokens := s.tokens.put name token } [h.unit] _
        | false => exact .forgotten { s with tokens := s.tokens.put name token } _

/-- A step makes the same of a session, and gives the same reply, whatever the units of the session
remember.

**Proof sketch.** One case for each kind of step. Making modules commutes with forgetting, since new
units remember nothing; the steps on a module, a unit and a handle have their own lemmas. -/
theorem step_forget (hs : s.WellFormed) (step : Step) :
    Alike (s.forget.step step) (s.step step) := by
  cases step with
  | files step => exact onFiles_forget step
  | newModule source slot =>
    exact alike_finishModule slot (.ok (s.workspace.newModule none source .standard))
  | openModule source dir slot config =>
    simp only [Session.step, workspace_forget, Workspace.forget_openModule]
    exact alike_withConfig config fun c => alike_finishModule slot _
  | restoreModule manifest slot config =>
    simp only [Session.step, workspace_forget, Workspace.forget_restoreModule]
    exact alike_elim (ModuleManifest.ofJson? manifest) .badManifest fun x =>
      alike_withConfig config fun c => alike_finishModule slot _
  | dropModule name =>
    simp only [Session.step, show s.forget.modules = s.modules from rfl, workspace_forget,
      Workspace.forget_dropModule]
    cases s.modules.get? name with
    | none => exact .forgotten s _
    | some m =>
      exact .forgotten
        { s with workspace := s.workspace.dropModule m, modules := s.modules.erase name } _
  | dropUnit name => exact .forgotten { s with units := s.units.erase name } _
  | onModule name step =>
    exact alike_elim (s.modules.get? name) .noSuchSlot fun m => onModule_forget hs m step
  | onUnit name step =>
    exact alike_elim (s.units.get? name) .noSuchSlot fun u => onUnit_forget hs u step
  | onHandle name step =>
    exact alike_elim (s.handles.get? name) .noSuchSlot fun h => onHandle_forget hs h step
  | onToken name step =>
    cases step with
    | parts => exact .forgotten s _
    | inspect => exact .forgotten s _

/-! ## Runs -/

/-- Further steps lead to a session that some steps lead to. -/
lemma Reachable.run (hs : s.Reachable) (steps : List Step) : (s.run steps).Reachable := by
  obtain ⟨outside, files, before, rfl⟩ := hs
  exact ⟨outside, files, before ++ steps, List.foldl_append.symm⟩

/-- The replies to some steps. -/
def replies (s : Session) : List Step → List Reply
  | [] => []
  | step :: steps => (s.step step).2 :: (s.step step).1.replies steps

/-- The replies to some steps where all units forget their tokens before each step, so that none
finds tokens that it has computed in an earlier one. -/
def forgetfulReplies (s : Session) : List Step → List Reply
  | [] => []
  | step :: steps => (s.forget.step step).2 :: (s.forget.step step).1.forgetfulReplies steps

/-- The replies of a session that forgets are those of any session that differs from it at most in
what its units remember.

**Proof sketch.** Induction on the steps. By `step_forget` a step of the session that has forgotten
gives the same reply, and again a session that differs at most in what is remembered. -/
theorem replies_forget {t : Session} (hs : s.WellFormed) (ht : t.forget = s.forget)
    (steps : List Step) :
    (s.replies steps).map Reply.forget = (t.forgetfulReplies steps).map Reply.forget := by
  induction steps generalizing s t with
  | nil => rfl
  | cons step steps ih =>
    obtain ⟨hsession, hreply⟩ := step_forget hs step
    rw [replies, forgetfulReplies, ht, List.map_cons, List.map_cons, hreply,
      ih (hs.step step) hsession]

/-- In every session, the tokens that a unit remembers are those of its text, so that a unit without
a text remembers none, and a unit that is asked for its tokens gives those of its text, if it has
one. Nobody can tell whether units remember their tokens: any steps get the same replies if all
units forget their tokens before each of them.

**Proof sketch.** The first part is the consistency of units, which each operation preserves. The
second part is `replies_forget`. -/
theorem memo_unobservable (hs : s.Reachable) :
    (∀ {u : UnitId} {v : CompilationUnit}, s.workspace.unit? u = some v →
      (∀ stream, v.memo = some stream →
        ∃ text, v.representation = some text ∧ stream = TokenStream.lex text) ∧
      (v.representation = none → v.memo = none) ∧
      v.tokens? = v.representation.map TokenStream.lex) ∧
    ∀ steps : List Step,
      (s.replies steps).map Reply.forget = (s.forgetfulReplies steps).map Reply.forget := by
  have hs := hs.wellFormed
  refine ⟨?_, replies_forget hs rfl⟩
  intro u v hv
  have hconsistent := hs.workspace.consistent hv
  have hmemo : ∀ stream, v.memo = some stream →
      ∃ text, v.representation = some text ∧ stream = TokenStream.lex text := by
    intro stream hstream
    obtain ⟨text, hrep, hlex⟩ := Option.map_eq_some_iff.1 (hconsistent.memo stream hstream)
    exact ⟨text, hrep, hlex.symm⟩
  refine ⟨hmemo, ?_, hconsistent.tokens?_eq⟩
  intro hrep
  rw [Option.eq_none_iff_forall_ne_some]
  intro stream hstream
  obtain ⟨text, htext, -⟩ := hmemo stream hstream
  exact absurd (hrep.symm.trans htext) nofun

/-- The text of the unit is taken away, and then the unit gets another one, with its tokens asked
for in between. -/
def secondText : Session :=
  firstText.run [.onUnit "u" .tokens, .onUnit "u" .clear, .onUnit "u" .tokens,
    .onUnit "u" (.replace "b"), .onUnit "u" .tokens]

/-- The tokens that are remembered are those of the second text, although to install it did not
forget any. -/
theorem memo_unobservable_secondText :
    ∃ v, secondText.workspace.unit? 0 = some v ∧ v.memo = some (.lex "b") := by
  have hfirst : firstText.Reachable := ⟨MemoryFiles.empty.toFileSystem, [], _, rfl⟩
  have hreachable : secondText.Reachable := hfirst.run _
  have hunit : (secondText.workspace.unit? 0).map (fun v => (v.memo.isSome, v.representation)) =
      some (true, some "b") := by
    decide +kernel
  obtain ⟨v, hv, hfields⟩ := Option.map_eq_some_iff.1 hunit
  obtain ⟨hremembers, hrep⟩ := Prod.mk.inj hfields
  obtain ⟨stream, hstream⟩ := Option.isSome_iff_exists.1 hremembers
  obtain ⟨text, htext, rfl⟩ := ((memo_unobservable hreachable).1 hv).1 stream hstream
  obtain rfl := Option.some.inj (htext.symm.trans hrep)
  exact ⟨v, hv, hstream⟩

end Session

end LexicalFront
