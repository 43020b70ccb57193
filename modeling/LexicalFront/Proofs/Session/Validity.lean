import LexicalFront.Proofs.Session.Handle
set_option autoImplicit false
set_option relaxedAutoImplicit false

/-!
# When a handle is valid

Whether a handle is valid is read off the generation of its unit and whether this is retired; to
resolve it takes the text, too, and a token of that number. The two cannot disagree, since a unit at
the generation of a handle still has the text that the handle was taken from. A handle that is not
valid says why: its unit has gone or is retired, or it is at a later generation.

## Main definitions

* `Session.Outdates` — what an error says of the unit of a handle.

## Main results

* `CompilationUnit.resolve_of_isCurrent`, `CompilationUnit.resolve_of_not_isCurrent` — the two
  outcomes by generation and text.
* `Session.isValid_iff_resolve` — both checks agree on every handle at every later moment.
-/

namespace LexicalFront

/-! ## Two checks of a unit -/

namespace CompilationUnit

variable {v : CompilationUnit} {captured index : Nat}

/-- A unit that is not at the generation of a handle refuses it, whatever its text. -/
lemma resolve_of_not_isCurrent (h : v.isCurrent captured = false) :
    v.resolve captured index = .error (.invalidated captured v.currentGeneration?) := by
  rw [resolve, h]
  rfl

/-- A unit with a text that has the token is at its own generation, and gives the token. -/
lemma resolve_of_isCurrent (hv : v.Consistent) {text : String} (hrep : v.representation = some text)
    (hindex : index < (TokenStream.lex text).length) :
    v.isCurrent v.generation = true ∧
      v.resolve v.generation index = .ok ⟨.lex text, v.generation, index⟩ := by
  constructor
  · simp [isCurrent, hv.retired_eq_false hrep]
  · rw [resolve_eq_ok_iff hv]
    exact ⟨rfl, text, hrep, hindex, rfl⟩

/-- A unit at a later generation is not at that of a handle. -/
lemma isCurrent_of_lt (h : captured < v.generation) : v.isCurrent captured = false := by
  simp [isCurrent, Nat.ne_of_gt h]

end CompilationUnit

namespace Session

variable {s : Session} {u : UnitId} {v : CompilationUnit}

/-! ## Units that have gone -/

/-- A unit that is not retired exists. -/
lemma existingUnit?_of_not_retired (hv : s.workspace.unit? u = some v)
    (hretired : v.retired = false) : s.existingUnit? u = some v := by
  simp [existingUnit?, unitExists, hv, hretired]

/-- A unit that exists is that of the workspace. -/
lemma unit?_of_existingUnit? (h : s.existingUnit? u = some v) : s.workspace.unit? u = some v := by
  rw [existingUnit?] at h
  split at h
  · exact h
  · exact absurd h nofun

/-- What an error says of the unit of a handle: that it has gone or is retired, or at which later
generation it is. -/
structure Outdates (s : Session) (h : Handle) (current : Option Nat) : Prop where
  /-- Nothing is said of a unit that has gone or is retired, and only of such a unit. -/
  gone : current = none ↔
    s.existingUnit? h.unit = none ∨ ∃ v, s.existingUnit? h.unit = some v ∧ v.retired = true
  /-- Of any other unit the generation is told, and it is a later one. -/
  moved : ∀ g, current = some g →
    ∃ v, s.existingUnit? h.unit = some v ∧ v.generation = g ∧ h.generation < g

/-- A unit whose generation has moved behind that of a handle says so, unless it is retired. -/
lemma outdates_of_lt {h : Handle} (hv : s.workspace.unit? h.unit = some v)
    (hlt : h.generation < v.generation) : s.Outdates h v.currentGeneration? := by
  have hcurrent : v.currentGeneration? = if v.retired then none else some v.generation := rfl
  cases hretired : v.retired with
  | true =>
    rw [hcurrent, hretired, if_pos rfl]
    refine ⟨iff_of_true rfl ?_, nofun⟩
    cases hexists : s.existingUnit? h.unit with
    | none => exact .inl rfl
    | some v' =>
      obtain rfl := Option.some.inj ((unit?_of_existingUnit? hexists).symm.trans hv)
      exact .inr ⟨v', rfl, hretired⟩
  | false =>
    have hexists := existingUnit?_of_not_retired hv hretired
    rw [hcurrent, hretired, if_neg Bool.false_ne_true]
    refine ⟨iff_of_false nofun ?_, ?_⟩
    · rintro (hgone | ⟨v', hv', hretired'⟩)
      · exact absurd (hexists.symm.trans hgone) nofun
      · obtain rfl := Option.some.inj (hexists.symm.trans hv')
        exact Bool.false_ne_true (hretired.symm.trans hretired')
    · rintro g hg
      obtain rfl := Option.some.inj hg
      exact ⟨v, hexists, rfl, hlt⟩

/-! ## Handles -/

/-- Whatever is done after a handle was taken, it is valid exactly if it can be resolved; and if it
cannot, the error tells the generation of the handle, and of the unit either that it has gone or is
retired, or at which later generation it is.

**Proof sketch.** While the text of the unit stays, so does its generation, and both checks succeed.
When it has changed, the generation has moved on, and both fail for this alone. -/
theorem isValid_iff_resolve (hs : s.Reachable) {index : Nat} {h : Handle}
    (hh : s.workspace.reference u index = some h) (after : List Step) :
    ((s.run after).workspace.isValid h = true ↔
      ∃ r, (s.run after).workspace.resolve h = .ok r) ∧
    ∀ e, (s.run after).workspace.resolve h = .error e →
      ∃ current, e = .invalidated h.generation current ∧ (s.run after).Outdates h current := by
  have hs := hs.wellFormed
  obtain ⟨v, text, hv, hrep, hindex, rfl⟩ := reference_eq_some hs hh
  have hvalid {v' : CompilationUnit} (hv' : (s.run after).workspace.unit? u = some v') :
      (s.run after).workspace.isValid ⟨u, v.generation, index⟩ = v'.isCurrent v.generation := by
    rw [Workspace.isValid, hv']
    rfl
  obtain ⟨v', hv', ⟨-, hrep', hgen⟩ | ⟨-, hlt⟩⟩ := run_representation hs hv hrep after
  · have hconsistent := (hs.run after).workspace.consistent hv'
    obtain ⟨hcurrent, hok⟩ := CompilationUnit.resolve_of_isCurrent hconsistent hrep' hindex
    rw [hvalid hv', resolve_eq hv', ← hgen, hok]
    exact ⟨iff_of_true hcurrent ⟨_, rfl⟩, nofun⟩
  · have hcurrent := CompilationUnit.isCurrent_of_lt hlt
    rw [hvalid hv', resolve_eq hv', CompilationUnit.resolve_of_not_isCurrent hcurrent, hcurrent]
    refine ⟨iff_of_false Bool.false_ne_true fun ⟨_, hr⟩ => absurd hr nofun, ?_⟩
    rintro e he
    obtain rfl := Except.error.inj he
    exact ⟨v'.currentGeneration?, rfl, outdates_of_lt hv' hlt⟩

/-- The text of the unit is replaced, and then the unit loses its module and its name. -/
def goneUnit : Session :=
  firstText.run [.onUnit "u" (.replace "b"), .dropModule "m", .dropUnit "u"]

/-- A handle to a unit that has gone cannot be resolved, and the error says so. -/
theorem isValid_iff_resolve_goneUnit :
    firstText.Reachable ∧ firstText.workspace.reference 0 0 = some ⟨0, 0, 0⟩ ∧
      goneUnit.existingUnit? 0 = none ∧
      ∃ current, goneUnit.workspace.resolve ⟨0, 0, 0⟩ = .error (.invalidated 0 current) ∧
        goneUnit.Outdates ⟨0, 0, 0⟩ current := by
  have hreachable : firstText.Reachable := ⟨MemoryFiles.empty.toFileSystem, [], _, rfl⟩
  have hreference : firstText.workspace.reference 0 0 = some ⟨0, 0, 0⟩ := by decide +kernel
  have hinvalid : goneUnit.workspace.isValid ⟨0, 0, 0⟩ ≠ true := by decide +kernel
  refine ⟨hreachable, hreference, by decide +kernel, ?_⟩
  obtain ⟨hvalid, herror⟩ := isValid_iff_resolve hreachable hreference
    [.onUnit "u" (.replace "b"), .dropModule "m", .dropUnit "u"]
  cases he : goneUnit.workspace.resolve ⟨0, 0, 0⟩ with
  | ok r => exact absurd (hvalid.2 ⟨r, he⟩) hinvalid
  | error e =>
    obtain ⟨current, rfl, houtdates⟩ := herror e he
    exact ⟨current, rfl, houtdates⟩

end Session

end LexicalFront
