import LexicalFront.CompilationUnit
import Mathlib.Logic.Basic
set_option autoImplicit false
set_option relaxedAutoImplicit false

/-!
# The life of a unit

What an operation makes of a unit, and what a handle can rely on. A text gives way to another one,
or to none, only together with the generation, and the generation never goes back: a handle that
remembers it can tell for ever whether its text is still there.

## Main definitions

* `CompilationUnit.Consistent` — the remembered tokens are those of the text, and a retired unit has
  none.
* `CompilationUnit.Becomes` — what one operation makes of a unit.
* `CompilationUnit.Touched` — what the text and the generation have to do with each other.

## Main results

* `CompilationUnit.Becomes.touched` — every operation keeps to that.
* `CompilationUnit.resolve_eq_ok_iff` — which token a handle gives.
-/

namespace LexicalFront

namespace CompilationUnit

variable {v v' v'' : CompilationUnit}

/-! ## Consistency -/

/-- The tokens that a unit remembers are those of its text, and a retired unit has no text. -/
structure Consistent (v : CompilationUnit) : Prop where
  /-- Remembered tokens are the tokens of the text. -/
  memo : ∀ s, v.memo = some s → v.representation.map TokenStream.lex = some s
  /-- A retired unit has no text. -/
  retired : v.retired = true → v.representation = none

/-- A new unit has nothing to remember. -/
lemma Consistent.new (owner : ModuleId) (location : Option Path) (text : Option String) :
    (CompilationUnit.new owner location text).Consistent :=
  ⟨nofun, nofun⟩

/-- A unit with a text is not retired. -/
lemma Consistent.retired_eq_false (h : v.Consistent) {text : String}
    (hrep : v.representation = some text) : v.retired = false := by
  rw [Bool.eq_false_iff]
  intro hretired
  exact absurd ((h.retired hretired).symm.trans hrep) nofun

/-- The tokens of a consistent unit are those of its text, whether they are remembered or not. -/
theorem Consistent.tokens?_eq (h : v.Consistent) :
    v.tokens? = v.representation.map TokenStream.lex := by
  rw [tokens?]
  cases hmemo : v.memo with
  | none => rfl
  | some s =>
    have hs := h.memo s hmemo
    cases hrep : v.representation with
    | none => rfl
    | some text =>
      rw [hrep] at hs
      exact hs.symm

/-! ## Operations -/

/-- What one operation makes of a unit. -/
inductive Becomes (v : CompilationUnit) : CompilationUnit → Prop where
  | same : Becomes v v
  | remember : Becomes v v.remember
  | relocate (location : Option Path) : Becomes v { v with location := location }
  | replace (text : String) : Becomes v (v.replace text).1
  | clear : Becomes v v.clear
  | retire : Becomes v v.retire

/-- Remembering the tokens changes nothing else. -/
lemma remember_eq (v : CompilationUnit) : v.remember = { v with memo := v.remember.memo } := by
  rw [remember]
  cases v.tokens? with
  | none => rfl
  | some s => rfl

/-- The outcomes of installing a text: nothing changes, or there was none, or it is another one. -/
lemma replace_cases (v : CompilationUnit) (text : String) :
    (v.replace text).1 = v ∨
    (v.retired = false ∧ v.representation = none ∧
      (v.replace text).1 = { v with representation := some text }) ∨
    (v.retired = false ∧ v.representation ≠ none ∧ v.representation ≠ some text ∧
      (v.replace text).1 = { v.advance with representation := some text }) := by
  rw [replace]
  cases hretired : v.retired with
  | true => exact .inl rfl
  | false =>
    rw [if_neg Bool.false_ne_true]
    cases hrep : v.representation with
    | none => exact .inr (.inl ⟨rfl, rfl, rfl⟩)
    | some current =>
      by_cases heq : current = text
      · exact .inl (congrArg Prod.fst (if_pos heq))
      · refine .inr (.inr ⟨rfl, nofun, ?_, congrArg Prod.fst (if_neg heq)⟩)
        exact fun h => heq (Option.some.inj h)

/-- To install the text that a unit has does nothing. -/
lemma replace_of_same {text : String} (hrep : v.representation = some text) :
    v.replace text = (v, false) := by
  rw [replace, hrep]
  split
  · rfl
  · exact if_pos rfl

/-- A unit that is not retired has a text once this is installed. The text is reported as changed if
it is not the one that was there, and the generation moves if there was another one. -/
lemma replace_of_not_retired (hretired : v.retired = false) (text : String) :
    (v.replace text).1.representation = some text ∧
      (v.replace text).1.generation = v.generation +
        (if v.isLoaded ∧ v.representation ≠ some text then 1 else 0) ∧
      (v.replace text).2 = decide (v.representation ≠ some text) := by
  have hloaded : v.isLoaded = v.representation.isSome := rfl
  rw [replace, hretired, if_neg Bool.false_ne_true, hloaded]
  cases hrep : v.representation with
  | none => exact ⟨rfl, rfl, rfl⟩
  | some current =>
    by_cases heq : current = text
    · subst heq
      simp [hrep]
    · simp [heq, advance]

/-- Installing a text leaves a unit in its place. -/
lemma place_replace (v : CompilationUnit) (text : String) :
    (v.replace text).1.owner = v.owner ∧ (v.replace text).1.location = v.location ∧
      (v.replace text).1.retired = v.retired := by
  rcases v.replace_cases text with h | ⟨-, -, h⟩ | ⟨-, -, -, h⟩
  · simp [h]
  · simp [h]
  · simp [h, advance]

/-- A unit is retired after retiring. -/
lemma retired_retire (v : CompilationUnit) : v.retire.retired = true := by
  rw [retire]
  split
  · next h => exact h
  · rfl

/-- To retire a unit twice is to retire it once. -/
lemma retire_retire (v : CompilationUnit) : v.retire.retire = v.retire := by
  rw [retire, if_pos v.retired_retire]

/-- A unit stays with the module that it was made for. -/
theorem Becomes.owner_eq (h : v.Becomes v') : v'.owner = v.owner := by
  cases h with
  | same => rfl
  | remember => rw [remember_eq]
  | relocate location => rfl
  | replace text =>
    rcases v.replace_cases text with h | ⟨-, -, h⟩ | ⟨-, -, -, h⟩
    · rw [h]
    · rw [h]
    · rw [h]
      rfl
  | clear => rfl
  | retire =>
    rw [CompilationUnit.retire]
    split
    · rfl
    · rfl

/-- Every operation leaves a consistent unit consistent.

**Proof sketch.** One case for each operation. Clearing, retiring and another text forget the
tokens, so that nothing remembered can be wrong. What `remember` keeps is read off the text, and the
first text of a unit finds no tokens, since there was no text to remember them of. -/
theorem Becomes.consistent (h : v.Becomes v') (hv : v.Consistent) : v'.Consistent := by
  cases h with
  | same => exact hv
  | remember =>
    refine ⟨?_, ?_⟩
    · intro s hs
      have hrep : v.remember.representation = v.representation := by rw [remember_eq]
      rw [hrep, ← hv.tokens?_eq]
      rw [CompilationUnit.remember] at hs
      cases htokens : v.tokens? with
      | none =>
        rw [htokens] at hs
        rw [← htokens, hv.tokens?_eq]
        exact hv.memo s hs
      | some s' =>
        rw [htokens] at hs
        exact hs
    · intro hretired
      rw [remember_eq] at hretired ⊢
      exact hv.retired hretired
  | relocate location => exact ⟨hv.memo, hv.retired⟩
  | replace text =>
    rcases v.replace_cases text with h | ⟨hretired, hrep, h⟩ | ⟨hretired, -, -, h⟩
    · rw [h]
      exact hv
    · rw [h]
      refine ⟨?_, fun ht => absurd (hretired.symm.trans ht) Bool.false_ne_true⟩
      intro s hs
      -- without a text there were no tokens to remember
      have hnone := hv.memo s hs
      rw [hrep] at hnone
      exact absurd hnone nofun
    · rw [h]
      exact ⟨nofun, fun ht => absurd (hretired.symm.trans ht) Bool.false_ne_true⟩
  | clear => exact ⟨nofun, fun _ => rfl⟩
  | retire =>
    rw [CompilationUnit.retire]
    split
    · exact hv
    · exact ⟨nofun, fun _ => rfl⟩

/-- Once retired, a unit stays retired. -/
theorem Becomes.retired (h : v.Becomes v') (hv : v.retired = true) : v'.retired = true := by
  cases h with
  | same => exact hv
  | remember => rw [remember_eq]; exact hv
  | relocate location => exact hv
  | replace text =>
    rw [CompilationUnit.replace, if_pos hv]
    exact hv
  | clear => exact hv
  | retire =>
    rw [CompilationUnit.retire, if_pos hv]
    exact hv

/-! ## Text and generation -/

/-- The text, the generation, and whether the unit is retired have stayed. -/
structure Kept (v v' : CompilationUnit) : Prop where
  representation : v'.representation = v.representation
  generation : v'.generation = v.generation
  retired : v'.retired = v.retired

/-- The text and the generation have stayed, or the first text has come, or the text has gone and
the generation has moved. -/
inductive Touched (v v' : CompilationUnit) : Prop where
  | kept (h : Kept v v')
  | filled (hrep : v.representation = none) (hgen : v'.generation = v.generation)
  | moved (hrep : v.representation = none ∨ v'.representation ≠ v.representation)
    (hgen : v'.generation = v.generation + 1)

/-- Nothing has been done. -/
lemma Kept.refl (v : CompilationUnit) : Kept v v := ⟨rfl, rfl, rfl⟩

/-- What is kept twice is kept. -/
lemma Kept.trans (h : Kept v v') (h' : Kept v' v'') : Kept v v'' :=
  ⟨h'.representation.trans h.representation, h'.generation.trans h.generation,
    h'.retired.trans h.retired⟩

/-- Remembering the tokens keeps the text. -/
lemma Kept.remember (v : CompilationUnit) : Kept v v.remember := by
  rw [remember_eq]
  exact ⟨rfl, rfl, rfl⟩

/-- What has been kept before an operation does not count. -/
lemma Kept.touched (h : Kept v v') (h' : Touched v' v'') : Touched v v'' := by
  cases h' with
  | kept h' => exact .kept (h.trans h')
  | filled hrep hgen => exact .filled (h.representation.symm.trans hrep) (hgen.trans h.generation)
  | moved hrep hgen =>
    rw [h.representation] at hrep
    rw [h.generation] at hgen
    exact .moved hrep hgen

/-- No operation changes a text without moving the generation, unless there was no text, and none
moves the generation of a text that it leaves as it is. -/
theorem Becomes.touched (h : v.Becomes v') : Touched v v' := by
  have hgone (w : CompilationUnit) (hw : w.representation = none) :
      v.representation = none ∨ w.representation ≠ v.representation := by
    rw [hw]
    exact (Classical.em (v.representation = none)).imp_right Ne.symm
  cases h with
  | same => exact .kept (.refl v)
  | remember => exact .kept (.remember v)
  | relocate location => exact .kept ⟨rfl, rfl, rfl⟩
  | replace text =>
    rcases v.replace_cases text with h | ⟨-, hrep, h⟩ | ⟨-, -, hne, h⟩
    · rw [h]
      exact .kept (.refl v)
    · rw [h]
      exact .filled hrep rfl
    · rw [h]
      exact .moved (.inr hne.symm) rfl
  | clear => exact .moved (hgone _ rfl) rfl
  | retire =>
    rw [CompilationUnit.retire]
    split
    · exact .kept (.refl v)
    · exact .moved (hgone _ rfl) rfl

/-- The generation never goes back. -/
lemma Touched.generation_le (h : Touched v v') : v.generation ≤ v'.generation := by
  cases h with
  | kept h => exact Nat.le_of_eq h.generation.symm
  | filled hrep hgen => exact Nat.le_of_eq hgen.symm
  | moved hrep hgen => omega

/-- A text stays together with its generation, and goes together with it. -/
lemma Touched.cases_of_representation {text : String} (h : Touched v v')
    (hrep : v.representation = some text) :
    (v'.representation = some text ∧ v'.generation = v.generation) ∨
      (v'.representation ≠ some text ∧ v.generation < v'.generation) := by
  cases h with
  | kept h => exact .inl ⟨h.representation.trans hrep, h.generation⟩
  | filled hnone hgen => exact absurd (hnone.symm.trans hrep) nofun
  | moved hmoved hgen =>
    rw [hrep] at hmoved
    exact .inr ⟨hmoved.resolve_left nofun, by omega⟩

/-! ## Handles -/

/-- A handle can be taken to every token of the text. -/
theorem canRefer_iff (hv : v.Consistent) {index : Nat} :
    v.canRefer index = true ↔
      ∃ text, v.representation = some text ∧ index < (TokenStream.lex text).length := by
  rw [canRefer, hv.tokens?_eq]
  cases hrep : v.representation with
  | none => simp
  | some text =>
    have hretired := hv.retired_eq_false hrep
    simp [hretired]

/-- A handle gives the token of the text if it is as old as the text and the token is there. -/
theorem resolve_eq_ok_iff (hv : v.Consistent) {captured index : Nat} {r : TokenRef} :
    v.resolve captured index = .ok r ↔
      v.generation = captured ∧ ∃ text, v.representation = some text ∧
        index < (TokenStream.lex text).length ∧ r = ⟨.lex text, captured, index⟩ := by
  rw [resolve, isCurrent, hv.tokens?_eq]
  cases hrep : v.representation with
  | none => simp
  | some text =>
    have hretired := hv.retired_eq_false hrep
    by_cases hgen : v.generation = captured
    · by_cases hindex : index < (TokenStream.lex text).length
      · simp [hretired, hgen, hindex, eq_comm]
      · simp [hretired, hgen, hindex]
    · simp [hgen]

/-- A handle that gives no token says at which generation it was taken, and where the unit is now.
-/
lemma resolve_eq_error {captured index : Nat} (h : ∀ r, v.resolve captured index ≠ .ok r) :
    v.resolve captured index = .error (.invalidated captured v.currentGeneration?) := by
  rw [resolve] at h ⊢
  by_cases hcurrent : v.isCurrent captured = true
  · rw [if_pos hcurrent] at h ⊢
    cases hs : v.tokens? with
    | none => rfl
    | some s =>
      rw [hs] at h
      by_cases hindex : index < s.length
      · exact absurd (if_pos hindex) (h _)
      · exact if_neg hindex
  · rw [if_neg hcurrent]

end CompilationUnit

end LexicalFront
