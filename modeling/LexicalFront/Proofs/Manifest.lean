import LexicalFront.Manifest
import LexicalFront.Proofs.Json.RoundTrip
import LexicalFront.Proofs.Text.OsText
set_option autoImplicit false
set_option relaxedAutoImplicit false

/-!
# Writing and reading manifests

A manifest whose locations are texts is read back from what is written of it, on one line or on
many, whatever characters its locations and texts are made of. A field that is left out because
there is no text is read as no text, and an empty text is written as one, so that the two are never
taken for each other.

## Main results

* `UnitManifest.ofJson?_toJson`, `ModuleManifest.ofJson?_toJson` — records are read back from their
  trees.
* `ModuleManifest.parse?_render` — manifests are read back from their texts.
-/

namespace LexicalFront

/-! ## Trees of records -/

/-- A path that is a text is the one that the text spells. -/
lemma Path.ofText_text {p : Path} (h : p.isText = true) : Path.ofText p.text = p := by
  obtain ⟨s, hs⟩ := OsText.isText_iff.1 h
  rw [ofText, text, hs, OsText.shown_ofText, ← hs]

/-- A location that is a text is read back. -/
lemma Path.optional_ofJson? {location : Option Path} (h : location.all Path.isText = true) :
    Json.optional Path.ofJson? (some (.ofOption Path.toJson location)) = some location := by
  cases location with
  | none => rfl
  | some p =>
    show (some (Path.ofText p.text)).map some = some (some p)
    rw [Path.ofText_text h, Option.map_some]

/-- A location is written without numbers. -/
lemma Path.plain_toJson (location : Option Path) : (Json.ofOption Path.toJson location).Plain := by
  cases location with
  | none => exact .null
  | some p => exact .string p.text

namespace UnitManifest

/-- The record of a unit is written without numbers. -/
lemma plain_toJson (r : UnitManifest) : r.toJson.Plain := by
  refine .object fun m hm => ?_
  rcases List.mem_cons.1 hm with rfl | hm
  · exact Path.plain_toJson r.location
  · cases hrep : r.representation with
    | none =>
      rw [hrep] at hm
      cases hm
    | some text =>
      rw [hrep] at hm
      obtain rfl := List.mem_singleton.1 hm
      exact .string text

/-- The record of a unit is read back from its tree. -/
theorem ofJson?_toJson {r : UnitManifest} (h : r.isText = true) : ofJson? r.toJson = some r := by
  obtain ⟨location, representation⟩ := r
  cases representation with
  | none =>
    have hfields : ofJson? (toJson ⟨location, none⟩) =
        ofFields? (some (.ofOption Path.toJson location)) none := rfl
    rw [hfields, ofFields?, Path.optional_ofJson? h]
    rfl
  | some text =>
    have hfields : ofJson? (toJson ⟨location, some text⟩) =
        ofFields? (some (.ofOption Path.toJson location)) (some (.ofString text)) := rfl
    rw [hfields, ofFields?, Path.optional_ofJson? h]
    rfl

end UnitManifest

namespace ModuleManifest

/-- The record of a module is written without numbers. -/
lemma plain_toJson (x : ModuleManifest) : x.toJson.Plain := by
  refine .object (List.forall_mem_cons.2 ⟨Path.plain_toJson x.location,
    List.forall_mem_singleton.2 (.array fun j hj => ?_)⟩)
  obtain ⟨r, -, rfl⟩ := List.mem_map.1 hj
  exact r.plain_toJson

/-- The records of units are read back. -/
lemma unitsOf?_toJson {units : List UnitManifest} (h : units.all UnitManifest.isText = true) :
    unitsOf? (some (.arr (units.map UnitManifest.toJson))) = some units := by
  show (units.map UnitManifest.toJson).mapM UnitManifest.ofJson? = some units
  induction units with
  | nil => rfl
  | cons r units ih =>
    obtain ⟨hr, hunits⟩ := Bool.and_eq_true_iff.1 h
    simp [List.mapM_cons, r.ofJson?_toJson hr, ih hunits]

/-- The record of a module is read back from its tree. -/
theorem ofJson?_toJson {x : ModuleManifest} (h : x.isText = true) : ofJson? x.toJson = some x := by
  have hfields : ofJson? x.toJson = ofFields? (some (.ofOption Path.toJson x.location))
      (some (.arr (x.units.map UnitManifest.toJson))) := rfl
  obtain ⟨hlocation, hunits⟩ := Bool.and_eq_true_iff.1 h
  rw [hfields, ofFields?, Path.optional_ofJson? hlocation, unitsOf?_toJson hunits]
  rfl

/-! ## Texts of manifests -/

/-- A manifest whose locations are texts is read back in every layout. -/
lemma write_bind_parse? {x : ModuleManifest} (h : x.isText = true) (l : Json.Layout) :
    (x.write l).bind parse? = some x := by
  rw [write, if_pos h, Option.bind_some, parse?, Json.parse?_write x.plain_toJson,
    Option.bind_some, ofJson?_toJson h]

/-- What is read back from a written manifest is that manifest. -/
lemma eq_of_write_bind_parse? {x y : ModuleManifest} {l : Json.Layout}
    (h : (y.write l).bind parse? = some x) : x = y := by
  by_cases hy : y.isText = true
  · rw [write_bind_parse? hy] at h
    exact (Option.some.inj h).symm
  · rw [write, if_neg hy] at h
    cases h

/-- A manifest whose locations are texts is read back from what is written of it, on many lines or
on one, whatever these texts are. So different manifests are written differently, above all a unit
without a text and one with an empty text. -/
theorem parse?_render {x : ModuleManifest} (htext : x.isText = true) :
    -- (1) both forms are written, and read back
    x.render.bind parse? = some x ∧ x.renderCompact.bind parse? = some x ∧
    -- (2) no other manifest is written alike
    (∀ y : ModuleManifest, x.render = y.render ∨ x.renderCompact = y.renderCompact → x = y) ∧
    -- (3) no text is not an empty text
    (∀ location before p after,
      (⟨location, before ++ ⟨p, none⟩ :: after⟩ : ModuleManifest).isText = true →
        (⟨location, before ++ ⟨p, none⟩ :: after⟩ : ModuleManifest).render.bind parse? ≠
            (⟨location, before ++ ⟨p, some ""⟩ :: after⟩ : ModuleManifest).render.bind parse? ∧
          (⟨location, before ++ ⟨p, none⟩ :: after⟩ : ModuleManifest).renderCompact.bind parse? ≠
            (⟨location, before ++ ⟨p, some ""⟩ :: after⟩ : ModuleManifest).renderCompact.bind
              parse?) := by
  unfold render renderCompact
  refine ⟨write_bind_parse? htext _, write_bind_parse? htext _, ?_, ?_⟩
  · rintro y (h | h)
    · exact eq_of_write_bind_parse? (h ▸ write_bind_parse? htext _)
    · exact eq_of_write_bind_parse? (h ▸ write_bind_parse? htext _)
  · intro location before p after hnone
    have hempty : (⟨location, before ++ ⟨p, some ""⟩ :: after⟩ : ModuleManifest).isText = true := by
      simpa [isText, UnitManifest.isText] using hnone
    simp [write_bind_parse? hnone, write_bind_parse? hempty]

/-- A module at a path with a quote, an accent and a line break, with one unit that has an empty
text and another one that has none. -/
def accented : ModuleManifest :=
  ⟨some ⟨"/m\"ó\n"⟩, [⟨none, some ""⟩, ⟨some ⟨"a.lift"⟩, some "a\r\n\t\x00"⟩, ⟨none, none⟩]⟩

/-- It is written and read back. -/
theorem parse?_render_accented : accented.isText = true ∧
    accented.render.bind parse? = some accented ∧
    accented.renderCompact.bind parse? = some accented := by
  have htext : accented.isText = true := by decide +kernel
  obtain ⟨hpretty, hcompact, -⟩ := parse?_render htext
  exact ⟨htext, hpretty, hcompact⟩

end ModuleManifest

end LexicalFront
