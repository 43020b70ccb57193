import LexicalFront.Proofs.Path.Components
set_option autoImplicit false
set_option relaxedAutoImplicit false

/-!
# The ancestors of a path

Going up from a path takes its components off the end, one at a time. So the proper ancestors have
the initial segments of the components, however the path is spelled, down to the first component;
and, if that is not the root, the empty path is the last of them.

## Main results

* `Path.exists_mem_upward_iff` — going up from pieces between slashes.
* `Path.exists_mem_ancestors_iff` — which components the proper ancestors have.
-/

namespace LexicalFront

namespace Path

/-! ## Initial segments of pieces -/

/-- Going up leads to initial segments. -/
lemma isPrefix_of_mem_upward {ss t : List (List UInt8)} (h : t ∈ upward ss) : t <+: ss := by
  fun_induction upward ss with
  | case1 => exact absurd h List.not_mem_nil
  | case2 s ss ih =>
    have hbegins : trimEnd (s :: ss).dropLast <+: s :: ss :=
      (trimEnd_isPrefix _).trans (List.dropLast_prefix _)
    rcases List.mem_cons.1 h with rfl | h
    · exact hbegins
    · exact (ih h).trans hbegins

/-- Pieces of which the last one names something stay as they are when they are trimmed. -/
lemma trimEnd_trimEnd (ss : List (List UInt8)) : trimEnd (trimEnd ss) = trimEnd ss := by
  fun_induction trimEnd ss with
  | case1 => rfl
  | case2 s ss hss hs ih => simp [trimEnd, hs]
  | case3 s ss hss hs ih => rfl
  | case4 s ss t ts hss ih =>
    rw [hss] at ih
    rw [trimEnd, ih]

/-- Going up from pieces of which the last one names something leads to all proper initial segments
of what they name.

**Proof sketch.** Induction along `upward`. The last piece names the last component, so that without
it and the pieces before it that name nothing one component less is left. An initial segment is then
this one, or one of the shorter ones that the recursion gives. -/
lemma exists_mem_upward_iff {ss : List (List UInt8)} (hss : trimEnd ss = ss) {cs : List Component} :
    (∃ t ∈ upward ss, componentsOf t = cs) ↔ cs <+: componentsOf ss ∧ cs ≠ componentsOf ss := by
  fun_induction upward ss with
  | case1 =>
    constructor
    · rintro ⟨t, ht, -⟩
      exact absurd ht List.not_mem_nil
    · rintro ⟨hbegins, hne⟩
      exact absurd (List.prefix_nil.1 hbegins) hne
  | case2 s ss ih =>
    have hne : trimEnd (s :: ss) ≠ [] := by
      rw [hss]
      exact List.cons_ne_nil s ss
    obtain ⟨ts, t, hts, ht⟩ := trimEnd_eq_append hne
    rw [hss] at hts
    have hrest : componentsOf (trimEnd (s :: ss).dropLast) = componentsOf ts := by
      rw [componentsOf, filter_trimEnd, hts, List.dropLast_concat]
      rfl
    have hlast : componentsOf (s :: ss) = componentsOf ts ++ [.ofSegment t] := by
      rw [hts, componentsOf_append]
      simp [componentsOf, ht]
    rw [List.exists_mem_cons_iff, ih (trimEnd_trimEnd _), hrest, hlast, List.prefix_concat_iff]
    constructor
    · rintro (rfl | ⟨hbegins, hne⟩)
      · exact ⟨.inr (List.prefix_refl _), by simp⟩
      · refine ⟨.inr hbegins, fun heq => ?_⟩
        have hlength := hbegins.length_le
        simp only [heq, List.length_append, List.length_singleton] at hlength
        omega
    · rintro ⟨heq | hbegins, hne⟩
      · exact absurd heq hne
      · by_cases heq : componentsOf ts = cs
        · exact .inl heq
        · exact .inr ⟨hbegins, Ne.symm heq⟩

/-! ## Proper ancestors -/

/-- The proper ancestors that are spelled from initial segments of the pieces of a path.

**Proof sketch.** A path that is spelled from the beginning of a path and some of its first pieces
has the components of both (`ofParts_spec`). So the initial segments of the components that are left
to reach are those of the pieces, for which there is `exists_mem_upward_iff`. -/
lemma exists_mem_map_upward_iff {p : Path} {cs : List Component} :
    (∃ a ∈ (upward (trimEnd p.body)).map (ofParts p.lead), a.components = cs) ↔
      p.lead.components <+: cs ∧ cs <+: p.components ∧ cs ≠ p.components := by
  have hspelled (t : List (List UInt8)) (ht : t ∈ upward (trimEnd p.body)) :
      (ofParts p.lead t).components = p.lead.components ++ componentsOf t := by
    have hbegins := isPrefix_of_mem_upward ht
    refine (ofParts_spec ?_ ?_).2
    · intro s hs
      exact slash_notMem_of_mem_body ((trimEnd_isPrefix _).subset (hbegins.subset hs))
    · intro hlead
      exact (isBare_trimEnd_body hlead).of_isPrefix hbegins
  have hcomponents : p.components = p.lead.components ++ componentsOf (trimEnd p.body) := by
    rw [componentsOf, filter_trimEnd]
    rfl
  constructor
  · rintro ⟨a, ha, rfl⟩
    obtain ⟨t, ht, rfl⟩ := List.mem_map.1 ha
    obtain ⟨hbegins, hne⟩ := (exists_mem_upward_iff (trimEnd_trimEnd _)).1 ⟨t, ht, rfl⟩
    rw [hspelled t ht, hcomponents, List.prefix_append_right_inj]
    exact ⟨List.prefix_append _ _, hbegins, by simpa using hne⟩
  · rintro ⟨⟨ds, rfl⟩, hbegins, hne⟩
    rw [hcomponents, List.prefix_append_right_inj] at hbegins
    rw [hcomponents, Ne, List.append_right_inj] at hne
    obtain ⟨t, ht, rfl⟩ := (exists_mem_upward_iff (trimEnd_trimEnd _)).2 ⟨hbegins, hne⟩
    exact ⟨_, List.mem_map_of_mem ht, hspelled t ht⟩

/-- The empty path is the one without components. -/
lemma isEmpty_iff {p : Path} : p.isEmpty = true ↔ p.components = [] := by
  rw [isEmpty, beq_iff_eq, components_eq, lead, body]
  rcases p.parts_cases with ⟨s, ss, hp, hparts⟩ | ⟨ss, hp, hparts⟩ | ⟨s, ss, hp, hs, hparts⟩ |
      ⟨hp, hparts⟩
  · rw [hparts]
    refine ⟨fun h => ?_, fun h => absurd h (List.cons_ne_nil _ _)⟩
    rw [h] at hp
    cases hp
  · rw [hparts]
    refine ⟨fun h => ?_, fun h => absurd h (List.cons_ne_nil _ _)⟩
    rw [h] at hp
    cases hp
  · rw [hparts]
    refine ⟨fun h => ?_, fun h => ?_⟩
    · rw [h] at hp
      cases hp
      cases hs
    · simp [Lead.components, componentsOf, hs] at h
  · rw [hparts]
    exact ⟨fun _ => rfl, fun _ => hp⟩

/-- The beginning of a path stands at the start of all initial segments of its components but the
empty one. -/
lemma lead_components_isPrefix {p : Path} {cs : List Component} (hne : cs ≠ [])
    (h : cs <+: p.components) : p.lead.components <+: cs := by
  obtain ⟨c, cs, rfl⟩ := List.exists_cons_of_ne_nil hne
  rw [components_eq] at h
  cases hlead : p.lead with
  | bare => exact List.nil_prefix
  | root =>
    rw [hlead, Lead.components, List.singleton_append, List.cons_prefix_cons] at h
    exact List.cons_prefix_cons.2 ⟨h.1.symm, List.nil_prefix⟩
  | here =>
    rw [hlead, Lead.components, List.singleton_append, List.cons_prefix_cons] at h
    exact List.cons_prefix_cons.2 ⟨h.1.symm, List.nil_prefix⟩

/-- The proper ancestors of a path that are not empty have the proper initial segments of its
components that are not empty. -/
theorem exists_mem_ancestors_iff {p : Path} {cs : List Component} :
    (∃ a ∈ p.properAncestors.filter (!·.isEmpty), a.components = cs) ↔
      cs ≠ [] ∧ cs <+: p.components ∧ cs ≠ p.components := by
  have hsome (a : Path) : (!a.isEmpty) = true ↔ a.components ≠ [] := by
    rw [Bool.not_eq_true', ← Bool.not_eq_true, isEmpty_iff]
  constructor
  · rintro ⟨a, ha, rfl⟩
    obtain ⟨ha, hne⟩ := List.mem_filter.1 ha
    rw [hsome] at hne
    rcases List.mem_append.1 ha with ha | ha
    · exact ⟨hne, (exists_mem_map_upward_iff.1 ⟨a, ha, rfl⟩).2⟩
    · -- what else there may be is the empty path
      cases hlead : p.lead with
      | here =>
        rw [hlead, List.mem_singleton] at ha
        exact absurd (isEmpty_iff.1 (by rw [ha]; rfl)) hne
      | root => simp [hlead] at ha
      | bare => simp [hlead] at ha
  · rintro ⟨hne, hbegins, hproper⟩
    have hlead := lead_components_isPrefix hne hbegins
    obtain ⟨a, ha, rfl⟩ := exists_mem_map_upward_iff.2 ⟨hlead, hbegins, hproper⟩
    exact ⟨a, List.mem_filter.2 ⟨List.mem_append_left _ ha, (hsome a).2 hne⟩, rfl⟩

end Path

end LexicalFront
