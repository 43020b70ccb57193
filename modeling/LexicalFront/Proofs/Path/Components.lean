import LexicalFront.Path
import Mathlib.Data.List.Basic
set_option autoImplicit false
set_option relaxedAutoImplicit false

/-!
# Components of computed paths

A path that is computed from others is spelled anew. This module says what it means: which
components the parent of a path has, what is left of a path below another one, and what stands for a
path below a directory. So going down from a directory and taking the directory off again agree
whatever the spellings are.

## Main results

* `Path.components_stripPrefix?`, `Path.components_join` — taking a directory off, and going down.
* `Path.components_join_stripPrefix?` — the one is the inverse of the other.
* `Path.parent?_cases` — going up.
-/

namespace LexicalFront

/-! ## Pieces between slashes -/

/-- A slash is a cut. -/
lemma slashPieces_append_slash (as bs : List UInt8) :
    slashPieces (as ++ slash :: bs) = slashPieces as ++ slashPieces bs := by
  induction as with
  | nil => simp [slashPieces]
  | cons b cs ih =>
    simp only [List.cons_append, slashPieces]
    by_cases hb : b = slash
    · simp [hb, ih]
    · cases hcs : slashPieces cs with
      | nil => exact absurd hcs (slashPieces_ne_nil cs)
      | cons s ss => simp [hb, ih, hcs]

/-- There is no slash in a piece. -/
lemma slash_notMem_of_mem_slashPieces {bs s : List UInt8} (h : s ∈ slashPieces bs) : slash ∉ s := by
  induction bs generalizing s with
  | nil =>
    simp only [slashPieces, List.mem_singleton] at h
    simp [h]
  | cons b bs ih =>
    simp only [slashPieces] at h
    by_cases hb : b = slash
    · rw [if_pos hb] at h
      rcases List.mem_cons.1 h with rfl | h
      · simp
      · exact ih h
    · rw [if_neg hb] at h
      cases hbs : slashPieces bs with
      | nil => exact absurd hbs (slashPieces_ne_nil bs)
      | cons t ts =>
        rw [hbs] at h ih
        rcases List.mem_cons.1 h with rfl | h
        · have ht : slash ∉ t := ih List.mem_cons_self
          simp [ht, Ne.symm hb]
        · exact ih (List.mem_cons_of_mem t h)

/-- Bytes without a slash are one piece. -/
lemma slashPieces_of_slash_notMem {s : List UInt8} (h : slash ∉ s) : slashPieces s = [s] := by
  induction s with
  | nil => rfl
  | cons b bs ih =>
    simp only [List.mem_cons, not_or] at h
    simp only [slashPieces, if_neg (Ne.symm h.1), ih h.2]

/-- Cutting at slashes recovers the pieces. -/
lemma slashPieces_joinPieces {ss : List (List UInt8)} (hne : ss ≠ [])
    (h : ∀ s ∈ ss, slash ∉ s) : slashPieces (joinPieces ss) = ss := by
  induction ss with
  | nil => exact absurd rfl hne
  | cons s ss ih =>
    have hs := slashPieces_of_slash_notMem (h s List.mem_cons_self)
    cases ss with
    | nil => exact hs
    | cons t ts =>
      have ht := ih (List.cons_ne_nil t ts) fun x hx => h x (List.mem_cons_of_mem s hx)
      rw [joinPieces, slashPieces_append_slash, hs, ht]
      · rfl
      · simp

/-! ## Pieces that name something -/

/-- What is cut off at the end names nothing. -/
lemma filter_trimEnd (ss : List (List UInt8)) :
    (trimEnd ss).filter isSignificant = ss.filter isSignificant := by
  fun_induction trimEnd ss with
  | case1 => rfl
  | case2 s ss hss hs ih =>
    rw [hss] at ih
    simp [hs, ← ih]
  | case3 s ss hss hs ih =>
    rw [hss] at ih
    simp [hs, ← ih]
  | case4 s ss t ts hss ih =>
    rw [hss] at ih
    by_cases hs : isSignificant s = true
    · rw [List.filter_cons_of_pos hs, List.filter_cons_of_pos hs, ih]
    · rw [List.filter_cons_of_neg hs, List.filter_cons_of_neg hs, ih]

/-- Pieces are cut off at the end only. -/
lemma trimEnd_isPrefix (ss : List (List UInt8)) : trimEnd ss <+: ss := by
  fun_induction trimEnd ss with
  | case1 => exact List.prefix_refl []
  | case2 s ss hss hs ih => exact List.cons_prefix_cons.2 ⟨rfl, List.nil_prefix⟩
  | case3 s ss hss hs ih => exact List.nil_prefix
  | case4 s ss t ts hss ih => exact List.cons_prefix_cons.2 ⟨rfl, hss ▸ ih⟩

/-- The last piece that is left names something. -/
lemma trimEnd_eq_append {ss : List (List UInt8)} (h : trimEnd ss ≠ []) :
    ∃ ts t, trimEnd ss = ts ++ [t] ∧ isSignificant t = true := by
  fun_induction trimEnd ss with
  | case1 => exact absurd rfl h
  | case2 s ss hss hs ih => exact ⟨[], s, rfl, hs⟩
  | case3 s ss hss hs ih => exact absurd rfl h
  | case4 s ss t ts hss ih =>
    obtain ⟨us, u, hu, hsignificant⟩ := ih (by rw [hss]; exact List.cons_ne_nil t ts)
    exact ⟨s :: us, u, by rw [← hss, hu]; rfl, hsignificant⟩

/-- Pieces are dropped up to some that name something. -/
lemma filter_dropSignificant (n : Nat) (ss : List (List UInt8)) :
    (dropSignificant n ss).filter isSignificant = (ss.filter isSignificant).drop n := by
  fun_induction dropSignificant n ss with
  | case1 ss => rfl
  | case2 n => rfl
  | case3 n s ss hs ih => rw [ih, List.filter_cons, if_pos hs, List.drop_succ_cons]
  | case4 n s ss hs ih => rw [ih, List.filter_cons, if_neg hs]

/-- Pieces are dropped at the start only. -/
lemma dropSignificant_isSuffix (n : Nat) (ss : List (List UInt8)) :
    dropSignificant n ss <:+ ss := by
  fun_induction dropSignificant n ss with
  | case1 ss => exact List.suffix_refl ss
  | case2 n => exact List.suffix_refl []
  | case3 n s ss hs ih => exact ih.trans (List.suffix_cons s ss)
  | case4 n s ss hs ih => exact ih.trans (List.suffix_cons s ss)

/-- What is dropped before the first piece that names something does not count. -/
lemma filter_dropWhile_not (ss : List (List UInt8)) :
    (ss.dropWhile (!isSignificant ·)).filter isSignificant = ss.filter isSignificant := by
  induction ss with
  | nil => rfl
  | cons s ss ih =>
    by_cases hs : isSignificant s = true
    · rw [List.dropWhile_cons_of_neg (by simp [hs])]
    · rw [List.dropWhile_cons_of_pos (by simpa using hs), ih, List.filter_cons, if_neg hs]

/-- Pieces that may stand at the start of a path that has neither a slash nor a point there. -/
def IsBare (ss : List (List UInt8)) : Prop := ∀ s ∈ ss.head?, isSignificant s = true

/-- What is left up to some piece is as good a start. -/
lemma IsBare.of_isPrefix {ss ts : List (List UInt8)} (h : IsBare ts) (hss : ss <+: ts) :
    IsBare ss := by
  obtain ⟨us, rfl⟩ := hss
  cases ss with
  | nil => exact nofun
  | cons s ss => exact h

/-- After the pieces that name nothing there is a good start. -/
lemma isBare_dropWhile_not (ss : List (List UInt8)) :
    IsBare (ss.dropWhile (!isSignificant ·)) := by
  induction ss with
  | nil => exact nofun
  | cons s ss ih =>
    by_cases hs : isSignificant s = true
    · rw [List.dropWhile_cons_of_neg (by simp [hs])]
      simpa [IsBare] using hs
    · rw [List.dropWhile_cons_of_pos (by simpa using hs)]
      exact ih

/-! ## Paths from pieces -/

namespace Path

/-- The components that pieces name. -/
def componentsOf (ss : List (List UInt8)) : List Component :=
  (ss.filter isSignificant).map Component.ofSegment

/-- The components of a path are its beginning and what its pieces name. -/
lemma components_eq (p : Path) : p.components = p.lead.components ++ componentsOf p.body := rfl

/-- What pieces name, from left to right. -/
lemma componentsOf_append (ss ts : List (List UInt8)) :
    componentsOf (ss ++ ts) = componentsOf ss ++ componentsOf ts := by
  simp [componentsOf]

/-- The pieces of a path with a slash at the start. -/
lemma parts_root {p : Path} {s : List UInt8} {ss : List (List UInt8)}
    (h : slashPieces p.spelling.bytes = [] :: s :: ss) : p.parts = (.root, s :: ss) := by
  rw [parts, h]

/-- The pieces of a path with a point at the start. -/
lemma parts_here {p : Path} {ss : List (List UInt8)}
    (h : slashPieces p.spelling.bytes = [point] :: ss) : p.parts = (.here, ss) := by
  simp [parts, h]

/-- The pieces of a path with a name at the start. -/
lemma parts_bare {p : Path} {s : List UInt8} {ss : List (List UInt8)}
    (h : slashPieces p.spelling.bytes = s :: ss) (hs : isSignificant s = true) :
    p.parts = (.bare, s :: ss) := by
  obtain ⟨hempty, hpoint⟩ : s ≠ [] ∧ s ≠ [point] := by simpa [isSignificant] using hs
  cases s with
  | nil => exact absurd rfl hempty
  | cons b bs => simp [parts, h, hpoint]

/-- The ways in which a path may begin. -/
lemma parts_cases (p : Path) :
    (∃ s ss, slashPieces p.spelling.bytes = [] :: s :: ss ∧ p.parts = (.root, s :: ss)) ∨
    (∃ ss, slashPieces p.spelling.bytes = [point] :: ss ∧ p.parts = (.here, ss)) ∨
    (∃ s ss, slashPieces p.spelling.bytes = s :: ss ∧ isSignificant s = true ∧
      p.parts = (.bare, s :: ss)) ∨
    (p.spelling.bytes = [] ∧ p.parts = (.bare, [[]])) := by
  cases hpieces : slashPieces p.spelling.bytes with
  | nil => exact absurd hpieces (slashPieces_ne_nil _)
  | cons s ss =>
    by_cases hs : isSignificant s = true
    · exact .inr (.inr (.inl ⟨s, ss, rfl, hs, parts_bare hpieces hs⟩))
    · have hs : s = [] ∨ s = [point] := by
        simp only [isSignificant, Bool.and_eq_true, bne_iff_ne, ne_eq, not_and_or, not_not] at hs
        exact hs
      rcases hs with rfl | rfl
      · cases ss with
        | nil =>
          have hempty : p.spelling.bytes = [] := by
            rw [← joinPieces_slashPieces p.spelling.bytes, hpieces]
            rfl
          exact .inr (.inr (.inr ⟨hempty, by simp [parts, hpieces]⟩))
        | cons t ts => exact .inl ⟨t, ts, rfl, parts_root hpieces⟩
      · exact .inr (.inl ⟨ss, rfl, parts_here hpieces⟩)

/-- There is no slash in the pieces of a path. -/
lemma slash_notMem_of_mem_body {p : Path} {s : List UInt8} (h : s ∈ p.body) : slash ∉ s := by
  suffices hmem : s ∈ slashPieces p.spelling.bytes from slash_notMem_of_mem_slashPieces hmem
  rw [body] at h
  rcases p.parts_cases with ⟨t, ts, hp, hparts⟩ | ⟨ts, hp, hparts⟩ | ⟨t, ts, hp, -, hparts⟩ |
      ⟨hp, hparts⟩
  · rw [hparts] at h
    rw [hp]
    exact List.mem_cons_of_mem _ h
  · rw [hparts] at h
    rw [hp]
    exact List.mem_cons_of_mem _ h
  · rw [hparts] at h
    rw [hp]
    exact h
  · rw [hparts] at h
    rw [hp]
    exact h

/-- What is left of the pieces of a path that begins with a name is a good start. -/
lemma isBare_trimEnd_body {p : Path} (h : p.lead = .bare) : IsBare (trimEnd p.body) := by
  rw [lead] at h
  rw [body]
  rcases p.parts_cases with ⟨t, ts, -, hparts⟩ | ⟨ts, -, hparts⟩ | ⟨t, ts, -, ht, hparts⟩ |
      ⟨-, hparts⟩
  · rw [hparts] at h
    cases h
  · rw [hparts] at h
    cases h
  · rw [hparts]
    have hbare : IsBare (t :: ts) := by simpa [IsBare] using ht
    exact hbare.of_isPrefix (trimEnd_isPrefix _)
  · rw [hparts]
    exact nofun

/-- A path that is spelled from a beginning and pieces has this beginning, and its components are
those that the pieces name.

**Proof sketch.** By the beginning of the path, and by whether there are pieces. Pieces without
slashes are read back as they were joined (`slashPieces_joinPieces`); without any, the spelling has
one empty piece at most, which names nothing. -/
lemma ofParts_spec {l : Lead} {ss : List (List UInt8)} (hslash : ∀ s ∈ ss, slash ∉ s)
    (hbare : l = .bare → IsBare ss) :
    (ofParts l ss).lead = l ∧ (ofParts l ss).components = l.components ++ componentsOf ss := by
  have hparts : (ofParts l ss).parts = (l, ss) ∨
      ((ofParts l ss).parts = (l, [[]]) ∧ ss = []) := by
    cases l with
    | root =>
      cases ss with
      | nil => exact .inr ⟨parts_root (by simp [ofParts, joinPieces, slashPieces]), rfl⟩
      | cons s ss =>
        refine .inl (parts_root ?_)
        have hpieces := slashPieces_joinPieces (List.cons_ne_nil s ss) hslash
        simp [ofParts, slashPieces, hpieces]
    | here =>
      cases ss with
      | nil => exact .inl (parts_here (by simp [ofParts, slashPieces]))
      | cons s ss =>
        refine .inl (parts_here ?_)
        have hpieces := slashPieces_joinPieces (List.cons_ne_nil s ss) hslash
        simp [ofParts, slashPieces, hpieces]
    | bare =>
      cases ss with
      | nil => exact .inr ⟨by simp [parts, ofParts, joinPieces, slashPieces], rfl⟩
      | cons s ss =>
        refine .inl (parts_bare ?_ (hbare rfl s rfl))
        simp [ofParts, slashPieces_joinPieces (List.cons_ne_nil s ss) hslash]
  rw [components_eq, lead, body]
  rcases hparts with hparts | ⟨hparts, rfl⟩
  · rw [hparts]
    exact ⟨rfl, rfl⟩
  · rw [hparts]
    exact ⟨rfl, rfl⟩

/-! ## Taking components off the start -/

/-- A beginning that is no component is not counted. -/
lemma afterComponents_bare {p : Path} (h : p.lead = .bare) (n : Nat) :
    p.afterComponents (n + 1) =
      ofParts .bare (trimEnd ((dropSignificant (n + 1) p.body).dropWhile (!isSignificant ·))) := by
  simp [afterComponents, h]

/-- A beginning that is a component is the first one that is taken off. -/
lemma afterComponents_of_ne_bare {p : Path} (h : p.lead ≠ .bare) (n : Nat) :
    p.afterComponents (n + 1) =
      ofParts .bare (trimEnd ((dropSignificant n p.body).dropWhile (!isSignificant ·))) := by
  cases hlead : p.lead with
  | bare => exact absurd hlead h
  | root => simp [afterComponents, hlead]
  | here => simp [afterComponents, hlead]

/-- What is spelled after the first components has the other ones.

**Proof sketch.** What is left of the pieces is spelled as a path that is bare, after the pieces at
its ends that name nothing are dropped. Neither changes the components (`ofParts_spec`). A path that
is not bare spends the first of the components on its beginning, and the others on the pieces. -/
lemma components_afterComponents (p : Path) (n : Nat) :
    (p.afterComponents n).components = p.components.drop n := by
  have htrim (ss : List (List UInt8)) : componentsOf (trimEnd ss) = componentsOf ss := by
    rw [componentsOf, filter_trimEnd]
    rfl
  have hrest (k : Nat) :
      (ofParts .bare (trimEnd ((dropSignificant k p.body).dropWhile (!isSignificant ·)))).components
        = (componentsOf p.body).drop k := by
    refine (ofParts_spec ?_ ?_).2.trans ?_
    · intro s hs
      have hs := (trimEnd_isPrefix _).subset hs
      have hs := (List.dropWhile_suffix _).subset hs
      exact slash_notMem_of_mem_body ((dropSignificant_isSuffix k p.body).subset hs)
    · intro _
      exact (isBare_dropWhile_not _).of_isPrefix (trimEnd_isPrefix _)
    · rw [htrim, componentsOf, filter_dropWhile_not, filter_dropSignificant]
      simp [Lead.components, componentsOf, List.map_drop]
  cases n with
  | zero =>
    refine (ofParts_spec ?_ ?_).2.trans ?_
    · intro s hs
      exact slash_notMem_of_mem_body ((trimEnd_isPrefix _).subset hs)
    · intro hlead
      exact isBare_trimEnd_body hlead
    · rw [htrim]
      rfl
  | succ n =>
    cases hlead : p.lead with
    | bare =>
      rw [afterComponents_bare hlead, hrest, components_eq, hlead]
      simp [Lead.components]
    | root =>
      rw [afterComponents_of_ne_bare (by simp [hlead]), hrest, components_eq, hlead]
      simp [Lead.components]
    | here =>
      rw [afterComponents_of_ne_bare (by simp [hlead]), hrest, components_eq, hlead]
      simp [Lead.components]

/-- A path begins with the components of another one. -/
lemma startsWith_iff {p base : Path} :
    p.startsWith base = true ↔ base.components <+: p.components := by
  rw [startsWith, List.isPrefixOf_iff_prefix]

/-- A path below another one has, after the components of that one, those of what is left. -/
theorem components_stripPrefix? {p base q : Path} (h : p.stripPrefix? base = some q) :
    p.components = base.components ++ q.components := by
  rw [stripPrefix?] at h
  split at h
  · next hstarts =>
    obtain ⟨cs, hcs⟩ := startsWith_iff.1 hstarts
    rw [← Option.some.inj h, components_afterComponents, ← hcs, List.drop_left]
  · cases h

/-- What is left of a path below another one begins with neither a slash nor a point, provided that
something is taken off. -/
lemma lead_stripPrefix? {p base q : Path} (hbase : base.components ≠ [])
    (h : p.stripPrefix? base = some q) : q.lead = .bare := by
  have hlead (n : Nat) :
      (ofParts .bare (trimEnd ((dropSignificant n p.body).dropWhile (!isSignificant ·)))).lead
        = .bare := by
    refine (ofParts_spec ?_ ?_).1
    · intro s hs
      have hs := (trimEnd_isPrefix _).subset hs
      have hs := (List.dropWhile_suffix _).subset hs
      exact slash_notMem_of_mem_body ((dropSignificant_isSuffix n p.body).subset hs)
    · intro _
      exact (isBare_dropWhile_not _).of_isPrefix (trimEnd_isPrefix _)
  rw [stripPrefix?] at h
  split at h
  · obtain ⟨c, cs, hcs⟩ := List.exists_cons_of_ne_nil hbase
    rw [← Option.some.inj h, hcs, List.length_cons]
    by_cases hbare : p.lead = .bare
    · rw [afterComponents_bare hbare]
      exact hlead _
    · rw [afterComponents_of_ne_bare hbare]
      exact hlead _
  · cases h

/-! ## Going down -/

/-- The component that the first piece of a path names. -/
def firstComponent (s : List UInt8) : Component :=
  if s = [] then .root else if s = [point] then .here else .ofSegment s

/-- The components of a path that is not empty. -/
lemma components_of_pieces {p : Path} {s : List UInt8} {ss : List (List UInt8)}
    (h : slashPieces p.spelling.bytes = s :: ss) (hne : s = [] → ss ≠ []) :
    p.components = firstComponent s :: componentsOf ss := by
  rw [components_eq, lead, body]
  rcases p.parts_cases with ⟨t, ts, hp, hparts⟩ | ⟨ts, hp, hparts⟩ | ⟨t, ts, hp, ht, hparts⟩ |
      ⟨hp, -⟩
  · obtain ⟨rfl, rfl⟩ := List.cons_eq_cons.1 (h.symm.trans hp)
    rw [hparts]
    rfl
  · obtain ⟨rfl, rfl⟩ := List.cons_eq_cons.1 (h.symm.trans hp)
    rw [hparts]
    rfl
  · obtain ⟨rfl, rfl⟩ := List.cons_eq_cons.1 (h.symm.trans hp)
    have hs : s ≠ [] ∧ s ≠ [point] := by
      simpa [isSignificant] using ht
    rw [hparts]
    simp [Lead.components, componentsOf, ht, firstComponent, hs]
  · rw [hp] at h
    obtain ⟨rfl, rfl⟩ := List.cons_eq_cons.1 h
    exact absurd rfl (hne rfl)

/-- The components of a path that begins with neither a slash nor a point. -/
lemma components_of_bare {p : Path} (h : p.lead = .bare) :
    p.components = componentsOf (slashPieces p.spelling.bytes) := by
  rw [components_eq, h, body]
  rw [lead] at h
  rcases p.parts_cases with ⟨t, ts, -, hparts⟩ | ⟨ts, -, hparts⟩ | ⟨t, ts, hp, -, hparts⟩ |
      ⟨hp, hparts⟩
  · rw [hparts] at h
    cases h
  · rw [hparts] at h
    cases h
  · rw [hp, hparts]
    rfl
  · rw [hp, hparts]
    rfl

/-- Going down from a path by one that begins with neither a slash nor a point adds the components.

**Proof sketch.** By the spelling of the first path. If it is empty, nothing is put in front. If it
ends with a slash, the last of its pieces is empty and names nothing, and the pieces of the second
path take its place. Otherwise a slash comes in between, behind which the pieces of the second path
follow. -/
theorem components_join {p q : Path} (hq : q.lead = .bare) :
    (p.join q).components = p.components ++ q.components := by
  have habsolute : q.isAbsolute = false := by
    rw [isAbsolute, hq]
    rfl
  rw [join, habsolute, if_neg Bool.false_ne_true]
  by_cases hempty : p.spelling.bytes = []
  · have hp : p.components = [] := by
      have hparts : p.parts = (.bare, [[]]) := by simp [parts, hempty, slashPieces]
      rw [components_eq, lead, body, hparts]
      rfl
    rw [hp, if_pos (by simp [isEmpty, hempty]), hempty]
    rfl
  · rw [components_of_bare hq]
    by_cases hslash : p.spelling.bytes.getLast? = some slash
    · -- the slash at the end is the one between the two
      rw [if_pos (by simp [hslash])]
      obtain ⟨cs, hcs⟩ := List.getLast?_eq_some_iff.1 hslash
      obtain ⟨s, ss, hss⟩ := List.exists_cons_of_ne_nil (slashPieces_ne_nil cs)
      have hp : slashPieces p.spelling.bytes = s :: (ss ++ [[]]) := by
        rw [hcs, slashPieces_append_slash, hss]
        rfl
      have hr : slashPieces (p.spelling.bytes ++ q.spelling.bytes) =
          s :: (ss ++ slashPieces q.spelling.bytes) := by
        simp [hcs, slashPieces_append_slash, hss]
      rw [components_of_pieces hp (by simp),
        components_of_pieces hr (by simp [slashPieces_ne_nil]), componentsOf_append,
        componentsOf_append]
      simp [componentsOf, isSignificant]
    · rw [if_neg (by simp [isEmpty, hempty, hslash])]
      obtain ⟨s, ss, hss⟩ := List.exists_cons_of_ne_nil (slashPieces_ne_nil p.spelling.bytes)
      have hr : slashPieces (p.spelling.bytes ++ slash :: q.spelling.bytes) =
          s :: (ss ++ slashPieces q.spelling.bytes) := by
        simp [slashPieces_append_slash, hss]
      have hne : s = [] → ss ≠ [] := by
        rintro rfl rfl
        apply hempty
        rw [← joinPieces_slashPieces p.spelling.bytes, hss]
        rfl
      rw [components_of_pieces hss hne, components_of_pieces hr (by simp [slashPieces_ne_nil]),
        componentsOf_append]
      rfl

/-- Going down again from a directory that was taken off leads back, whatever the spellings. -/
theorem components_join_stripPrefix? {p base q : Path} (hbase : base.components ≠ [])
    (h : p.stripPrefix? base = some q) : (base.join q).components = p.components := by
  rw [components_join (lead_stripPrefix? hbase h), components_stripPrefix? h]

/-! ## Going up -/

/-- The first component of an absolute path is the root, and the others are not. -/
lemma components_of_isAbsolute {p : Path} (h : p.isAbsolute = true) :
    p.components = .root :: componentsOf p.body := by
  rw [isAbsolute, beq_iff_eq] at h
  rw [components_eq, h]
  rfl

/-- An absolute path has a component. -/
lemma components_ne_nil_of_isAbsolute {p : Path} (h : p.isAbsolute = true) : p.components ≠ [] := by
  rw [components_of_isAbsolute h]
  exact List.cons_ne_nil _ _

/-- The nearest proper ancestor has the components but for the last one.

**Proof sketch.** Without the pieces at the end that name nothing, the last piece of a path names
the last component, unless there is no piece. -/
theorem parent?_cases (p : Path) :
    (p.parent? = none ∧ (p.components = [] ∨ p.components = [.root])) ∨
      ∃ q, p.parent? = some q ∧ p.components ≠ [] ∧ p.components ≠ [.root] ∧
        q.components = p.components.dropLast := by
  have hcomponents : p.components = p.lead.components ++ componentsOf (trimEnd p.body) := by
    rw [componentsOf, filter_trimEnd]
    rfl
  by_cases htrim : trimEnd p.body = []
  · have hnone : upward ([] : List (List UInt8)) = [] := by rw [upward]
    rw [hcomponents, parent?, properAncestors, htrim, hnone]
    cases p.lead with
    | root => exact .inl ⟨rfl, .inr rfl⟩
    | bare => exact .inl ⟨rfl, .inl rfl⟩
    | here =>
      refine .inr ⟨⟨⟨[]⟩⟩, rfl, by simp [Lead.components, componentsOf],
        by simp [Lead.components, componentsOf], ?_⟩
      have hslash : ∀ s ∈ ([] : List (List UInt8)), slash ∉ s := by simp
      have hbare : IsBare [] := by simp [IsBare]
      exact (ofParts_spec (l := .bare) hslash fun _ => hbare).2
  · obtain ⟨ts, t, hts, ht⟩ := trimEnd_eq_append htrim
    obtain ⟨s, ss, hss⟩ := List.exists_cons_of_ne_nil htrim
    have hsome : p.parent? = some (ofParts p.lead (trimEnd (trimEnd p.body).dropLast)) := by
      rw [parent?, properAncestors, hss, upward]
      rfl
    have hlast : componentsOf (trimEnd p.body) = componentsOf ts ++ [.ofSegment t] := by
      rw [hts, componentsOf_append]
      simp [componentsOf, ht]
    have hbegins : trimEnd (trimEnd p.body).dropLast <+: trimEnd p.body :=
      (trimEnd_isPrefix _).trans (List.dropLast_prefix _)
    refine .inr ⟨_, hsome, ?_, ?_, ?_⟩
    · simp [hcomponents, hlast]
    · rw [hcomponents, hlast]
      intro heq
      have hroot := congrArg List.getLast? heq
      simp only [← List.append_assoc, List.getLast?_concat, List.getLast?_singleton,
        Option.some.injEq, Component.ofSegment] at hroot
      split at hroot <;> cases hroot
    · refine (ofParts_spec ?_ ?_).2.trans ?_
      · intro s hs
        exact slash_notMem_of_mem_body ((trimEnd_isPrefix _).subset (hbegins.subset hs))
      · intro hlead
        exact (isBare_trimEnd_body hlead).of_isPrefix hbegins
      · rw [hcomponents, hlast, ← List.append_assoc, List.dropLast_concat, hts,
          List.dropLast_concat, componentsOf, filter_trimEnd]
        rfl

end Path

end LexicalFront
