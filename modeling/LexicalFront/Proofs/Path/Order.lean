import LexicalFront.Proofs.Path.Components
import Mathlib.Data.List.Lex
import Mathlib.Order.Lattice
set_option autoImplicit false
set_option relaxedAutoImplicit false

/-!
# The order of paths

Paths are ordered by their components from left to right, so that everything below a path stands
together, right after the path itself. Spellings do not matter.

## Main definitions

* `LexicalFront.Component.bytes` — the bytes that spell a component.
* `LexicalFront.Path.bytes` — the components of a path, each as the bytes that spell it.

## Main results

* `Path.before_iff` — the order of paths is the lexicographic order of their components.
* `isPrefix_of_between` — what stands between a path and something below it is below it, too.
* `lt_of_isPrefix_of_lt` — what is below the first of two siblings comes before what is below the
  second.
* `Path.exists_components_eq` — the ancestors of a path are paths.
* `Path.before_iff_bytes` — of paths that have only names for components, the order is the one of
  bytes.
-/

namespace LexicalFront

/-! ## Prefixes in a lexicographic order -/

section Prefixes

variable {α : Type} [LinearOrder α] {as bs cs xs ys : List α}

/-- What stands between a list and one that begins with it begins with it, too. -/
lemma isPrefix_of_between (hab : as < bs) (hbc : bs < cs) (hac : as <+: cs) : as <+: bs := by
  induction as generalizing bs cs with
  | nil => exact List.nil_prefix
  | cons a as ih =>
    obtain ⟨cs, rfl⟩ := hac
    cases bs with
    | nil => exact absurd hab (List.not_lt_nil _)
    | cons b bs =>
      rw [List.cons_append, List.cons_lt_cons_iff] at hbc
      rw [List.cons_lt_cons_iff] at hab
      -- the first elements are equal, for neither can be the smaller one
      rcases hab with hlt | ⟨rfl, hlt⟩
      · rcases hbc with hgt | ⟨rfl, -⟩
        · exact absurd hgt (lt_asymm hlt)
        · exact absurd hlt (lt_irrefl _)
      · rcases hbc with hgt | ⟨-, hgt⟩
        · exact absurd hgt (lt_irrefl _)
        · exact List.cons_prefix_cons.2 ⟨rfl, ih hlt hgt (List.prefix_append as cs)⟩

/-- What lists have in common at the start does not count. -/
lemma append_lt_append_iff : as ++ bs < as ++ cs ↔ bs < cs := by
  induction as with
  | nil => rfl
  | cons a as ih => simp [ih]

/-- A list comes before the longer ones that begin with it. -/
lemma lt_of_isPrefix_of_ne (h : as <+: bs) (hne : as ≠ bs) : as < bs := by
  obtain ⟨cs, rfl⟩ := h
  cases cs with
  | nil => exact absurd (List.append_nil as).symm hne
  | cons c cs => simpa using List.Lex.append_left (· < ·) (List.nil_lt_cons c cs) as

/-- Of two lists of one length, what begins with the smaller one comes before what begins with the
greater one. -/
lemma lt_of_isPrefix_of_lt (hlength : as.length = bs.length) (hlt : as < bs) (hx : as <+: xs)
    (hy : bs <+: ys) : xs < ys := by
  obtain ⟨xs, rfl⟩ := hx
  obtain ⟨ys, rfl⟩ := hy
  induction as generalizing bs with
  | nil =>
    have hbs := List.length_eq_zero_iff.1 hlength.symm
    exact absurd hlt (by simp [hbs])
  | cons a as ih =>
    cases bs with
    | nil => exact absurd hlt (List.not_lt_nil _)
    | cons b bs =>
      simp only [List.cons_append, List.cons_lt_cons_iff] at hlt ⊢
      simp only [List.length_cons, Nat.add_right_cancel_iff] at hlength
      rcases hlt with hlt | ⟨rfl, hlt⟩
      · exact .inl hlt
      · exact .inr ⟨rfl, ih hlength hlt⟩

end Prefixes

/-- Lists of keys are ordered as the lists that they are the keys of. -/
lemma map_lt_map_iff {α β : Type} [LT α] [LT β] {f : α → β}
    {as bs : List α} (hf : ∀ a ∈ as, ∀ b ∈ bs, f a < f b ↔ a < b)
    (hinj : ∀ a ∈ as, ∀ b ∈ bs, f a = f b → a = b) : as.map f < bs.map f ↔ as < bs := by
  induction as generalizing bs with
  | nil => cases bs <;> simp
  | cons a as ih =>
    cases bs with
    | nil => simp
    | cons b bs =>
      have heq : f a = f b ↔ a = b := ⟨hinj a (by simp) b (by simp), congrArg f⟩
      have hrest : as.map f < bs.map f ↔ as < bs :=
        ih (fun x hx y hy => hf x (by simp [hx]) y (by simp [hy]))
          fun x hx y hy => hinj x (by simp [hx]) y (by simp [hy])
      rw [List.map_cons, List.map_cons, List.cons_lt_cons_iff, List.cons_lt_cons_iff, heq, hrest,
        hf a (by simp) b (by simp)]

/-! ## The order of components -/

/-- Components are ordered by their keys. -/
instance : LinearOrder Component :=
  LinearOrder.lift' Component.key fun _ _ => Component.key_injective

namespace Component

/-- A component comes before another one if its key does. -/
lemma lt_iff {a b : Component} : a < b ↔ a.key < b.key := Iff.rfl

/-- The bytes that spell a component. -/
def bytes : Component → List UInt8
  | root => [slash]
  | here => [point]
  | up => [point, point]
  | name s => s.bytes

/-- Names are ordered by their bytes. -/
lemma bytes_lt_iff {s t : OsText} : (name s).bytes < (name t).bytes ↔ name s < name t := by
  have hkeys : s.bytes.map UInt8.toNat < t.bytes.map UInt8.toNat ↔ s.bytes < t.bytes :=
    map_lt_map_iff (fun _ _ _ _ => UInt8.lt_iff_toNat_lt.symm) fun _ _ _ _ => UInt8.toNat_inj.1
  simp [lt_iff, key, bytes, hkeys]

end Component

namespace Path

/-- A path comes before another one if its components do. -/
theorem before_iff {p q : Path} : p.before q = true ↔ p.components < q.components := by
  rw [before, decide_eq_true_iff, key, key]
  exact map_lt_map_iff (fun _ _ _ _ => Component.lt_iff.symm) fun _ _ _ _ => Component.key_injective

/-- Paths mean the same if their components are equal. -/
lemma same_iff {p q : Path} : p.same q = true ↔ p.components = q.components := beq_iff_eq

/-- The components of a path, each as the bytes that spell it. -/
def bytes (p : Path) : List (List UInt8) := p.components.map Component.bytes

/-- Paths that have only names for components are ordered as the bytes of their components. -/
theorem before_iff_bytes {p q : Path} (hp : ∀ c ∈ p.components, ∃ s, c = .name s)
    (hq : ∀ c ∈ q.components, ∃ s, c = .name s) : p.before q = true ↔ p.bytes < q.bytes := by
  rw [before_iff]
  symm
  apply map_lt_map_iff
  · intro a ha b hb
    obtain ⟨s, rfl⟩ := hp a ha
    obtain ⟨t, rfl⟩ := hq b hb
    exact Component.bytes_lt_iff
  · intro a ha b hb heq
    obtain ⟨s, rfl⟩ := hp a ha
    obtain ⟨t, rfl⟩ := hq b hb
    exact congrArg (Component.name ⟨·⟩) heq

/-- A slash is no byte of a component: a directory comes before a file whose name goes on with a
point after that of the directory. -/
example : (⟨"lib/a.lift"⟩ : Path).bytes < (⟨"lib.lift"⟩ : Path).bytes := by decide +kernel

/-! ## Ancestors -/

/-- There is a path to every ancestor of a path. -/
theorem exists_components_eq {p : Path} {cs : List Component} (h : cs <+: p.components)
    (hne : cs ≠ []) : ∃ q : Path, q.components = cs := by
  induction hn : p.components.length - cs.length generalizing p with
  | zero =>
    have hlength := h.length_le
    exact ⟨p, (h.eq_of_length (by omega)).symm⟩
  | succ n ih =>
    rcases p.parent?_cases with ⟨-, hp | hp⟩ | ⟨q, -, hp, -, hq⟩
    · simp [hp] at hn
    · have hpos := List.length_pos_of_ne_nil hne
      rw [hp, List.length_singleton] at hn
      omega
    · refine ih (p := q) ?_ ?_
      · rw [hq, List.dropLast_eq_take]
        apply List.prefix_of_prefix_length_le h (List.take_prefix _ _)
        rw [List.length_take]
        omega
      · rw [hq, List.length_dropLast]
        omega

/-- After the first component of a path there are only names and double points. -/
lemma eq_up_or_name_of_components_eq {p : Path} {cs ds : List Component} {c : Component}
    (h : p.components = cs ++ c :: ds) (hne : cs ≠ []) : c = .up ∨ ∃ s, c = .name s := by
  obtain ⟨d, cs, rfl⟩ := List.exists_cons_of_ne_nil hne
  have hmem : c ∈ componentsOf p.body := by
    rw [components_eq] at h
    cases hlead : p.lead with
    | bare =>
      rw [hlead, Lead.components, List.nil_append] at h
      simp [h]
    | root =>
      rw [hlead, Lead.components, List.singleton_append, List.cons_append, List.cons_eq_cons] at h
      simp [h.2]
    | here =>
      rw [hlead, Lead.components, List.singleton_append, List.cons_append, List.cons_eq_cons] at h
      simp [h.2]
  rw [componentsOf, List.mem_map] at hmem
  obtain ⟨s, -, rfl⟩ := hmem
  rw [Component.ofSegment]
  split
  · exact .inl rfl
  · exact .inr ⟨_, rfl⟩

end Path

end LexicalFront
