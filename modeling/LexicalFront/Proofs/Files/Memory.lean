import LexicalFront.Files.Memory
import LexicalFront.Proofs.Path.Order
set_option autoImplicit false
set_option relaxedAutoImplicit false

/-!
# Order and listings of files in memory

Whatever updates are made, the stored paths stay in order, and none is stored twice. So looking up a
path means finding the one entry for it, and what is below a path stands together: nothing is lost
when a listing starts right after the path and stops at the first entry that is not below it.

## Main definitions

* `MemoryFiles.Ordered` — the entries are in the order of their paths.
* `MemoryFiles.entriesIn` — the entries whose parent is a directory.

## Main results

* `MemoryFiles.ordered_ofUpdates` — the invariant.
* `MemoryFiles.find?_eq_some_iff` — looking up a path.
* `MemoryFiles.below_eq_filter`, `MemoryFiles.list_eq_ok` — what is below a path, and what a
  directory lists.
-/

namespace LexicalFront

/-! ## Ordered lists -/

section Cutting

variable {α : Type} {f : α → Bool} {l : List α}

/-- What is dropped up to the first element with a property that all later elements have, too, are
the elements without it. -/
lemma dropWhile_not_eq_filter (h : l.Pairwise fun a b => f a = true → f b = true) :
    l.dropWhile (!f ·) = l.filter f := by
  induction l with
  | nil => rfl
  | cons a l ih =>
    obtain ⟨ha, hl⟩ := List.pairwise_cons.1 h
    by_cases hf : f a = true
    · have hall : ∀ b ∈ l, f b = true := fun b hb => ha b hb hf
      rw [List.dropWhile_cons_of_neg (by simp [hf]), List.filter_cons_of_pos hf,
        List.filter_eq_self.2 hall]
    · rw [List.dropWhile_cons_of_pos (by simpa using hf), List.filter_cons_of_neg hf, ih hl]

/-- What is taken up to the first element without a property that all earlier elements have, too,
are the elements with it. -/
lemma takeWhile_eq_filter (h : l.Pairwise fun a b => f b = true → f a = true) :
    l.takeWhile f = l.filter f := by
  induction l with
  | nil => rfl
  | cons a l ih =>
    obtain ⟨ha, hl⟩ := List.pairwise_cons.1 h
    by_cases hf : f a = true
    · rw [List.takeWhile_cons_of_pos hf, List.filter_cons_of_pos hf, ih hl]
    · have hnone : ∀ b ∈ l, ¬f b = true := fun b hb hfb => hf (ha b hb hfb)
      rw [List.takeWhile_cons_of_neg hf, List.filter_cons_of_neg hf, List.filter_eq_nil_iff.2 hnone]

end Cutting

/-- Two lists that increase by a key and have the same elements are the same. -/
lemma eq_of_mem_iff_of_pairwise_lt {α β : Type} [Preorder β] {f : α → β} {l m : List α}
    (hl : l.Pairwise (f · < f ·)) (hm : m.Pairwise (f · < f ·))
    (h : ∀ a, a ∈ l ↔ a ∈ m) : l = m := by
  have hnodup {l : List α} (hl : l.Pairwise (f · < f ·)) : l.Nodup :=
    hl.imp fun hlt heq => hlt.ne (congrArg f heq)
  have hperm : l.Perm m := (List.perm_ext_iff_of_nodup (hnodup hl) (hnodup hm)).2 h
  exact hperm.eq_of_pairwise (fun a b _ _ hab hba => absurd hba (lt_asymm hab)) hl hm

namespace MemoryFiles

/-! ## The order of the entries -/

/-- The entries are in the order of their paths, so that no path is there twice. -/
def Ordered (fs : MemoryFiles) : Prop :=
  fs.entries.Pairwise fun e f => e.1.components < f.1.components

/-- A node that is put in its place adds no path but its own. -/
lemma components_of_mem_insertEntry {p : Path} {n : Node} {es : List (Path × Node)}
    {e : Path × Node} (h : e ∈ insertEntry p n es) :
    e.1.components = p.components ∨ ∃ f ∈ es, e.1.components = f.1.components := by
  fun_induction insertEntry p n es with
  | case1 =>
    rw [List.mem_singleton] at h
    exact .inl (by rw [h])
  | case2 q m es hsame =>
    rcases List.mem_cons.1 h with rfl | h
    · exact .inl (Path.same_iff.1 hsame).symm
    · exact .inr ⟨e, List.mem_cons_of_mem _ h, rfl⟩
  | case3 q m es hsame hbefore =>
    rcases List.mem_cons.1 h with rfl | h
    · exact .inl rfl
    · exact .inr ⟨e, h, rfl⟩
  | case4 q m es hsame hbefore ih =>
    rcases List.mem_cons.1 h with rfl | h
    · exact .inr ⟨_, List.mem_cons_self, rfl⟩
    · rcases ih h with heq | ⟨f, hf, heq⟩
      · exact .inl heq
      · exact .inr ⟨f, List.mem_cons_of_mem _ hf, heq⟩

/-- Putting a node in its place keeps the order.

**Proof sketch.** Induction along `insertEntry`. Where the path is found or comes before the first
entry, the order is read off. Behind the first entry, all that is inserted is the new path, which
comes after it, or was behind it already. -/
lemma Ordered.put {fs : MemoryFiles} (h : fs.Ordered) (p : Path) (n : Node) :
    (fs.put p n).Ordered := by
  obtain ⟨es⟩ := fs
  simp only [Ordered, MemoryFiles.put] at h ⊢
  fun_induction insertEntry p n es with
  | case1 => exact List.pairwise_singleton _ _
  | case2 q m es hsame =>
    obtain ⟨hq, hes⟩ := List.pairwise_cons.1 h
    exact List.pairwise_cons.2 ⟨hq, hes⟩
  | case3 q m es hsame hbefore =>
    obtain ⟨hq, hes⟩ := List.pairwise_cons.1 h
    rw [Path.before_iff] at hbefore
    refine List.pairwise_cons.2 ⟨fun e he => ?_, h⟩
    rcases List.mem_cons.1 he with rfl | he
    · exact hbefore
    · exact lt_trans hbefore (hq e he)
  | case4 q m es hsame hbefore ih =>
    obtain ⟨hq, hes⟩ := List.pairwise_cons.1 h
    rw [Path.before_iff] at hbefore
    rw [Path.same_iff] at hsame
    refine List.pairwise_cons.2 ⟨fun e he => ?_, ih hes⟩
    rcases components_of_mem_insertEntry he with heq | ⟨f, hf, heq⟩
    · rw [heq]
      exact lt_of_le_of_ne (not_lt.1 hbefore) (Ne.symm hsame)
    · rw [heq]
      exact hq f hf

/-- Making a directory where nothing is keeps the order. -/
lemma Ordered.putDirIfAbsent {fs : MemoryFiles} (h : fs.Ordered) (p : Path) :
    (fs.putDirIfAbsent p).Ordered := by
  rw [MemoryFiles.putDirIfAbsent]
  split
  · exact h
  · exact h.put p .dir

/-- Making the directories above a path keeps the order. -/
lemma Ordered.putAncestors {fs : MemoryFiles} (h : fs.Ordered) (p : Path) :
    (fs.putAncestors p).Ordered := by
  rw [MemoryFiles.putAncestors]
  induction p.properAncestors.filter (!·.isEmpty) generalizing fs with
  | nil => exact h
  | cons q qs ih => exact ih (h.putDirIfAbsent q)

/-- An update keeps the order. -/
lemma Ordered.apply {fs : MemoryFiles} (h : fs.Ordered) (u : Update) : (fs.apply u).Ordered := by
  cases u with
  | write p text => exact (h.putAncestors p).put p (.file text)
  | makeDir p => exact (h.putAncestors p).putDirIfAbsent p
  | remove p =>
    simp only [MemoryFiles.apply, MemoryFiles.remove]
    split
    · exact List.Pairwise.filter _ h
    · exact h

/-- After any updates the entries are in order. -/
theorem ordered_ofUpdates (us : List Update) : (ofUpdates us).Ordered := by
  have hrun (fs : MemoryFiles) (h : fs.Ordered) : (us.foldl MemoryFiles.apply fs).Ordered := by
    induction us generalizing fs with
    | nil => exact h
    | cons u us ih => exact ih (fs.apply u) (h.apply u)
  exact hrun empty List.Pairwise.nil

/-! ## Looking up -/

variable {fs : MemoryFiles} {p q : Path} {n : Node}

/-- Paths that mean the same lead to the same node. -/
lemma find?_congr (h : p.components = q.components) : fs.find? p = fs.find? q := by
  simp only [find?, Path.same, h]

/-- A stored path that means the same as another one is that one. -/
lemma Ordered.eq_of_components_eq (h : fs.Ordered) {e f : Path × Node} (he : e ∈ fs.entries)
    (hf : f ∈ fs.entries) (heq : e.1.components = f.1.components) : e = f := by
  refine List.Pairwise.forall_of_forall_of_flip
    (R := fun e f => e.1.components = f.1.components → e = f) (fun _ _ _ => rfl) ?_ ?_ he hf heq
  · exact List.Pairwise.imp (fun hlt heq => absurd hlt (by simp [heq])) h
  · exact List.Pairwise.imp (fun hlt heq => absurd hlt (by simp [heq])) h

/-- The node at a path is the one that is stored under a spelling of the path. -/
theorem find?_eq_some_iff (h : fs.Ordered) :
    fs.find? p = some n ↔ ∃ q, (q, n) ∈ fs.entries ∧ q.components = p.components := by
  rw [find?, Option.map_eq_some_iff]
  constructor
  · rintro ⟨⟨q, m⟩, hfind, rfl⟩
    have hsame := List.find?_some hfind
    exact ⟨q, List.mem_of_find?_eq_some hfind, Path.same_iff.1 hsame⟩
  · rintro ⟨q, hmem, hq⟩
    have hsome : (fs.entries.find? (·.1.same p)).isSome = true := by
      rw [List.find?_isSome]
      exact ⟨_, hmem, Path.same_iff.2 hq⟩
    obtain ⟨e, he⟩ := Option.isSome_iff_exists.1 hsome
    have hsame := List.find?_some he
    have heq := h.eq_of_components_eq (List.mem_of_find?_eq_some he) hmem
      ((Path.same_iff.1 hsame).trans hq.symm)
    exact ⟨e, he, by rw [heq]⟩

/-- The node at a stored path. -/
lemma find?_of_mem (h : fs.Ordered) (hmem : (p, n) ∈ fs.entries) : fs.find? p = some n :=
  (find?_eq_some_iff h).2 ⟨p, hmem, rfl⟩

/-- Reading gives the text of the stored file. -/
lemma read_eq_ok {text : String} (h : fs.find? p = some (.file text)) : fs.read p = .ok text := by
  rw [read, h]

/-! ## Listing -/

/-- What is below a path are all entries that come after it and begin with its components.

**Proof sketch.** What comes after the path is an end of the ordered entries. Of that end, the
entries that begin with the components of the path come first, since what stands between the path
and such an entry is one, too. -/
theorem below_eq_filter (h : fs.Ordered) (p : Path) :
    fs.below p = fs.entries.filter fun e => e.1.startsWith p && p.before e.1 := by
  have hdrop : fs.entries.dropWhile (!p.before ·.1) = fs.entries.filter (p.before ·.1) := by
    apply dropWhile_not_eq_filter
    refine h.imp fun {e f} hef hp => ?_
    rw [Path.before_iff] at hp ⊢
    exact lt_trans hp hef
  rw [below, hdrop, takeWhile_eq_filter, List.filter_filter]
  refine (h.filter _).imp_of_mem fun {e f} he hf hef hstarts => ?_
  have hp := Path.before_iff.1 (List.mem_filter.1 he).2
  rw [Path.startsWith_iff] at hstarts ⊢
  exact isPrefix_of_between hp hef hstarts

/-- An entry of a directory is a path with one component more; the root is no entry. -/
lemma parent?_any_same_iff : q.parent?.any (·.same p) = true ↔
    q.components ≠ [.root] ∧ ∃ c, q.components = p.components ++ [c] := by
  rcases q.parent?_cases with ⟨hnone, hq⟩ | ⟨r, hsome, hne, hroot, hr⟩
  · rw [hnone]
    refine ⟨nofun, fun ⟨hroot, c, hc⟩ => ?_⟩
    rcases hq with hq | hq
    · simp [hq] at hc
    · exact absurd hq hroot
  · rw [hsome, Option.any_some, Path.same_iff, hr]
    constructor
    · intro heq
      exact ⟨hroot, q.components.getLast hne, by rw [← heq, List.dropLast_append_getLast]⟩
    · rintro ⟨-, c, hc⟩
      rw [hc, List.dropLast_concat]

/-- The entries whose parent is a directory. -/
def entriesIn (fs : MemoryFiles) (dir : Path) : List (Path × Node) :=
  fs.entries.filter fun e => e.1.parent?.any (·.same dir)

/-- The entries of a directory are the stored paths with one component more than the directory. -/
lemma mem_entriesIn {e : Path × Node} : e ∈ fs.entriesIn p ↔
    e ∈ fs.entries ∧ e.1.components ≠ [.root] ∧ ∃ c, e.1.components = p.components ++ [c] := by
  rw [entriesIn, List.mem_filter, parent?_any_same_iff]

/-- A stored path with one component more than a directory belongs to an entry of the directory. -/
lemma exists_mem_entriesIn (h : fs.Ordered) {c : Component} {n : Node} (hne : p.components ≠ [])
    (hq : q.components = p.components ++ [c]) (hstored : fs.find? q = some n) :
    ∃ e, (e, n) ∈ fs.entriesIn p ∧ e.components = q.components := by
  obtain ⟨e, hmem, he⟩ := (find?_eq_some_iff h).1 hstored
  refine ⟨e, mem_entriesIn.2 ⟨hmem, ?_, c, he.trans hq⟩, he⟩
  rw [he, hq]
  intro hroot
  have hpos := List.length_pos_of_ne_nil hne
  have hlength := congrArg List.length hroot
  simp only [List.length_append, List.length_singleton] at hlength
  omega

/-- A directory lists the entries whose parent it is. -/
theorem list_eq_ok (h : fs.Ordered) (hdir : fs.find? p = some .dir) :
    fs.list p = .ok ((fs.entriesIn p).map fun e => ⟨e.1, e.2.isDir⟩) := by
  have hfilter : (fs.below p).filter (fun e => e.1.parent?.any (·.same p)) = fs.entriesIn p := by
    rw [below_eq_filter h, List.filter_filter, entriesIn]
    apply List.filter_congr
    intro e _
    by_cases he : e.1.parent?.any (·.same p) = true
    · obtain ⟨-, c, hc⟩ := parent?_any_same_iff.1 he
      have hbegins : p.components <+: e.1.components := hc ▸ List.prefix_append _ _
      have hbefore : p.components < e.1.components := by
        apply lt_of_isPrefix_of_ne hbegins
        simp [hc]
      rw [he, Path.startsWith_iff.2 hbegins, Path.before_iff.2 hbefore]
      rfl
    · rw [Bool.not_eq_true] at he
      rw [he, Bool.false_and]
  simp only [list, hdir, hfilter]

/-- What is not stored as a directory has no listing. -/
theorem list_eq_error (hdir : fs.find? p ≠ some .dir) : ∃ e, fs.list p = .error e := by
  rw [list]
  split
  · next heq => exact absurd heq hdir
  · exact ⟨_, rfl⟩
  · exact ⟨_, rfl⟩

/-- Only a stored directory is listed, with its entries in their order. -/
lemma list_eq_ok_iff (h : fs.Ordered) {entries : List DirEntry} : fs.list p = .ok entries ↔
    fs.find? p = some .dir ∧ entries = (fs.entriesIn p).map fun e => ⟨e.1, e.2.isDir⟩ := by
  by_cases hdir : fs.find? p = some .dir
  · rw [list_eq_ok h hdir, Except.ok.injEq, eq_comm, and_iff_right hdir]
  · obtain ⟨e, he⟩ := list_eq_error hdir
    simp [he, hdir]

end MemoryFiles

end LexicalFront
