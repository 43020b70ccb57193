import LexicalFront.Proofs.Enumeration
import LexicalFront.Proofs.Path.Ancestors
set_option autoImplicit false
set_option relaxedAutoImplicit false

/-!
# When files in memory are a tree

Writing a file makes the directories above it only where nothing is stored yet, and it replaces
whatever is stored at the path itself. So a file may come to lie below another file, and a file may
take the place of a directory that has something below it. Apart from that, the files are a tree:
all ancestors of a stored path are stored, as directories. This module says exactly which updates
keep it so, and what can be relied on as long as they do.

## Main definitions

* `Path.HasAncestor` — a path strictly below another one that is not empty.
* `MemoryFiles.IsTree` — all ancestors of what is stored are stored as directories.
* `MemoryFiles.Fits` — an update that has its place in the tree; `MemoryFiles.AllFit` — all of some
  updates do when they are made.
* `MemoryFiles.Finds` — listing directories one inside the other leads to a path.

## Main results

* `MemoryFiles.find?_put`, `MemoryFiles.find?_putAncestors`, `MemoryFiles.find?_remove` — what is
  stored after an update.
* `MemoryFiles.isTree_apply_iff` — an update of a tree makes a tree exactly if it fits.
* `MemoryFiles.isTree_iff_allFit` — along a run of updates, and what holds in a tree.
-/

namespace LexicalFront

/-- A path strictly below another one that is not empty. -/
def Path.HasAncestor (p a : Path) : Prop := p.StrictlyBelow a ∧ a.components ≠ []

instance (p a : Path) : Decidable (p.HasAncestor a) :=
  inferInstanceAs (Decidable ((_ ∧ _) ∧ _))

namespace Path.HasAncestor

variable {p q r : Path}

/-- An ancestor has other components. -/
lemma components_ne (h : p.HasAncestor q) : p.components ≠ q.components := h.1.2

/-- An ancestor has fewer components. -/
lemma length_lt (h : p.HasAncestor q) : q.components.length < p.components.length := by
  refine lt_of_le_of_ne h.1.1.length_le fun heq => ?_
  exact h.1.2 (h.1.1.eq_of_length heq).symm

/-- Ancestors of ancestors are ancestors. -/
lemma trans (h : p.HasAncestor q) (h' : q.HasAncestor r) : p.HasAncestor r := by
  refine ⟨⟨h'.1.1.trans h.1.1, fun heq => ?_⟩, h'.2⟩
  have hlt := h'.length_lt.trans h.length_lt
  exact absurd hlt (by simp [heq])

/-- No ancestor of a path lies below it. -/
lemma asymm (h : p.HasAncestor q) : ¬q.HasAncestor p := fun h' => lt_asymm h.length_lt h'.length_lt

/-- Only the components count. -/
lemma congr (h : p.HasAncestor q) (heq : r.components = p.components) : r.HasAncestor q := by
  rw [HasAncestor, StrictlyBelow, heq]
  exact h

end Path.HasAncestor

namespace MemoryFiles

variable {fs : MemoryFiles} {p q : Path} {n : Node}

/-! ## What is stored after an update -/

/-- The node that was put at a path is found there, and all other nodes are where they were.

**Proof sketch.** Induction along `insertEntry`. An entry with the same components keeps its place
and gets the node; otherwise the new one comes first, or the look-up passes the first entry by, as
the insertion does. -/
lemma find?_put (fs : MemoryFiles) (p : Path) (n : Node) (q : Path) :
    (fs.put p n).find? q = if p.components = q.components then some n else fs.find? q := by
  obtain ⟨es⟩ := fs
  simp only [put, find?]
  fun_induction insertEntry p n es with
  | case1 =>
    by_cases h : p.components = q.components
    · simp [h, Path.same]
    · simp [h, Path.same]
  | case2 r m es hsame =>
    rw [Path.same_iff] at hsame
    by_cases h : p.components = q.components
    · simp [h, Path.same, ← hsame]
    · simp [h, Path.same, ← hsame]
  | case3 r m es hsame hbefore =>
    by_cases h : p.components = q.components
    · simp [h, Path.same]
    · simp [h, Path.same]
  | case4 r m es hsame hbefore ih =>
    rw [Path.same_iff] at hsame
    by_cases hr : r.components = q.components
    · have h : p.components ≠ q.components := fun h => hsame (h.trans hr.symm)
      simp [h, hr, Path.same]
    · have hrq : r.same q = false := by simpa [Path.same] using hr
      simp only [List.find?_cons, hrq]
      exact ih

/-- A directory is made where nothing is. -/
lemma find?_putDirIfAbsent (fs : MemoryFiles) (p q : Path) :
    (fs.putDirIfAbsent p).find? q =
      if p.components = q.components ∧ fs.find? q = none then some .dir else fs.find? q := by
  rw [putDirIfAbsent, exists?]
  by_cases heq : p.components = q.components
  · rw [find?_congr heq]
    cases h : fs.find? q with
    | none => simp [find?_put, heq]
    | some n => simp [h]
  · split
    · simp [heq]
    · simp [find?_put, heq]

/-- Directories are made at some paths where nothing is. -/
lemma find?_foldl_putDirIfAbsent (fs : MemoryFiles) (ps : List Path) (q : Path) :
    (ps.foldl putDirIfAbsent fs).find? q =
      if (∃ a ∈ ps, a.components = q.components) ∧ fs.find? q = none then some .dir
      else fs.find? q := by
  induction ps generalizing fs with
  | nil => simp
  | cons p ps ih =>
    rw [List.foldl_cons, ih]
    simp only [find?_putDirIfAbsent, List.exists_mem_cons_iff]
    by_cases heq : p.components = q.components
    · by_cases hnone : fs.find? q = none
      · simp [heq, hnone]
      · simp [hnone]
    · simp [heq]

/-- Directories are made at all ancestors where nothing is. -/
lemma find?_putAncestors (fs : MemoryFiles) (p q : Path) :
    (fs.putAncestors p).find? q =
      if p.HasAncestor q ∧ fs.find? q = none then some .dir else fs.find? q := by
  have hancestor : (∃ a ∈ p.properAncestors.filter (!·.isEmpty), a.components = q.components) ↔
      p.HasAncestor q := by
    rw [Path.exists_mem_ancestors_iff, Path.HasAncestor, Path.StrictlyBelow]
    exact ⟨fun ⟨hne, hbegins, hproper⟩ => ⟨⟨hbegins, hproper.symm⟩, hne⟩,
      fun ⟨⟨hbegins, hproper⟩, hne⟩ => ⟨hne, hbegins, hproper.symm⟩⟩
  rw [putAncestors, find?_foldl_putDirIfAbsent]
  exact if_congr (and_congr_left' hancestor) rfl rfl

/-- A file is taken away, and all other nodes are where they were. -/
lemma find?_remove (fs : MemoryFiles) (p q : Path) :
    (fs.remove p).find? q =
      if fs.isFile p = true ∧ p.components = q.components then none else fs.find? q := by
  rw [remove]
  by_cases hfile : fs.isFile p = true
  · rw [if_pos hfile, find?, List.find?_filter]
    by_cases heq : p.components = q.components
    · rw [if_pos ⟨hfile, heq⟩, List.find?_eq_none.2]
      · rfl
      · simp [Path.same, heq]
    · rw [if_neg fun h => heq h.2, find?]
      congr 2
      funext e
      by_cases he : e.1.components = q.components
      · simp [Path.same, he, Ne.symm heq]
      · simp [Path.same, he]
  · simp [hfile]

/-- A path is stored if there is a node at it. -/
lemma exists?_iff : fs.exists? p = true ↔ fs.find? p ≠ none := by
  rw [exists?, Option.isSome_iff_ne_none]

/-- What is stored but is no file is a directory. -/
lemma isFile_eq_false_iff : fs.isFile p = false ↔ fs.find? p = none ∨ fs.find? p = some .dir := by
  rw [isFile]
  cases fs.find? p with
  | none => simp
  | some n => cases n <;> simp [Node.isDir]

/-- Making the ancestors of a path keeps what is stored. -/
lemma exists?_putAncestors (h : fs.exists? q = true) : (fs.putAncestors p).exists? q = true := by
  rw [exists?_iff] at h ⊢
  rw [find?_putAncestors]
  split
  · exact nofun
  · exact h

/-- After the ancestors of a path have been made, they are directories but for those that were
files. -/
lemma find?_putAncestors_eq_dir_iff (h : p.HasAncestor q) :
    (fs.putAncestors p).find? q = some .dir ↔ fs.isFile q = false := by
  rw [find?_putAncestors, isFile_eq_false_iff]
  by_cases hnone : fs.find? q = none
  · simp [h, hnone]
  · simp [hnone]

/-! ## Trees -/

/-- All ancestors of what is stored are stored as directories. The empty path does not count. -/
def IsTree (fs : MemoryFiles) : Prop :=
  ∀ p a : Path, fs.exists? p = true → p.HasAncestor a → fs.find? a = some .dir

/-- An update that has its place in the tree: nothing is put below a file, and no file is put above
anything. -/
def Fits (fs : MemoryFiles) : Update → Prop
  | .write p _ => (∀ a, p.HasAncestor a → fs.isFile a = false) ∧
      ∀ q, q.HasAncestor p → fs.exists? q = false
  | .makeDir p => ∀ a, p.HasAncestor a → fs.isFile a = false
  | .remove _ => True

/-- Nothing is a tree. -/
lemma isTree_empty : empty.IsTree := fun _ _ h => absurd h Bool.false_ne_true

/-- Where no ancestor of a path is a file, all of them can be made. -/
lemma IsTree.putAncestors (h : fs.IsTree) (hroom : ∀ a, p.HasAncestor a → fs.isFile a = false) :
    (fs.putAncestors p).IsTree := by
  intro q a hq ha
  by_cases hpq : p.HasAncestor q
  · have hpa := hpq.trans ha
    exact (find?_putAncestors_eq_dir_iff hpa).2 (hroom a hpa)
  · rw [exists?_iff, find?_putAncestors, if_neg (fun hand => hpq hand.1), ← exists?_iff] at hq
    have hdir := h q a hq ha
    rw [find?_putAncestors, hdir, if_neg (by simp)]

/-- A node may be put below directories, if it is a directory itself or nothing is below it. -/
lemma IsTree.put (h : fs.IsTree) (habove : ∀ a, p.HasAncestor a → fs.find? a = some .dir)
    (hbelow : n = .dir ∨ ∀ q, q.HasAncestor p → fs.exists? q = false) : (fs.put p n).IsTree := by
  intro q a hq ha
  rw [exists?_iff, find?_put] at hq
  rw [find?_put]
  by_cases hpa : p.components = a.components
  · have hqp : q.HasAncestor p := by
      rw [Path.HasAncestor, Path.StrictlyBelow, hpa]
      exact ha
    rw [if_neg hqp.components_ne.symm, ← exists?_iff] at hq
    rcases hbelow with rfl | hbelow
    · exact if_pos hpa
    · exact absurd ((hbelow q hqp).symm.trans hq) Bool.false_ne_true
  · rw [if_neg hpa]
    by_cases hpq : p.components = q.components
    · exact habove a (ha.congr hpq)
    · rw [if_neg hpq, ← exists?_iff] at hq
      exact h q a hq ha

/-- Writing a file makes a tree of a tree exactly if the file has its place there. -/
lemma isTree_write_iff (h : fs.IsTree) (text : String) :
    (fs.write p text).IsTree ↔ fs.Fits (.write p text) := by
  constructor
  · intro h'
    have hfile : (fs.write p text).find? p = some (.file text) := by
      rw [write, find?_put, if_pos rfl]
    refine ⟨fun a ha => ?_, fun q hq => ?_⟩
    · have hdir := h' p a (exists?_iff.2 (by simp [hfile])) ha
      rw [write, find?_put, if_neg ha.components_ne] at hdir
      exact (find?_putAncestors_eq_dir_iff ha).1 hdir
    · by_contra hstored
      rw [Bool.not_eq_false] at hstored
      -- what was stored below the file still is, so that the file should be a directory
      have hstill : (fs.write p text).exists? q = true := by
        rw [exists?_iff, write, find?_put, if_neg hq.components_ne.symm, ← exists?_iff]
        exact exists?_putAncestors hstored
      exact absurd ((h' q p hstill hq).symm.trans hfile) (by simp)
  · rintro ⟨hroom, hbelow⟩
    refine (h.putAncestors hroom).put ?_ (.inr fun q hq => ?_)
    · exact fun a ha => (find?_putAncestors_eq_dir_iff ha).2 (hroom a ha)
    · rw [exists?, find?_putAncestors, if_neg fun hand => hq.asymm hand.1]
      exact hbelow q hq

/-- Making a directory makes a tree of a tree exactly if none of its ancestors is a file. -/
lemma isTree_makeDir_iff (h : fs.IsTree) : (fs.makeDir p).IsTree ↔ fs.Fits (.makeDir p) := by
  constructor
  · intro h' a ha
    have hstored : (fs.makeDir p).exists? p = true := by
      rw [exists?_iff, makeDir, find?_putDirIfAbsent]
      split
      · exact nofun
      · next hand => exact fun hnone => hand ⟨rfl, hnone⟩
    have hdir := h' p a hstored ha
    rw [makeDir, find?_putDirIfAbsent, if_neg fun hand => ha.components_ne hand.1] at hdir
    exact (find?_putAncestors_eq_dir_iff ha).1 hdir
  · intro hroom
    rw [makeDir, putDirIfAbsent]
    split
    · exact h.putAncestors hroom
    · refine (h.putAncestors hroom).put ?_ (.inl rfl)
      exact fun a ha => (find?_putAncestors_eq_dir_iff ha).2 (hroom a ha)

/-- Removing a file makes a tree of a tree: nothing is below a file. -/
lemma IsTree.remove (h : fs.IsTree) (p : Path) : (fs.remove p).IsTree := by
  intro q a hq ha
  have hstored : fs.exists? q = true := by
    rw [exists?_iff, find?_remove] at hq
    split at hq
    · exact absurd rfl hq
    · exact exists?_iff.2 hq
  have hdir := h q a hstored ha
  rw [find?_remove, if_neg, hdir]
  rintro ⟨hfile, heq⟩
  rw [isFile, find?_congr heq, hdir] at hfile
  exact absurd hfile (by simp [Node.isDir])

/-- An update makes a tree of a tree exactly if it fits. -/
theorem isTree_apply_iff (h : fs.IsTree) (u : Update) : (fs.apply u).IsTree ↔ fs.Fits u := by
  cases u with
  | write p text => exact isTree_write_iff h text
  | makeDir p => exact isTree_makeDir_iff h
  | remove p => exact ⟨fun _ => trivial, fun _ => h.remove p⟩

/-- Each of some updates fits when it is made. -/
def AllFit (fs : MemoryFiles) : List Update → Prop
  | [] => True
  | u :: us => fs.Fits u ∧ (fs.apply u).AllFit us

/-- The files are a tree after each update exactly if each update fits.

**Proof sketch.** Induction on the updates, from a tree to start with. The first update makes a tree
if it fits, and the others go on from there. -/
lemma isTree_run_iff (h : fs.IsTree) (us : List Update) :
    (∀ us', us' <+: us → (us'.foldl apply fs).IsTree) ↔ fs.AllFit us := by
  induction us generalizing fs with
  | nil =>
    refine ⟨fun _ => trivial, fun _ us' hus => ?_⟩
    rw [List.prefix_nil.1 hus]
    exact h
  | cons u us ih =>
    constructor
    · intro hall
      have hfirst := hall [u] (List.cons_prefix_cons.2 ⟨rfl, List.nil_prefix⟩)
      refine ⟨(isTree_apply_iff h u).1 hfirst, (ih hfirst).1 fun us' hus => ?_⟩
      exact hall (u :: us') (List.cons_prefix_cons.2 ⟨rfl, hus⟩)
    · rintro ⟨hfits, hrest⟩ us' hus
      have hfirst := (isTree_apply_iff h u).2 hfits
      cases us' with
      | nil => exact h
      | cons u' us' =>
        obtain ⟨rfl, hus'⟩ := List.cons_prefix_cons.1 hus
        exact (ih hfirst).2 hrest us' hus'

/-! ## What holds in a tree -/

/-- No file in a tree lies below another file. -/
lemma IsTree.isFile_eq_false (h : fs.IsTree) (hp : fs.isFile p = true) (ha : p.HasAncestor q) :
    fs.isFile q = false := by
  have hstored : fs.exists? p = true := by
    rw [exists?_iff]
    rintro hnone
    rw [isFile, hnone] at hp
    cases hp
  exact isFile_eq_false_iff.2 (.inr (h p q hstored ha))

/-- Listing directories one inside the other, beginning with one path, leads to another one. -/
inductive Finds (fs : MemoryFiles) : Path → Path → Prop
  | here {p q : Path} (h : p.components = q.components) : Finds fs p q
  | through {dir p : Path} {entries : List DirEntry} {e : DirEntry}
    (hlist : fs.list dir = .ok entries) (he : e ∈ entries) (h : Finds fs e.path p) : Finds fs dir p

/-- In a tree, what is stored is found from each of its ancestors.

**Proof sketch.** Induction on how many components there are between the two. The ancestor is stored
as a directory; of what it lists, one entry has the next component. -/
lemma IsTree.finds (h : fs.IsTree) (hordered : fs.Ordered) (hp : fs.exists? p = true) {a : Path}
    (hne : a.components ≠ []) (hbegins : a.components <+: p.components) : fs.Finds a p := by
  obtain ⟨cs, hcs⟩ := hbegins
  induction cs generalizing a with
  | nil => exact .here (by rw [← hcs, List.append_nil])
  | cons c cs ih =>
    have ha : p.HasAncestor a := ⟨Path.strictlyBelow_of_components_eq hcs.symm, hne⟩
    have hdir := h p a hp ha
    have hnext : a.components ++ [c] <+: p.components := ⟨cs, by simp [← hcs]⟩
    obtain ⟨q, hq⟩ := Path.exists_components_eq hnext (by simp)
    have hstored : ∃ n, fs.find? q = some n := by
      by_cases hqp : p.components = q.components
      · rw [← find?_congr hqp]
        exact Option.ne_none_iff_exists'.1 (exists?_iff.1 hp)
      · exact ⟨_, h p q hp ⟨⟨hq ▸ hnext, hqp⟩, by simp [hq]⟩⟩
    obtain ⟨n, hn⟩ := hstored
    obtain ⟨e, hentry, he⟩ := exists_mem_entriesIn hordered hne hq hn
    refine .through (list_eq_ok hordered hdir) (List.mem_map_of_mem hentry) (ih ?_ ?_)
    · simp [he, hq]
    · simp [he, hq, hcs]

/-- After each of some updates the files are a tree exactly if each update has its place in the tree
when it is made. In a tree, no file lies below another one, and every file that can be read is found
by listing directories one inside the other, beginning with its topmost ancestor. -/
theorem isTree_iff_allFit (us : List Update) :
    -- (1) which updates keep the files a tree
    ((∀ us', us' <+: us → (ofUpdates us').IsTree) ↔ empty.AllFit us) ∧
    -- (2) no file lies below another one
    ((ofUpdates us).IsTree → ∀ p a : Path, (ofUpdates us).isFile p = true → p.HasAncestor a →
      (ofUpdates us).isFile a = false) ∧
    -- (3) every file is found
    ((ofUpdates us).IsTree → ∀ (p : Path) (text : String), (ofUpdates us).read p = .ok text →
      ∃ top : Path, top.components = p.components.take 1 ∧ (ofUpdates us).Finds top p) := by
  refine ⟨isTree_run_iff isTree_empty us, fun h p a hp ha => h.isFile_eq_false hp ha, ?_⟩
  intro h p text hread
  by_cases hempty : p.components = []
  · exact ⟨p, by simp [hempty], .here rfl⟩
  · have hstored : (ofUpdates us).exists? p = true := by
      rw [exists?_iff]
      intro hnone
      rw [read, hnone] at hread
      cases hread
    have htake : p.components.take 1 ≠ [] := by simpa using hempty
    obtain ⟨top, htop⟩ := Path.exists_components_eq (List.take_prefix 1 _) htake
    refine ⟨top, htop, h.finds (ordered_ofUpdates us) hstored (htop ▸ htake) ?_⟩
    rw [htop]
    exact List.take_prefix 1 _

/-- A file is written, and then one below it. -/
def fileBelowFile : List Update := [.write ⟨"/a"⟩ "x", .write ⟨"/a/b"⟩ "y"]

/-- A file that is written below a file can be read, but the file above it is not made a directory,
so that it cannot be listed: the files are no tree. -/
theorem not_isTree_fileBelowFile : ¬(ofUpdates fileBelowFile).IsTree ∧
    (ofUpdates fileBelowFile).read ⟨"/a/b"⟩ = .ok "y" ∧
    (ofUpdates fileBelowFile).list ⟨"/a"⟩ = .error .fileNotDirectory := by
  have hread : (ofUpdates fileBelowFile).read ⟨"/a/b"⟩ = .ok "y" := by decide +kernel
  have hlist : (ofUpdates fileBelowFile).list ⟨"/a"⟩ = .error .fileNotDirectory := by
    decide +kernel
  refine ⟨fun h => ?_, hread, hlist⟩
  have hdir := h ⟨"/a/b"⟩ ⟨"/a"⟩ (by decide +kernel) (by decide +kernel)
  have hfile : (ofUpdates fileBelowFile).find? ⟨"/a"⟩ = some (.file "x") := by decide +kernel
  exact absurd (hdir.symm.trans hfile) (by simp)

end MemoryFiles

end LexicalFront
