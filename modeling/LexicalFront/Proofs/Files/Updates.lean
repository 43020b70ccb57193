import LexicalFront.Proofs.Files.Tree
import LexicalFront.Session.Basic
set_option autoImplicit false
set_option relaxedAutoImplicit false

/-!
# What an update of files in memory leaves alone

Writing a file changes the node at its path, and makes directories where the ancestors of the path
are not stored; making a directory does the latter alone; removing a file takes away one node. All
other nodes stay as they are, whatever spellings the paths have. So the order in which two files are
written does not show: neither in what is read, nor in what exists, nor in what is listed.

## Main definitions

* `DirEntry.meaning` — what an entry of a listing says, apart from its spelling.

## Main results

* `MemoryFiles.find?_write`, `MemoryFiles.find?_makeDir` — the node at any path after an update.
* `MemoryFiles.map_meaning_list_congr` — a listing depends on what is stored, not on how it is
  spelled.
* `MemoryFiles.updates_frame` — what each update changes and what it leaves alone.
-/

namespace LexicalFront

/-- What an entry of a listing says, apart from its spelling. -/
def DirEntry.meaning (e : DirEntry) : List Component × Bool := (e.path.components, e.isDir)

namespace MemoryFiles

variable {fs gs : MemoryFiles} {p q : Path} {n : Node}

/-! ## The node at a path -/

/-- After a file has been written it is at its path; what was stored elsewhere still is, and where
nothing was there are directories at the ancestors of the path. -/
lemma find?_write (fs : MemoryFiles) (p : Path) (text : String) (q : Path) :
    (fs.write p text).find? q = if p.components = q.components then some (.file text)
      else (fs.find? q).or (if p.HasAncestor q then some .dir else none) := by
  rw [write, find?_put, find?_putAncestors]
  cases fs.find? q with
  | none => simp
  | some n => simp

/-- After a directory has been made, what was stored still is, and where nothing was there are
directories at the path and its ancestors. -/
lemma find?_makeDir (fs : MemoryFiles) (p q : Path) :
    (fs.makeDir p).find? q = (fs.find? q).or
      (if p.components = q.components ∨ p.HasAncestor q then some .dir else none) := by
  rw [makeDir, find?_putDirIfAbsent, find?_putAncestors]
  cases fs.find? q with
  | none =>
    by_cases heq : p.components = q.components
    · have hproper : ¬p.HasAncestor q := fun h => h.components_ne heq
      simp [heq, hproper]
    · simp [heq]
  | some n => simp

/-- A file is stored where one can be read. -/
lemma isFile_iff : fs.isFile p = true ↔ ∃ text, fs.find? p = some (.file text) := by
  rw [isFile]
  cases fs.find? p with
  | none => simp
  | some n => cases n <;> simp [Node.isDir]

/-- Of two files that are written, it does not matter to any node which one is first. -/
lemma find?_write_comm (fs : MemoryFiles) (text other : String)
    (h : p.components ≠ q.components) (r : Path) :
    ((fs.write p text).write q other).find? r = ((fs.write q other).write p text).find? r := by
  simp only [find?_write]
  by_cases hp : p.components = r.components
  · have hq : q.components ≠ r.components := fun hq => h (hp.trans hq.symm)
    simp [hp, hq]
  · by_cases hq : q.components = r.components
    · simp [hp, hq]
    · simp only [if_neg hp, if_neg hq, Option.or_assoc]
      congr 1
      split <;> split <;> rfl

/-! ## Files that store the same -/

/-- What is read depends on the node at the path. -/
lemma read_congr (h : ∀ q, fs.find? q = gs.find? q) (p : Path) : fs.read p = gs.read p := by
  rw [read, read, h p]

/-- What exists depends on the node at the path. -/
lemma exists?_congr (h : ∀ q, fs.find? q = gs.find? q) (p : Path) :
    fs.exists? p = gs.exists? p := by
  rw [exists?, exists?, h p]

/-- The entries of a directory say what is stored one component below it. -/
lemma mem_map_meaning_iff (h : fs.Ordered) {cs : List Component} {isDir : Bool} :
    (cs, isDir) ∈ ((fs.entriesIn p).map fun e => (⟨e.1, e.2.isDir⟩ : DirEntry)).map
        DirEntry.meaning ↔
      ∃ q n, fs.find? q = some n ∧ q.components = cs ∧ n.isDir = isDir ∧
        q.parent?.any (·.same p) = true := by
  rw [List.map_map, List.mem_map]
  constructor
  · rintro ⟨⟨q, n⟩, hmem, hmeaning⟩
    obtain ⟨hcs, hdir⟩ := Prod.mk.inj hmeaning
    obtain ⟨hstored, hparent⟩ := List.mem_filter.1 hmem
    exact ⟨q, n, find?_of_mem h hstored, hcs, hdir, hparent⟩
  · rintro ⟨q, n, hfind, rfl, rfl, hparent⟩
    obtain ⟨r, hstored, hr⟩ := (find?_eq_some_iff h).1 hfind
    refine ⟨(r, n), mem_entriesIn.2 ⟨hstored, ?_⟩, Prod.ext hr rfl⟩
    rw [hr]
    exact parent?_any_same_iff.1 hparent

/-- What is listed depends on what is stored, and not on how it is spelled.

**Proof sketch.** Both listings increase strictly, and the entries of both say what is stored one
component below the directory. -/
theorem map_meaning_list_congr (hfs : fs.Ordered) (hgs : gs.Ordered)
    (h : ∀ q, fs.find? q = gs.find? q) (p : Path) :
    (fs.list p).map (List.map DirEntry.meaning) = (gs.list p).map (List.map DirEntry.meaning) := by
  by_cases hdir : fs.find? p = some .dir
  · have horder {hs : MemoryFiles} (h : hs.Ordered) :
        (((hs.entriesIn p).map fun e => (⟨e.1, e.2.isDir⟩ : DirEntry)).map
          DirEntry.meaning).Pairwise fun a b => a.1 < b.1 :=
      List.pairwise_map.2 (List.pairwise_map.2 (h.filter _))
    have heq := eq_of_mem_iff_of_pairwise_lt (f := Prod.fst) (horder hfs) (horder hgs) fun a => by
      rw [mem_map_meaning_iff hfs, mem_map_meaning_iff hgs]
      simp only [h]
    rw [list_eq_ok hfs hdir, list_eq_ok hgs ((h p).symm.trans hdir)]
    exact congrArg Except.ok heq
  · rw [list, list, ← h p]
    cases hfind : fs.find? p with
    | none => rfl
    | some n =>
      cases n with
      | file text => rfl
      | dir => exact absurd hfind hdir

/-! ## What updates change -/

/-- Whatever is stored and however the paths are spelled, an update changes what it names: the node
at its path, and those ancestors of the path where nothing is stored. Two files can be written in
either order.

**Proof sketch.** Each kind of update has an equation for what is found afterwards: `find?_write`
and `find?_makeDir` let what is stored go first, except at the written path itself, and
`find?_remove` leaves out one path. Two writes lead to the same nodes, hence to the same answers. -/
theorem updates_frame (fs : MemoryFiles) (hordered : fs.Ordered) (p q : Path) :
    -- (1) writing a file
    (∀ text, (q.components = p.components → (fs.write p text).read q = .ok text) ∧
      (q.components ≠ p.components → ∀ n, fs.find? q = some n →
        (fs.write p text).find? q = some n) ∧
      (q.components ≠ p.components → fs.find? q = none →
        ((fs.write p text).exists? q = true ↔ p.HasAncestor q) ∧
        ((fs.write p text).exists? q = true → (fs.write p text).find? q = some .dir))) ∧
    -- (2) making a directory
    (∀ n, fs.find? q = some n → (fs.makeDir p).find? q = some n) ∧
    (fs.find? q = none →
      ((fs.makeDir p).exists? q = true ↔ q.components = p.components ∨ p.HasAncestor q) ∧
      ((fs.makeDir p).exists? q = true → (fs.makeDir p).find? q = some .dir)) ∧
    -- (3) removing a file
    (∃ removed, (∀ s : Session, s.workspace.files = fs →
        (s.onFiles (.remove p)).2 = .truth removed ∧
        (s.onFiles (.remove p)).1.workspace.files = fs.remove p) ∧
      (removed = true ↔ ∃ text, fs.find? p = some (.file text)) ∧
      (removed = true → (fs.remove p).find? p = none ∧
        (q.components ≠ p.components → (fs.remove p).find? q = fs.find? q)) ∧
      (removed = false → fs.remove p = fs)) ∧
    -- (4) writing two files
    (p.components ≠ q.components → ∀ text other r,
      ((fs.write p text).write q other).read r = ((fs.write q other).write p text).read r ∧
      ((fs.write p text).write q other).exists? r = ((fs.write q other).write p text).exists? r ∧
      (((fs.write p text).write q other).list r).map (List.map DirEntry.meaning) =
        (((fs.write q other).write p text).list r).map (List.map DirEntry.meaning)) := by
  refine ⟨fun text => ⟨fun heq => ?_, fun hne n hn => ?_, fun hne hnone => ?_⟩, fun n hn => ?_,
    fun hnone => ?_, ?_, fun hne text other r => ?_⟩
  · exact read_eq_ok (by rw [find?_write, if_pos heq.symm])
  · rw [find?_write, if_neg (Ne.symm hne), hn, Option.some_or]
  · have hfind := find?_write fs p text q
    rw [if_neg (Ne.symm hne), hnone, Option.none_or] at hfind
    rw [exists?_iff, hfind]
    by_cases hancestor : p.HasAncestor q <;> simp [hancestor]
  · rw [find?_makeDir, hn, Option.some_or]
  · have hfind := find?_makeDir fs p q
    rw [hnone, Option.none_or] at hfind
    rw [exists?_iff, hfind, eq_comm (a := q.components)]
    by_cases hchanged : p.components = q.components ∨ p.HasAncestor q <;> simp [hchanged]
  · refine ⟨fs.isFile p, ?_, isFile_iff, fun hfile => ⟨?_, fun hne => ?_⟩, fun hfile => ?_⟩
    · rintro s rfl
      exact ⟨rfl, rfl⟩
    · rw [find?_remove, if_pos ⟨hfile, rfl⟩]
    · rw [find?_remove, if_neg fun h => hne h.2.symm]
    · rw [remove, if_neg (by simp [hfile])]
  · have hfind := find?_write_comm fs text other hne
    have hwrite {gs : MemoryFiles} (h : gs.Ordered) (p : Path) (text : String) :
        (gs.write p text).Ordered := h.apply (.write p text)
    refine ⟨read_congr hfind r, exists?_congr hfind r, ?_⟩
    exact map_meaning_list_congr (hwrite (hwrite hordered p text) q other)
      (hwrite (hwrite hordered q other) p text) hfind r

/-- A file in the same directory is written, whatever the spellings. -/
theorem updates_frame_neighbour :
    (ofUpdates [.write ⟨"/a/b"⟩ "x"]).Ordered ∧
      ((ofUpdates [.write ⟨"/a/b"⟩ "x"]).write ⟨"//a/./c/d"⟩ "y").find? ⟨"/a//b/"⟩ =
        some (.file "x") :=
  ⟨ordered_ofUpdates _, ((updates_frame _ (ordered_ofUpdates _) ⟨"//a/./c/d"⟩ ⟨"/a//b/"⟩).1 "y").2.1
    (by decide +kernel) _ (by decide +kernel)⟩

end MemoryFiles

end LexicalFront
