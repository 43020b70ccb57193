import LexicalFront.Proofs.Enumeration
import Mathlib.Data.List.Nodup
set_option autoImplicit false
set_option relaxedAutoImplicit false

/-!
# What a directory in memory lists

A listing starts right after the path that is asked for and stops at the first stored path that does
not lie below it. Since the stored paths are ordered by components, everything below the path stands
together there, so that nothing is lost: neither behind what lies deeper, nor behind siblings whose
names begin like the name of the directory.

## Main definitions

* `MemoryFiles.IsListing` — the entries of a directory, each once and in order.

## Main results

* `MemoryFiles.mem_below_iff` — the scan finds what is below a path, and nothing else.
* `MemoryFiles.list_exact` — when a path is listed, what is listed, and what else is answered.
-/

namespace LexicalFront

namespace MemoryFiles

variable {fs : MemoryFiles} {p q : Path} {n : Node}

/-! ## Which answer there is -/

/-- Nothing is found where no stored path means the same. -/
lemma find?_eq_none_iff :
    fs.find? p = none ↔ ∀ q n, (q, n) ∈ fs.entries → q.components ≠ p.components := by
  rw [find?, Option.map_eq_none_iff, List.find?_eq_none]
  constructor
  · exact fun h q n hmem heq => h (q, n) hmem (Path.same_iff.2 heq)
  · exact fun h e hmem hsame => h e.1 e.2 hmem (Path.same_iff.1 hsame)

/-- The answer is that nothing is there exactly if nothing is. -/
lemma list_kind_notFound_iff :
    (∃ e, fs.list p = .error e ∧ e.kind = .notFound) ↔ fs.find? p = none := by
  rw [list]
  cases fs.find? p with
  | none => exact ⟨fun _ => rfl, fun _ => ⟨.noDirectory, rfl, rfl⟩⟩
  | some n =>
    cases n with
    | dir => simp
    | file text =>
      refine ⟨?_, by simp⟩
      rintro ⟨e, he, hkind⟩
      obtain rfl := Except.error.inj he
      exact absurd hkind (by decide)

/-- The answer is that something else is there exactly if a file is. -/
lemma list_kind_invalidInput_iff :
    (∃ e, fs.list p = .error e ∧ e.kind = .invalidInput) ↔
      ∃ text, fs.find? p = some (.file text) := by
  rw [list]
  cases fs.find? p with
  | none =>
    refine ⟨?_, by simp⟩
    rintro ⟨e, he, hkind⟩
    obtain rfl := Except.error.inj he
    exact absurd hkind (by decide)
  | some n =>
    cases n with
    | dir => simp
    | file text => exact ⟨fun _ => ⟨text, rfl⟩, fun _ => ⟨.fileNotDirectory, rfl, rfl⟩⟩

/-! ## What is listed -/

/-- The entries of a directory: all stored nodes whose parent it is and nothing else, each once, in
the order of their components. -/
structure IsListing (fs : MemoryFiles) (dir : Path) (entries : List DirEntry) : Prop where
  /-- An entry is a stored node whose parent is the directory, with its spelling and its kind. -/
  mem_iff : ∀ e, e ∈ entries ↔ ∃ n, (e.path, n) ∈ fs.entries ∧ e.isDir = n.isDir ∧
    ∃ up, e.path.parent? = some up ∧ up.components = dir.components
  /-- A stored node whose parent is the directory is listed once, however its path is spelled. -/
  once : ∀ q n up, fs.find? q = some n → q.parent? = some up → up.components = dir.components →
    entries.countP (·.path.same q) = 1
  /-- Each entry comes before the ones behind it. -/
  ordered : entries.Pairwise fun e f => e.path.components < f.path.components

/-- What the scan behind a path finds is what lies below it. -/
theorem mem_below_iff (h : fs.Ordered) {e : Path × Node} :
    e ∈ fs.below p ↔ e ∈ fs.entries ∧ e.1.StrictlyBelow p := by
  rw [below_eq_filter h, List.mem_filter, Bool.and_eq_true, Path.startsWith_iff, Path.before_iff]
  refine and_congr_right fun _ => ⟨?_, ?_⟩
  · rintro ⟨hbegins, hlt⟩
    exact ⟨hbegins, hlt.ne'⟩
  · rintro ⟨hbegins, hne⟩
    exact ⟨hbegins, lt_of_isPrefix_of_ne hbegins hne.symm⟩

/-- In a listing that increases, an entry that means the same as a path stands once. -/
lemma countP_same_eq_one {entries : List DirEntry}
    (h : entries.Pairwise fun e f => e.path.components < f.path.components)
    (hmem : ∃ e ∈ entries, e.path.components = q.components) :
    entries.countP (·.path.same q) = 1 := by
  have hnodup : (entries.map (·.path.components)).Nodup := List.pairwise_map.2 (h.imp ne_of_lt)
  have hcount := List.count_eq_one_of_mem hnodup (List.mem_map.2 hmem)
  rw [List.count, List.countP_map] at hcount
  exact hcount

/-- The entries whose parent is a directory are its listing.

**Proof sketch.** The entries in order have pairwise different components, since the listing is a
part of what is stored. A node is listed if its parent is the directory, by components on both
sides; and it is listed once, because no other entry has its components. -/
lemma isListing_entriesIn (h : fs.Ordered) (dir : Path) :
    fs.IsListing dir ((fs.entriesIn dir).map fun e => ⟨e.1, e.2.isDir⟩) := by
  have hordered : ((fs.entriesIn dir).map fun e => (⟨e.1, e.2.isDir⟩ : DirEntry)).Pairwise
      fun e f => e.path.components < f.path.components :=
    List.pairwise_map.2 (h.filter _)
  refine ⟨fun e => ?_, fun q n up hfind hup hdir => ?_, hordered⟩
  · rw [List.mem_map]
    constructor
    · rintro ⟨⟨q, n⟩, hmem, rfl⟩
      obtain ⟨hstored, hparent⟩ := List.mem_filter.1 hmem
      rw [Option.any_eq_true] at hparent
      obtain ⟨up, hup, hsame⟩ := hparent
      exact ⟨n, hstored, rfl, up, hup, Path.same_iff.1 hsame⟩
    · rintro ⟨n, hstored, hkind, up, hup, hsame⟩
      refine ⟨(e.path, n), List.mem_filter.2 ⟨hstored, ?_⟩, by rw [← hkind]⟩
      rw [hup, Option.any_some]
      exact Path.same_iff.2 hsame
  · apply countP_same_eq_one hordered
    obtain ⟨r, hstored, hr⟩ := (find?_eq_some_iff h).1 hfind
    refine ⟨⟨r, n.isDir⟩, List.mem_map.2 ⟨(r, n), mem_entriesIn.2 ⟨hstored, ?_⟩, rfl⟩, hr⟩
    have hparent : q.parent?.any (·.same dir) = true := by
      rw [hup, Option.any_some]
      exact Path.same_iff.2 hdir
    rw [hr]
    exact parent?_any_same_iff.1 hparent

/-- Whatever updates have been made and however a path is spelled, listing it says that nothing is
there exactly if no stored path means the same, and that something else is there exactly if a file
is; a stored directory is listed exactly. The scan that a listing is made from finds everything that
is stored below the path, and nothing else. -/
theorem list_exact (us : List Update) (p : Path) :
    -- (1) nothing is there
    ((∃ e, (ofUpdates us).list p = .error e ∧ e.kind = .notFound) ↔
      ∀ q n, (q, n) ∈ (ofUpdates us).entries → q.components ≠ p.components) ∧
    -- (2) a file is there
    ((∃ e, (ofUpdates us).list p = .error e ∧ e.kind = .invalidInput) ↔
      ∃ q text, (q, .file text) ∈ (ofUpdates us).entries ∧ q.components = p.components) ∧
    -- (3) a directory is there
    ((∃ entries, (ofUpdates us).list p = .ok entries) ↔
      ∃ q, (q, .dir) ∈ (ofUpdates us).entries ∧ q.components = p.components) ∧
    (∀ entries, (ofUpdates us).list p = .ok entries → (ofUpdates us).IsListing p entries) ∧
    -- (4) the scan behind the path
    ∀ e, e ∈ (ofUpdates us).below p ↔ e ∈ (ofUpdates us).entries ∧ e.1.StrictlyBelow p := by
  have hordered := ordered_ofUpdates us
  refine ⟨?_, ?_, ?_, fun entries hlist => ?_, fun _ => mem_below_iff hordered⟩
  · rw [list_kind_notFound_iff, find?_eq_none_iff]
  · rw [list_kind_invalidInput_iff, exists_comm]
    exact exists_congr fun _ => find?_eq_some_iff hordered
  · rw [← find?_eq_some_iff hordered]
    exact ⟨fun ⟨_, hlist⟩ => ((list_eq_ok_iff hordered).1 hlist).1,
      fun hdir => ⟨_, list_eq_ok hordered hdir⟩⟩
  · rw [((list_eq_ok_iff hordered).1 hlist).2]
    exact isListing_entriesIn hordered p

/-- Neither siblings with names that begin like that of the directory, nor what lies deeper, is
listed; but two points are an entry like any other. -/
example : (ofUpdates [.write ⟨"/m b"⟩ "", .write ⟨"/m.x"⟩ "", .write ⟨"/m/c/d"⟩ "",
    .write ⟨"/m/../e"⟩ "", .write ⟨"m/f"⟩ ""]).list ⟨"//m/."⟩ =
      .ok [⟨⟨"/m/.."⟩, true⟩, ⟨⟨"/m/c"⟩, true⟩] := by
  decide +kernel

end MemoryFiles

end LexicalFront
