import LexicalFront.Proofs.ListingOrder
import LexicalFront.Workspace.Basic
set_option autoImplicit false
set_option relaxedAutoImplicit false

/-!
# Opening a directory outside

The files outside are listed by others, in whatever order they like. It does not matter to the
module that is opened: not to its units, not to their order, and not to the error where there is
one.

## Main definitions

* `Workspace.openOutside` — what opening a directory gives, apart from the files.

## Main results

* `Workspace.openOutside_listing_order` — the order of listings does not matter.
-/

namespace LexicalFront

/-- The bound only matters where a walk starts. -/
lemma walk_withDepth (fs : FileSystem) (k : Nat) (config : Config) (root : Path) (n : Nat)
    (dir : Path) : walk (fs.withDepth k) config root n dir = walk fs config root n dir := by
  induction n generalizing dir with
  | zero => rfl
  | succ n ih =>
    rw [walk, walk, funext ih]
    rfl

namespace Workspace

/-- What opening a directory outside gives: the modules and units, or an error. -/
def openOutside (w : Workspace) (fs : FileSystem) (dir : Path) (config : Config) :
    Except LexicalError (List (Option LexicalModule) × List CompilationUnit) :=
  ({ w with outside := fs }.openModule .external dir config).map
    fun w' : Workspace => (w'.modules, w'.units)

/-- New units have nothing to do with the files outside. -/
lemma addUnits_outside (w : Workspace) (fs : FileSystem) (m : ModuleId)
    (units : List (Option Path × Option String)) :
    { w with outside := fs }.addUnits m units = { w.addUnits m units with outside := fs } := by
  induction units generalizing w with
  | nil => rfl
  | cons u units ih => exact ih (w.addUnit m u.1 u.2)

/-- A relative directory is not opened. -/
lemma openOutside_of_relative (w : Workspace) (fs : FileSystem) {dir : Path} (config : Config)
    (hdir : dir.isAbsolute = false) :
    w.openOutside fs dir config = .error (.relativeModuleLocation dir) := by
  rw [openOutside, openModule, if_neg (by simp [hdir])]
  rfl

/-- What a walk finds in an absolute directory is added to a new module. -/
lemma openOutside_of_absolute (w : Workspace) (fs : FileSystem) {dir : Path} (config : Config)
    (hdir : dir.isAbsolute = true) (n : Nat) : w.openOutside (fs.withDepth n) dir config =
      (walk fs config dir n dir).map fun locations =>
        let w' := (w.newModule (some dir) .external config).addUnits w.nextModule
          (locations.map fun p => (some p, none))
        (w'.modules, w'.units) := by
  rw [openOutside, openModule, if_pos hdir, ← walk_withDepth fs n]
  show Except.map _ (Except.map _ (walk (fs.withDepth n) config dir n dir)) = _
  cases walk (fs.withDepth n) config dir n dir with
  | error e => rfl
  | ok locations =>
    have houtside := addUnits_outside (w.newModule (some dir) .external config) (fs.withDepth n)
      w.nextModule (locations.map fun p => (some p, none))
    have hpair := congrArg (fun w' : Workspace => (w'.modules, w'.units)) houtside
    exact congrArg Except.ok hpair

/-- Opening a directory does not depend on the order in which directories are listed. Let two file
systems give the same errors and the same listings, but for their order, and let the entries of a
listing that have names have different ones. If the walk from a directory comes to an end, then both
give the same units in the same order, or the same error: that of the first directory that cannot be
listed, in the order in which directories are entered, depth first and by name.

**Proof sketch.** A walk that ends has a bound, and within a bound both walks visit the same
directories, whose entries are sorted by their names before anything else is done with them
(`walk_eq_of_sameListing`). The error of a walk is the first one among the directories in the order
in which they are entered (`errorOf?_walk`). -/
theorem openOutside_listing_order {fs fs' : FileSystem}
    (hsame : ∀ d, SameListing (fs.list d) (fs'.list d))
    (hnames : ∀ d entries, fs.list d = .ok entries → NamesDiffer entries)
    {config : Config} {dir : Path} (hends : fs.WalkEnds config dir) (w : Workspace) :
    -- (1) there is a bound on the directories that are entered one inside the other
    (∃ n, fs.NestsWithin config n dir) ∧
    -- (2) within any such bounds, both give the same units or the same error
    (∀ n m, fs.NestsWithin config n dir → fs.NestsWithin config m dir →
      w.openOutside (fs.withDepth n) dir config = w.openOutside (fs'.withDepth m) dir config) ∧
    -- (3) the directories that are entered from one are those that the configuration looks into,
    -- in the order of their names
    (∀ d, (∀ p, p ∈ fs.subdirs config d ↔ ∃ entries name, fs.list d = .ok entries ∧
        ⟨p, true⟩ ∈ entries ∧ p.fileName? = some name ∧ config.skipsName name = false ∧
          config.descendsInto name = true) ∧
      (fs.subdirs config d).Pairwise fun p q =>
        ∃ s t, p.fileName? = some s ∧ q.fileName? = some t ∧ s.bytes < t.bytes) ∧
    -- (4) nothing goes wrong if all of them can be listed, depth first, and otherwise the error is
    -- that of the first one that cannot
    (∀ n, fs.NestsWithin config n dir → dir.isAbsolute = true →
      ((∀ d ∈ fs.preorder config n dir, ∃ entries, fs.list d = .ok entries) →
        ∃ result, w.openOutside (fs.withDepth n) dir config = .ok result) ∧
      ∀ before d after e, fs.preorder config n dir = before ++ d :: after →
        (∀ b ∈ before, ∃ entries, fs.list b = .ok entries) → fs.list d = .error e →
        w.openOutside (fs.withDepth n) dir config = .error (.ioFailure d e)) := by
  refine ⟨hends.exists_nestsWithin, fun n m hn hm => ?_, fun d => ?_, fun n hn hdir => ?_⟩
  · cases hdir : dir.isAbsolute with
    | false => rw [openOutside_of_relative _ _ _ hdir, openOutside_of_relative _ _ _ hdir]
    | true =>
      rw [openOutside_of_absolute _ _ _ hdir, openOutside_of_absolute _ _ _ hdir,
        walk_eq_of_sameListing hsame hnames hn hm]
  · exact ⟨fun p => FileSystem.mem_subdirs_iff, FileSystem.pairwise_subdirs (hnames d)⟩
  · have herror := errorOf?_walk hn dir
    rw [openOutside_of_absolute _ _ _ hdir]
    constructor
    · intro hreadable
      rw [List.findSome?_eq_none_iff.2 fun d hd =>
        FileSystem.failure?_eq_none_iff.2 (hreadable d hd)] at herror
      obtain ⟨locations, hlocations⟩ := errorOf?_eq_none_iff.1 herror
      exact ⟨_, by rw [hlocations]; rfl⟩
    · intro before d after e hpreorder hbefore hd
      have hnone : before.findSome? fs.failure? = none :=
        List.findSome?_eq_none_iff.2 fun b hb => FileSystem.failure?_eq_none_iff.2 (hbefore b hb)
      have hfirst : fs.failure? d = some (.ioFailure d e) := by rw [FileSystem.failure?, hd]
      rw [hpreorder, List.findSome?_append, hnone, Option.none_or, List.findSome?_cons,
        hfirst] at herror
      rw [errorOf?_eq_some_iff.1 herror]
      rfl

/-- A directory with two files and two directories in it, one with a file. -/
def nested : MemoryFiles :=
  .ofUpdates [.write ⟨"/m/b.lift"⟩ "b", .write ⟨"/m/a.lift"⟩ "a", .makeDir ⟨"/m/z"⟩,
    .write ⟨"/m/lib/c.lift"⟩ "c"]

/-- Whichever way round the directories are listed, the three files are found in the same order. -/
theorem openOutside_listing_order_reversed :
    ∃ n result, nested.toFileSystem.NestsWithin .standard n ⟨"/m"⟩ ∧
      (empty nested.toFileSystem).openOutside (nested.toFileSystem.withDepth n) ⟨"/m"⟩ .standard =
        .ok result ∧
      (empty nested.toFileSystem).openOutside (nested.toFileSystem.reversed.withDepth n)
          ⟨"/m"⟩ .standard = .ok result ∧
      result.2.map (·.location) = [some ⟨"a.lift"⟩, some ⟨"b.lift"⟩, some ⟨"lib/c.lift"⟩] := by
  have hordered : nested.Ordered := MemoryFiles.ordered_ofUpdates _
  have hdir : (⟨"/m"⟩ : Path).isAbsolute = true := by decide +kernel
  obtain ⟨⟨k, hk⟩, heq, -⟩ := openOutside_listing_order
    nested.toFileSystem.sameListing_reversed
    (fun d entries h => MemoryFiles.namesDiffer hordered h)
    (MemoryFiles.walkEnds hordered .standard ⟨"/m"⟩) (empty nested.toFileSystem)
  -- a bound that is great enough for the walk in memory, which is computed without sorting
  have hn := hk.mono (Nat.le_max_left k nested.toFileSystem.depth)
  have hwalk : walk nested.toFileSystem .standard ⟨"/m"⟩ (max k nested.toFileSystem.depth) ⟨"/m"⟩ =
      .ok [⟨"a.lift"⟩, ⟨"b.lift"⟩, ⟨"lib/c.lift"⟩] := by
    rw [walk_eq_enumerate .standard hordered (Path.components_ne_nil_of_isAbsolute hdir)
      (Nat.le_max_right k _), enumerate, walk_eq_walkAsListed _ _ hordered]
    decide +kernel
  have hopen := openOutside_of_absolute (empty nested.toFileSystem) nested.toFileSystem .standard hdir
    (max k nested.toFileSystem.depth)
  rw [hwalk] at hopen
  exact ⟨_, _, hn, hopen, (heq _ _ hn hn).symm.trans hopen, rfl⟩

end Workspace

end LexicalFront
