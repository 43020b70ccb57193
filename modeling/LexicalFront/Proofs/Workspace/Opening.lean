import LexicalFront.Proofs.Enumeration
import LexicalFront.Proofs.Workspace.Lookup
import Mathlib.Data.List.Forall2
set_option autoImplicit false
set_option relaxedAutoImplicit false

/-!
# Opening a directory

A module that is opened on a directory gets a unit for each stored file that the configuration
accepts, in the order of their paths. Nothing is read yet.

## Main definitions

* `Workspace.ListsUnits` — a module lists units that exist.
* `Workspace.opened` — the workspace after a directory has been opened.

## Main results

* `Workspace.newModule_addUnits` — the units of a new module.
* `Workspace.openModule_exact` — which units a module has when it is opened on a directory in
  memory, and when it cannot be opened.
-/

namespace LexicalFront

/-! ## Locations of units -/

section Locations

variable {fs : MemoryFiles} {config : Config} {dir f : Path} {locations : List Path}

/-- Below the directory of a module a unit has only names for components. -/
lemma IsUnitFile.exists_name (h : IsUnitFile fs config dir f) (hne : dir.components ≠ [])
    {c : Component} (hc : c ∈ f.componentsAfter dir) : ∃ s, c = .name s := by
  obtain ⟨cs, ds, hsplit⟩ := List.append_of_mem hc
  obtain ⟨rest, hrest⟩ := h.below.1
  rw [Path.componentsAfter_eq hrest.symm] at hsplit
  have hf : f.components = dir.components ++ cs ++ c :: ds := by
    rw [← hrest, hsplit, List.append_assoc]
  rcases Path.eq_up_or_name_of_components_eq hf (by simp [hne]) with rfl | hname
  · exact absurd hc h.up_notMem
  · exact hname

/-- The locations of units are in the order of their bytes. -/
lemma Lists.pairwise_bytes (hne : dir.components ≠ [])
    (h : Lists (fun f => fs.StoresFile f ∧ IsUnitFile fs config dir f) dir locations) :
    locations.Pairwise fun l l' => l.bytes < l'.bytes := by
  obtain ⟨files, hfiles, horder, hmap⟩ := h
  have hsome (l : Path) (hl : l ∈ locations) :
      ∃ f, IsUnitFile fs config dir f ∧ f.stripPrefix? dir = some l := by
    have hmem : some l ∈ files.map (·.stripPrefix? dir) := hmap ▸ List.mem_map_of_mem hl
    obtain ⟨f, hf, hstrip⟩ := List.mem_map.1 hmem
    exact ⟨f, ((hfiles f).1 hf).2, hstrip⟩
  have hnames (l : Path) (hl : l ∈ locations) (c : Component) (hc : c ∈ l.components) :
      ∃ s, c = .name s := by
    obtain ⟨f, hunit, hstrip⟩ := hsome l hl
    apply hunit.exists_name hne
    rwa [Path.componentsAfter_eq (Path.components_stripPrefix? hstrip)]
  have hstripped : (locations.map some).Pairwise fun l l' =>
      ∀ m m', l = some m → l' = some m' → m.components < m'.components := by
    rw [← hmap, List.pairwise_map]
    refine horder.imp fun {f f'} hlt m m' hm hm' => ?_
    rwa [Path.components_stripPrefix? hm, Path.components_stripPrefix? hm',
      append_lt_append_iff] at hlt
  rw [List.pairwise_map] at hstripped
  refine hstripped.imp_of_mem fun {l l'} hl hl' hlt => ?_
  exact (Path.before_iff_bytes (hnames l hl) (hnames l' hl')).1
    (Path.before_iff.2 (hlt l l' rfl rfl))

end Locations

/-! ## The units of a new module -/

namespace Workspace

/-- A module that is there lists units that exist, none of them twice. -/
structure ListsUnits (w : Workspace) (m : ModuleId) : Prop where
  isSome_module? : (w.module? m).isSome = true
  isSome_unit? : ∀ x ∈ w.members m, (w.unit? x).isSome = true
  nodup : (w.members m).Nodup

variable {w : Workspace} {m : ModuleId}

/-- The next unit is not listed yet. -/
lemma ListsUnits.nextUnit_notMem (h : w.ListsUnits m) : w.nextUnit ∉ w.members m := by
  intro hmem
  have hsome := h.isSome_unit? _ hmem
  rw [unit?_nextUnit] at hsome
  cases hsome

/-- Every listed unit has a state. -/
lemma ListsUnits.length_memberUnits (h : w.ListsUnits m) :
    (w.memberUnits m).length = (w.members m).length := by
  rw [memberUnits, List.length_filterMap_eq_countP, List.countP_eq_length]
  exact h.isSome_unit?

/-- A new unit is listed once. -/
lemma ListsUnits.addUnit (h : w.ListsUnits m) (location : Option Path) (text : Option String) :
    (w.addUnit m location text).ListsUnits m := by
  have hmembers := w.members_addUnit h.isSome_module? m location text
  rw [if_pos rfl] at hmembers
  refine ⟨?_, ?_, ?_⟩
  · rw [isSome_module?_addUnit]
    exact h.isSome_module?
  · intro x hx
    rw [unit?_addUnit]
    split
    · rfl
    · next hne =>
      rw [hmembers, List.mem_append, List.mem_singleton] at hx
      exact h.isSome_unit? x (hx.resolve_right (Ne.symm hne))
  · rw [hmembers]
    exact List.nodup_append.2 ⟨h.nodup, List.pairwise_singleton _ _, fun x hx y hy heq =>
      h.nextUnit_notMem (List.mem_singleton.1 hy ▸ heq ▸ hx)⟩

/-- The state of a new unit is the last one of its module. -/
lemma ListsUnits.memberUnits_addUnit (h : w.ListsUnits m) (location : Option Path)
    (text : Option String) :
    (w.addUnit m location text).memberUnits m = w.memberUnits m ++ [.new m location text] := by
  have hold : (w.members m).filterMap (w.addUnit m location text).unit? = w.memberUnits m := by
    apply List.filterMap_congr
    intro x hx
    obtain ⟨v, hv⟩ := Option.isSome_iff_exists.1 (h.isSome_unit? x hx)
    rw [unit?_addUnit_of_some hv, hv]
  rw [memberUnits, w.members_addUnit h.isSome_module?, if_pos rfl, List.filterMap_append, hold]
  simp [unit?_addUnit]

/-- New units are listed in order, after the ones that were there. -/
lemma ListsUnits.addUnits (h : w.ListsUnits m) (units : List (Option Path × Option String)) :
    (w.addUnits m units).ListsUnits m ∧
      (w.addUnits m units).memberUnits m =
        w.memberUnits m ++ units.map fun u => .new m u.1 u.2 := by
  induction units generalizing w with
  | nil => exact ⟨h, (List.append_nil _).symm⟩
  | cons u units ih =>
    obtain ⟨hlists, hunits⟩ := ih (h.addUnit u.1 u.2)
    refine ⟨hlists, hunits.trans ?_⟩
    rw [h.memberUnits_addUnit, List.append_assoc]
    rfl

/-- New units do not move a module. -/
lemma place_addUnits (w : Workspace) (m : ModuleId) (units : List (Option Path × Option String))
    (k : ModuleId) : ((w.addUnits m units).module? k).map (fun state => (state.location,
      state.source)) = (w.module? k).map fun state => (state.location, state.source) := by
  induction units generalizing w with
  | nil => rfl
  | cons u units ih =>
    refine (ih (w.addUnit m u.1 u.2)).trans ?_
    show ((w.modifyModule m _).module? k).map _ = _
    rw [module?_modifyModule]
    split
    · rw [Option.map_map]
      rfl
    · rfl

/-- A new module lists the units that it is made with. -/
theorem newModule_addUnits (w : Workspace) (location : Option Path) (source : FileSource)
    (config : Config) (units : List (Option Path × Option String)) :
    ((w.newModule location source config).addUnits w.nextModule units).ListsUnits w.nextModule ∧
      ((w.newModule location source config).addUnits w.nextModule units).memberUnits
        w.nextModule = units.map fun u => .new w.nextModule u.1 u.2 := by
  have hmembers : (w.newModule location source config).members w.nextModule = [] := by
    rw [members_newModule, members, module?_nextModule]
    rfl
  have hlists : (w.newModule location source config).ListsUnits w.nextModule :=
    ⟨by simp [module?_newModule], by simp [hmembers], by simp [hmembers]⟩
  obtain ⟨hlists, hunits⟩ := hlists.addUnits units
  refine ⟨hlists, hunits.trans ?_⟩
  simp [memberUnits, hmembers]

/-! ## Opening a directory in memory -/

/-- The workspace with a new module on a directory in memory that has units at some locations. -/
def opened (w : Workspace) (dir : Path) (config : Config) (locations : List Path) : Workspace :=
  (w.newModule (some dir) .memory config).addUnits w.nextModule
    (locations.map fun p => (some p, none))

/-- A module that was opened lists its units. -/
lemma listsUnits_opened (w : Workspace) (dir : Path) (config : Config) (locations : List Path) :
    (w.opened dir config locations).ListsUnits w.nextModule :=
  (w.newModule_addUnits _ _ _ _).1

/-- The units of a module that was opened are new and have no text. -/
lemma memberUnits_opened (w : Workspace) (dir : Path) (config : Config) (locations : List Path) :
    (w.opened dir config locations).memberUnits w.nextModule =
      locations.map fun p => .new w.nextModule (some p) none := by
  refine (w.newModule_addUnits _ _ _ _).2.trans ?_
  rw [List.map_map]
  rfl

/-- Where no directory is stored, opening fails as listing does. -/
lemma openModule_of_find?_ne {dir : Path} (hdir : dir.isAbsolute = true) (config : Config)
    (hstored : w.files.find? dir ≠ some .dir) :
    ∃ e, w.files.list dir = .error e ∧
      w.openModule .memory dir config = .error (.ioFailure dir e) := by
  obtain ⟨e, he, henumerate⟩ := enumerate_eq_error config hstored
  refine ⟨e, he, ?_⟩
  rw [openModule, if_pos hdir, fileSystem, henumerate]
  rfl

/-- Where a directory is stored, opening makes a unit for each file that is found. -/
lemma openModule_of_find?_eq (hordered : w.files.Ordered) {dir : Path}
    (hdir : dir.isAbsolute = true) (config : Config) (hstored : w.files.find? dir = some .dir) :
    ∃ locations, w.openModule .memory dir config = .ok (w.opened dir config locations) ∧
      Lists (fun f => w.files.StoresFile f ∧ IsUnitFile w.files config dir f) dir locations := by
  obtain ⟨locations, hlocations, hlists⟩ :=
    enumerate_lists config hordered (Path.components_ne_nil_of_isAbsolute hdir) hstored
  refine ⟨locations, ?_, hlists⟩
  rw [openModule, if_pos hdir, fileSystem, hlocations]
  rfl

/-- Opening succeeds only where a directory is stored. -/
lemma openModule_memory_eq_ok (hordered : w.files.Ordered) {w' : Workspace} {dir : Path}
    {config : Config} (h : w.openModule .memory dir config = .ok w') :
    dir.isAbsolute = true ∧ ∃ locations, w' = w.opened dir config locations ∧
      Lists (fun f => w.files.StoresFile f ∧ IsUnitFile w.files config dir f) dir locations := by
  by_cases hdir : dir.isAbsolute = true
  · by_cases hstored : w.files.find? dir = some .dir
    · obtain ⟨locations, hopen, hlists⟩ := openModule_of_find?_eq hordered hdir config hstored
      exact ⟨hdir, locations, Except.ok.inj (h.symm.trans hopen), hlists⟩
    · obtain ⟨e, -, herror⟩ := openModule_of_find?_ne hdir config hstored
      rw [herror] at h
      cases h
  · rw [openModule, if_neg hdir] at h
    cases h

/-- Opening makes a unit for each file that is found, in the order in which they are listed. -/
lemma openModule_of_walkAsListed (hordered : w.files.Ordered) {dir : Path}
    (hdir : dir.isAbsolute = true) {config : Config} {locations : List Path}
    (h : walkAsListed w.files.toFileSystem config dir w.files.toFileSystem.depth dir =
      .ok locations) : w.openModule .memory dir config = .ok (w.opened dir config locations) := by
  rw [openModule, if_pos hdir, fileSystem, enumerate, walk_eq_walkAsListed config dir hordered, h]
  rfl

/-- Opening a directory in memory always comes to an end: it fails exactly where no directory is
stored, and else the units are the files below the directory that the configuration accepts, each
once, in the order of the bytes of their locations. No unit has a text yet. If names that start with
a point are passed over, this goes for names that are texts: a file is found in spite of such a name
if the name is no text.

**Proof sketch.** Where no directory is stored, the listing of the first directory fails. Where one
is, the walk lists the unit files in the order of their components (`enumerate_lists`), which below
a directory is that of the bytes of the locations, and a unit is made for each. In part (4), a file
that is found has no hidden name that is a text. -/
theorem openModule_exact (w : Workspace) {updates : List MemoryFiles.Update}
    (hfiles : w.files = .ofUpdates updates) {dir : Path} (hdir : dir.isAbsolute = true)
    (config : Config) :
    -- (1) the bound on the nesting of directories is never reached
    (∀ n, w.files.toFileSystem.depth ≤ n → walk w.files.toFileSystem config dir n dir =
      enumerate w.files.toFileSystem config dir) ∧
    -- (2) where no directory is stored, opening fails as listing does
    (w.files.find? dir ≠ some .dir → ∃ e, w.files.list dir = .error e ∧
      w.openModule .memory dir config = .error (.ioFailure dir e)) ∧
    -- (3) where one is stored, the units are those of the accepted files, in order
    (w.files.find? dir = some .dir → ∃ w' files locations,
      w.openModule .memory dir config = .ok w' ∧
      (∀ f, f ∈ files ↔ w.files.StoresFile f ∧ IsUnitFile w.files config dir f) ∧ files.Nodup ∧
      List.Forall₂ (fun f l => f.stripPrefix? dir = some l ∧
        f.components = dir.components ++ l.components) files locations ∧
      locations.Pairwise (fun l l' => l.bytes < l'.bytes) ∧
      (w'.members w.nextModule).length = locations.length ∧
      (w'.memberUnits w.nextModule).map (·.location) = locations.map some ∧
      (∀ v ∈ w'.memberUnits w.nextModule, v.isLoaded = false ∧ v.generation = 0) ∧
      -- (4) if names that start with a point are passed over, none is found, unless it is no text
      (config.skipHidden = true → ((∀ f ∈ files, ¬f.HiddenBelow dir) ↔
        ∀ f ∈ files, ∀ s, Component.name s ∈ f.componentsAfter dir → s.StartsWithPoint →
          s.isText = true))) := by
  have hordered : w.files.Ordered := hfiles ▸ MemoryFiles.ordered_ofUpdates updates
  have hne := Path.components_ne_nil_of_isAbsolute hdir
  refine ⟨fun n hn => walk_eq_enumerate config hordered hne hn,
    fun hstored => openModule_of_find?_ne hdir config hstored, fun hstored => ?_⟩
  obtain ⟨locations, hopen, hlists⟩ := openModule_of_find?_eq hordered hdir config hstored
  have hbytes := hlists.pairwise_bytes hne
  obtain ⟨files, hmem, horder, hmap⟩ := hlists
  have hstrip : List.Forall₂ (fun f l => f.stripPrefix? dir = some l) files locations := by
    rw [← List.forall₂_eq_eq_eq, List.forall₂_map_left_iff, List.forall₂_map_right_iff] at hmap
    exact hmap
  refine ⟨_, files, locations, hopen, hmem, ?_, ?_, hbytes, ?_, ?_, ?_, fun hskip => ?_⟩
  · exact horder.imp fun hlt heq => absurd hlt (by simp [heq])
  · exact hstrip.imp fun _ _ h => ⟨h, Path.components_stripPrefix? h⟩
  · rw [← (w.listsUnits_opened dir config locations).length_memberUnits, memberUnits_opened,
      List.length_map]
  · rw [memberUnits_opened, List.map_map]
    rfl
  · rw [memberUnits_opened]
    intro v hv
    obtain ⟨l, -, rfl⟩ := List.mem_map.1 hv
    exact ⟨rfl, rfl⟩
  · constructor
    · intro h f hf s hs hpoint
      exact absurd ⟨s, hs, hpoint⟩ (h f hf)
    · rintro h f hf ⟨s, hs, hpoint⟩
      exact ((hmem f).1 hf).2.visible hskip s hs (h f hf s hs hpoint) hpoint

/-- Two files of a directory: one has a name that begins with the name of the directory in which the
other one is. -/
def siblings : Workspace :=
  { empty MemoryFiles.empty.toFileSystem with
    files := .ofUpdates [.write ⟨"/m/lib.lift"⟩ "b", .write ⟨"/m//lib/a.lift"⟩ "a"] }

/-- No other files are stored there. -/
lemma eq_of_storesFile_siblings {f : Path} (h : siblings.files.StoresFile f) :
    f = ⟨"/m//lib/a.lift"⟩ ∨ f = ⟨"/m/lib.lift"⟩ := by
  obtain ⟨text, htext⟩ := h
  have hstored : siblings.files.entries.filter (!·.2.isDir) =
      [(⟨"/m//lib/a.lift"⟩, .file "a"), (⟨"/m/lib.lift"⟩, .file "b")] := by decide +kernel
  have hmem : (f, .file text) ∈ siblings.files.entries.filter (!·.2.isDir) :=
    List.mem_filter.2 ⟨htext, rfl⟩
  rw [hstored, List.mem_pair, Prod.mk.injEq, Prod.mk.injEq] at hmem
  exact hmem.imp And.left And.left

/-- A directory comes before a file whose name begins with that of the directory. -/
theorem openModule_exact_siblings : ∃ w' files,
    siblings.openModule .memory ⟨"/m/."⟩ .standard = .ok w' ∧
    (∀ f, f ∈ files ↔
      siblings.files.StoresFile f ∧ IsUnitFile siblings.files .standard ⟨"/m/."⟩ f) ∧
    files = [⟨"/m//lib/a.lift"⟩, ⟨"/m/lib.lift"⟩] ∧
    (w'.memberUnits siblings.nextModule).map (·.location) =
      [some ⟨"lib/a.lift"⟩, some ⟨"lib.lift"⟩] := by
  have hdir : (⟨"/m/."⟩ : Path).isAbsolute = true := by decide +kernel
  have hopened : siblings.openModule .memory ⟨"/m/."⟩ .standard =
      .ok (siblings.opened ⟨"/m/."⟩ .standard [⟨"lib/a.lift"⟩, ⟨"lib.lift"⟩]) :=
    openModule_of_walkAsListed (MemoryFiles.ordered_ofUpdates _) hdir (by decide +kernel)
  obtain ⟨-, -, hopen⟩ := openModule_exact siblings rfl hdir .standard
  obtain ⟨w', files, locations, hw', hfiles, -, hstrip, -, -, hlocations, -⟩ :=
    hopen (by decide +kernel)
  obtain rfl := Except.ok.inj (hw'.symm.trans hopened)
  rw [memberUnits_opened, List.map_map] at hlocations
  obtain rfl : locations = [⟨"lib/a.lift"⟩, ⟨"lib.lift"⟩] :=
    (List.map_inj_right fun _ _ => Option.some.inj).1 hlocations.symm
  refine ⟨_, files, hw', hfiles, ?_, by rw [memberUnits_opened]; rfl⟩
  -- the two files are told apart by what is left of them below the directory
  obtain ⟨f, fs, hf, hrest, rfl⟩ := List.forall₂_cons_right_iff.1 hstrip
  obtain ⟨g, gs, hg, hnil, rfl⟩ := List.forall₂_cons_right_iff.1 hrest
  obtain rfl := List.forall₂_nil_right_iff.1 hnil
  have hmem (h : Path) (hh : h ∈ [f, g]) := eq_of_storesFile_siblings ((hfiles h).1 hh).1
  rcases hmem f (by simp) with rfl | rfl
  · rcases hmem g (by simp) with rfl | rfl
    · exact absurd hg.1 (by decide +kernel)
    · rfl
  · exact absurd hf.1 (by decide +kernel)

/-- A name that starts with a point and goes on with a byte that is in no text. -/
def brokenName : OsText := ⟨point :: 0xff :: utf8Bytes ".lift".toList⟩

/-- A file of that name. -/
def brokenFile : Workspace :=
  { empty MemoryFiles.empty.toFileSystem with
    files := .ofUpdates [.write ((⟨"/m"⟩ : Path).join ⟨brokenName⟩) ""] }

/-- The file becomes a unit, although names that start with a point are passed over. -/
theorem exists_hiddenBelow_of_openModule : Config.standard.skipHidden = true ∧
    ∃ w', brokenFile.openModule .memory ⟨"/m"⟩ .standard = .ok w' ∧
      (w'.memberUnits brokenFile.nextModule).map (·.location) = [some ⟨brokenName⟩] ∧
      ∃ f, brokenFile.files.StoresFile f ∧ f.stripPrefix? ⟨"/m"⟩ = some ⟨brokenName⟩ ∧
        f.HiddenBelow ⟨"/m"⟩ := by
  have hopened : brokenFile.openModule .memory ⟨"/m"⟩ .standard =
      .ok (brokenFile.opened ⟨"/m"⟩ .standard [⟨brokenName⟩]) :=
    openModule_of_walkAsListed (MemoryFiles.ordered_ofUpdates _) (by decide +kernel)
      (by decide +kernel)
  refine ⟨rfl, _, hopened, by rw [memberUnits_opened]; rfl, (⟨"/m"⟩ : Path).join ⟨brokenName⟩,
    ⟨"", by decide +kernel⟩, by decide +kernel, brokenName, by decide +kernel, rfl⟩

end Workspace

end LexicalFront
