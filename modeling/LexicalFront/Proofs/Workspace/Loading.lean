import LexicalFront.Proofs.CompilationUnit
import LexicalFront.Proofs.Workspace.Opening
set_option autoImplicit false
set_option relaxedAutoImplicit false

/-!
# Loading what was opened

A unit is loaded from the file at its location below the directory of its module. When a directory
is opened, the locations are what is left of stored paths; going down again by them leads to the
same files, however the directory and the stored paths are spelled.

## Main definitions

* `Workspace.textOf?` — the text that a unit would be loaded with.
* `Workspace.loaded` — what loading makes of a unit.

## Main results

* `Workspace.loadUnits_of_texts` — loading units whose files can all be read.
* `Workspace.loadAll_openModule` — what was opened can be loaded.
-/

namespace LexicalFront

/-- Stored files have texts. -/
lemma MemoryFiles.exists_texts {fs : MemoryFiles} {paths : List Path}
    (h : ∀ f ∈ paths, fs.StoresFile f) :
    ∃ files : List (Path × String), files.map (·.1) = paths ∧
      ∀ f ∈ files, (f.1, .file f.2) ∈ fs.entries := by
  induction paths with
  | nil => exact ⟨[], rfl, nofun⟩
  | cons p paths ih =>
    obtain ⟨text, htext⟩ := h p List.mem_cons_self
    obtain ⟨files, hfiles, hstores⟩ := ih fun f hf => h f (List.mem_cons_of_mem p hf)
    exact ⟨(p, text) :: files, by rw [List.map_cons, hfiles],
      List.forall_mem_cons.2 ⟨htext, hstores⟩⟩

namespace Workspace

variable {w : Workspace} {u : UnitId} {text : String}

/-! ## The text of a file -/

/-- The text in the file of a unit, if there is one and it can be read. -/
def textOf? (w : Workspace) (u : UnitId) : Option String :=
  (w.sourceOf? u).bind fun file => ((w.fileSystem file.1).read file.2).toOption

/-- What loading makes of the state of a unit. -/
def loaded (w : Workspace) (u : UnitId) (v : CompilationUnit) : CompilationUnit :=
  (w.textOf? u).elim v fun text => (v.replace text).1

/-- Whether loading changes the text of a unit. -/
def changesOnLoad (w : Workspace) (u : UnitId) : Bool :=
  (w.unit? u).any fun v => (w.textOf? u).any fun text => (v.replace text).2

/-- A unit whose file can be read is loaded with the text of the file. -/
lemma load_of_textOf? (h : w.textOf? u = some text) :
    w.load u = ((w.replace u text).1, .ok (w.replace u text).2) := by
  obtain ⟨⟨source, path⟩, hsource, hread⟩ := Option.bind_eq_some_iff.1 h
  simp only [load, hsource]
  cases hresult : (w.fileSystem source).read path with
  | error e =>
    rw [hresult] at hread
    cases hread
  | ok text' =>
    rw [hresult] at hread
    cases hread
    rfl

/-- Installing a text in a unit leaves the files of all units in their places. -/
lemma sourceOf?_replace (w : Workspace) (u : UnitId) (text : String) (x : UnitId) :
    (w.replace u text).1.sourceOf? x = w.sourceOf? x := by
  have hunit : (w.replace u text).1.unit? x =
      if u = x then (w.unit? x).map fun v => (v.replace text).1 else w.unit? x :=
    w.unit?_modifyUnit u x _
  have hmodule (m : ModuleId) : (w.replace u text).1.module? m = w.module? m := rfl
  simp only [sourceOf?, ownerOf?, hunit, hmodule]
  split
  · cases w.unit? x with
    | none => rfl
    | some v =>
      obtain ⟨howner, hlocation, hretired⟩ := v.place_replace text
      simp [howner, hlocation, hretired]
  · rfl

/-- Installing a text in a unit leaves the texts of all files alone. -/
lemma textOf?_replace (w : Workspace) (u : UnitId) (text : String) (x : UnitId) :
    (w.replace u text).1.textOf? x = w.textOf? x := by
  rw [textOf?, sourceOf?_replace]
  rfl

/-! ## Loading many units -/

/-- Where all files can be read, all units are loaded with the texts of their files, and those are
counted whose text changes.

**Proof sketch.** By induction on the units. Loading the first one changes neither the files nor the
other units. -/
theorem loadUnits_of_texts {us : List UnitId} (hus : us.Nodup)
    (h : ∀ x ∈ us, (w.textOf? x).isSome = true) :
    (w.loadUnits us).2 = .ok (us.countP w.changesOnLoad) ∧
      ∀ x, (w.loadUnits us).1.unit? x =
        if x ∈ us then (w.unit? x).map (w.loaded x) else w.unit? x := by
  induction us generalizing w with
  | nil => exact ⟨rfl, fun x => by rw [if_neg List.not_mem_nil]; rfl⟩
  | cons u us ih =>
    obtain ⟨hu, hus⟩ := List.nodup_cons.1 hus
    obtain ⟨text, htext⟩ := Option.isSome_iff_exists.1 (h u List.mem_cons_self)
    have hload := load_of_textOf? htext
    have hunit (x : UnitId) : (w.replace u text).1.unit? x =
        if u = x then (w.unit? x).map fun v => (v.replace text).1 else w.unit? x :=
      w.unit?_modifyUnit u x _
    have hchanges (x : UnitId) (hx : x ∈ us) :
        (w.replace u text).1.changesOnLoad x = w.changesOnLoad x := by
      have hne : u ≠ x := fun heq => hu (heq ▸ hx)
      rw [changesOnLoad, textOf?_replace, hunit, if_neg hne]
      rfl
    have htexts (x : UnitId) (hx : x ∈ us) : ((w.replace u text).1.textOf? x).isSome = true := by
      rw [textOf?_replace]
      exact h x (List.mem_cons_of_mem u hx)
    obtain ⟨hcount, hrest⟩ := ih hus htexts
    have hfirst : w.changesOnLoad u = (w.replace u text).2 := by
      rw [changesOnLoad, htext]
      rfl
    refine ⟨?_, fun x => ?_⟩
    · simp only [loadUnits, hload, hcount]
      rw [List.countP_cons, hfirst, List.countP_congr fun x hx => by rw [hchanges x hx]]
      exact congrArg Except.ok (Nat.add_comm _ _)
    · simp only [loadUnits, hload]
      rw [hrest, hunit]
      have hloaded : (w.replace u text).1.loaded x = w.loaded x := by
        funext v
        rw [loaded, textOf?_replace]
        rfl
      by_cases hux : u = x
      · subst hux
        rw [if_neg hu, if_pos rfl, if_pos List.mem_cons_self]
        congr 1
        funext v
        rw [loaded, htext]
        rfl
      · rw [if_neg hux, hloaded]
        simp [Ne.symm hux]

/-- A unit without a location has no file. -/
lemma textOf?_of_isFileBacked_eq_false (h : w.isFileBacked u = false) : w.textOf? u = none := by
  rw [textOf?, sourceOf?]
  cases hunit : w.unit? u with
  | none => rfl
  | some v =>
    have hlocation : v.location = none := by simpa [isFileBacked, hunit] using h
    simp [hlocation]

/-- Where the files of all units of a module that have a location can be read, these are loaded with
the texts of their files, and the other units stay as they are.

**Proof sketch.** The units of a module that have a location are loaded one by one
(`loadUnits_of_texts`). The others have no file, so that `loaded` keeps them and they count for
nothing; the two lists can therefore be taken over all units. -/
theorem loadAll_of_texts {m : ModuleId} (hnodup : (w.members m).Nodup)
    (h : ∀ x ∈ w.members m, w.isFileBacked x = true → (w.textOf? x).isSome = true) :
    (w.loadAll m).2 = .ok ((w.members m).countP w.changesOnLoad) ∧
      (w.loadAll m).1.memberUnits m =
        (w.members m).filterMap fun x => (w.unit? x).map (w.loaded x) := by
  obtain ⟨hcount, hloaded⟩ := loadUnits_of_texts (hnodup.filter w.isFileBacked) fun x hx =>
    h x (List.mem_filter.1 hx).1 (List.mem_filter.1 hx).2
  have hmembers : (w.loadAll m).1.members m = w.members m := w.members_loadUnits _ m
  constructor
  · rw [loadAll, hcount, List.countP_filter]
    refine congrArg Except.ok (List.countP_congr fun x _ => ?_)
    by_cases hbacked : w.isFileBacked x = true
    · simp [hbacked]
    · rw [Bool.not_eq_true] at hbacked
      cases hunit : w.unit? x with
      | none => simp [changesOnLoad, hunit]
      | some v => simp [changesOnLoad, textOf?_of_isFileBacked_eq_false hbacked]
  · rw [memberUnits, hmembers]
    apply List.filterMap_congr
    intro x hx
    rw [loadAll, hloaded]
    by_cases hbacked : w.isFileBacked x = true
    · rw [if_pos (List.mem_filter.2 ⟨hx, hbacked⟩)]
    · rw [if_neg fun hmem => hbacked (List.mem_filter.1 hmem).2]
      rw [Bool.not_eq_true] at hbacked
      have hsame (v : CompilationUnit) : w.loaded x v = v := by
        rw [loaded, textOf?_of_isFileBacked_eq_false hbacked]
        rfl
      cases w.unit? x with
      | none => rfl
      | some v => rw [Option.map_some, hsame]

/-! ## Loading what was opened -/

/-- Going down from a directory to what is left of a stored file leads to that file, whatever the
spellings are. -/
lemma read_join_stripPrefix? {fs : MemoryFiles} (hordered : fs.Ordered) {dir f l : Path}
    (hne : dir.components ≠ []) (hmem : (f, .file text) ∈ fs.entries)
    (hl : f.stripPrefix? dir = some l) : fs.read (dir.join l) = .ok text := by
  apply MemoryFiles.read_eq_ok
  rw [MemoryFiles.find?_congr (Path.components_join_stripPrefix? hne hl)]
  exact MemoryFiles.find?_of_mem hordered hmem

/-- New units leave the files alone. -/
lemma files_addUnits (w : Workspace) (m : ModuleId) (units : List (Option Path × Option String)) :
    (w.addUnits m units).files = w.files := by
  induction units generalizing w with
  | nil => rfl
  | cons u units ih => exact ih (w.addUnit m u.1 u.2)

/-- The state of a unit of a module that was opened. -/
lemma unit?_of_mem_members_opened {dir : Path} {config : Config} {locations : List Path}
    {x : UnitId} (hx : x ∈ (w.opened dir config locations).members w.nextModule) :
    ∃ l ∈ locations, (w.opened dir config locations).unit? x =
      some (.new w.nextModule (some l) none) := by
  have hsome := (w.listsUnits_opened dir config locations).isSome_unit? x hx
  obtain ⟨v, hv⟩ := Option.isSome_iff_exists.1 hsome
  have hmem : v ∈ (w.opened dir config locations).memberUnits w.nextModule :=
    List.mem_filterMap.2 ⟨x, hx, hv⟩
  rw [memberUnits_opened] at hmem
  obtain ⟨l, hl, rfl⟩ := List.mem_map.1 hmem
  exact ⟨l, hl, hv⟩

/-- A unit of a module that was opened has its file below the directory. -/
lemma sourceOf?_opened {dir : Path} {config : Config} {locations : List Path} {x : UnitId}
    {l : Path} (hx : (w.opened dir config locations).unit? x =
      some (.new w.nextModule (some l) none)) :
    (w.opened dir config locations).sourceOf? x = some (.memory, dir.join l) := by
  have hplace := (w.newModule (some dir) .memory config).place_addUnits w.nextModule
    (locations.map fun p => (some p, none)) w.nextModule
  rw [module?_newModule, if_pos rfl] at hplace
  obtain ⟨state, hstate, hplace⟩ := Option.map_eq_some_iff.1 hplace
  obtain ⟨hlocation, hsource⟩ := Prod.mk.inj hplace
  have hmodule : (w.opened dir config locations).module? w.nextModule = some state := hstate
  simp [sourceOf?, ownerOf?, hx, CompilationUnit.new, hmodule, hlocation, hsource]

/-- Where the files of all units of a module that was opened can be read, all are loaded with the
texts of these files.

**Proof sketch.** All units of the module are new and have a location, and the text of such a unit
is that of the file at the location. So `loadAll_of_texts` applies, each unit counts, and since the
loaded state depends on the location alone, the units can be listed by their locations. -/
lemma loadAll_opened {dir : Path} (config : Config) {locations : List Path}
    (h : ∀ l ∈ locations, ∃ text, w.files.read (dir.join l) = .ok text) :
    ((w.opened dir config locations).loadAll w.nextModule).2 =
        .ok ((w.opened dir config locations).members w.nextModule).length ∧
      ((w.opened dir config locations).loadAll w.nextModule).1.memberUnits w.nextModule =
        locations.map fun l =>
          .new w.nextModule (some l) (w.files.read (dir.join l)).toOption := by
  have hunits := w.memberUnits_opened dir config locations
  have hlists := w.listsUnits_opened dir config locations
  have hfiles : (w.opened dir config locations).files = w.files := files_addUnits _ _ _
  have htext (x : UnitId) (hx : x ∈ (w.opened dir config locations).members w.nextModule) :
      ∃ l text, (w.opened dir config locations).unit? x =
          some (.new w.nextModule (some l) none) ∧
        w.files.read (dir.join l) = .ok text ∧
        (w.opened dir config locations).textOf? x = some text := by
    obtain ⟨l, hl, hunit⟩ := unit?_of_mem_members_opened hx
    obtain ⟨text, hread⟩ := h l hl
    refine ⟨l, text, hunit, hread, ?_⟩
    rw [textOf?, sourceOf?_opened hunit, Option.bind_some, fileSystem, hfiles]
    simp [MemoryFiles.toFileSystem, hread, Except.toOption]
  generalize w.opened dir config locations = w' at hunits hlists htext ⊢
  obtain ⟨hcount, hloaded⟩ := loadAll_of_texts hlists.nodup fun x hx _ => by
    obtain ⟨l, text, -, -, htext⟩ := htext x hx
    rw [htext]
    rfl
  constructor
  · rw [hcount]
    refine congrArg Except.ok (List.countP_eq_length.2 fun x hx => ?_)
    obtain ⟨l, text, hunit, -, htext⟩ := htext x hx
    rw [changesOnLoad, hunit, htext]
    rfl
  · -- the text depends on the location alone
    let read (v : CompilationUnit) : CompilationUnit :=
      { v with
        representation := v.location.bind fun l => (w.files.read (dir.join l)).toOption }
    have hread : (w'.members w.nextModule).filterMap (fun x => (w'.unit? x).map (w'.loaded x)) =
        (w'.members w.nextModule).filterMap fun x => (w'.unit? x).map read := by
      apply List.filterMap_congr
      intro x hx
      obtain ⟨l, text, hunit, hread, htext⟩ := htext x hx
      rw [hunit, Option.map_some, Option.map_some, loaded, htext]
      simp [read, CompilationUnit.replace, CompilationUnit.new, hread, Except.toOption]
    rw [hloaded, hread, ← List.map_filterMap, ← memberUnits, hunits, List.map_map]
    rfl

/-- Where each location is what is left of the path of a file that can be read by going down again,
the texts are those of these files.

**Proof sketch.** Each location is that of a file of the list, which can be read, so that
`loadAll_opened` applies. Then the list of the locations is replaced by that of the files they are
stripped from. -/
lemma loadAll_opened_of_files {dir : Path} (config : Config) {locations : List Path}
    {files : List (Path × String)}
    (hmap : files.map (fun f => f.1.stripPrefix? dir) = locations.map some)
    (hread : ∀ f ∈ files, ∀ l, f.1.stripPrefix? dir = some l →
      w.files.read (dir.join l) = .ok f.2) :
    ((w.opened dir config locations).loadAll w.nextModule).2 =
        .ok ((w.opened dir config locations).members w.nextModule).length ∧
      ((w.opened dir config locations).loadAll w.nextModule).1.memberUnits w.nextModule =
        files.map fun f => .new w.nextModule (f.1.stripPrefix? dir) (some f.2) := by
  have hreadable (l : Path) (hl : l ∈ locations) :
      ∃ text, w.files.read (dir.join l) = .ok text := by
    have hmem : some l ∈ locations.map some := List.mem_map_of_mem hl
    rw [← hmap] at hmem
    obtain ⟨f, hf, hstrip⟩ := List.mem_map.1 hmem
    exact ⟨f.2, hread f hf l hstrip⟩
  obtain ⟨hcount, hloaded⟩ := loadAll_opened config hreadable
  refine ⟨hcount, hloaded.trans ?_⟩
  let unit (l : Option Path) : CompilationUnit :=
    .new w.nextModule l (l.bind fun l => (w.files.read (dir.join l)).toOption)
  calc locations.map (fun l => .new w.nextModule (some l) (w.files.read (dir.join l)).toOption)
    _ = (locations.map some).map unit := (List.map_map (g := unit)).symm
    _ = files.map fun f => unit (f.1.stripPrefix? dir) := by rw [← hmap, List.map_map]; rfl
    _ = files.map fun f => .new w.nextModule (f.1.stripPrefix? dir) (some f.2) := by
      apply List.map_congr_left
      intro f hf
      have hmem : f.1.stripPrefix? dir ∈ locations.map some := hmap ▸ List.mem_map_of_mem hf
      obtain ⟨l, -, hl⟩ := List.mem_map.1 hmem
      simp only [unit, ← hl, Option.bind_some, hread f hf l hl.symm]
      rfl

/-- What was opened can be loaded, however the directory is spelled: as long as the files stay as
they are, each unit is loaded with the text of the stored file that it was made for, and keeps its
first generation.

**Proof sketch.** The module was opened for the stored files that the configuration accepts.
Stripping the directory and going down from it again leads to the same node, however both are
spelled (`read_join_stripPrefix?`), so that each location can be read and gives the text of its
file. -/
theorem loadAll_openModule {w w' : Workspace} {updates : List MemoryFiles.Update}
    (hfiles : w.files = .ofUpdates updates) {dir : Path} {config : Config}
    (hopen : w.openModule .memory dir config = .ok w') :
    ∃ files : List (Path × String),
      -- (1) the units were made for these stored files, and had no text
      (∀ f ∈ files, (f.1, .file f.2) ∈ w.files.entries ∧ IsUnitFile w.files config dir f.1) ∧
      (w'.memberUnits w.nextModule).map (fun v => (v.location, v.representation)) =
        files.map (fun f => (f.1.stripPrefix? dir, none)) ∧
      -- (2) all of them are loaded, none is passed over
      (w'.members w.nextModule).length = files.length ∧
      (w'.loadAll w.nextModule).2 = .ok (w'.members w.nextModule).length ∧
      -- (3) each has the text of its file, and is at the first generation
      ((w'.loadAll w.nextModule).1.memberUnits w.nextModule).map
          (fun v => (v.location, v.representation, v.generation)) =
        files.map (fun f => (f.1.stripPrefix? dir, some f.2, 0)) := by
  have hordered : w.files.Ordered := hfiles ▸ MemoryFiles.ordered_ofUpdates updates
  obtain ⟨hdir, locations, rfl, paths, hpaths, -, hmap⟩ := openModule_memory_eq_ok hordered hopen
  have hne := Path.components_ne_nil_of_isAbsolute hdir
  obtain ⟨files, rfl, hstores⟩ := MemoryFiles.exists_texts fun f hf => ((hpaths f).1 hf).1
  rw [List.map_map] at hmap
  have hunits := w.memberUnits_opened dir config locations
  have hlength := (w.listsUnits_opened dir config locations).length_memberUnits
  obtain ⟨hcount, hloaded⟩ := loadAll_opened_of_files config hmap fun f hf l hstrip =>
    read_join_stripPrefix? hordered hne (hstores f hf) hstrip
  refine ⟨files, fun f hf => ?_, ?_, ?_, hcount, ?_⟩
  · exact ⟨hstores f hf, ((hpaths f.1).1 (List.mem_map_of_mem hf)).2⟩
  · have hpairs := congrArg (List.map fun l => (l, (none : Option String))) hmap
    rw [List.map_map, List.map_map] at hpairs
    rw [hunits, List.map_map]
    exact hpairs.symm
  · have hfiles : locations.length = files.length := by
      simpa using congrArg List.length hmap.symm
    rw [← hlength, hunits, List.length_map, hfiles]
  · rw [hloaded, List.map_map]
    rfl

/-- A file below a directory whose path goes up and down again, both spelled with needless slashes
and points. -/
def detour : Workspace :=
  { empty MemoryFiles.empty.toFileSystem with
    files := .ofUpdates [.write ⟨"/a//..//m/lib/./a.lift"⟩ "a"] }

/-- The file is found and read under another spelling of the directory. -/
theorem loadAll_openModule_detour : ∃ w',
    detour.openModule .memory ⟨"/a/../m//./"⟩ .standard = .ok w' ∧
    (w'.loadAll 0).2 = .ok 1 ∧
    ((w'.loadAll 0).1.memberUnits 0).map (fun v => (v.location, v.representation, v.generation)) =
      [(some ⟨"lib/./a.lift"⟩, some "a", 0)] := by
  have hopened : detour.openModule .memory ⟨"/a/../m//./"⟩ .standard =
      .ok (detour.opened ⟨"/a/../m//./"⟩ .standard [⟨"lib/./a.lift"⟩]) :=
    openModule_of_walkAsListed (MemoryFiles.ordered_ofUpdates _) (by decide +kernel)
      (by decide +kernel)
  have hstored : detour.files.entries.filter (!·.2.isDir) =
      [(⟨"/a//..//m/lib/./a.lift"⟩, .file "a")] := by decide +kernel
  have hstrip : (⟨"/a//..//m/lib/./a.lift"⟩ : Path).stripPrefix? ⟨"/a/../m//./"⟩ =
      some ⟨"lib/./a.lift"⟩ := by decide +kernel
  obtain ⟨files, hfiles, hunits, hlength, hcount, hloaded⟩ := loadAll_openModule rfl hopened
  rw [memberUnits_opened] at hunits
  have hone : files.length = 1 := by simpa using (congrArg List.length hunits).symm
  obtain ⟨⟨p, text⟩, rfl⟩ := List.length_eq_one_iff.1 hone
  have hf : (p, .file text) ∈ detour.files.entries.filter (!·.2.isDir) :=
    List.mem_filter.2 ⟨(hfiles _ List.mem_cons_self).1, rfl⟩
  rw [hstored] at hf
  cases List.mem_singleton.1 hf
  rw [hlength] at hcount
  refine ⟨_, hopened, hcount, hloaded.trans ?_⟩
  rw [List.map_singleton, hstrip]

end Workspace

end LexicalFront
