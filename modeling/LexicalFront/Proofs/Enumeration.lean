import LexicalFront.Enumeration
import LexicalFront.Proofs.Files.Memory
import LexicalFront.Proofs.Text.Ascii
import LexicalFront.Proofs.Text.OsText
set_option autoImplicit false
set_option relaxedAutoImplicit false

/-!
# What a walk finds

A walk goes from directory to directory, and decides at each entry by its name alone. What it finds
can be said without it: which stored files below the directory become units depends on the
components between the two and on what is stored on the way.

## Main definitions

* `LexicalFront.Path.StrictlyBelow`, `LexicalFront.Path.componentsAfter` — below a directory.
* `LexicalFront.IsUnitFile` — which paths below a directory become units; `Config.Admits` and
  `MemoryFiles.DirsBetween` are the parts of it that go from one component to the next.
* `LexicalFront.Path.HiddenBelow` — below a directory a name starts with a point.
* `LexicalFront.Lists` — locations that belong, one by one and in order, to the paths with a
  property.

## Main results

* `LexicalFront.walk_eq_walkAsListed` — in memory nothing has to be sorted.
* `LexicalFront.walk_lists` — a walk finds the stored files that become units, in order.
* `LexicalFront.enumerate_lists` — the bound on the nesting of directories is never reached.
* `LexicalFront.enumerate_eq_error` — only the directory itself can be missing.
-/

namespace LexicalFront

/-! ## Below a directory -/

/-- The name that a component is, if it is one. -/
def Component.name? : Component → Option OsText
  | name s => some s
  | _ => none

/-- A component that has a name is that name. -/
lemma Component.name?_eq_some_iff {c : Component} {s : OsText} :
    c.name? = some s ↔ c = .name s := by
  cases c with
  | root | here | up => simp [name?]
  | name t => simp [name?]

namespace Path

/-- A path strictly below another one begins with its components, and has more of them. -/
def StrictlyBelow (f dir : Path) : Prop :=
  dir.components <+: f.components ∧ f.components ≠ dir.components

/-- The components of a path after as many as another one has. -/
def componentsAfter (f dir : Path) : List Component := f.components.drop dir.components.length

/-- The components after a directory that the path begins with. -/
lemma componentsAfter_eq {f dir : Path} {cs : List Component}
    (h : f.components = dir.components ++ cs) : f.componentsAfter dir = cs := by
  rw [componentsAfter, h, List.drop_left]

/-- What is strictly below a directory has a first component after it. -/
lemma StrictlyBelow.exists_components_eq {f dir : Path} (h : f.StrictlyBelow dir) :
    ∃ c cs, f.components = dir.components ++ c :: cs := by
  obtain ⟨⟨cs, hcs⟩, hne⟩ := h
  cases cs with
  | nil => exact absurd (by rw [← hcs, List.append_nil]) hne
  | cons c cs => exact ⟨c, cs, hcs.symm⟩

/-- Going on below a directory by a component leads strictly below it. -/
lemma strictlyBelow_of_components_eq {f dir : Path} {c : Component} {cs : List Component}
    (h : f.components = dir.components ++ c :: cs) : f.StrictlyBelow dir :=
  ⟨h ▸ List.prefix_append _ _, by simp [h]⟩

/-- The last component of a path with one component more than another one. -/
lemma fileName?_of_components_eq {p : Path} {cs : List Component} {c : Component}
    (h : p.components = cs ++ [c]) : p.fileName? = c.name? := by
  rw [fileName?, h, List.getLast?_concat]
  cases c <;> rfl

end Path

/-- The name starts with a point. -/
def OsText.StartsWithPoint (t : OsText) : Prop := t.bytes.head? = some point

instance (t : OsText) : Decidable t.StartsWithPoint := inferInstanceAs (Decidable (_ = _))

/-- A component of the path below a directory is a name that starts with a point. -/
def Path.HiddenBelow (f dir : Path) : Prop :=
  ∃ s, Component.name s ∈ f.componentsAfter dir ∧ s.StartsWithPoint

/-- A path below a directory that becomes a unit, if a file is stored there. -/
structure IsUnitFile (fs : MemoryFiles) (config : Config) (dir f : Path) : Prop where
  /-- It lies strictly below the directory. -/
  below : f.StrictlyBelow dir
  /-- Every path strictly between the two is stored as a directory. -/
  between : ∀ q : Path, q.StrictlyBelow dir → f.StrictlyBelow q → fs.find? q = some .dir
  /-- It does not go up again below the directory. -/
  up_notMem : Component.up ∉ f.componentsAfter dir
  /-- No component below the directory that is a text starts with a point, if such names are passed
  over. -/
  visible : config.skipHidden = true →
    ∀ s, Component.name s ∈ f.componentsAfter dir → s.isText = true → ¬s.StartsWithPoint
  /-- The directories in between have names that are looked into. -/
  looked : ∀ s ∈ config.ignoredDirs, Component.name s ∉ (f.componentsAfter dir).dropLast
  /-- There are no directories in between, if none are looked into. -/
  flat : config.recursive = false → (f.componentsAfter dir).dropLast = []
  /-- The last name has the extension. -/
  extension : f.extension? = some (config.extension : OsText)

/-- The bytes of a text start with a point if its characters do. -/
lemma OsText.startsWithPoint_ofText_iff {s : String} :
    (ofText s).StartsWithPoint ↔ s.toList.head? = some '.' := by
  have hpoint : utf8Bytes ['.'] = [point] := by decide
  have hhead {α : Type} (a : α) (as : List α) : as.head? = some a ↔ [a] <+: as := by
    cases as <;> simp [eq_comm]
  rw [StartsWithPoint, ofText, hhead, hhead, ← hpoint]
  exact utf8Bytes_isPrefix_iff (by simp [IsAscii]) _

/-- Names that are texts are passed over if they start with a point and such names are. -/
lemma Config.skipsName_eq_false_iff {config : Config} {s : OsText} :
    config.skipsName s = false ↔
      (config.skipHidden = true → s.isText = true → ¬s.StartsWithPoint) := by
  cases htext : s.text? with
  | none => simp [skipsName, OsText.isText, htext]
  | some text =>
    obtain rfl := OsText.text?_eq_some_iff.1 htext
    simp [skipsName, OsText.startsWithPoint_ofText_iff]

/-- Directories are looked into if any are, and their name is not excluded. -/
lemma Config.descendsInto_iff {config : Config} {s : OsText} :
    config.descendsInto s = true ↔
      config.recursive = true ∧ ∀ t ∈ config.ignoredDirs, s ≠ (t : OsText) := by
  simp [descendsInto]

/-- An entry without a name, or with a name that is passed over, is left alone. -/
lemma Config.use_eq_none {config : Config} {entry : DirEntry}
    (h : ∀ s, entry.path.fileName? = some s → config.skipsName s = true) :
    config.use entry = .none := by
  rw [use]
  cases hname : entry.path.fileName? with
  | none => rfl
  | some s => exact if_pos (h s hname)

/-- A directory with another name is looked into or left alone. -/
lemma Config.use_dir {config : Config} {p : Path} {s : OsText} (hname : p.fileName? = some s)
    (hskips : config.skipsName s = false) :
    config.use ⟨p, true⟩ = if config.descendsInto s = true then .enter else .none := by
  simp [use, hname, hskips]

/-- A file with another name is taken or left alone. -/
lemma Config.use_file {config : Config} {p : Path} {s : OsText} (hname : p.fileName? = some s)
    (hskips : config.skipsName s = false) :
    config.use ⟨p, false⟩ =
      if config.acceptsExtension p.extension? = true then .take else .none := by
  simp [use, hname, hskips]

/-- Components below a directory of a path that becomes a unit. -/
structure Config.Admits (config : Config) (cs : List Component) : Prop where
  up_notMem : Component.up ∉ cs
  visible : config.skipHidden = true →
    ∀ s, Component.name s ∈ cs → s.isText = true → ¬s.StartsWithPoint
  looked : ∀ s ∈ config.ignoredDirs, Component.name s ∉ cs.dropLast
  flat : config.recursive = false → cs.dropLast = []

section Admits

variable {config : Config} {c d : Component} {cs : List Component}

/-- A last component is admitted if it is a name that is not passed over. -/
lemma Config.admits_singleton_iff (hc : c = .up ∨ ∃ s, c = .name s) :
    config.Admits [c] ↔ ∃ s, c = .name s ∧ config.skipsName s = false := by
  constructor
  · intro h
    rcases hc with rfl | ⟨s, rfl⟩
    · exact absurd List.mem_cons_self h.up_notMem
    · exact ⟨s, rfl, skipsName_eq_false_iff.2 fun hskip => h.visible hskip s List.mem_cons_self⟩
  · rintro ⟨s, rfl, hskips⟩
    refine ⟨by simp, fun hskip t ht => ?_, by simp, by simp⟩
    rw [List.mem_singleton, Component.name.injEq] at ht
    exact ht ▸ skipsName_eq_false_iff.1 hskips hskip

/-- A component in between is admitted if it is a name that is not passed over, and such directories
are looked into.

**Proof sketch.** Each condition of `Admits` is about all components, or about all but the last one,
so that it splits into what it says of the first component and what it says of the others. That
there are others makes the first one a directory in between, which is why the configuration must be
recursive. -/
lemma Config.admits_cons_cons_iff (hc : c = .up ∨ ∃ s, c = .name s) :
    config.Admits (c :: d :: cs) ↔ ∃ s, c = .name s ∧ config.skipsName s = false ∧
      config.descendsInto s = true ∧ config.Admits (d :: cs) := by
  have hdropLast : (c :: d :: cs).dropLast = c :: (d :: cs).dropLast := List.dropLast_cons_cons
  constructor
  · intro h
    rcases hc with rfl | ⟨s, rfl⟩
    · exact absurd List.mem_cons_self h.up_notMem
    · have hrecursive : config.recursive = true := by
        by_contra hflat
        have hnil := h.flat (by simpa using hflat)
        simp [hdropLast] at hnil
      refine ⟨s, rfl, ?_, descendsInto_iff.2 ⟨hrecursive, fun t ht heq => ?_⟩, ?_⟩
      · exact skipsName_eq_false_iff.2 fun hskip => h.visible hskip s List.mem_cons_self
      · exact h.looked t ht (by simp [heq])
      · refine ⟨fun hup => ?_, fun hskip t ht => ?_, fun t ht hmem => ?_, by simp [hrecursive]⟩
        · exact h.up_notMem (List.mem_cons_of_mem _ hup)
        · exact h.visible hskip t (List.mem_cons_of_mem _ ht)
        · exact h.looked t ht (hdropLast ▸ List.mem_cons_of_mem _ hmem)
  · rintro ⟨s, rfl, hskips, hdescends, h⟩
    obtain ⟨hrecursive, hlooked⟩ := descendsInto_iff.1 hdescends
    refine ⟨?_, fun hskip t ht => ?_, fun t ht hmem => ?_, by simp [hrecursive]⟩
    · have hup := h.up_notMem
      simpa using hup
    · rw [List.mem_cons, Component.name.injEq] at ht
      rcases ht with rfl | ht
      · exact skipsName_eq_false_iff.1 hskips hskip
      · exact h.visible hskip t ht
    · rw [hdropLast, List.mem_cons] at hmem
      rcases hmem with heq | hmem
      · exact hlooked t ht (Component.name.inj heq).symm
      · exact h.looked t ht hmem

end Admits

section UnitFiles

variable {fs : MemoryFiles} {config : Config} {dir e f : Path} {c : Component}

/-- Every path strictly between two others is stored as a directory. -/
def MemoryFiles.DirsBetween (fs : MemoryFiles) (dir f : Path) : Prop :=
  ∀ q : Path, q.StrictlyBelow dir → f.StrictlyBelow q → fs.find? q = some .dir

/-- There is nothing between a directory and its entry. -/
lemma MemoryFiles.dirsBetween_entry (hf : f.components = dir.components ++ [c]) :
    fs.DirsBetween dir f := by
  intro q hq hfq
  obtain ⟨d, ds, hd⟩ := hq.exists_components_eq
  obtain ⟨d', ds', hd'⟩ := hfq.exists_components_eq
  rw [hf, hd] at hd'
  simp at hd'

/-- What is between a directory and a path below an entry is the entry itself, and what is between
the entry and the path. -/
lemma MemoryFiles.dirsBetween_below_iff (he : e.components = dir.components ++ [c])
    (hf : f.StrictlyBelow e) :
    fs.DirsBetween dir f ↔ fs.find? e = some .dir ∧ fs.DirsBetween e f := by
  constructor
  · intro h
    refine ⟨h e (Path.strictlyBelow_of_components_eq he) hf, fun q hq => h q ?_⟩
    obtain ⟨d, ds, hd⟩ := hq.exists_components_eq
    have hq : q.components = dir.components ++ c :: d :: ds := by
      rw [hd, he, List.append_assoc]
      rfl
    exact Path.strictlyBelow_of_components_eq hq
  · rintro ⟨hstored, h⟩ q hq hfq
    by_cases hqe : q.components = e.components
    · rw [find?_congr hqe, hstored]
    · apply h q _ hfq
      refine ⟨List.prefix_of_prefix_length_le hf.1 hfq.1 ?_, hqe⟩
      obtain ⟨d, ds, hd⟩ := hq.exists_components_eq
      simp [he, hd]

/-- The conditions on the components below the directory are taken together. -/
lemma isUnitFile_iff : IsUnitFile fs config dir f ↔ f.StrictlyBelow dir ∧ fs.DirsBetween dir f ∧
    config.Admits (f.componentsAfter dir) ∧ f.extension? = some (config.extension : OsText) :=
  ⟨fun h => ⟨h.below, h.between, ⟨h.up_notMem, h.visible, h.looked, h.flat⟩, h.extension⟩,
    fun ⟨hbelow, hbetween, h, hextension⟩ =>
      ⟨hbelow, hbetween, h.up_notMem, h.visible, h.looked, h.flat, hextension⟩⟩

/-- An entry of the directory becomes a unit if it has a name that is not passed over, and the
extension. -/
lemma isUnitFile_entry_iff (hne : dir.components ≠ [])
    (hf : f.components = dir.components ++ [c]) :
    IsUnitFile fs config dir f ↔
      ∃ s, c = .name s ∧ config.skipsName s = false ∧
        config.acceptsExtension f.extension? = true := by
  have hbelow : f.StrictlyBelow dir := Path.strictlyBelow_of_components_eq hf
  have hbetween : fs.DirsBetween dir f := MemoryFiles.dirsBetween_entry hf
  rw [isUnitFile_iff, Path.componentsAfter_eq hf,
    Config.admits_singleton_iff (Path.eq_up_or_name_of_components_eq hf hne),
    Config.acceptsExtension, beq_iff_eq]
  constructor
  · rintro ⟨-, -, ⟨s, hs, hskips⟩, hextension⟩
    exact ⟨s, hs, hskips, hextension⟩
  · rintro ⟨s, hs, hskips, hextension⟩
    exact ⟨hbelow, hbetween, ⟨s, hs, hskips⟩, hextension⟩

/-- What is below an entry of the directory becomes a unit if the entry is a directory that is
looked into, and if it becomes a unit of that directory. -/
lemma isUnitFile_below_iff (hne : dir.components ≠ [])
    (he : e.components = dir.components ++ [c]) (hf : f.StrictlyBelow e) :
    IsUnitFile fs config dir f ↔
      ∃ s, c = .name s ∧ config.skipsName s = false ∧ config.descendsInto s = true ∧
        fs.find? e = some .dir ∧ IsUnitFile fs config e f := by
  obtain ⟨d, ds, hd⟩ := hf.exists_components_eq
  have hdir : f.components = dir.components ++ c :: d :: ds := by
    rw [hd, he, List.append_assoc]
    rfl
  have hbelow : f.StrictlyBelow dir := Path.strictlyBelow_of_components_eq hdir
  rw [isUnitFile_iff, isUnitFile_iff, Path.componentsAfter_eq hdir, Path.componentsAfter_eq hd,
    MemoryFiles.dirsBetween_below_iff he hf,
    Config.admits_cons_cons_iff (Path.eq_up_or_name_of_components_eq he hne)]
  constructor
  · rintro ⟨-, ⟨hstored, hbetween⟩, ⟨s, hs, hskips, hdescends, hadmits⟩, hextension⟩
    exact ⟨s, hs, hskips, hdescends, hstored, hf, hbetween, hadmits, hextension⟩
  · rintro ⟨s, hs, hskips, hdescends, hstored, -, hbetween, hadmits, hextension⟩
    exact ⟨hbelow, ⟨hstored, hbetween⟩, ⟨s, hs, hskips, hdescends, hadmits⟩, hextension⟩

end UnitFiles

/-! ## Locations of files -/

/-- The locations, relative to a directory, of the paths with a property, in the order of the paths.
-/
def Lists (P : Path → Prop) (root : Path) (locations : List Path) : Prop :=
  ∃ files : List Path, (∀ f, f ∈ files ↔ P f) ∧
    files.Pairwise (fun f g => f.components < g.components) ∧
    files.map (·.stripPrefix? root) = locations.map some

section Locations

variable {P Q : Path → Prop} {root : Path} {locations locations' : List Path}

/-- No path has the property. -/
lemma Lists.nil (h : ∀ f, ¬P f) : Lists P root [] :=
  ⟨[], fun f => by simp [h f], List.Pairwise.nil, rfl⟩

/-- Only one path has the property. -/
lemma Lists.singleton {f location : Path} (hf : f.stripPrefix? root = some location)
    (h : ∀ g, P g ↔ g = f) : Lists P root [location] :=
  ⟨[f], fun g => by simp [h g], List.pairwise_singleton _ _, by simp [hf]⟩

/-- The paths with one property come before those with another one. -/
lemma Lists.append (hP : Lists P root locations) (hQ : Lists Q root locations')
    (hlt : ∀ f g, P f → Q g → f.components < g.components) :
    Lists (fun f => P f ∨ Q f) root (locations ++ locations') := by
  obtain ⟨fs, hfs, hfsOrder, hfsMap⟩ := hP
  obtain ⟨gs, hgs, hgsOrder, hgsMap⟩ := hQ
  refine ⟨fs ++ gs, fun f => ?_, ?_, ?_⟩
  · rw [List.mem_append, hfs, hgs]
  · refine List.pairwise_append.2 ⟨hfsOrder, hgsOrder, fun f hf g hg => ?_⟩
    exact hlt f g ((hfs f).1 hf) ((hgs g).1 hg)
  · rw [List.map_append, List.map_append, hfsMap, hgsMap]

/-- Only the property counts. -/
lemma Lists.congr (hP : Lists P root locations) (h : ∀ f, P f ↔ Q f) : Lists Q root locations := by
  obtain ⟨fs, hfs, horder, hmap⟩ := hP
  exact ⟨fs, fun f => (hfs f).trans (h f), horder, hmap⟩

/-- The property says which locations they are. -/
theorem Lists.unique (h : Lists P root locations) (h' : Lists P root locations') :
    locations = locations' := by
  obtain ⟨fs, hfs, horder, hmap⟩ := h
  obtain ⟨gs, hgs, horder', hmap'⟩ := h'
  have heq : fs = gs :=
    eq_of_mem_iff_of_pairwise_lt horder horder' fun f => by rw [hfs, hgs]
  rw [heq, hmap'] at hmap
  exact (List.map_inj_right fun _ _ => Option.some.inj).1 hmap.symm

/-- One by one, the entries of a directory contribute the paths below them, in the order of the
entries. -/
lemma mapM_lists {α : Type} {g : α → Except LexicalError (List Path)} {key : α → List Component}
    {R : α → Path → Prop} {n : Nat} {entries : List α}
    (hlength : ∀ e ∈ entries, (key e).length = n) (horder : entries.Pairwise (key · < key ·))
    (hg : ∀ e ∈ entries, ∃ locations, g e = .ok locations ∧ Lists (R e) root locations)
    (hR : ∀ e ∈ entries, ∀ f, R e f → key e <+: f.components) :
    ∃ parts, entries.mapM g = .ok parts ∧
      Lists (fun f => ∃ e ∈ entries, R e f) root parts.flatten := by
  induction entries with
  | nil => exact ⟨[], rfl, Lists.nil (by simp)⟩
  | cons e es ih =>
    obtain ⟨hfirst, horder⟩ := List.pairwise_cons.1 horder
    obtain ⟨part, hpart, hlist⟩ := hg e List.mem_cons_self
    obtain ⟨parts, hparts, hlists⟩ := ih (fun x hx => hlength x (List.mem_cons_of_mem e hx)) horder
      (fun x hx => hg x (List.mem_cons_of_mem e hx)) fun x hx => hR x (List.mem_cons_of_mem e hx)
    refine ⟨part :: parts, by rw [List.mapM_cons, hpart, hparts]; rfl, ?_⟩
    rw [List.flatten_cons]
    refine (hlist.append hlists ?_).congr (by simp)
    rintro f f' hf ⟨x, hx, hf'⟩
    refine lt_of_isPrefix_of_lt ?_ (hfirst x hx) (hR e List.mem_cons_self f hf)
      (hR x (List.mem_cons_of_mem e hx) f' hf')
    rw [hlength e List.mem_cons_self, hlength x (List.mem_cons_of_mem e hx)]

end Locations

/-! ## The walk -/

/-- The order of names agrees with that of components. -/
lemma nameLe_of_lt {c d : Component} (h : c < d) : nameLe c.name? d.name? = true := by
  cases c with
  | root | here | up => rfl
  | name s =>
    cases d with
    | root | here | up => simp [Component.lt_iff, Component.key, List.cons_lt_cons_iff] at h
    | name t =>
      have hts : ¬t.bytes < s.bytes := List.lt_asymm (Component.bytes_lt_iff.2 h)
      simp [nameLe, Component.name?, hts]

namespace MemoryFiles

/-- A file is stored under exactly this spelling. -/
def StoresFile (fs : MemoryFiles) (f : Path) : Prop := ∃ text, (f, .file text) ∈ fs.entries

/-- How many entries there are at a path and below it. -/
def countFrom (fs : MemoryFiles) (p : Path) : Nat :=
  (fs.entries.filter (·.1.startsWith p)).length

/-- At a stored path and below it there are more entries than below it. -/
lemma countFrom_lt {fs : MemoryFiles} {dir e : Path} {n : Node} (hfs : fs.Ordered)
    (hdir : fs.find? dir = some n) (he : e.StrictlyBelow dir) :
    fs.countFrom e < fs.countFrom dir := by
  obtain ⟨p, hmem, hp⟩ := (find?_eq_some_iff hfs).1 hdir
  have hsub : (fs.entries.filter (·.1.startsWith e)).Sublist
      (fs.entries.filter (·.1.startsWith dir)) := by
    apply List.monotone_filter_right
    intro x hx
    rw [Path.startsWith_iff] at hx ⊢
    exact he.1.trans hx
  refine lt_of_le_of_ne hsub.length_le fun hlength => ?_
  -- were there as many, the directory itself would be below the path
  have hin : (p, n) ∈ fs.entries.filter (·.1.startsWith dir) :=
    List.mem_filter.2 ⟨hmem, Path.startsWith_iff.2 (hp ▸ List.prefix_refl _)⟩
  rw [← hsub.eq_of_length hlength, List.mem_filter, Path.startsWith_iff, hp] at hin
  exact he.2 (hin.2.eq_of_length_le he.1.length_le)

end MemoryFiles

/-- The files at an entry of a directory and below it that become units of the directory. -/
def FoundThrough (fs : MemoryFiles) (config : Config) (dir entry f : Path) : Prop :=
  entry.components <+: f.components ∧ fs.StoresFile f ∧ IsUnitFile fs config dir f

section Walk

variable {fs : MemoryFiles} {config : Config} {root dir entry f : Path} {c : Component} {s : OsText}

/-- A stored file is stored under one path only. -/
lemma MemoryFiles.StoresFile.eq_of_mem (hfs : fs.Ordered) (hf : fs.StoresFile f) {n : Node}
    (hmem : (entry, n) ∈ fs.entries) (heq : f.components = entry.components) :
    ∃ text, n = .file text ∧ f = entry := by
  obtain ⟨text, htext⟩ := hf
  have heq := hfs.eq_of_components_eq htext hmem heq
  exact ⟨text, (congrArg Prod.snd heq).symm, congrArg Prod.fst heq⟩

/-- Nothing is found through an entry without a name, or with one that is passed over. -/
lemma FoundThrough.exists_name (hne : dir.components ≠ [])
    (he : entry.components = dir.components ++ [c]) (h : FoundThrough fs config dir entry f) :
    ∃ s, c = .name s ∧ config.skipsName s = false := by
  obtain ⟨hbegins, -, hunit⟩ := h
  by_cases hf : f.components = entry.components
  · obtain ⟨s, hs, hskips, -⟩ := (isUnitFile_entry_iff hne (hf.trans he)).1 hunit
    exact ⟨s, hs, hskips⟩
  · obtain ⟨s, hs, hskips, -⟩ := (isUnitFile_below_iff hne he ⟨hbegins, hf⟩).1 hunit
    exact ⟨s, hs, hskips⟩

/-- Through a directory that is looked into, the files are found that become units of it. -/
lemma foundThrough_dir_iff (hfs : fs.Ordered) (hne : dir.components ≠ [])
    (he : entry.components = dir.components ++ [.name s]) (hskips : config.skipsName s = false)
    (hmem : (entry, .dir) ∈ fs.entries) :
    FoundThrough fs config dir entry f ↔
      config.descendsInto s = true ∧ fs.StoresFile f ∧ IsUnitFile fs config entry f := by
  constructor
  · rintro ⟨hbegins, hf, hunit⟩
    by_cases heq : f.components = entry.components
    · obtain ⟨text, hdir, -⟩ := hf.eq_of_mem hfs hmem heq
      cases hdir
    · obtain ⟨t, ht, -, hdescends, -, hunit⟩ :=
        (isUnitFile_below_iff hne he ⟨hbegins, heq⟩).1 hunit
      cases ht
      exact ⟨hdescends, hf, hunit⟩
  · rintro ⟨hdescends, hf, hunit⟩
    have hstored := MemoryFiles.find?_of_mem hfs hmem
    exact ⟨hunit.below.1, hf, (isUnitFile_below_iff hne he hunit.below).2
      ⟨s, rfl, hskips, hdescends, hstored, hunit⟩⟩

/-- Through a file nothing is found but the file itself, if it has the extension: what is stored
below a file does not become a unit, as the file is in between. -/
lemma foundThrough_file_iff (hfs : fs.Ordered) (hne : dir.components ≠ [])
    (he : entry.components = dir.components ++ [.name s]) (hskips : config.skipsName s = false)
    {text : String} (hmem : (entry, .file text) ∈ fs.entries) :
    FoundThrough fs config dir entry f ↔
      config.acceptsExtension entry.extension? = true ∧ f = entry := by
  constructor
  · rintro ⟨hbegins, hf, hunit⟩
    by_cases heq : f.components = entry.components
    · obtain ⟨-, -, rfl⟩ := hf.eq_of_mem hfs hmem heq
      obtain ⟨-, -, -, haccepts⟩ := (isUnitFile_entry_iff hne he).1 hunit
      exact ⟨haccepts, rfl⟩
    · obtain ⟨-, -, -, -, hdir, -⟩ := (isUnitFile_below_iff hne he ⟨hbegins, heq⟩).1 hunit
      rw [MemoryFiles.find?_of_mem hfs hmem] at hdir
      cases hdir
  · rintro ⟨haccepts, rfl⟩
    exact ⟨List.prefix_refl _, ⟨text, hmem⟩,
      (isUnitFile_entry_iff hne he).2 ⟨s, rfl, hskips, haccepts⟩⟩

/-- An entry of a directory contributes the files that are found through it.

**Proof sketch.** If the entry is left alone, nothing is found through it. Otherwise it has a name
that is not passed over (`Config.use_dir`, `Config.use_file`): a directory that is looked into has
what the recursive call lists, by assumption, and a file that is taken is found, and it alone. -/
lemma visitEntry_lists (hfs : fs.Ordered) (hne : dir.components ≠ [])
    (hroot : root.components <+: dir.components) {n : Node} (hmem : (entry, n) ∈ fs.entries)
    (he : entry.components = dir.components ++ [c])
    {descend : Path → Except LexicalError (List Path)}
    (hdescend : n = .dir → ∃ locations, descend entry = .ok locations ∧
      Lists (fun f => fs.StoresFile f ∧ IsUnitFile fs config entry f) root locations) :
    ∃ locations, visitEntry config root descend ⟨entry, n.isDir⟩ = .ok locations ∧
      Lists (FoundThrough fs config dir entry) root locations := by
  have hname : entry.fileName? = c.name? := Path.fileName?_of_components_eq he
  by_cases hvisible : ∃ s, c = .name s ∧ config.skipsName s = false
  swap
  · have huse : config.use ⟨entry, n.isDir⟩ = .none := by
      refine config.use_eq_none fun s hs => ?_
      by_contra hskips
      have hc := Component.name?_eq_some_iff.1 (hname.symm.trans hs)
      exact hvisible ⟨s, hc, Bool.eq_false_iff.2 hskips⟩
    exact ⟨[], by rw [visitEntry, huse], Lists.nil fun f hf => hvisible (hf.exists_name hne he)⟩
  obtain ⟨s, rfl, hskips⟩ := hvisible
  cases n with
  | dir =>
    have hfound (f : Path) := foundThrough_dir_iff (f := f) hfs hne he hskips hmem
    rw [visitEntry, Node.isDir, config.use_dir hname hskips]
    by_cases hdescends : config.descendsInto s = true
    · obtain ⟨locations, hlocations, hlists⟩ := hdescend rfl
      refine ⟨locations, by rw [if_pos hdescends, hlocations], hlists.congr fun f => ?_⟩
      simp [hfound, hdescends]
    · rw [if_neg hdescends]
      exact ⟨[], rfl, Lists.nil fun f => by simp [hfound, hdescends]⟩
  | file text =>
    have hfound (f : Path) := foundThrough_file_iff (f := f) hfs hne he hskips hmem
    rw [visitEntry, Node.isDir, config.use_file hname hskips]
    by_cases haccepts : config.acceptsExtension entry.extension? = true
    · have hstarts : entry.startsWith root = true :=
        Path.startsWith_iff.2 (hroot.trans (he ▸ List.prefix_append _ _))
      have hstrip : entry.stripPrefix? root =
          some (entry.afterComponents root.components.length) := if_pos hstarts
      refine ⟨_, by rw [if_pos haccepts, hstrip]; rfl, Lists.singleton hstrip fun f => ?_⟩
      simp [hfound, haccepts]
    · rw [if_neg haccepts]
      exact ⟨[], rfl, Lists.nil fun f => by simp [hfound, haccepts]⟩

/-- What is found in a directory is found through one of its entries. -/
lemma exists_entry_of_isUnitFile (hfs : fs.Ordered) (hne : dir.components ≠ [])
    (hf : fs.StoresFile f) (hunit : IsUnitFile fs config dir f) :
    ∃ e ∈ fs.entriesIn dir, e.1.components <+: f.components := by
  obtain ⟨c, cs, hcs⟩ := hunit.below.exists_components_eq
  have hbegins : dir.components ++ [c] <+: f.components := ⟨cs, by simp [hcs]⟩
  obtain ⟨q, hq⟩ := Path.exists_components_eq hbegins (by simp)
  have hstored : ∃ n, fs.find? q = some n := by
    by_cases hqf : f.components = q.components
    · obtain ⟨text, htext⟩ := hf
      exact ⟨_, (MemoryFiles.find?_eq_some_iff hfs).2 ⟨f, htext, hqf⟩⟩
    · exact ⟨_, hunit.between q (Path.strictlyBelow_of_components_eq hq) ⟨hq ▸ hbegins, hqf⟩⟩
  obtain ⟨n, hn⟩ := hstored
  obtain ⟨e, hmem, he⟩ := MemoryFiles.exists_mem_entriesIn hfs hne hq hn
  exact ⟨(e, n), hmem, he ▸ hq ▸ hbegins⟩

/-- The entries of a directory are listed in the order of their names. -/
lemma sortByName_entriesIn (hfs : fs.Ordered) :
    sortByName ((fs.entriesIn dir).map fun e => ⟨e.1, e.2.isDir⟩) =
      (fs.entriesIn dir).map fun e => ⟨e.1, e.2.isDir⟩ := by
  apply List.mergeSort_of_pairwise
  rw [List.pairwise_map]
  refine (hfs.filter _).imp_of_mem fun {e f} he hf hlt => ?_
  obtain ⟨-, -, c, hc⟩ := MemoryFiles.mem_entriesIn.1 he
  obtain ⟨-, -, d, hd⟩ := MemoryFiles.mem_entriesIn.1 hf
  rw [Path.fileName?_of_components_eq hc, Path.fileName?_of_components_eq hd]
  rw [hc, hd, append_lt_append_iff] at hlt
  exact nameLe_of_lt (by simpa [List.cons_lt_cons_iff] using hlt)

/-- A walk that goes through the entries of each directory in the order in which they are listed. -/
def walkAsListed (fs : FileSystem) (config : Config) (root : Path) :
    Nat → Path → Except LexicalError (List Path)
  | 0, dir => .error (.ioFailure dir (.system .tooManyLinks))
  | depth + 1, dir =>
    match fs.list dir with
    | .error e => .error (.ioFailure dir e)
    | .ok entries =>
      (entries.mapM (visitEntry config root (walkAsListed fs config root depth))).map List.flatten

/-- In memory nothing has to be sorted. -/
theorem walk_eq_walkAsListed (config : Config) (root : Path) (hfs : fs.Ordered) (n : Nat)
    (dir : Path) : walk fs.toFileSystem config root n dir =
      walkAsListed fs.toFileSystem config root n dir := by
  induction n generalizing dir with
  | zero => rfl
  | succ n ih =>
    rw [walk, walkAsListed, funext ih]
    by_cases hdir : fs.find? dir = some .dir
    · simp only [MemoryFiles.toFileSystem, MemoryFiles.list_eq_ok hfs hdir]
      rw [sortByName_entriesIn hfs]
    · obtain ⟨e, he⟩ := MemoryFiles.list_eq_error hdir
      simp only [MemoryFiles.toFileSystem, he]

/-- A walk from a stored directory finds the stored files that become units, in order.

**Proof sketch.** By induction on the bound, which is not less than the number of entries at the
directory and below it. What a listing gives is in the order of paths, and so in that of names. Each
entry is within the next bound, for the directory itself is no longer counted. -/
theorem walk_lists (config : Config) (hfs : fs.Ordered) (hne : dir.components ≠ [])
    (hroot : root.components <+: dir.components) (hdir : fs.find? dir = some .dir) {n : Nat}
    (hn : fs.countFrom dir ≤ n) :
    ∃ locations, walk fs.toFileSystem config root n dir = .ok locations ∧
      Lists (fun f => fs.StoresFile f ∧ IsUnitFile fs config dir f) root locations := by
  induction n generalizing dir with
  | zero =>
    obtain ⟨p, hmem, hp⟩ := (MemoryFiles.find?_eq_some_iff hfs).1 hdir
    rw [Nat.le_zero, MemoryFiles.countFrom, List.length_eq_zero_iff, List.filter_eq_nil_iff] at hn
    exact absurd (Path.startsWith_iff.2 (hp ▸ List.prefix_refl _)) (hn _ hmem)
  | succ n ih =>
    have hvisit (e : Path × Node) (he : e ∈ fs.entriesIn dir) :
        ∃ locations, visitEntry config root (walk fs.toFileSystem config root n)
            ⟨e.1, e.2.isDir⟩ = .ok locations ∧
          Lists (FoundThrough fs config dir e.1) root locations := by
      obtain ⟨hmem, -, c, hc⟩ := MemoryFiles.mem_entriesIn.1 he
      refine visitEntry_lists hfs hne hroot hmem hc fun hn' => ih ?_ ?_ ?_ ?_
      · simp [hc]
      · exact hroot.trans (hc ▸ List.prefix_append _ _)
      · exact MemoryFiles.find?_of_mem hfs (hn' ▸ hmem)
      · have hlt := MemoryFiles.countFrom_lt hfs hdir (Path.strictlyBelow_of_components_eq hc)
        omega
    have hlength (e : Path × Node) (he : e ∈ fs.entriesIn dir) :
        e.1.components.length = dir.components.length + 1 := by
      obtain ⟨-, -, c, hc⟩ := MemoryFiles.mem_entriesIn.1 he
      simp [hc]
    obtain ⟨parts, hparts, hlists⟩ :=
      mapM_lists hlength (hfs.filter _) hvisit fun e _ f hf => hf.1
    refine ⟨parts.flatten, ?_, hlists.congr fun f => ?_⟩
    · rw [walk_eq_walkAsListed config root hfs, walkAsListed,
        ← funext (walk_eq_walkAsListed config root hfs n)]
      simp only [MemoryFiles.toFileSystem, MemoryFiles.list_eq_ok hfs hdir]
      rw [List.mapM_map]
      exact congrArg (Except.map List.flatten) hparts
    · constructor
      · rintro ⟨e, -, -, hf, hunit⟩
        exact ⟨hf, hunit⟩
      · rintro ⟨hf, hunit⟩
        obtain ⟨e, he, hbegins⟩ := exists_entry_of_isUnitFile hfs hne hf hunit
        exact ⟨e, he, hbegins, hf, hunit⟩

/-- A walk from anything else fails at once. -/
lemma walk_eq_error (config : Config) (root : Path) (hdir : fs.find? dir ≠ some .dir) (n : Nat) :
    ∃ e, fs.list dir = .error e ∧
      walk fs.toFileSystem config root (n + 1) dir = .error (.ioFailure dir e) := by
  obtain ⟨e, he⟩ := MemoryFiles.list_eq_error hdir
  refine ⟨e, he, ?_⟩
  rw [walk]
  simp only [MemoryFiles.toFileSystem, he]

end Walk

/-! ## The files of a directory -/

section Enumerate

variable {fs : MemoryFiles} {dir : Path}

/-- There are not more entries at a path and below it than there are. -/
lemma MemoryFiles.countFrom_lt_depth : fs.countFrom dir < fs.toFileSystem.depth :=
  Nat.lt_succ_of_le (List.length_filter_le _ _)

/-- The files of a stored directory that become units are found, in order. -/
theorem enumerate_lists (config : Config) (hfs : fs.Ordered) (hne : dir.components ≠ [])
    (hdir : fs.find? dir = some .dir) :
    ∃ locations, enumerate fs.toFileSystem config dir = .ok locations ∧
      Lists (fun f => fs.StoresFile f ∧ IsUnitFile fs config dir f) dir locations :=
  walk_lists config hfs hne (List.prefix_refl _) hdir MemoryFiles.countFrom_lt_depth.le

/-- The bound on the nesting of directories is never reached: a greater one changes nothing. -/
theorem walk_eq_enumerate (config : Config) (hfs : fs.Ordered) (hne : dir.components ≠ []) {n : Nat}
    (hn : fs.toFileSystem.depth ≤ n) :
    walk fs.toFileSystem config dir n dir = enumerate fs.toFileSystem config dir := by
  by_cases hdir : fs.find? dir = some .dir
  · obtain ⟨locations, hlocations, hlists⟩ := enumerate_lists config hfs hne hdir
    obtain ⟨locations', hlocations', hlists'⟩ := walk_lists config hfs hne
      (List.prefix_refl _) hdir (MemoryFiles.countFrom_lt_depth.le.trans hn)
    rw [hlocations, hlocations', hlists.unique hlists']
  · obtain ⟨m, rfl⟩ := Nat.exists_eq_add_of_le hn
    obtain ⟨e, he, hwalk⟩ := walk_eq_error config dir hdir fs.entries.length
    obtain ⟨e', he', hwalk'⟩ :=
      walk_eq_error config dir hdir (fs.entries.length + m)
    obtain rfl : e = e' := Except.error.inj (he.symm.trans he')
    rw [enumerate]
    refine Eq.trans ?_ hwalk.symm
    rw [← hwalk']
    congr 1
    simp only [MemoryFiles.toFileSystem]
    omega

/-- What is not stored as a directory is not enumerated. -/
theorem enumerate_eq_error (config : Config) (hdir : fs.find? dir ≠ some .dir) :
    ∃ e, fs.list dir = .error e ∧
      enumerate fs.toFileSystem config dir = .error (.ioFailure dir e) :=
  walk_eq_error config dir hdir fs.entries.length

end Enumerate

end LexicalFront
