import LexicalFront.Proofs.Workspace.Loading
import LexicalFront.Proofs.Workspace.WellFormed
set_option autoImplicit false
set_option relaxedAutoImplicit false

/-!
# Loading a whole module

A module is loaded unit by unit, in order, and ends with the first unit that cannot be loaded. What
has been loaded by then stays: the module is left loaded up to there, and nothing is taken back.

No load changes a file, a location or another unit. So what the load of a unit gives is the same
whichever other units are loaded before it, even where several units share a file, and it can be
told from the start which unit will be the first to fail.

## Main definitions

* `Workspace.CanLoad` — whether the load of a unit succeeds.
* `Workspace.Refreshed` — what loading a unit does to its text and its generation.
* `Workspace.LoadedAll` — a module after all its files have been read.
* `Workspace.StoppedAt` — a module after the first unit that cannot be loaded.

## Main results

* `Workspace.load_snd_run` — what a load gives does not depend on the loads before it.
* `Workspace.loadAll_exact` — a module is in one of these two states after it has been loaded.
-/

namespace LexicalFront

namespace Workspace

variable {w : Workspace} {u x k : UnitId} {m : ModuleId} {text : String} {e : LexicalError}
  {us before after : List UnitId}

/-! ## One load -/

/-- The load of a unit succeeds. -/
def CanLoad (w : Workspace) (u : UnitId) : Prop := ∃ changed, (w.load u).2 = .ok changed

/-- A load that gives an error leaves everything as it is. -/
lemma load_eq_of_snd_eq_error (h : (w.load u).2 = .error e) : w.load u = (w, .error e) := by
  have hload : w.load u = ((w.load u).1, .error e) := Prod.ext rfl h
  rw [hload, load_eq_error hload]

/-- A load that does not succeed gives an error. -/
lemma load_of_not_canLoad (h : ¬ w.CanLoad u) : ∃ e, (w.load u).2 = .error e := by
  cases hresult : (w.load u).2 with
  | ok changed => exact absurd ⟨changed, hresult⟩ h
  | error e => exact ⟨e, rfl⟩

/-- The units that can be loaded are those whose files can be read. -/
lemma canLoad_iff : w.CanLoad u ↔ (w.textOf? u).isSome = true := by
  constructor
  · rintro ⟨changed, hchanged⟩
    rw [load] at hchanged
    split at hchanged
    · cases hchanged
    · next source path hsource =>
      split at hchanged
      · cases hchanged
      · next text hread => simp [textOf?, hsource, hread, Except.toOption]
  · intro h
    obtain ⟨text, htext⟩ := Option.isSome_iff_exists.1 h
    exact ⟨_, congrArg Prod.snd (load_of_textOf? htext)⟩

instance (w : Workspace) : DecidablePred w.CanLoad :=
  fun _ => decidable_of_iff _ canLoad_iff.symm

/-- A unit that has the text of its file is loaded without any change. -/
lemma load_of_current {v : CompilationUnit} (hv : w.unit? u = some v)
    (hrep : v.representation = some text) (htext : w.textOf? u = some text) :
    w.load u = (w, .ok false) := by
  have hsame := replace_eq_self hv (CompilationUnit.replace_of_same hrep)
  rw [load_of_textOf? htext, hsame]

/-! ## What other units see of a load -/

/-- The load of a unit leaves the others alone. -/
lemma unit?_load_of_ne (hne : u ≠ x) : (w.load u).1.unit? x = w.unit? x := by
  rcases w.load_cases u with h | ⟨text, h⟩
  · rw [h]
  · rw [h]
    exact (w.unit?_modifyUnit u x _).trans (if_neg hne)

/-- The file of a unit is where it was after other loads. -/
lemma sourceOf?_load (w : Workspace) (u x : UnitId) :
    (w.load u).1.sourceOf? x = w.sourceOf? x :=
  load_induction (P := fun w' => w'.sourceOf? x = w.sourceOf? x)
    (fun w' u text h => (w'.sourceOf?_replace u text x).trans h) rfl u

/-- Loading reads files and writes none. -/
lemma fileSystem_load (w : Workspace) (u : UnitId) (source : FileSource) :
    (w.load u).1.fileSystem source = w.fileSystem source :=
  load_induction (P := fun w' => w'.fileSystem source = w.fileSystem source) (fun _ _ _ h => h)
    rfl u

/-- The file of a unit has the text that it had after other loads. -/
lemma textOf?_load (w : Workspace) (u x : UnitId) : (w.load u).1.textOf? x = w.textOf? x :=
  load_induction (P := fun w' => w'.textOf? x = w.textOf? x)
    (fun w' u text h => (w'.textOf?_replace u text x).trans h) rfl u

/-- The file of a unit has the text that it had after many loads. -/
lemma textOf?_loadUnits (w : Workspace) (us : List UnitId) (x : UnitId) :
    (w.loadUnits us).1.textOf? x = w.textOf? x :=
  loadUnits_induction (P := fun w' => w'.textOf? x = w.textOf? x)
    (fun w' u text h => (w'.textOf?_replace u text x).trans h) rfl us

/-- What the load of a unit gives is the same after another unit has been loaded. -/
lemma load_snd_load (hne : u ≠ x) : ((w.load u).1.load x).2 = (w.load x).2 := by
  rw [load, sourceOf?_load, load.eq_def w x]
  cases w.sourceOf? x with
  | none => rfl
  | some file =>
    obtain ⟨source, path⟩ := file
    simp only [fileSystem_load]
    cases (w.fileSystem source).read path with
    | error e => rfl
    | ok text => simp only [replace, unit?_load_of_ne hne]

/-- What the load of a unit gives does not depend on which other units are loaded before it. -/
theorem load_snd_run (hx : x ∉ us) : ((w.run (us.map .load)).load x).2 = (w.load x).2 := by
  induction us generalizing w with
  | nil => rfl
  | cons u us ih =>
    have hne : u ≠ x := (List.ne_of_not_mem_cons hx).symm
    exact (ih (List.not_mem_of_not_mem_cons hx)).trans (load_snd_load hne)

/-- Units that are not loaded stay as they are. -/
lemma unit?_run_load (hx : x ∉ us) : (w.run (us.map .load)).unit? x = w.unit? x := by
  induction us generalizing w with
  | nil => rfl
  | cons u us ih =>
    have hne : u ≠ x := (List.ne_of_not_mem_cons hx).symm
    exact (ih (List.not_mem_of_not_mem_cons hx)).trans (unit?_load_of_ne hne)

/-! ## The units of a module that have a location -/

/-- The units of a module that are loaded with it, in order. -/
def fileBacked (w : Workspace) (m : ModuleId) : List UnitId :=
  (w.members m).filter w.isFileBacked

/-- No unit is loaded twice. -/
lemma nodup_fileBacked (hw : w.WellFormed) (m : ModuleId) : (w.fileBacked m).Nodup :=
  (hw.nodup m).filter w.isFileBacked

/-- A unit is not among those that are loaded before it. -/
lemma notMem_before (hw : w.WellFormed) (horder : w.fileBacked m = before ++ us) (hx : x ∈ us) :
    x ∉ before := by
  intro hmem
  have hnodup := nodup_fileBacked hw m
  rw [horder, List.nodup_append] at hnodup
  exact hnodup.2.2 x hmem x hx rfl

/-- Loading leaves all units where they are. -/
lemma fileBacked_loadUnits (w : Workspace) (us : List UnitId) (m : ModuleId) :
    (w.loadUnits us).1.fileBacked m = w.fileBacked m := by
  have hbacked (x : UnitId) : (w.loadUnits us).1.isFileBacked x = w.isFileBacked x := by
    refine loadUnits_induction (P := fun w' => w'.isFileBacked x = w.isFileBacked x) ?_ rfl us
    intro w' u text h
    rw [← h, isFileBacked, replace, unit?_modifyUnit, isFileBacked]
    split
    · cases w'.unit? x with
      | none => rfl
      | some v =>
        obtain ⟨-, hlocation, -⟩ := v.place_replace text
        simp [hlocation]
    · rfl
  rw [fileBacked, members_loadUnits, funext hbacked, fileBacked]

/-- Where all units have the texts of their files, nothing is left to be loaded. -/
lemma loadUnits_of_current
    (h : ∀ x ∈ us, ∃ v text, w.unit? x = some v ∧ v.representation = some text ∧
      w.textOf? x = some text) : w.loadUnits us = (w, .ok 0) := by
  induction us with
  | nil => rfl
  | cons u us ih =>
    obtain ⟨v, text, hv, hrep, htext⟩ := h u List.mem_cons_self
    simp only [loadUnits, load_of_current hv hrep htext,
      ih fun x hx => h x (List.mem_cons_of_mem u hx)]
    rfl

/-! ## All files can be read -/

/-- A unit has got the text of its file. The generation has moved on if it had another text. -/
def Refreshed (w : Workspace) (x : UnitId) (w' : Workspace) : Prop :=
  ∃ v text v', w.unit? x = some v ∧ w.textOf? x = some text ∧ w'.unit? x = some v' ∧
    v'.representation = some text ∧
    v'.generation = v.generation + if v.isLoaded ∧ v.representation ≠ some text then 1 else 0

/-- The units of a module that have a location have been loaded, and with `n` of them this changed
the text. -/
structure LoadedAll (w : Workspace) (m : ModuleId) (n : Nat) (w' : Workspace) : Prop where
  /-- Each of them has got the text of its file. -/
  loaded : ∀ x ∈ w.fileBacked m, w.Refreshed x w'
  /-- Those are counted that had another text or none. -/
  count : n = (w.fileBacked m).countP fun x => (w.unit? x).bind (·.representation) ≠ w.textOf? x
  /-- Units without a location and those of other modules stay as they are. -/
  others : ∀ x ∉ w.fileBacked m, w'.unit? x = w.unit? x
  /-- To load the module again changes nothing at all, and so no handle becomes invalid. -/
  again : w'.loadAll m = (w', .ok 0)

/-- A module whose units have got the texts of their files has nothing left to be loaded. -/
lemma loadAll_of_refreshed (h : ∀ x ∈ w.fileBacked m, w.Refreshed x (w.loadAll m).1) :
    (w.loadAll m).1.loadAll m = ((w.loadAll m).1, .ok 0) := by
  have hunits : (w.loadAll m).1.fileBacked m = w.fileBacked m := w.fileBacked_loadUnits _ m
  rw [loadAll, ← fileBacked, hunits]
  apply loadUnits_of_current
  intro x hx
  obtain ⟨-, text, v', -, htext, hv', hrep, -⟩ := h x hx
  exact ⟨v', text, hv', hrep, (w.textOf?_loadUnits _ x).trans htext⟩

/-- Where all units that have a location can be loaded, they are.

**Proof sketch.** That a unit can be loaded is that its file has a text, so that
`loadUnits_of_texts` gives the count and all states. A unit of the list is not retired, so its new
state has that text, and it counts exactly if the text is another one than before. -/
lemma loadedAll_of_canLoad (hw : w.WellFormed) (h : ∀ x ∈ w.fileBacked m, w.CanLoad x) :
    ∃ n, (w.loadAll m).2 = .ok n ∧ w.LoadedAll m n (w.loadAll m).1 := by
  have htexts : ∀ x ∈ w.fileBacked m, (w.textOf? x).isSome = true :=
    fun x hx => canLoad_iff.1 (h x hx)
  obtain ⟨hcount, hstates⟩ := loadUnits_of_texts (nodup_fileBacked hw m) htexts
  have hunit {x : UnitId} (hx : x ∈ w.fileBacked m) :
      ∃ v text, w.unit? x = some v ∧ v.retired = false ∧ w.textOf? x = some text := by
    obtain ⟨v, hv, -, hretired⟩ := hw.member (List.mem_filter.1 hx).1
    obtain ⟨text, htext⟩ := Option.isSome_iff_exists.1 (htexts x hx)
    exact ⟨v, text, hv, hretired, htext⟩
  have hrefreshed : ∀ x ∈ w.fileBacked m, w.Refreshed x (w.loadAll m).1 := by
    intro x hx
    obtain ⟨v, text, hv, hretired, htext⟩ := hunit hx
    obtain ⟨hrep, hgen, -⟩ := CompilationUnit.replace_of_not_retired hretired text
    refine ⟨v, text, (v.replace text).1, hv, htext, ?_, hrep, hgen⟩
    refine (hstates x).trans ?_
    rw [if_pos hx, hv, Option.map_some, loaded, htext]
    rfl
  refine ⟨_, hcount, hrefreshed, ?_, ?_, loadAll_of_refreshed hrefreshed⟩
  · apply List.countP_congr
    intro x hx
    obtain ⟨v, text, hv, hretired, htext⟩ := hunit hx
    obtain ⟨-, -, hchanged⟩ := CompilationUnit.replace_of_not_retired hretired text
    simp [changesOnLoad, hv, htext, hchanged]
  · intro x hx
    exact (hstates x).trans (if_neg hx)

/-! ## Some file cannot be read -/

/-- The units of a module that have a location have been loaded up to the first that cannot be,
which is `k`. -/
structure StoppedAt (w : Workspace) (m : ModuleId) (before : List UnitId) (k : UnitId)
    (after : List UnitId) (e : LexicalError) (w' : Workspace) : Prop where
  /-- The unit stands between others that have a location. -/
  order : w.fileBacked m = before ++ k :: after
  /-- Those before it can be loaded. -/
  canLoad : ∀ x ∈ before, w.CanLoad x
  /-- It cannot be loaded itself, neither at the start nor now. -/
  fails : (w.load k).2 = .error e ∧ w'.load k = (w', .error e)
  /-- Those before it have been loaded one by one, and this is all that has been done. -/
  loaded : w' = w.run (before.map .load)
  /-- The unit and those after it are as they were. -/
  untouched : ∀ x ∈ k :: after, w'.unit? x = w.unit? x
  /-- Units without a location and those of other modules are as they were. -/
  others : ∀ x ∉ w.fileBacked m, w'.unit? x = w.unit? x

/-- Units are loaded one by one until one of them fails.

**Proof sketch.** By induction on the units before the one that fails. That they can be loaded is
still so after the first of them has been loaded. -/
lemma loadUnits_append_cons (h : ∀ x ∈ before, w.CanLoad x)
    (hk : (w.run (before.map .load)).load k = (w.run (before.map .load), .error e)) :
    w.loadUnits (before ++ k :: after) = (w.run (before.map .load), .error e) := by
  induction before generalizing w with
  | nil =>
    rw [List.nil_append, loadUnits]
    rw [show w.load k = (w, .error e) from hk]
    rfl
  | cons u before ih =>
    obtain ⟨changed, hchanged⟩ := h u List.mem_cons_self
    have hload : w.load u = ((w.load u).1, .ok changed) := Prod.ext rfl hchanged
    have hrest : ∀ x ∈ before, (w.load u).1.CanLoad x := by
      intro x hx
      rw [canLoad_iff, textOf?_load, ← canLoad_iff]
      exact h x (List.mem_cons_of_mem u hx)
    rw [List.cons_append, loadUnits, hload]
    simp only [ih hrest hk]
    rfl

/-- Where some unit that has a location cannot be loaded, the first of them ends the load. -/
lemma stoppedAt_of_not_canLoad (hw : w.WellFormed) (h : ∃ x ∈ w.fileBacked m, ¬ w.CanLoad x) :
    ∃ before k after e, (w.loadAll m).2 = .error e ∧
      w.StoppedAt m before k after e (w.loadAll m).1 := by
  obtain ⟨x, hx, hfails⟩ := h
  -- the first that cannot be loaded, as it is known before any load
  have hfound : ((w.fileBacked m).find? fun x => ¬ w.CanLoad x).isSome = true :=
    List.find?_isSome.2 ⟨x, hx, decide_eq_true hfails⟩
  obtain ⟨k, hk⟩ := Option.isSome_iff_exists.1 hfound
  obtain ⟨hfails, before, after, horder, hbefore⟩ := List.find?_eq_some_iff_append.1 hk
  have hcan : ∀ x ∈ before, w.CanLoad x := fun x hx => by simpa using hbefore x hx
  obtain ⟨e, he⟩ := load_of_not_canLoad (of_decide_eq_true hfails)
  have hlater (x : UnitId) (hx : x ∈ k :: after) : x ∉ before := notMem_before hw horder hx
  have hnow : (w.run (before.map .load)).load k = (w.run (before.map .load), .error e) :=
    load_eq_of_snd_eq_error ((load_snd_run (hlater k List.mem_cons_self)).trans he)
  have hall : w.loadAll m = (w.run (before.map .load), .error e) := by
    rw [loadAll, ← fileBacked, horder]
    exact loadUnits_append_cons hcan hnow
  rw [hall]
  refine ⟨before, k, after, e, rfl, horder, hcan, ⟨he, hnow⟩, rfl, ?_, ?_⟩
  · exact fun x hx => unit?_run_load (hlater x hx)
  · intro x hx
    rw [horder] at hx
    exact unit?_run_load fun hmem => hx (List.mem_append_left _ hmem)

/-! ## The two outcomes -/

/-- If all units of a module that have a location can be loaded, a load of the module loads them and
counts those whose text it changed; otherwise it loads those before the first that cannot be loaded,
and gives the error of this one.

**Proof sketch.** The unit that is to fail can be told from the start, since no load changes what
another one gives. Before it, the loop does what single loads do; it ends there. -/
theorem loadAll_exact (hw : w.WellFormed) (m : ModuleId) :
    -- what a load gives in its turn is what it gives by itself
    (∀ before x after, w.fileBacked m = before ++ x :: after →
      ((w.run (before.map .load)).load x).2 = (w.load x).2) ∧
    ((∀ x ∈ w.fileBacked m, w.CanLoad x) →
      ∃ n, (w.loadAll m).2 = .ok n ∧ w.LoadedAll m n (w.loadAll m).1) ∧
    ((∃ x ∈ w.fileBacked m, ¬ w.CanLoad x) →
      ∃ before k after e, (w.loadAll m).2 = .error e ∧
        w.StoppedAt m before k after e (w.loadAll m).1) := by
  refine ⟨?_, loadedAll_of_canLoad hw, stoppedAt_of_not_canLoad hw⟩
  intro before x after horder
  exact load_snd_run (notMem_before hw horder List.mem_cons_self)

/-- A module with a unit without a location, one that has another text than its file, one without a
file, and two with the same file. -/
def unevenModule : Workspace :=
  ofHistory MemoryFiles.empty.toFileSystem
    [.newModule .memory, .setModuleLocation 0 (some ⟨"/m"⟩),
      .update (.write ⟨"/m/a"⟩ "new"), .update (.write ⟨"/m/c"⟩ "same"),
      .addBlankUnit 0, .addUnitAt 0 ⟨"a"⟩, .replace 1 "old", .addUnitAt 0 ⟨"b"⟩,
      .addUnitAt 0 ⟨"c"⟩, .replace 3 "same", .addUnitAt 0 ⟨"./c"⟩]

/-- The module once the missing file is there. -/
def completedModule : Workspace := unevenModule.perform (.update (.write ⟨"/m/b"⟩ "first"))

/-- The load of the module stops at the unit without a file; once this is there, it goes through. -/
theorem loadAll_exact_unevenModule :
    unevenModule.WellFormed ∧ unevenModule.fileBacked 0 = [1, 2, 3, 4] ∧
    (∃ before k after e, (unevenModule.loadAll 0).2 = .error e ∧
      unevenModule.StoppedAt 0 before k after e (unevenModule.loadAll 0).1) ∧
    completedModule.LoadedAll 0 3 (completedModule.loadAll 0).1 := by
  have hw : unevenModule.WellFormed := (WellFormed.empty _).run _
  have hstops : ∃ x ∈ unevenModule.fileBacked 0, ¬ unevenModule.CanLoad x :=
    ⟨2, by decide +kernel, by decide +kernel⟩
  have hgoes : ∀ x ∈ completedModule.fileBacked 0, completedModule.CanLoad x := by
    decide +kernel
  obtain ⟨n, hn, hloaded⟩ := (loadAll_exact (hw.perform _) 0).2.1 hgoes
  have hthree : (completedModule.loadAll 0).2 = .ok 3 := by decide +kernel
  obtain rfl := Except.ok.inj (hn.symm.trans hthree)
  exact ⟨hw, by decide +kernel, (loadAll_exact hw 0).2.2 hstops, hloaded⟩

end Workspace

end LexicalFront
