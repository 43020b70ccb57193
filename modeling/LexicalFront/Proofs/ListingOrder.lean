import LexicalFront.Proofs.Enumeration
import Mathlib.Data.List.Pairwise
set_option autoImplicit false
set_option relaxedAutoImplicit false

/-!
# Listings in any order

What a walk finds does not depend on the order in which directories are listed, as long as no two
entries of a listing have the same name: entries without a name are passed over, and all others are
sorted. Where a directory cannot be listed, the one that fails is the first such in the order in
which they are entered, depth first and by name.

## Main definitions

* `LexicalFront.SameListing` — the same answer, but for the order of a listing.
* `FileSystem.subdirs`, `FileSystem.preorder` — the directories that a walk enters, in order.
* `FileSystem.NestsWithin`, `FileSystem.WalkEnds` — a walk comes to an end.

## Main results

* `FileSystem.WalkEnds.exists_nestsWithin` — a walk that comes to an end does so within some bound.
* `walk_eq_of_sameListing` — two walks find the same.
* `errorOf?_walk` — which error a walk ends in.
* `MemoryFiles.walkEnds` — a walk through files in memory comes to an end.
-/

namespace LexicalFront

/-- The same error, or listings that are the same but for their order. -/
inductive SameListing : Except FileError (List DirEntry) → Except FileError (List DirEntry) → Prop
  | error (e : FileError) : SameListing (.error e) (.error e)
  | ok {entries entries' : List DirEntry} (h : entries.Perm entries') :
    SameListing (.ok entries) (.ok entries')

/-- The entries that have names have different ones. -/
def NamesDiffer (entries : List DirEntry) : Prop :=
  (entries.filterMap (·.path.fileName?)).Nodup

/-! ## Sorting by name -/

/-- One name comes before another if it is not greater. -/
lemma nameLe_some_iff {a b : OsText} :
    nameLe (some a) (some b) = true ↔ a.bytes ≤ b.bytes := by
  rw [nameLe, Bool.not_eq_true', decide_eq_false_iff_not, List.not_lt]

/-- Of two names one comes before the other. -/
lemma nameLe_total (a b : Option OsText) : (nameLe a b || nameLe b a) = true := by
  rw [Bool.or_eq_true]
  cases a with
  | none => exact .inl rfl
  | some a =>
    cases b with
    | none => exact .inr rfl
    | some b => exact (List.le_total a.bytes b.bytes).imp nameLe_some_iff.2 nameLe_some_iff.2

/-- The order of names is transitive. -/
lemma nameLe_trans (a b c : Option OsText) (hab : nameLe a b = true) (hbc : nameLe b c = true) :
    nameLe a c = true := by
  cases a with
  | none => rfl
  | some a =>
    cases b with
    | none => cases hab
    | some b =>
      cases c with
      | none => cases hbc
      | some c =>
        exact nameLe_some_iff.2
          (List.le_trans (nameLe_some_iff.1 hab) (nameLe_some_iff.1 hbc))

/-- Sorted entries are in the order of their names. -/
lemma pairwise_sortByName (entries : List DirEntry) : (sortByName entries).Pairwise
    fun a b => nameLe a.path.fileName? b.path.fileName? = true := by
  apply List.pairwise_mergeSort
  · exact fun a b c => nameLe_trans _ _ _
  · exact fun a b => nameLe_total _ _

/-- The entries that have names, in the order of their names. -/
def sortedNamed (entries : List DirEntry) : List DirEntry :=
  (sortByName entries).filter (·.path.fileName?.isSome)

/-- Which entries have names does not depend on the order. -/
lemma mem_sortedNamed_iff {entries : List DirEntry} {entry : DirEntry} :
    entry ∈ sortedNamed entries ↔ entry ∈ entries ∧ ∃ s, entry.path.fileName? = some s := by
  rw [sortedNamed, List.mem_filter, sortByName, List.mem_mergeSort, Option.isSome_iff_exists]

/-- If names differ, sorted entries are strictly in the order of their names. -/
lemma NamesDiffer.pairwise_sortedNamed {entries : List DirEntry} (h : NamesDiffer entries) :
    (sortedNamed entries).Pairwise fun a b =>
      ∃ s t, a.path.fileName? = some s ∧ b.path.fileName? = some t ∧ s.bytes < t.bytes := by
  have hsorted : NamesDiffer (sortByName entries) :=
    ((List.mergeSort_perm entries _).filterMap _).nodup_iff.2 h
  rw [NamesDiffer, List.Nodup, List.pairwise_filterMap] at hsorted
  refine (((pairwise_sortByName entries).and hsorted).filter _).imp_of_mem ?_
  rintro a b ha hb ⟨hle, hdiffer⟩
  obtain ⟨-, s, hs⟩ := mem_sortedNamed_iff.1 ha
  obtain ⟨-, t, ht⟩ := mem_sortedNamed_iff.1 hb
  rw [hs, ht, nameLe_some_iff] at hle
  refine ⟨s, t, hs, ht, List.not_le.1 fun hge => ?_⟩
  exact hdiffer s hs t ht (congrArg OsText.mk (List.le_antisymm hle hge))

/-- The order of a listing does not matter to the sorted entries if names differ. -/
theorem sortedNamed_eq_of_perm {entries entries' : List DirEntry} (hnames : NamesDiffer entries)
    (h : entries.Perm entries') : sortedNamed entries = sortedNamed entries' := by
  have hnames' : NamesDiffer entries' := (h.filterMap _).nodup_iff.1 hnames
  have hperm : (sortedNamed entries).Perm (sortedNamed entries') :=
    ((List.mergeSort_perm entries _).trans
      (h.trans (List.mergeSort_perm entries' _).symm)).filter _
  refine hperm.eq_of_pairwise ?_ hnames.pairwise_sortedNamed hnames'.pairwise_sortedNamed
  rintro a b - - ⟨s, t, hs, ht, hlt⟩ ⟨t', s', ht', hs', hgt⟩
  obtain rfl := Option.some.inj (hs.symm.trans hs')
  obtain rfl := Option.some.inj (ht.symm.trans ht')
  exact absurd hgt (List.lt_asymm hlt)

/-! ## Directories that are entered -/

/-- Whether a walk enters an entry. -/
def Config.enters (config : Config) (entry : DirEntry) : Bool := config.use entry == .enter

/-- Directories are entered if they have a name that is not passed over and that is looked into. -/
lemma Config.enters_iff {config : Config} {entry : DirEntry} :
    config.enters entry = true ↔ entry.isDir = true ∧ ∃ name, entry.path.fileName? = some name ∧
      config.skipsName name = false ∧ config.descendsInto name = true := by
  rw [enters, beq_iff_eq, use]
  cases entry.path.fileName? with
  | none => simp
  | some name =>
    cases hskips : config.skipsName name with
    | true => simp [hskips]
    | false =>
      cases hdir : entry.isDir with
      | true => simp [hskips]
      | false => simp [hskips, apply_ite (· = EntryUse.enter)]

namespace FileSystem

/-- The directories that a walk enters from a directory, in the order of their names. -/
def subdirs (fs : FileSystem) (config : Config) (dir : Path) : List Path :=
  match fs.list dir with
  | .ok entries => ((sortedNamed entries).filter config.enters).map (·.path)
  | .error _ => []

/-- A walk from a directory enters no more directories one inside the other than these, itself
included. -/
def NestsWithin (fs : FileSystem) (config : Config) : Nat → Path → Prop
  | 0, _ => False
  | n + 1, dir => ∀ d ∈ fs.subdirs config dir, fs.NestsWithin config n d

/-- A walk from a directory comes to an end: one cannot go on for ever from a directory to another
one that is entered from it. In particular, no directory is entered again below itself. -/
def WalkEnds (fs : FileSystem) (config : Config) (dir : Path) : Prop :=
  Acc (fun d' d => d' ∈ fs.subdirs config d) dir

/-- The directories that a walk enters, as many one inside the other as a bound allows: each before
those that are entered from it, and these in the order of their names. -/
def preorder (fs : FileSystem) (config : Config) : Nat → Path → List Path
  | 0, _ => []
  | n + 1, dir => dir :: (fs.subdirs config dir).flatMap (fs.preorder config n)

/-- Why a directory cannot be listed, if it cannot. -/
def failure? (fs : FileSystem) (dir : Path) : Option LexicalError :=
  match fs.list dir with
  | .ok _ => none
  | .error e => some (.ioFailure dir e)

/-- The file system with another bound on the nesting of directories. -/
def withDepth (fs : FileSystem) (n : Nat) : FileSystem := { fs with depth := n }

variable {fs fs' : FileSystem} {config : Config} {dir d : Path} {n m : Nat}

/-- Which directories are entered. -/
lemma mem_subdirs_iff : d ∈ fs.subdirs config dir ↔ ∃ entries name, fs.list dir = .ok entries ∧
    ⟨d, true⟩ ∈ entries ∧ d.fileName? = some name ∧ config.skipsName name = false ∧
      config.descendsInto name = true := by
  rw [subdirs]
  cases fs.list dir with
  | error e => simp
  | ok entries =>
    simp only [List.mem_map, List.mem_filter, mem_sortedNamed_iff, Config.enters_iff]
    constructor
    · rintro ⟨⟨path, isDir⟩, ⟨⟨hmem, -⟩, rfl, name, h⟩, rfl⟩
      exact ⟨entries, name, rfl, hmem, h⟩
    · rintro ⟨_, name, ⟨⟩, hmem, hname, h⟩
      exact ⟨⟨d, true⟩, ⟨⟨hmem, name, hname⟩, rfl, name, hname, h⟩, rfl⟩

/-- There is no reason if a directory can be listed. -/
lemma failure?_eq_none_iff : fs.failure? dir = none ↔ ∃ entries, fs.list dir = .ok entries := by
  rw [failure?]
  cases fs.list dir with
  | error e => simp
  | ok entries => simp

/-- The directories that are entered are in the order of their names if names differ. -/
lemma pairwise_subdirs (hnames : ∀ entries, fs.list dir = .ok entries → NamesDiffer entries) :
    (fs.subdirs config dir).Pairwise fun p q =>
      ∃ s t, p.fileName? = some s ∧ q.fileName? = some t ∧ s.bytes < t.bytes := by
  rw [subdirs]
  split
  · next entries h => exact List.pairwise_map.2 ((hnames entries h).pairwise_sortedNamed.filter _)
  · exact List.Pairwise.nil

/-- A greater bound is a bound. -/
lemma NestsWithin.mono (h : fs.NestsWithin config n dir) (hnm : n ≤ m) :
    fs.NestsWithin config m dir := by
  induction n generalizing m dir with
  | zero => exact h.elim
  | succ n ih =>
    obtain ⟨m, rfl⟩ : ∃ k, m = k + 1 := ⟨m - 1, by omega⟩
    exact fun d hd => ih (h d hd) (Nat.le_of_succ_le_succ hnm)

/-- Some directories have a bound together if each has one. -/
lemma exists_nestsWithin_forall {ds : List Path} (h : ∀ d ∈ ds, ∃ n, fs.NestsWithin config n d) :
    ∃ n, ∀ d ∈ ds, fs.NestsWithin config n d := by
  induction ds with
  | nil => exact ⟨0, nofun⟩
  | cons d ds ih =>
    obtain ⟨hd, hds⟩ := List.forall_mem_cons.1 h
    obtain ⟨n, hn⟩ := hd
    obtain ⟨m, hm⟩ := ih hds
    refine ⟨max n m, List.forall_mem_cons.2 ⟨hn.mono (Nat.le_max_left n m), fun d hd => ?_⟩⟩
    exact (hm d hd).mono (Nat.le_max_right n m)

/-- A walk that comes to an end does so within some bound. -/
theorem WalkEnds.exists_nestsWithin (h : fs.WalkEnds config dir) :
    ∃ n, fs.NestsWithin config n dir := by
  induction h with
  | intro dir _ ih =>
    obtain ⟨n, hn⟩ := exists_nestsWithin_forall ih
    exact ⟨n + 1, hn⟩

end FileSystem

/-! ## The walk -/

section Walk

variable {fs fs' : FileSystem} {config : Config} {root dir : Path} {n m : Nat}

/-- An entry that is entered contributes what is found in it, and any other one the same, whatever
is found in directories. -/
lemma visitEntry_cases (config : Config) (root : Path) (entry : DirEntry) :
    (config.enters entry = true ∧
      ∀ descend, visitEntry config root descend entry = descend entry.path) ∨
    (config.enters entry = false ∧
      ∃ part, ∀ descend, visitEntry config root descend entry = .ok part) := by
  rw [Config.enters]
  cases huse : config.use entry with
  | enter => exact .inl ⟨rfl, fun descend => by rw [visitEntry, huse]⟩
  | none => exact .inr ⟨rfl, [], fun descend => by rw [visitEntry, huse]⟩
  | take => exact .inr ⟨rfl, _, fun descend => by rw [visitEntry, huse]⟩

/-- An entry without a name contributes nothing. -/
lemma visitEntry_of_fileName?_eq_none {entry : DirEntry} (h : entry.path.fileName? = none)
    (descend : Path → Except LexicalError (List Path)) :
    visitEntry config root descend entry = .ok [] := by
  have huse : config.use entry = .none :=
    Config.use_eq_none fun s hs => absurd (h.symm.trans hs) (Option.some_ne_none s).symm
  rw [visitEntry, huse]

/-- Steps that contribute nothing can be left out.

**Proof sketch.** Induction on the list. A step that is kept fails in both, or puts the same in
front of both; one that is left out contributes an empty list, which flattening drops. -/
lemma mapM_flatten_filter {α β ε : Type} {g : α → Except ε (List β)} {p : α → Bool} {as : List α}
    (h : ∀ a ∈ as, p a = false → g a = .ok []) :
    (as.mapM g).map List.flatten = ((as.filter p).mapM g).map List.flatten := by
  induction as with
  | nil => rfl
  | cons a as ih =>
    obtain ⟨ha, has⟩ := List.forall_mem_cons.1 h
    rw [List.mapM_cons, List.filter_cons]
    cases hp : p a with
    | true =>
      rw [if_pos rfl, List.mapM_cons]
      cases g a with
      | error e => rfl
      | ok bs =>
        have hcons (x : Except ε (List (List β))) :
            (x.bind fun bss => .ok (bs :: bss)).map List.flatten =
              (x.map List.flatten).map (bs ++ ·) := by
          cases x with
          | error e => rfl
          | ok bss => rfl
        exact (hcons _).trans ((congrArg (Except.map (bs ++ ·)) (ih has)).trans (hcons _).symm)
    | false =>
      rw [ha hp, if_neg Bool.false_ne_true, ← ih has]
      cases as.mapM g with
      | error e => rfl
      | ok bss => rfl

/-- Only what each step gives matters. -/
lemma mapM_congr_left {α β ε : Type} {g g' : α → Except ε β} {as : List α}
    (h : ∀ a ∈ as, g a = g' a) : as.mapM g = as.mapM g' := by
  induction as with
  | nil => rfl
  | cons a as ih =>
    obtain ⟨ha, has⟩ := List.forall_mem_cons.1 h
    rw [List.mapM_cons, List.mapM_cons, ha, ih has]

/-- Where a directory is listed, the walk goes through the entries that have names, in the order of
their names. -/
lemma walk_of_list_eq_ok {entries : List DirEntry} (h : fs.list dir = .ok entries) :
    walk fs config root (n + 1) dir =
      ((sortedNamed entries).mapM (visitEntry config root (walk fs config root n))).map
        List.flatten := by
  rw [walk, h]
  refine mapM_flatten_filter fun entry _ hname => ?_
  exact visitEntry_of_fileName?_eq_none (Option.isNone_iff_eq_none.1 (by simpa using hname)) _

/-- Two walks find the same, or fail alike, if listings are the same but for their order, and names
differ in each.

**Proof sketch.** By induction on the bound of one of them. Both go through the same entries, and
what is entered from there is within the next bounds. -/
theorem walk_eq_of_sameListing (hsame : ∀ d, SameListing (fs.list d) (fs'.list d))
    (hnames : ∀ d entries, fs.list d = .ok entries → NamesDiffer entries)
    (hn : fs.NestsWithin config n dir) (hm : fs.NestsWithin config m dir) :
    walk fs config root n dir = walk fs' config root m dir := by
  induction n generalizing m dir with
  | zero => exact hn.elim
  | succ n ih =>
    cases m with
    | zero => exact hm.elim
    | succ m =>
      have hlisting := hsame dir
      cases hlist : fs.list dir with
      | error e =>
        rw [hlist] at hlisting
        generalize hlist' : fs'.list dir = listing at hlisting
        cases hlisting
        rw [walk, walk, hlist, hlist']
      | ok entries =>
        rw [hlist] at hlisting
        generalize hlist' : fs'.list dir = listing at hlisting
        cases hlisting with
        | ok hperm =>
          rw [walk_of_list_eq_ok hlist, walk_of_list_eq_ok hlist',
            ← sortedNamed_eq_of_perm (hnames dir entries hlist) hperm]
          congr 1
          refine mapM_congr_left fun entry hentry => ?_
          rcases visitEntry_cases config root entry with ⟨henters, hvisit⟩ | ⟨-, part, hvisit⟩
          · have hsub : entry.path ∈ fs.subdirs config dir := by
              rw [FileSystem.subdirs, hlist]
              exact List.mem_map_of_mem (List.mem_filter.2 ⟨hentry, henters⟩)
            rw [hvisit, hvisit, ih (hn _ hsub) (hm _ hsub)]
          · rw [hvisit, hvisit]

end Walk

/-! ## The error of a walk -/

/-- The error in which steps end, if they do. -/
def errorOf? {α ε : Type} : Except ε α → Option ε
  | .ok _ => none
  | .error e => some e

section Errors

variable {α β γ ε : Type}

/-- Without an error there is an outcome. -/
lemma errorOf?_eq_none_iff {x : Except ε α} : errorOf? x = none ↔ ∃ a, x = .ok a := by
  cases x with
  | error e => simp [errorOf?]
  | ok a => simp [errorOf?]

/-- There is an error if this is how the steps end. -/
lemma errorOf?_eq_some_iff {x : Except ε α} {e : ε} : errorOf? x = some e ↔ x = .error e := by
  cases x with
  | error e' => simp [errorOf?]
  | ok a => simp [errorOf?]

/-- A change of the outcome is not a change of the error. -/
lemma errorOf?_map (f : α → β) (x : Except ε α) : errorOf? (x.map f) = errorOf? x := by
  cases x with
  | error e => rfl
  | ok a => rfl

/-- Steps one after the other end in the error of the first one that fails. -/
lemma errorOf?_mapM (g : α → Except ε β) (as : List α) :
    errorOf? (as.mapM g) = as.findSome? fun a => errorOf? (g a) := by
  induction as with
  | nil => rfl
  | cons a as ih =>
    rw [List.mapM_cons, List.findSome?_cons, ← ih]
    cases g a with
    | error e => rfl
    | ok b =>
      cases as.mapM g with
      | error e => rfl
      | ok bs => rfl

/-- What gives nothing can be left out of a search. -/
lemma findSome?_eq_filter {f g : α → Option β} {p : α → Bool} {as : List α}
    (h : ∀ a ∈ as, p a = true ∧ f a = g a ∨ p a = false ∧ f a = none) :
    as.findSome? f = (as.filter p).findSome? g := by
  induction as with
  | nil => rfl
  | cons a as ih =>
    obtain ⟨ha, has⟩ := List.forall_mem_cons.1 h
    rw [List.findSome?_cons, List.filter_cons, ih has]
    rcases ha with ⟨hp, hf⟩ | ⟨hp, hf⟩
    · rw [if_pos hp, List.findSome?_cons, hf]
    · rw [hp, hf, if_neg Bool.false_ne_true]

/-- A search through lists is a search through each of them in turn. -/
lemma findSome?_flatMap (f : α → List β) (g : β → Option γ) (as : List α) :
    (as.flatMap f).findSome? g = as.findSome? fun a => (f a).findSome? g := by
  induction as with
  | nil => rfl
  | cons a as ih =>
    rw [List.flatMap_cons, List.findSome?_append, List.findSome?_cons, ih]
    cases (f a).findSome? g with
    | none => rfl
    | some c => rfl

end Errors

/-- A walk that comes to an end ends in the error of the first directory that cannot be listed,
among those that are entered, in the order in which they are. -/
theorem errorOf?_walk {fs : FileSystem} {config : Config} {dir : Path} {n : Nat}
    (hn : fs.NestsWithin config n dir) (root : Path) :
    errorOf? (walk fs config root n dir) = (fs.preorder config n dir).findSome? fs.failure? := by
  induction n generalizing dir with
  | zero => exact hn.elim
  | succ n ih =>
    rw [FileSystem.preorder, List.findSome?_cons, FileSystem.failure?]
    cases hlist : fs.list dir with
    | error e =>
      rw [walk, hlist]
      rfl
    | ok entries =>
      have hsubdirs : fs.subdirs config dir =
          ((sortedNamed entries).filter config.enters).map (·.path) := by
        rw [FileSystem.subdirs, hlist]
      rw [walk_of_list_eq_ok hlist, errorOf?_map, errorOf?_mapM]
      simp only [findSome?_flatMap, hsubdirs, List.findSome?_map]
      refine findSome?_eq_filter fun entry hentry => ?_
      rcases visitEntry_cases config root entry with ⟨henters, hvisit⟩ | ⟨henters, part, hvisit⟩
      · have hsub : entry.path ∈ fs.subdirs config dir :=
          hsubdirs ▸ List.mem_map_of_mem (List.mem_filter.2 ⟨hentry, henters⟩)
        exact .inl ⟨henters, by rw [hvisit, ih (hn _ hsub)]; rfl⟩
      · exact .inr ⟨henters, by rw [hvisit]; rfl⟩

/-! ## Files in memory -/

namespace MemoryFiles

variable {fs : MemoryFiles} {dir : Path} {entries : List DirEntry}

/-- The entries of a stored directory have different names. -/
lemma namesDiffer (hfs : fs.Ordered) (h : fs.list dir = .ok entries) : NamesDiffer entries := by
  obtain ⟨-, rfl⟩ := (list_eq_ok_iff hfs).1 h
  rw [NamesDiffer, List.filterMap_map, List.Nodup, List.pairwise_filterMap]
  refine (hfs.filter _).imp_of_mem fun {e f} he hf hlt s hs t ht => ?_
  obtain ⟨-, -, c, hc⟩ := mem_entriesIn.1 he
  obtain ⟨-, -, d, hd⟩ := mem_entriesIn.1 hf
  rintro rfl
  replace hs : e.1.fileName? = some s := hs
  replace ht : f.1.fileName? = some s := ht
  rw [Path.fileName?_of_components_eq hc, Component.name?_eq_some_iff] at hs
  rw [Path.fileName?_of_components_eq hd, Component.name?_eq_some_iff] at ht
  rw [hc, hd, hs, ht] at hlt
  exact lt_irrefl _ hlt

/-- A walk through files in memory comes to an end: each directory that is entered has fewer entries
at it and below it than the one before. -/
theorem walkEnds (hfs : fs.Ordered) (config : Config) (dir : Path) :
    fs.toFileSystem.WalkEnds config dir := by
  induction hn : fs.countFrom dir using Nat.strong_induction_on generalizing dir with
  | h n ih =>
    refine ⟨dir, fun d hd => ih _ ?_ d rfl⟩
    obtain ⟨entries, -, hlist, hmem, -⟩ := FileSystem.mem_subdirs_iff.1 hd
    obtain ⟨hdir, rfl⟩ := (list_eq_ok_iff hfs).1 hlist
    obtain ⟨e, he, heq⟩ := List.mem_map.1 hmem
    obtain ⟨-, -, c, hc⟩ := mem_entriesIn.1 he
    rw [(DirEntry.mk.inj heq).1] at hc
    exact hn ▸ countFrom_lt hfs hdir (Path.strictlyBelow_of_components_eq hc)

end MemoryFiles

/-- The file system that lists directories the other way round. -/
def FileSystem.reversed (fs : FileSystem) : FileSystem :=
  { fs with list := fun p => (fs.list p).map List.reverse }

/-- A listing the other way round is the same but for its order. -/
lemma FileSystem.sameListing_reversed (fs : FileSystem) (dir : Path) :
    SameListing (fs.list dir) (fs.reversed.list dir) := by
  show SameListing (fs.list dir) ((fs.list dir).map List.reverse)
  cases fs.list dir with
  | error e => exact .error e
  | ok entries => exact .ok (List.reverse_perm entries).symm

end LexicalFront
