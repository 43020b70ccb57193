import LexicalFront.Text.OsText
set_option autoImplicit false
set_option relaxedAutoImplicit false

/-!
# Paths

A path is kept as it is spelled, and compared by its components: repeated and trailing slashes do
not count, nor does a point between slashes. A point at the start of a relative path does count, and
two points are a component like any other; nothing is resolved. A path is spelled in bytes, which
need not be those of a text; slashes and points are bytes of their own.

## Main definitions

* `LexicalFront.Path` — a spelled path; `Path.components` is what it means.
* `LexicalFront.Path.key` — the order of paths, component by component.
* `LexicalFront.Path.join`, `LexicalFront.Path.stripPrefix?` — going down from a path, and back.
* `LexicalFront.Path.properAncestors`, `LexicalFront.Path.parent?` — going up.
* `LexicalFront.Path.fileName?`, `LexicalFront.Path.extension?` — the last component.
-/

namespace LexicalFront

/-! ## Segments -/

/-- The byte of a slash. -/
def slash : UInt8 := 0x2f

/-- The byte of a point. -/
def point : UInt8 := 0x2e

@[simp] theorem point_ne_slash : point ≠ slash := by decide

/-- The pieces between slashes; there is always one. -/
def slashPieces : List UInt8 → List (List UInt8)
  | [] => [[]]
  | b :: bs =>
    if b = slash then [] :: slashPieces bs
    else
      match slashPieces bs with
      | [] => [[b]]
      | s :: ss => (b :: s) :: ss

/-- Pieces with slashes between them. -/
def joinPieces : List (List UInt8) → List UInt8
  | [] => []
  | [s] => s
  | s :: ss => s ++ slash :: joinPieces ss

/-- There is always a piece. -/
theorem slashPieces_ne_nil (bs : List UInt8) : slashPieces bs ≠ [] := by
  fun_cases slashPieces bs <;> simp

/-- Splitting at slashes loses nothing. -/
@[simp] theorem joinPieces_slashPieces (bs : List UInt8) : joinPieces (slashPieces bs) = bs := by
  fun_induction slashPieces bs with
  | case1 => rfl
  | case2 bs ih =>
    cases h : slashPieces bs with
    | nil => exact absurd h (slashPieces_ne_nil bs)
    | cons s ss => rw [h] at ih; simp [joinPieces, ih]
  | case3 b bs hb hs ih => exact absurd hs (slashPieces_ne_nil bs)
  | case4 b bs hb s ss hs ih =>
    rw [hs] at ih
    cases ss with
    | nil => simp_all [joinPieces]
    | cons t ts => simp_all [joinPieces]

/-- Whether a piece names something: it is neither empty nor a point. -/
def isSignificant (s : List UInt8) : Bool := s != [] && s != [point]

/-- The pieces up to the last one that names something. -/
def trimEnd : List (List UInt8) → List (List UInt8)
  | [] => []
  | s :: ss =>
    match trimEnd ss with
    | [] => if isSignificant s then [s] else []
    | t :: ts => s :: t :: ts

/-- The pieces after some that name something. -/
def dropSignificant : Nat → List (List UInt8) → List (List UInt8)
  | 0, ss => ss
  | _ + 1, [] => []
  | n + 1, s :: ss => if isSignificant s then dropSignificant n ss else dropSignificant (n + 1) ss

/-- Trimming makes nothing longer. -/
theorem length_trimEnd_le (ss : List (List UInt8)) : (trimEnd ss).length ≤ ss.length := by
  fun_induction trimEnd ss with
  | case1 => exact Nat.le_refl _
  | case2 s ss _ _ ih => simp
  | case3 s ss _ _ ih => simp
  | case4 s ss t ts h ih => rw [h] at ih; simpa using ih

/-! ## Paths and their components -/

/-- A path, as it is spelled. -/
structure Path where
  /-- The spelling. -/
  spelling : OsText
  deriving DecidableEq, Repr

/-- The path that a text spells. -/
def Path.ofText (s : String) : Path := ⟨s⟩

/-- The path as it is shown to readers. -/
def Path.text (p : Path) : String := p.spelling.shown

/-- A component of a path. -/
inductive Component where
  /-- The slash at the start of an absolute path. -/
  | root
  /-- The point at the start of a relative path. -/
  | here
  /-- Two points. -/
  | up
  | name (s : OsText)
  deriving DecidableEq, Repr

namespace Component

/-- The place of a component in the order of components: the root, a point, two points, and then
names in the order of their bytes. -/
def key : Component → List Nat
  | root => [0]
  | here => [1]
  | up => [2]
  | name s => 3 :: s.bytes.map UInt8.toNat

/-- The component that a piece between slashes names. -/
def ofSegment (s : List UInt8) : Component := if s = [point, point] then up else name ⟨s⟩

/-- Components in the same place of the order are the same. -/
theorem key_injective {a b : Component} (h : a.key = b.key) : a = b := by
  have hbyte : Function.Injective UInt8.toNat := fun c d hcd => UInt8.toNat_inj.1 hcd
  cases a <;> cases b <;> simp [key] at h ⊢
  exact congrArg OsText.mk ((List.map_inj_right @hbyte).1 h)

end Component

namespace Path

/-- How a path begins. -/
inductive Lead where
  | root
  | here
  | bare
  deriving DecidableEq, Repr

/-- How the path begins, and the pieces between the slashes that follow. -/
def parts (p : Path) : Lead × List (List UInt8) :=
  match slashPieces p.spelling.bytes with
  | [] :: s :: ss => (.root, s :: ss)
  | s :: ss => if s = [point] then (.here, ss) else (.bare, s :: ss)
  | [] => (.bare, [])

/-- How the path begins. -/
def lead (p : Path) : Lead := p.parts.1

/-- The pieces after the beginning. -/
def body (p : Path) : List (List UInt8) := p.parts.2

/-- The path with the given beginning and pieces. -/
def ofParts : Lead → List (List UInt8) → Path
  | .root, ss => ⟨⟨slash :: joinPieces ss⟩⟩
  | .here, [] => ⟨⟨[point]⟩⟩
  | .here, ss => ⟨⟨point :: slash :: joinPieces ss⟩⟩
  | .bare, ss => ⟨⟨joinPieces ss⟩⟩

/-- The component at the beginning, if the beginning is one. -/
def Lead.components : Lead → List Component
  | .root => [.root]
  | .here => [.here]
  | .bare => []

/-- The components. -/
def components (p : Path) : List Component :=
  p.lead.components ++ (p.body.filter isSignificant).map Component.ofSegment

/-- Whether two paths mean the same. -/
def same (p q : Path) : Bool := p.components == q.components

/-- The place of a path in the order of paths. -/
def key (p : Path) : List (List Nat) := p.components.map Component.key

/-- Whether a path comes before another in the order of paths. -/
def before (p q : Path) : Bool := decide (p.key < q.key)

/-- Whether the components of a path begin with those of another. -/
def startsWith (p base : Path) : Bool := base.components.isPrefixOf p.components

/-- Whether the path begins at the root. -/
def isAbsolute (p : Path) : Bool := p.lead == .root

/-- Whether the path is spelled with no byte at all. -/
def isEmpty (p : Path) : Bool := p.spelling.bytes == []

/-! ## Going down -/

/-- A path below a path. An absolute path stands for itself; else one slash is put between the two,
unless the first ends with one or is empty. -/
def join (p q : Path) : Path :=
  if q.isAbsolute then q
  else if p.isEmpty || p.spelling.bytes.getLast? == some slash then
    ⟨⟨p.spelling.bytes ++ q.spelling.bytes⟩⟩
  else ⟨⟨p.spelling.bytes ++ slash :: q.spelling.bytes⟩⟩

/-- What is spelled after the first components, without slashes and points at either end. -/
def afterComponents (p : Path) (n : Nat) : Path :=
  match n, p.lead with
  | 0, lead => ofParts lead (trimEnd p.body)
  | n, .bare => ofParts .bare (trimEnd ((dropSignificant n p.body).dropWhile (!isSignificant ·)))
  | n + 1, _ => ofParts .bare (trimEnd ((dropSignificant n p.body).dropWhile (!isSignificant ·)))

/-- The path relative to another, if it lies below that. -/
def stripPrefix? (p base : Path) : Option Path :=
  if p.startsWith base then some (p.afterComponents base.components.length) else none

/-! ## Going up -/

/-- The initial segments of some pieces, from the longest to the empty one, each up to a piece that
names something. -/
def upward (ss : List (List UInt8)) : List (List (List UInt8)) :=
  match ss with
  | [] => []
  | s :: ss => trimEnd (s :: ss).dropLast :: upward (trimEnd (s :: ss).dropLast)
termination_by ss.length
decreasing_by
  have h := length_trimEnd_le (s :: ss).dropLast
  simp only [List.length_dropLast, List.length_cons, Nat.add_sub_cancel] at h ⊢
  omega

/-- The ancestors of a path without the path itself, from the nearest to the farthest. Of a
relative path the empty path is the last. -/
def properAncestors (p : Path) : List Path :=
  (upward (trimEnd p.body)).map (ofParts p.lead) ++
    (match p.lead with
    | .here => [⟨⟨[]⟩⟩]
    | _ => [])

/-- The path without its last component; the root and the empty path have no parent. -/
def parent? (p : Path) : Option Path := p.properAncestors.head?

/-! ## The last component -/

/-- The last component, if it is a name. -/
def fileName? (p : Path) : Option OsText :=
  match p.components.getLast? with
  | some (.name s) => some s
  | _ => none

/-- The part of a name after its last point, if something stands before that point. -/
def extensionOf? (name : OsText) : Option OsText :=
  let after := (name.bytes.reverse.takeWhile (· != point)).reverse
  let before := name.bytes.take (name.bytes.length - 1 - after.length)
  if after.length = name.bytes.length ∨ before = [] then none else some ⟨after⟩

/-- The extension of the last component. -/
def extension? (p : Path) : Option OsText := p.fileName?.bind extensionOf?

end Path

end LexicalFront
