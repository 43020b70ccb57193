import LexicalFront.Error
import LexicalFront.Manifest
import LexicalFront.TokenStream
set_option autoImplicit false
set_option relaxedAutoImplicit false

/-!
# Compilation units

A unit holds a text, if it is loaded, and a counter, the generation, that moves on whenever a text
is replaced by another one or taken away. So handles that remember a generation can tell whether the
text they point into is still there. The tokens of the text are computed once and remembered until
the generation moves on.

A unit that has left its module is retired: it holds no text any more and takes none.

## Main definitions

* `LexicalFront.CompilationUnit` — the state of a unit.
* `CompilationUnit.replace`, `CompilationUnit.clear`, `CompilationUnit.retire` — changes of the
  text.
* `CompilationUnit.tokens?`, `CompilationUnit.remember` — the tokens, and remembering them.
* `LexicalFront.TokenRef` — a token found through a handle, with the stream it belongs to.
-/

namespace LexicalFront

/-- Modules are told apart by number. -/
abbrev ModuleId := Nat

/-- The state of a unit. -/
structure CompilationUnit where
  /-- The module that the unit was made for. -/
  owner : ModuleId
  /-- The location of the file, below that of the module. -/
  location : Option Path
  /-- The text, if the unit is loaded. -/
  representation : Option String
  /-- How often the text has been replaced by another one or taken away. -/
  generation : Nat
  /-- The tokens, if they have been computed since. -/
  memo : Option TokenStream
  /-- Whether the unit has left its module. -/
  retired : Bool
  deriving DecidableEq, Repr

/-- A token found through a handle. -/
structure TokenRef where
  /-- The stream of the token. -/
  stream : TokenStream
  /-- The generation of the unit. -/
  generation : Nat
  /-- The number of the token in the stream. -/
  index : Nat
  deriving DecidableEq, Repr

/-- A generation in inspection texts. -/
def inspectGeneration (g : Nat) : String := s!"Generation({g})"

/-- A value that may be missing in inspection texts. -/
def inspectOption : Option String → String
  | some s => s!"Some({s})"
  | none => "None"

/-- A truth value in inspection texts. -/
def inspectBool (b : Bool) : String := if b then "true" else "false"

namespace TokenRef

/-- The token; were the number out of range, the end marker. -/
def token (r : TokenRef) : Token :=
  (r.stream.get? r.index).getD (.endMarker r.stream.source.utf8ByteSize)

/-- The token in inspection texts. -/
def inspect (r : TokenRef) : String :=
  "TokenRef \x7b generation: " ++ inspectGeneration r.generation ++ ", index: " ++
    toString r.index ++ ", token: " ++ r.token.inspect ++ " \x7d"

end TokenRef

namespace CompilationUnit

/-- A new unit, which may have a text from the start. -/
def new (owner : ModuleId) (location : Option Path) (representation : Option String) :
    CompilationUnit :=
  ⟨owner, location, representation, 0, none, false⟩

/-- Whether the unit has a text. -/
def isLoaded (u : CompilationUnit) : Bool := u.representation.isSome

/-! ## Tokens -/

/-- The tokens of the text: those remembered, or else those computed now. -/
def tokens? (u : CompilationUnit) : Option TokenStream :=
  u.representation.map fun text => u.memo.getD (.lex text)

/-- The unit after its tokens have been asked for. Without a text there is nothing to remember. -/
def remember (u : CompilationUnit) : CompilationUnit :=
  match u.tokens? with
  | some s => { u with memo := some s }
  | none => u

/-! ## Changes of the text -/

/-- The unit at the next generation, with no tokens remembered. -/
def advance (u : CompilationUnit) : CompilationUnit :=
  { u with generation := u.generation + 1, memo := none }

/-- The unit with a text installed, and whether this changed its text. The first text of a unit
without one does not move the generation. A retired unit takes no text. -/
def replace (u : CompilationUnit) (text : String) : CompilationUnit × Bool :=
  if u.retired then (u, false)
  else
    match u.representation with
    | none => ({ u with representation := some text }, true)
    | some current =>
      if current = text then (u, false)
      else ({ u.advance with representation := some text }, true)

/-- The unit without a text. The generation moves even if there was none. -/
def clear (u : CompilationUnit) : CompilationUnit :=
  { u.advance with representation := none }

/-- The unit after leaving its module, for good. -/
def retire (u : CompilationUnit) : CompilationUnit :=
  if u.retired then u else { u.advance with representation := none, retired := true }

/-! ## Handles -/

/-- Whether a handle may be taken to the token of this number. -/
def canRefer (u : CompilationUnit) (index : Nat) : Bool :=
  !u.retired && u.tokens?.any fun s => index < s.length

/-- Whether a handle that was taken at a generation is valid. -/
def isCurrent (u : CompilationUnit) (captured : Nat) : Bool :=
  !u.retired && u.generation == captured

/-- The generation that a failing handle is told about. -/
def currentGeneration? (u : CompilationUnit) : Option Nat :=
  if u.retired then none else some u.generation

/-- The token of this number, for a handle that was taken at a generation. -/
def resolve (u : CompilationUnit) (captured index : Nat) : Except LexicalError TokenRef :=
  if u.isCurrent captured then
    match u.tokens? with
    | some s =>
      if index < s.length then .ok ⟨s, captured, index⟩
      else .error (.invalidated captured u.currentGeneration?)
    | none => .error (.invalidated captured u.currentGeneration?)
  else .error (.invalidated captured u.currentGeneration?)

/-! ## Records and inspection -/

/-- What is recorded of the unit. A text that can be loaded again is not. -/
def manifest (u : CompilationUnit) : UnitManifest :=
  ⟨u.location, if u.location.isSome then none else u.representation⟩

/-- The unit in inspection texts. -/
def inspect (u : CompilationUnit) : String :=
  "CompilationUnit \x7b location: " ++
    inspectOption (u.location.map fun p => p.spelling.inspect) ++ ", generation: " ++
    inspectGeneration u.generation ++ ", loaded: " ++ inspectBool u.isLoaded ++ ", retired: " ++
    inspectBool u.retired ++ ", .. \x7d"

end CompilationUnit

end LexicalFront
