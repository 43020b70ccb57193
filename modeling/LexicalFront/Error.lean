import LexicalFront.Files.Basic
set_option autoImplicit false
set_option relaxedAutoImplicit false

/-!
# Errors

What can go wrong with units, handles and modules. Malformed text is not among it: that is a
matter of tokens.

## Main definitions

* `LexicalFront.LexicalError` — the causes.
* `LexicalFront.LexicalError.message` — the messages.
-/

namespace LexicalFront

/-- Why an operation on a unit, a handle or a module fails. -/
inductive LexicalError where
  /-- A unit has no file to load from: the unit or its module has no location, or the unit has no
  module. -/
  | noRepresentationSource
  /-- A file or a directory cannot be read. -/
  | ioFailure (path : Path) (cause : FileError)
  /-- A handle is older than the text of its unit; the unit is at another generation, or has left
  its module. -/
  | invalidated (captured : Nat) (current : Option Nat)
  /-- The location of a unit has to be relative. -/
  | absoluteUnitLocation (path : Path)
  /-- The location of a module has to be absolute. -/
  | relativeModuleLocation (path : Path)
  deriving DecidableEq, Repr

namespace LexicalError

/-- The message for readers. -/
def message : LexicalError → String
  | noRepresentationSource => "compilation unit has no persistent representation to load"
  | ioFailure p cause => "cannot read `" ++ p.text ++ "`: " ++ cause.message
  | invalidated captured current =>
    s!"reference taken at generation {captured} is stale " ++
      match current with
      | some g => s!"(unit is at generation {g})"
      | none => "(unit was removed)"
  | absoluteUnitLocation p => "compilation unit location `" ++ p.text ++ "` must be relative"
  | relativeModuleLocation p => "lexical module location `" ++ p.text ++ "` must be absolute"

/-- Whether the error tells that a handle is no longer valid. -/
def isInvalidated : LexicalError → Bool
  | invalidated _ _ => true
  | _ => false

end LexicalError

end LexicalFront
