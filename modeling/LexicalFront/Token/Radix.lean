set_option autoImplicit false
set_option relaxedAutoImplicit false

/-!
# Bases of integer literals

## Main definitions

* `LexicalFront.Radix` — the bases, with their digits and the letter that announces them.
-/

namespace LexicalFront

/-- The base of an integer literal. -/
inductive Radix where
  | binary
  | octal
  | decimal
  | hexadecimal
  deriving DecidableEq, Repr

namespace Radix

/-- The base as a number. -/
def base : Radix → Nat
  | .binary => 2
  | .octal => 8
  | .decimal => 10
  | .hexadecimal => 16

/-- The name of the base in inspection texts. -/
def label : Radix → String
  | .binary => "Binary"
  | .octal => "Octal"
  | .decimal => "Decimal"
  | .hexadecimal => "Hexadecimal"

/-- Digits of the base; letters count in both cases. -/
def isDigit : Radix → Char → Bool
  | .binary, c => c == '0' || c == '1'
  | .octal, c => '0' ≤ c && c ≤ '7'
  | .decimal, c => '0' ≤ c && c ≤ '9'
  | .hexadecimal, c =>
    ('0' ≤ c && c ≤ '9') || ('a' ≤ c && c ≤ 'f') || ('A' ≤ c && c ≤ 'F')

/-- The base announced by a letter after a leading zero, in either case. -/
def ofMark? (c : Char) : Option Radix :=
  if c = 'x' ∨ c = 'X' then some .hexadecimal
  else if c = 'o' ∨ c = 'O' then some .octal
  else if c = 'b' ∨ c = 'B' then some .binary
  else none

/-- Characters a run of digits may hold: digits of the base, and underscores between them. -/
def isDigitOrUnderscore (r : Radix) (c : Char) : Bool :=
  r.isDigit c || c == '_'

end Radix

end LexicalFront
