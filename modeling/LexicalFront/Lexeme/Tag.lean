import LexicalFront.Token.Operator
import LexicalFront.Token.Radix
set_option autoImplicit false
set_option relaxedAutoImplicit false

/-!
# Tags of lexemes

The scanner cuts a text into lexemes and says by a tag which rule each one follows. Reserved words
are not told apart from other identifiers at this level.

## Main definitions

* `LexicalFront.Tag` — the rules a lexeme can follow, and the end of the text.
* `LexicalFront.Tag.code` — tags as numbers, grouped by `Tag.Group`.

## Main results

* `LexicalFront.Tag.group_eq_ofCode` — the group of a tag can be read off its number.
* `LexicalFront.Tag.code_injective` — no two tags have the same number.
-/

namespace LexicalFront

/-- What a lexeme is. -/
inductive Tag where
  | identifier
  | integer (radix : Radix)
  | float
  | string
  | operator (op : Operator)
  | whitespace
  | newline
  | lineComment
  | blockComment
  | invalidChar
  | unterminatedString
  | unterminatedBlockComment
  | missingRadixDigits
  | endOfInput
  deriving DecidableEq, Repr

namespace Tag

/-- The groups of tags. -/
inductive Group where
  | wordOrLiteral
  | operator
  | trivia
  | malformed
  | ending
  deriving DecidableEq, Repr

/-- The group of a tag. -/
def group : Tag → Group
  | identifier | integer _ | float | string => .wordOrLiteral
  | operator _ => .operator
  | whitespace | newline | lineComment | blockComment => .trivia
  | invalidChar | unterminatedString | unterminatedBlockComment | missingRadixDigits => .malformed
  | endOfInput => .ending

/-- Tags as numbers below 256. -/
def code : Tag → Nat
  | identifier => 0
  | integer .decimal => 1
  | float => 2
  | integer .hexadecimal => 3
  | integer .octal => 4
  | integer .binary => 5
  | string => 6
  | operator o => o.code
  | whitespace => 112
  | newline => 113
  | lineComment => 114
  | blockComment => 115
  | invalidChar => 240
  | unterminatedString => 241
  | unterminatedBlockComment => 242
  | missingRadixDigits => 243
  | endOfInput => 255

/-- The group to which a number is reserved. -/
def Group.ofCode (n : Nat) : Group :=
  if n < 32 then .wordOrLiteral
  else if n < 112 then .operator
  else if n < 240 then .trivia
  else if n < 255 then .malformed
  else .ending

/-- The spelling that all lexemes of the tag share, if they share one. -/
def lexeme? : Tag → Option String
  | operator o => some o.spelling
  | _ => none

/-- The name of the tag for readers: operators are named by their spelling. -/
def name : Tag → String
  | identifier => "identifier"
  | integer .decimal => "integer"
  | float => "float"
  | integer .hexadecimal => "hex integer"
  | integer .octal => "octal integer"
  | integer .binary => "binary integer"
  | string => "string"
  | operator o => o.spelling
  | whitespace => "whitespace"
  | newline => "newline"
  | lineComment => "line comment"
  | blockComment => "block comment"
  | invalidChar => "invalid character"
  | unterminatedString => "unterminated string"
  | unterminatedBlockComment => "unterminated block comment"
  | missingRadixDigits => "missing radix digits"
  | endOfInput => "end of input"

/-- All tags. -/
def all : List Tag :=
  [identifier, integer .decimal, float, integer .hexadecimal, integer .octal, integer .binary,
    string] ++ Operator.all.map operator ++
  [whitespace, newline, lineComment, blockComment, invalidChar, unterminatedString,
    unterminatedBlockComment, missingRadixDigits, endOfInput]

/-- Every tag is listed. -/
theorem mem_all (t : Tag) : t ∈ all := by
  cases t with
  | integer r => cases r <;> simp [all]
  | operator o => simp [all, Operator.mem_all o]
  | _ => simp [all]

/-- The ranges of the numbers are the groups. -/
theorem group_eq_ofCode (t : Tag) : t.group = Group.ofCode t.code := by
  have h : ∀ t ∈ all, t.group = Group.ofCode t.code := by decide
  exact h t (mem_all t)

/-- A tag can be found by its number. -/
theorem find?_code (t : Tag) : (all.find? fun u => u.code == t.code) = some t := by
  have h : ∀ t ∈ all, (all.find? fun u => u.code == t.code) = some t := by decide +kernel
  exact h t (mem_all t)

/-- Tags with the same number are the same. -/
theorem code_injective {a b : Tag} (h : a.code = b.code) : a = b := by
  have ha := find?_code a
  rw [h, find?_code b] at ha
  exact (Option.some.inj ha).symm

end Tag

end LexicalFront
