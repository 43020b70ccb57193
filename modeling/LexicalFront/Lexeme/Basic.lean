import LexicalFront.Lexeme.Tag
import LexicalFront.Text.CharClass
set_option autoImplicit false
set_option relaxedAutoImplicit false

/-!
# Cutting a text into lexemes

The rules of the scanner, one for each way a lexeme may begin. A rule looks at the text after the
first character of the lexeme and says how many more characters belong to it; so every lexeme has
at least one character, and the scan of a text ends.

Nothing is refused: a lexeme that breaks off is tagged as malformed and covers exactly the
characters that were consumed, and a character that begins no lexeme is one of its own.

## Main definitions

* `LexicalFront.Lexeme` — a tagged piece of text.
* `LexicalFront.Extent` — what a rule says: the tag and the number of further characters.
* `LexicalFront.firstExtent` — the rule for the first lexeme of a text, chosen by its first
  character.
* `LexicalFront.lexemes` — the lexemes of a text.

## Main results

* `LexicalFront.flatMap_lexemes` — the lexemes of a text, put together, are the text.
-/

namespace LexicalFront

/-- A piece of text with the rule it follows. -/
structure Lexeme where
  /-- The rule. -/
  tag : Tag
  /-- The characters. -/
  chars : List Char
  deriving DecidableEq, Repr

/-- The outcome of a rule. -/
structure Extent where
  /-- The tag of the lexeme. -/
  tag : Tag
  /-- How many characters belong to it after the first one. -/
  more : Nat
  deriving DecidableEq, Repr

/-! ## Characters that rules look at -/

/-- Horizontal blanks: space, tab, vertical tab and form feed. -/
def isBlank (c : Char) : Bool :=
  c == ' ' || c == '\t' || c == '\x0b' || c == '\x0c'

/-- Characters that break a line, together or each alone. -/
def isBreak (c : Char) : Bool :=
  c == '\n' || c == '\r'

/-- ASCII letters. -/
def isAsciiLetter (c : Char) : Bool :=
  ('a' ≤ c && c ≤ 'z') || ('A' ≤ c && c ≤ 'Z')

/-- Characters an identifier may begin with: letters, underscore, and alphabetic characters
outside ASCII. -/
def isIdentifierStart (c : Char) : Bool :=
  isAsciiLetter c || c == '_' || (0x80 ≤ c.toNat && isAlphabetic c)

/-- Characters an identifier may go on with: letters, digits, underscore, and alphanumeric
characters outside ASCII. -/
def isIdentifierPart (c : Char) : Bool :=
  isAsciiLetter c || Radix.decimal.isDigit c || c == '_' || (0x80 ≤ c.toNat && isAlphanumeric c)

/-! ## Numbers -/

/-- The length of the run of digits and underscores that a text starts with. -/
def digitRun (r : Radix) (cs : List Char) : Nat :=
  (cs.takeWhile r.isDigitOrUnderscore).length

/-- The length of the fraction that a text starts with: a point, a digit, and further digits. It is
zero where no digit follows the point, so that the point of a range or of a member stays outside. -/
def fractionLength : List Char → Nat
  | '.' :: d :: cs => if Radix.decimal.isDigit d then 2 + digitRun .decimal cs else 0
  | _ => 0

/-- The length of the sign that a text starts with. -/
def signLength : List Char → Nat
  | c :: _ => if c = '+' ∨ c = '-' then 1 else 0
  | [] => 0

/-- The length of the exponent that a text starts with: a letter `e`, perhaps a sign, a digit, and
further digits. It is zero where no digit follows, so that the letter begins an identifier. -/
def exponentLength : List Char → Nat
  | e :: cs =>
    if e = 'e' ∨ e = 'E' then
      match cs.drop (signLength cs) with
      | d :: ds => if Radix.decimal.isDigit d then 2 + signLength cs + digitRun .decimal ds else 0
      | [] => 0
    else 0
  | [] => 0

/-- A number that begins with a digit and goes on with `cs`: more digits, then perhaps a fraction,
then perhaps an exponent. Either of the two makes it a float. -/
def decimalExtent (cs : List Char) : Extent :=
  let digits := digitRun .decimal cs
  let fraction := fractionLength (cs.drop digits)
  let exponent := exponentLength (cs.drop (digits + fraction))
  ⟨if fraction + exponent = 0 then .integer .decimal else .float, digits + fraction + exponent⟩

/-- An integer whose base is announced by a zero and a letter, of which the letter and the digits
follow. All underscores, or nothing at all, is no number. -/
def radixExtent (r : Radix) (cs : List Char) : Extent :=
  ⟨if (cs.takeWhile r.isDigitOrUnderscore).any r.isDigit then .integer r else .missingRadixDigits,
    1 + digitRun r cs⟩

/-- A number that begins with the digit `c`. -/
def numberExtent (c : Char) (cs : List Char) : Extent :=
  match cs with
  | m :: ds =>
    if c = '0' then
      match Radix.ofMark? m with
      | some r => radixExtent r ds
      | none => decimalExtent cs
    else decimalExtent cs
  | [] => decimalExtent cs

/-! ## Strings and comments -/

/-- How a string goes on after its quote: whether it is closed, and by how many characters. A
backslash takes the character after it along, but not a line break; a string that meets a line
break or the end of the text is broken off there. -/
def stringBody : List Char → Bool × Nat
  | [] => (false, 0)
  | '"' :: _ => (true, 1)
  | '\\' :: [] => (false, 1)
  | '\\' :: c :: cs =>
    if isBreak c then (false, 1)
    else
      let body := stringBody cs
      (body.1, 2 + body.2)
  | c :: cs =>
    if isBreak c then (false, 0)
    else
      let body := stringBody cs
      (body.1, 1 + body.2)

/-- A string whose quote is followed by `cs`. -/
def stringExtent (cs : List Char) : Extent :=
  let body := stringBody cs
  ⟨if body.1 then .string else .unterminatedString, body.2⟩

/-- The number of characters up to and including the first closing mark of a block comment. -/
def blockCommentEnd? : List Char → Option Nat
  | '*' :: '/' :: _ => some 2
  | _ :: cs => (blockCommentEnd? cs).map (1 + ·)
  | [] => none

/-- A comment whose first slash is followed by `cs`, if it is a comment. A line comment leaves the
line break out; a block comment that is not closed takes the rest of the text. -/
def commentExtent? : List Char → Option Extent
  | '/' :: cs => some ⟨.lineComment, 1 + (cs.takeWhile (!isBreak ·)).length⟩
  | '*' :: cs =>
    match blockCommentEnd? cs with
    | some n => some ⟨.blockComment, 1 + n⟩
    | none => some ⟨.unterminatedBlockComment, 1 + cs.length⟩
  | _ => none

/-! ## The first lexeme -/

/-- A carriage return followed by `cs`: a line break with the line feed after it, and else a blank
by itself. -/
def carriageReturnExtent : List Char → Extent
  | '\n' :: _ => ⟨.newline, 1⟩
  | _ => ⟨.whitespace, 0⟩

/-- The longest operator that a text starts with, or a character that begins nothing. -/
def operatorExtent (c : Char) (cs : List Char) : Extent :=
  match Operator.longest? (c :: cs) with
  | some o => ⟨.operator o, o.spelling.toList.length - 1⟩
  | none => ⟨.invalidChar, 0⟩

/-- The first lexeme of the text that begins with `c` and goes on with `cs`. -/
def firstExtent (c : Char) (cs : List Char) : Extent :=
  if isBlank c then ⟨.whitespace, (cs.takeWhile isBlank).length⟩
  else if c = '\r' then carriageReturnExtent cs
  else if c = '\n' then ⟨.newline, 0⟩
  else if isIdentifierStart c then ⟨.identifier, (cs.takeWhile isIdentifierPart).length⟩
  else if Radix.decimal.isDigit c then numberExtent c cs
  else if c = '"' then stringExtent cs
  else if c = '/' then (commentExtent? cs).getD (operatorExtent c cs)
  else operatorExtent c cs

/-! ## All lexemes -/

/-- The lexemes of a text, in order. -/
def lexemes : List Char → List Lexeme
  | [] => []
  | c :: cs =>
    let extent := firstExtent c cs
    ⟨extent.tag, c :: cs.take extent.more⟩ :: lexemes (cs.drop extent.more)
termination_by cs => cs.length

@[simp] theorem lexemes_nil : lexemes [] = [] := by
  rw [lexemes]

/-- The first lexeme of a non-empty text, and the lexemes of the rest. -/
theorem lexemes_cons (c : Char) (cs : List Char) :
    lexemes (c :: cs) = ⟨(firstExtent c cs).tag, c :: cs.take (firstExtent c cs).more⟩ ::
      lexemes (cs.drop (firstExtent c cs).more) := by
  rw [lexemes]

/-- Nothing of a text is lost or added. -/
theorem flatMap_lexemes (cs : List Char) : (lexemes cs).flatMap Lexeme.chars = cs := by
  fun_induction lexemes cs with
  | case1 => rfl
  | case2 c cs extent ih =>
    simp only [List.flatMap_cons, ih, List.cons_append, List.take_append_drop]

/-- Every lexeme has a character. -/
theorem chars_ne_nil_of_mem_lexemes {cs : List Char} {l : Lexeme} (h : l ∈ lexemes cs) :
    l.chars ≠ [] := by
  fun_induction lexemes cs with
  | case1 => simp at h
  | case2 c cs extent ih =>
    rcases List.mem_cons.1 h with rfl | h
    · simp
    · exact ih h

end LexicalFront
