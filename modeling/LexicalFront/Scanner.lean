import LexicalFront.Cursor
set_option autoImplicit false
set_option relaxedAutoImplicit false

/-!
# Taking lexemes off a text

The scanner works on bytes. It chooses a rule by the byte under the cursor, and the rule moves the
cursor over the lexeme, by single bytes, by whole characters, or by a search in the bytes that are
left; the length of the lexeme is how far the cursor has come. Where a rule asks for a byte past the
end of the text it is given zero.

`LexicalFront.Cursor.scan` says which lexeme this is, from the characters that are left.

## Main definitions

* `LexicalFront.Cursor.Taken` — a lexeme, and the cursor behind it.
* `LexicalFront.Cursor.takeLexeme` — the choice of the rule.
* `LexicalFront.Cursor.afterLexemes`, `LexicalFront.Cursor.lexeme` — lexemes taken one after the
  other.
-/

namespace LexicalFront

/-- The operator whose spelling has exactly these bytes. -/
def Operator.ofBytes? (bytes : List UInt8) : Option Operator :=
  all.find? fun o => utf8Bytes o.spelling.toList == bytes

/-- What a look-up finds for the first bytes, and their number, which is tried from a given one down
to one. -/
def startOf? {α : Type} (ofBytes? : List UInt8 → Option α) (bytes : List UInt8) :
    Nat → Option (α × Nat)
  | 0 => none
  | n + 1 =>
    match ofBytes? (bytes.take (n + 1)) with
    | some a => some (a, n + 1)
    | none => startOf? ofBytes? bytes n

namespace Cursor

/-! ## Reading and moving -/

/-- The character that the byte at some distance is. A byte that is no ASCII character, but a part
of a longer one, is read as one of the characters from U+0080 to U+00FF. -/
def peek (c : Cursor) (distance : Nat) : Char := Char.ofUInt8 (c.lookahead distance)

/-- The cursor moved past the bytes that satisfy a test as characters. -/
def eatChars (c : Cursor) (p : Char → Bool) : Cursor := c.eatWhile fun b => p (Char.ofUInt8 b)

/-- A byte other than zero lies before the end of the text. -/
theorem lt_of_lookahead_ne_zero {c : Cursor} {n : Nat} (h : c.lookahead n ≠ 0) :
    c.pos + n < c.sourceLength := by
  rw [sourceLength, ← utf8Length_toList, ← length_utf8Bytes]
  refine Nat.lt_of_not_ge fun hle => h ?_
  rw [lookahead, List.getD_eq_getElem?_getD, List.getElem?_eq_none hle, Option.getD_none]

/-- Whether a word goes on with an ASCII character. -/
def isAsciiPart (x : Char) : Bool := isAsciiLetter x || Radix.decimal.isDigit x || x == '_'

/-- The cursor moved past the rest of a word: ASCII characters byte by byte, others as a whole. -/
def eatWord (c : Cursor) : Cursor :=
  if _h : isAsciiPart (c.peek 0) = true then eatWord (c.advance 1)
  else if _h : 0x80 ≤ c.current ∧ c.char?.any isAlphanumeric = true then eatWord c.advanceChar
  else c
termination_by c.sourceLength - c.pos
decreasing_by
  · have hne : c.lookahead 0 ≠ 0 := by
      intro h0
      rw [peek, h0] at _h
      exact absurd _h (by decide)
    have := lt_of_lookahead_ne_zero hne
    show c.sourceLength - (c.pos + 1) < c.sourceLength - c.pos
    omega
  · have hne : c.lookahead 0 ≠ 0 := by
      intro h0
      rw [current, h0] at _h
      exact absurd _h.1 (by decide)
    have := lt_of_lookahead_ne_zero hne
    have hwidth : 1 ≤ c.char?.elim 1 Char.utf8Size := by
      cases c.char? with
      | none => exact Nat.le_refl 1
      | some x => exact x.utf8Size_pos
    show c.sourceLength - (c.pos + c.char?.elim 1 Char.utf8Size) < c.sourceLength - c.pos
    omega

/-- A mark that is found lies between the cursor and the end of the text. -/
theorem skipToStringMark_of_ne_zero {c : Cursor} (h : c.skipToStringMark.2 ≠ 0) :
    c.skipToStringMark.1.source = c.source ∧ c.pos ≤ c.skipToStringMark.1.pos ∧
      c.skipToStringMark.1.pos < c.sourceLength := by
  unfold skipToStringMark at h ⊢
  split at h
  · next i heq =>
    refine ⟨rfl, Nat.le_add_right _ _, ?_⟩
    exact lt_of_lookahead_ne_zero (c := c.advance i) h
  · exact absurd rfl h

/-- The cursor moved past the rest of a string, and whether the string is closed. A backslash takes
the character behind it along, unless that is a line break or there is none. -/
def eatString (c : Cursor) : Cursor × Bool :=
  if c.skipToStringMark.2 = 0x22 then (c.skipToStringMark.1.advance 1, true)
  else if _h : c.skipToStringMark.2 = 0x5c then
    let escaped := c.skipToStringMark.1.advance 1
    if escaped.atEnd || isBreak (escaped.peek 0) then (escaped, false)
    else eatString escaped.advanceChar
  else (c.skipToStringMark.1, false)
termination_by c.sourceLength - c.pos
decreasing_by
  obtain ⟨hsource, hle, hlt⟩ :=
    skipToStringMark_of_ne_zero (c := c) (by rw [_h]; decide)
  show Cursor.sourceLength ⟨c.skipToStringMark.1.source, _⟩ -
    (c.skipToStringMark.1.pos + 1 + _) < c.sourceLength - c.pos
  rw [sourceLength, hsource, ← sourceLength]
  omega

/-- The cursor moved past a fraction, if one follows: a point before a digit. -/
def eatFraction? (c : Cursor) : Option Cursor :=
  if c.peek 0 = '.' ∧ Radix.decimal.isDigit (c.peek 1) = true then
    some ((c.advance 1).eatChars Radix.decimal.isDigitOrUnderscore)
  else none

/-- The cursor moved past an exponent, if one follows: a letter before a digit, perhaps with a sign
between them. -/
def eatExponent? (c : Cursor) : Option Cursor :=
  if c.peek 0 = 'e' ∨ c.peek 0 = 'E' then
    let mark := if c.peek 1 = '+' ∨ c.peek 1 = '-' then 2 else 1
    if Radix.decimal.isDigit (c.peek mark) = true then
      some ((c.advance mark).eatChars Radix.decimal.isDigitOrUnderscore)
    else none
  else none

/-! ## The rules -/

/-- A lexeme that has been taken off the text. -/
structure Taken where
  /-- The tag. -/
  tag : Tag
  /-- The length in bytes. -/
  length : Nat
  /-- The cursor behind it. -/
  rest : Cursor
  deriving DecidableEq, Repr

/-- The lexeme from one cursor to another. -/
def finish (c : Cursor) (tag : Tag) (stop : Cursor) : Taken := ⟨tag, stop.pos - c.pos, stop⟩

/-- Blanks. -/
def takeBlanks (c : Cursor) : Taken := c.finish .whitespace (c.eatChars isBlank)

/-- A carriage return: a line break with the line feed behind it, and else a blank by itself. -/
def takeCarriageReturn (c : Cursor) : Taken :=
  if (c.advance 1).peek 0 = '\n' then c.finish .newline (c.advance 2)
  else c.finish .whitespace (c.advance 1)

/-- A line feed. -/
def takeLineFeed (c : Cursor) : Taken := c.finish .newline (c.advance 1)

/-- A word. -/
def takeWord (c : Cursor) : Taken := c.finish .identifier c.advanceChar.eatWord

/-- A character that begins nothing. -/
def takeInvalid (c : Cursor) : Taken := c.finish .invalidChar c.advanceChar

/-- A character outside of ASCII: it begins a word or nothing. -/
def takeNonAscii (c : Cursor) : Taken :=
  if c.char?.any isAlphabetic then c.takeWord else c.takeInvalid

/-- The longest operator. -/
def takeOperator (c : Cursor) : Taken :=
  match startOf? Operator.ofBytes? c.rest (min Operator.maxLength c.rest.length) with
  | some (o, n) => c.finish (.operator o) (c.advance n)
  | none => c.takeInvalid

/-- A comment, or an operator that begins with a slash. -/
def takeSlash (c : Cursor) : Taken :=
  if c.peek 1 = '/' then c.finish .lineComment (c.advance 2).eatLine
  else if c.peek 1 = '*' then
    let body := (c.advance 2).eatBlockComment
    c.finish (if body.2 then .blockComment else .unterminatedBlockComment) body.1
  else c.takeOperator

/-- An integer whose base is announced. -/
def takeRadixInteger (c : Cursor) (r : Radix) : Taken :=
  let digits := c.advance 2
  let stop := digits.eatChars r.isDigitOrUnderscore
  let bytes := utf8Bytes (stop.sliceFrom digits.pos).toList
  c.finish (if bytes.any fun b => r.isDigit (Char.ofUInt8 b) then .integer r
    else .missingRadixDigits) stop

/-- A decimal number, with a fraction and an exponent where they follow. -/
def takeDecimal (c : Cursor) : Taken :=
  let digits := c.eatChars Radix.decimal.isDigitOrUnderscore
  let fraction := digits.eatFraction?
  let exponent := (fraction.getD digits).eatExponent?
  c.finish (if fraction.isSome || exponent.isSome then .float else .integer .decimal)
    (exponent.getD (fraction.getD digits))

/-- A number: a zero before the letter of a base announces the base. -/
def takeNumber (c : Cursor) : Taken :=
  if c.peek 0 = '0' then
    match Radix.ofMark? (c.peek 1) with
    | some r => c.takeRadixInteger r
    | none => c.takeDecimal
  else c.takeDecimal

/-- A string. -/
def takeString (c : Cursor) : Taken :=
  let body := (c.advance 1).eatString
  c.finish (if body.2 then .string else .unterminatedString) body.1

/-! ## The choice of the rule -/

/-- The characters that begin operators, the slash excepted. -/
def operatorMarks : List Char :=
  ['+', '-', '*', '%', '^', '&', '|', '~', '!', '=', '<', '>', '.', '?', ':', '(', ')', '[', ']',
    '\x7b', '\x7d', ',', ';', '@', '#']

/-- The lexeme at the cursor, taken off. At the end of the text it is the end of input, and the
cursor stays where it is. -/
def takeLexeme (c : Cursor) : Taken :=
  if c.atEnd then ⟨.endOfInput, 0, c⟩
  else
    let x := c.peek 0
    if isBlank x then c.takeBlanks
    else if x = '\r' then c.takeCarriageReturn
    else if x = '\n' then c.takeLineFeed
    else if isAsciiLetter x || x == '_' then c.takeWord
    else if Radix.decimal.isDigit x then c.takeNumber
    else if x = '"' then c.takeString
    else if x = '/' then c.takeSlash
    else if x ∈ operatorMarks then c.takeOperator
    else if 0x80 ≤ c.current then c.takeNonAscii
    else c.takeInvalid

/-- The cursor after some lexemes. -/
def afterLexemes (c : Cursor) : Nat → Cursor
  | 0 => c
  | n + 1 => c.takeLexeme.rest.afterLexemes n

/-- The lexeme that is taken off after a number of others, as its tag and its length. -/
def lexeme (c : Cursor) (n : Nat) : Tag × Nat :=
  ((c.afterLexemes n).takeLexeme.tag, (c.afterLexemes n).takeLexeme.length)

end Cursor

end LexicalFront
