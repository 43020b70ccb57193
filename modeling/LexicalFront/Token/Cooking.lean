import LexicalFront.Scanner
import LexicalFront.Tokenizer
set_option autoImplicit false
set_option relaxedAutoImplicit false

/-!
# Classifying lexemes by tables

The scanner marks a lexeme by a plain tag, and each operator has a tag of its own: the operators
it looks for, and their spellings, are tables of tags. What the tag and the text of a lexeme make of
it is found in further tables, of which one takes tags to operators, and one holds the reserved
words by the number of their bytes.

## Main definitions

* `LexicalFront.RawTag` — the tags, with `RawTag.operators`, `RawTag.lexeme?` and
  `RawTag.cookOperator?`.
* `LexicalFront.Keyword.lookup?` — the reserved word that a text is.
* `LexicalFront.Cursor.rawToken` — the lexeme at a cursor, its operators found in the tables.
* `LexicalFront.RawTag.cook`, `LexicalFront.Tokenizer.nextCooked` — the kind of a lexeme, and the
  next token, by the tables.

## Main results

* `LexicalFront.Cursor.group_takeLexeme_ne_operator` — only where the scanner is sent to them are
  there operators.
-/

namespace LexicalFront

/-- The tags of the scanner. -/
inductive RawTag where
  | ident
  | int
  | float
  | hexInt
  | octInt
  | binInt
  | string
  | plus
  | minus
  | star
  | slash
  | percent
  | caret
  | ampersand
  | pipe
  | tilde
  | bang
  | equal
  | less
  | greater
  | dot
  | question
  | colon
  | equalEqual
  | bangEqual
  | lessEqual
  | greaterEqual
  | shl
  | shr
  | ampersandAmpersand
  | pipePipe
  | arrow
  | fatArrow
  | dotDot
  | dotDotLess
  | dotDotDot
  | colonColon
  | questionQuestion
  | plusEqual
  | minusEqual
  | starEqual
  | slashEqual
  | percentEqual
  | leftParen
  | rightParen
  | leftBracket
  | rightBracket
  | leftBrace
  | rightBrace
  | comma
  | semicolon
  | atSign
  | hash
  | whitespace
  | newline
  | lineComment
  | blockComment
  | invalidChar
  | unterminatedString
  | unterminatedBlockComment
  | missingRadixDigits
  | eof
  deriving DecidableEq, Repr

/-! ## Reserved words -/

namespace Keyword

/-- The reserved words with some number of bytes, each behind its text. -/
def withLength : Nat → List (String × Keyword)
  | 2 => [("as", .asWord), ("do", .doWord), ("if", .ifWord), ("in", .inWord), ("is", .isWord)]
  | 3 => [("for", .forWord), ("let", .letWord), ("nil", .nilWord), ("try", .tryWord),
      ("var", .varWord)]
  | 4 => [("Self", .selfType), ("case", .caseWord), ("else", .elseWord), ("enum", .enumWord),
      ("func", .funcWord), ("init", .initWord), ("self", .selfValue), ("true", .trueWord),
      ("type", .typeWord)]
  | 5 => [("break", .breakWord), ("defer", .deferWord), ("false", .falseWord),
      ("guard", .guardWord), ("throw", .throwWord), ("where", .whereWord), ("while", .whileWord)]
  | 6 => [("import", .importWord), ("public", .publicWord), ("repeat", .repeatWord),
      ("return", .returnWord), ("struct", .structWord), ("switch", .switchWord),
      ("throws", .throwsWord)]
  | 7 => [("default", .defaultWord), ("private", .privateWord)]
  | 8 => [("continue", .continueWord), ("internal", .internalWord), ("protocol", .protocolWord)]
  | 9 => [("extension", .extensionWord)]
  | _ => []

/-- The reserved word that a text is. Only texts of two to nine bytes that begin with a letter are
looked up. -/
def lookup? (text : String) : Option Keyword :=
  let bytes := utf8Bytes text.toList
  if 2 ≤ bytes.length ∧ bytes.length ≤ 9 ∧
      bytes.head?.any (fun b => isAsciiLetter (Char.ofUInt8 b)) = true then
    (withLength bytes.length).lookup text
  else none

end Keyword

/-! ## Operators -/

namespace RawTag

/-- The tags of all operators, longest spellings first. -/
def operators : List RawTag := [
    dotDotLess, dotDotDot, equalEqual, bangEqual, lessEqual, greaterEqual, shl, shr,
    ampersandAmpersand, pipePipe, arrow, fatArrow, dotDot, colonColon, questionQuestion, plusEqual,
    minusEqual, starEqual, slashEqual, percentEqual, plus, minus, star, slash, percent, caret,
    ampersand, pipe, tilde, bang, equal, less, greater, dot, question, colon, leftParen, rightParen,
    leftBracket, rightBracket, leftBrace, rightBrace, comma, semicolon, atSign, hash]

/-- The spelling that all lexemes of the tag share, if they share one. -/
def lexeme? : RawTag → Option String
  | plus => some "+"
  | minus => some "-"
  | star => some "*"
  | slash => some "/"
  | percent => some "%"
  | caret => some "^"
  | ampersand => some "&"
  | pipe => some "|"
  | tilde => some "~"
  | bang => some "!"
  | equal => some "="
  | less => some "<"
  | greater => some ">"
  | dot => some "."
  | question => some "?"
  | colon => some ":"
  | equalEqual => some "=="
  | bangEqual => some "!="
  | lessEqual => some "<="
  | greaterEqual => some ">="
  | shl => some "<<"
  | shr => some ">>"
  | ampersandAmpersand => some "&&"
  | pipePipe => some "||"
  | arrow => some "->"
  | fatArrow => some "=>"
  | dotDot => some ".."
  | dotDotLess => some "..<"
  | dotDotDot => some "..."
  | colonColon => some "::"
  | questionQuestion => some "??"
  | plusEqual => some "+="
  | minusEqual => some "-="
  | starEqual => some "*="
  | slashEqual => some "/="
  | percentEqual => some "%="
  | leftParen => some "("
  | rightParen => some ")"
  | leftBracket => some "["
  | rightBracket => some "]"
  | leftBrace => some "\x7b"
  | rightBrace => some "\x7d"
  | comma => some ","
  | semicolon => some ";"
  | atSign => some "@"
  | hash => some "#"
  | _ => none

/-- The operator whose spelling has exactly these bytes, as its tag. -/
def ofBytes? (bytes : List UInt8) : Option RawTag :=
  operators.find? fun t => t.lexeme?.any fun s => utf8Bytes s.toList == bytes

/-- The operator that a tag stands for. -/
def cookOperator? : RawTag → Option Operator
  | plus => some .plus
  | minus => some .minus
  | star => some .star
  | slash => some .slash
  | percent => some .percent
  | caret => some .caret
  | ampersand => some .ampersand
  | pipe => some .pipe
  | tilde => some .tilde
  | bang => some .bang
  | equal => some .equal
  | less => some .less
  | greater => some .greater
  | dot => some .dot
  | question => some .question
  | colon => some .colon
  | equalEqual => some .equalEqual
  | bangEqual => some .bangEqual
  | lessEqual => some .lessEqual
  | greaterEqual => some .greaterEqual
  | shl => some .shiftLeft
  | shr => some .shiftRight
  | ampersandAmpersand => some .ampersandAmpersand
  | pipePipe => some .pipePipe
  | arrow => some .arrow
  | fatArrow => some .fatArrow
  | dotDot => some .dotDot
  | dotDotLess => some .dotDotLess
  | dotDotDot => some .dotDotDot
  | colonColon => some .colonColon
  | questionQuestion => some .questionQuestion
  | plusEqual => some .plusEqual
  | minusEqual => some .minusEqual
  | starEqual => some .starEqual
  | slashEqual => some .slashEqual
  | percentEqual => some .percentEqual
  | leftParen => some .leftParen
  | rightParen => some .rightParen
  | leftBracket => some .leftBracket
  | rightBracket => some .rightBracket
  | leftBrace => some .leftBrace
  | rightBrace => some .rightBrace
  | comma => some .comma
  | semicolon => some .semicolon
  | atSign => some .atSign
  | hash => some .hash
  | _ => none

/-- The tag of a lexeme that is no operator. -/
def ofTag : (t : Tag) → t.group ≠ .operator → RawTag
  | .identifier, _ => ident
  | .integer .decimal, _ => int
  | .float, _ => float
  | .integer .hexadecimal, _ => hexInt
  | .integer .octal, _ => octInt
  | .integer .binary, _ => binInt
  | .string, _ => string
  | .operator _, h => absurd rfl h
  | .whitespace, _ => whitespace
  | .newline, _ => newline
  | .lineComment, _ => lineComment
  | .blockComment, _ => blockComment
  | .invalidChar, _ => invalidChar
  | .unterminatedString, _ => unterminatedString
  | .unterminatedBlockComment, _ => unterminatedBlockComment
  | .missingRadixDigits, _ => missingRadixDigits
  | .endOfInput, _ => eof

/-- The kind of a lexeme with the given tag and text. A tag that stands for no operator would be
taken for a character that begins nothing. -/
def cook (t : RawTag) (text : String) : Kind :=
  match t with
  | ident => (Keyword.lookup? text).elim .identifier .keyword
  | int => .literal (.integer .decimal)
  | hexInt => .literal (.integer .hexadecimal)
  | octInt => .literal (.integer .octal)
  | binInt => .literal (.integer .binary)
  | float => .literal .float
  | string => .literal .string
  | whitespace => .trivia .whitespace
  | newline => .trivia .newline
  | lineComment => .trivia .lineComment
  | blockComment => .trivia .blockComment
  | invalidChar => .malformed .unexpectedCharacter
  | unterminatedString => .malformed .unterminatedString
  | unterminatedBlockComment => .malformed .unterminatedBlockComment
  | missingRadixDigits => .malformed .missingRadixDigits
  | eof => .endOfUnit
  | op => op.cookOperator?.elim (.malformed .unexpectedCharacter) .operator

end RawTag

/-! ## Scanning and classifying -/

/-- A lexeme that has been taken off the text, with its plain tag. -/
structure RawToken where
  /-- The tag. -/
  tag : RawTag
  /-- The length in bytes. -/
  length : Nat
  /-- The cursor behind it. -/
  rest : Cursor
  deriving DecidableEq, Repr

namespace Cursor

/-- Whether the byte at the cursor sends the scanner to the operators: it is one of their marks, or
a slash that begins no comment. -/
def atOperator (c : Cursor) : Bool :=
  !c.atEnd && (c.peek 0 ∈ operatorMarks ∨ c.peek 0 = '/' ∧ c.peek 1 ≠ '/' ∧ c.peek 1 ≠ '*')

/-- No number is an operator. -/
theorem group_takeNumber_ne_operator (c : Cursor) : c.takeNumber.tag.group ≠ .operator := by
  have hdecimal : c.takeDecimal.tag.group ≠ .operator := by
    unfold takeDecimal finish
    dsimp only
    split <;> exact nofun
  unfold takeNumber
  split
  · split
    · next r _ =>
      unfold takeRadixInteger finish
      dsimp only
      split
      · cases r <;> exact nofun
      · exact nofun
    · exact hdecimal
  · exact hdecimal

/-- Elsewhere no operator is taken off. -/
theorem group_takeLexeme_ne_operator {c : Cursor} (h : c.atOperator = false) :
    c.takeLexeme.tag.group ≠ .operator := by
  unfold takeLexeme
  dsimp only
  split
  · exact nofun
  next hend =>
  have hmark : ¬(c.peek 0 ∈ operatorMarks ∨
      c.peek 0 = '/' ∧ c.peek 1 ≠ '/' ∧ c.peek 1 ≠ '*') := by
    rw [atOperator, Bool.eq_false_iff.2 hend, Bool.not_false, Bool.true_and] at h
    exact of_decide_eq_false h
  split
  · exact nofun
  split
  · unfold takeCarriageReturn
    split <;> exact nofun
  split
  · exact nofun
  split
  · exact nofun
  split
  · exact c.group_takeNumber_ne_operator
  split
  · unfold takeString finish
    dsimp only
    split <;> exact nofun
  split
  · next hslash =>
    unfold takeSlash finish
    dsimp only
    split
    · exact nofun
    split
    · split <;> exact nofun
    · next h1 h2 => exact absurd (Or.inr ⟨hslash, h1, h2⟩) hmark
  split
  · next hmem => exact absurd (Or.inl hmem) hmark
  split
  · unfold takeNonAscii
    split <;> exact nofun
  · exact nofun

/-- The operator at the cursor, found in the tables; where there is none, a character that begins
nothing. -/
def rawOperator (c : Cursor) : RawToken :=
  match startOf? RawTag.ofBytes? c.rest (min Operator.maxLength c.rest.length) with
  | some (t, n) => ⟨t, n, c.advance n⟩
  | none => ⟨.invalidChar, c.takeInvalid.length, c.takeInvalid.rest⟩

/-- The lexeme at the cursor. -/
def rawToken (c : Cursor) : RawToken :=
  if h : c.atOperator = true then c.rawOperator
  else ⟨.ofTag c.takeLexeme.tag (group_takeLexeme_ne_operator (Bool.eq_false_iff.2 h)),
    c.takeLexeme.length, c.takeLexeme.rest⟩

end Cursor

namespace Tokenizer

/-- The next token, and the tokenizer after it, by the tables. -/
def nextCooked (t : Tokenizer) : Option Token × Tokenizer :=
  if t.finished then (none, t)
  else
    let raw := t.cursor.rawToken
    let span : Span := ⟨t.cursor.pos, t.cursor.pos + raw.length⟩
    let text := (span.slice? t.cursor.source).getD ""
    (some ⟨raw.tag.cook text, text, span⟩, ⟨raw.rest, raw.tag == .eof⟩)

end Tokenizer

end LexicalFront
