set_option autoImplicit false
set_option relaxedAutoImplicit false

/-!
# Operators and punctuation

Every operator has one fixed spelling of at most three ASCII characters.

## Main definitions

* `LexicalFront.Operator` — the operators and punctuation marks.
* `LexicalFront.Operator.spelling` — how each is written.
* `LexicalFront.Operator.ofSpelling?` — the operator with a given spelling.
* `LexicalFront.Operator.longest?` — the longest operator that a text starts with.

## Main results

* `LexicalFront.Operator.mem_all` — the list of operators is complete.
* `LexicalFront.Operator.spelling_injective` — no two operators are spelled alike.
* `LexicalFront.Operator.ofSpelling?_spelling` — a spelling determines its operator.
-/

namespace LexicalFront

/-- Operators and punctuation marks. -/
inductive Operator where
  | plus
  | minus
  | star
  | slash
  | percent
  | caret
  | ampersand
  | pipe
  | tilde
  | bang
  | equal
  | less
  | greater
  | dot
  | question
  | colon
  | equalEqual
  | bangEqual
  | lessEqual
  | greaterEqual
  | shiftLeft
  | shiftRight
  | ampersandAmpersand
  | pipePipe
  | arrow
  | fatArrow
  | dotDot
  | dotDotLess
  | dotDotDot
  | colonColon
  | questionQuestion
  | plusEqual
  | minusEqual
  | starEqual
  | slashEqual
  | percentEqual
  | leftParen
  | rightParen
  | leftBracket
  | rightBracket
  | leftBrace
  | rightBrace
  | comma
  | semicolon
  | atSign
  | hash
  deriving DecidableEq, Repr

namespace Operator

/-- How the operator is written. -/
def spelling : Operator → String
  | .plus => "+"
  | .minus => "-"
  | .star => "*"
  | .slash => "/"
  | .percent => "%"
  | .caret => "^"
  | .ampersand => "&"
  | .pipe => "|"
  | .tilde => "~"
  | .bang => "!"
  | .equal => "="
  | .less => "<"
  | .greater => ">"
  | .dot => "."
  | .question => "?"
  | .colon => ":"
  | .equalEqual => "=="
  | .bangEqual => "!="
  | .lessEqual => "<="
  | .greaterEqual => ">="
  | .shiftLeft => "<<"
  | .shiftRight => ">>"
  | .ampersandAmpersand => "&&"
  | .pipePipe => "||"
  | .arrow => "->"
  | .fatArrow => "=>"
  | .dotDot => ".."
  | .dotDotLess => "..<"
  | .dotDotDot => "..."
  | .colonColon => "::"
  | .questionQuestion => "??"
  | .plusEqual => "+="
  | .minusEqual => "-="
  | .starEqual => "*="
  | .slashEqual => "/="
  | .percentEqual => "%="
  | .leftParen => "("
  | .rightParen => ")"
  | .leftBracket => "["
  | .rightBracket => "]"
  | .leftBrace => "\x7b"
  | .rightBrace => "\x7d"
  | .comma => ","
  | .semicolon => ";"
  | .atSign => "@"
  | .hash => "#"

/-- The name of the operator in inspection texts. -/
def label : Operator → String
  | .plus => "Plus"
  | .minus => "Minus"
  | .star => "Star"
  | .slash => "Slash"
  | .percent => "Percent"
  | .caret => "Caret"
  | .ampersand => "Amp"
  | .pipe => "Pipe"
  | .tilde => "Tilde"
  | .bang => "Bang"
  | .equal => "Eq"
  | .less => "Lt"
  | .greater => "Gt"
  | .dot => "Dot"
  | .question => "Question"
  | .colon => "Colon"
  | .equalEqual => "EqEq"
  | .bangEqual => "NotEq"
  | .lessEqual => "LtEq"
  | .greaterEqual => "GtEq"
  | .shiftLeft => "Shl"
  | .shiftRight => "Shr"
  | .ampersandAmpersand => "AmpAmp"
  | .pipePipe => "PipePipe"
  | .arrow => "Arrow"
  | .fatArrow => "FatArrow"
  | .dotDot => "DotDot"
  | .dotDotLess => "DotDotLt"
  | .dotDotDot => "DotDotDot"
  | .colonColon => "DoubleColon"
  | .questionQuestion => "DoubleQuestion"
  | .plusEqual => "PlusEq"
  | .minusEqual => "MinusEq"
  | .starEqual => "StarEq"
  | .slashEqual => "SlashEq"
  | .percentEqual => "PercentEq"
  | .leftParen => "LParen"
  | .rightParen => "RParen"
  | .leftBracket => "LBracket"
  | .rightBracket => "RBracket"
  | .leftBrace => "LBrace"
  | .rightBrace => "RBrace"
  | .comma => "Comma"
  | .semicolon => "Semicolon"
  | .atSign => "At"
  | .hash => "Hash"

/-- The number of the operator: operators proper from 32 on, punctuation from 80 on. -/
def code : Operator → Nat
  | .plus => 32
  | .minus => 33
  | .star => 34
  | .slash => 35
  | .percent => 36
  | .caret => 37
  | .ampersand => 38
  | .pipe => 39
  | .tilde => 40
  | .bang => 41
  | .equal => 42
  | .less => 43
  | .greater => 44
  | .dot => 45
  | .question => 46
  | .colon => 47
  | .equalEqual => 48
  | .bangEqual => 49
  | .lessEqual => 50
  | .greaterEqual => 51
  | .shiftLeft => 52
  | .shiftRight => 53
  | .ampersandAmpersand => 54
  | .pipePipe => 55
  | .arrow => 56
  | .fatArrow => 57
  | .dotDot => 58
  | .dotDotLess => 59
  | .dotDotDot => 60
  | .colonColon => 61
  | .questionQuestion => 62
  | .plusEqual => 63
  | .minusEqual => 64
  | .starEqual => 65
  | .slashEqual => 66
  | .percentEqual => 67
  | .leftParen => 80
  | .rightParen => 81
  | .leftBracket => 82
  | .rightBracket => 83
  | .leftBrace => 84
  | .rightBrace => 85
  | .comma => 86
  | .semicolon => 87
  | .atSign => 88
  | .hash => 89

/-- All operators, longest spellings first. -/
def all : List Operator := [
    .dotDotLess, .dotDotDot, .equalEqual, .bangEqual, .lessEqual, .greaterEqual, .shiftLeft,
    .shiftRight, .ampersandAmpersand, .pipePipe, .arrow, .fatArrow, .dotDot, .colonColon,
    .questionQuestion, .plusEqual, .minusEqual, .starEqual, .slashEqual, .percentEqual, .plus,
    .minus, .star, .slash, .percent, .caret, .ampersand, .pipe, .tilde, .bang, .equal, .less,
    .greater, .dot, .question, .colon, .leftParen, .rightParen, .leftBracket, .rightBracket,
    .leftBrace, .rightBrace, .comma, .semicolon, .atSign, .hash]

/-- The number of characters of the longest spelling. -/
def maxLength : Nat := 3

/-- The operator that is written exactly so. -/
def ofSpelling? (s : String) : Option Operator :=
  all.find? fun o => o.spelling == s

/-- The longest operator that the text starts with. Since longer spellings come first in `all`,
it is the first one that fits. -/
def longest? (cs : List Char) : Option Operator :=
  all.find? fun o => o.spelling.toList.isPrefixOf cs

/-- Every operator is listed. -/
theorem mem_all (o : Operator) : o ∈ all := by
  cases o <;> decide

/-- The operator found for a text is written so. -/
theorem spelling_of_ofSpelling? {s : String} {o : Operator} (h : ofSpelling? s = some o) :
    o.spelling = s := by
  simpa using List.find?_some h

/-- The spelling of an operator determines it. -/
@[simp] theorem ofSpelling?_spelling (o : Operator) : ofSpelling? o.spelling = some o := by
  cases o <;> decide

/-- Operators that are spelled alike are the same. -/
theorem spelling_injective {a b : Operator} (h : a.spelling = b.spelling) : a = b := by
  simpa using congrArg ofSpelling? h

/-- No spelling is empty, and none is longer than `maxLength`. -/
theorem length_spelling (o : Operator) :
    0 < o.spelling.toList.length ∧ o.spelling.toList.length ≤ maxLength := by
  cases o <;> decide

end Operator

end LexicalFront
