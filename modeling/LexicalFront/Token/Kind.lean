import LexicalFront.Lexeme.Tag
import LexicalFront.Token.Keyword
set_option autoImplicit false
set_option relaxedAutoImplicit false

/-!
# Kinds of tokens

A token is classified by the tag of its lexeme and, for identifiers, by its text: reserved words
are told apart here. Values of literals are not computed.

## Main definitions

* `LexicalFront.Kind` — the kinds, with `Kind.describe` for readers and `Kind.inspect` for
  inspection texts.
* `LexicalFront.Kind.ofTag` — the kind of a lexeme.
-/

namespace LexicalFront

/-- Kinds of literals. -/
inductive LiteralKind where
  | integer (radix : Radix)
  | float
  | string
  deriving DecidableEq, Repr

/-- Kinds of text without a meaning of its own, kept so that the text can be put together again. -/
inductive TriviaKind where
  | whitespace
  | newline
  | lineComment
  | blockComment
  deriving DecidableEq, Repr

/-- What is wrong with a malformed lexeme. -/
inductive MalformedKind where
  | unexpectedCharacter
  | unterminatedString
  | unterminatedBlockComment
  | missingRadixDigits
  deriving DecidableEq, Repr

/-- Kinds of tokens. -/
inductive Kind where
  | keyword (word : Keyword)
  | operator (op : Operator)
  | identifier
  | literal (kind : LiteralKind)
  | trivia (kind : TriviaKind)
  | malformed (kind : MalformedKind)
  | endOfUnit
  deriving DecidableEq, Repr

namespace LiteralKind

/-- The name of the kind for readers. -/
def name : LiteralKind → String
  | integer _ => "integer"
  | float => "float"
  | string => "string"

/-- The kind in inspection texts. -/
def inspect : LiteralKind → String
  | integer r => s!"Integer({r.label})"
  | float => "Float"
  | string => "String"

end LiteralKind

namespace TriviaKind

/-- The name of the kind for readers. -/
def name : TriviaKind → String
  | whitespace => "whitespace"
  | newline => "newline"
  | lineComment => "line comment"
  | blockComment => "block comment"

/-- The kind in inspection texts. -/
def inspect : TriviaKind → String
  | whitespace => "Whitespace"
  | newline => "Newline"
  | lineComment => "LineComment"
  | blockComment => "BlockComment"

end TriviaKind

namespace MalformedKind

/-- The message for readers. -/
def message : MalformedKind → String
  | unexpectedCharacter => "unexpected character"
  | unterminatedString => "unterminated string literal"
  | unterminatedBlockComment => "unterminated block comment"
  | missingRadixDigits => "integer literal has no digits after its prefix"

/-- The kind in inspection texts. -/
def inspect : MalformedKind → String
  | unexpectedCharacter => "UnexpectedCharacter"
  | unterminatedString => "UnterminatedString"
  | unterminatedBlockComment => "UnterminatedBlockComment"
  | missingRadixDigits => "MissingRadixDigits"

end MalformedKind

namespace Kind

/-- The kind for readers. -/
def describe : Kind → String
  | keyword k => "keyword `" ++ k.spelling ++ "`"
  | operator o => "operator `" ++ o.spelling ++ "`"
  | identifier => "identifier"
  | literal l => l.name ++ " literal"
  | trivia t => t.name
  | malformed m => "malformed: " ++ m.message
  | endOfUnit => "end of unit"

/-- The kind in inspection texts. -/
def inspect : Kind → String
  | keyword k => s!"Keyword({k.label})"
  | operator o => s!"Operator({o.label})"
  | identifier => "Identifier"
  | literal l => s!"Literal({l.inspect})"
  | trivia t => s!"Trivia({t.inspect})"
  | malformed m => s!"Malformed({m.inspect})"
  | endOfUnit => "EndOfUnit"

/-- Whitespace, line breaks and comments. -/
def isTrivia : Kind → Bool
  | trivia _ => true
  | _ => false

/-- Lexemes that break off or begin nothing. -/
def isMalformed : Kind → Bool
  | malformed _ => true
  | _ => false

/-- The mark at the end of every sequence of tokens. -/
def isEnd : Kind → Bool
  | endOfUnit => true
  | _ => false

/-- The kind of a lexeme with the given tag and text. Only the kind of an identifier depends on
its text. -/
def ofTag (t : Tag) (text : String) : Kind :=
  match t with
  | .identifier => ((Keyword.ofSpelling? text).map keyword).getD identifier
  | .integer r => literal (.integer r)
  | .float => literal .float
  | .string => literal .string
  | .operator o => operator o
  | .whitespace => trivia .whitespace
  | .newline => trivia .newline
  | .lineComment => trivia .lineComment
  | .blockComment => trivia .blockComment
  | .invalidChar => malformed .unexpectedCharacter
  | .unterminatedString => malformed .unterminatedString
  | .unterminatedBlockComment => malformed .unterminatedBlockComment
  | .missingRadixDigits => malformed .missingRadixDigits
  | .endOfInput => endOfUnit

end Kind

end LexicalFront
