import LexicalFront.Lexeme.Basic
import LexicalFront.Text.Quoted
import LexicalFront.Token.Kind
import LexicalFront.Token.Span
set_option autoImplicit false
set_option relaxedAutoImplicit false

/-!
# Tokens

A token is a lexeme with its kind and its place. The tokens of a text are those of its lexemes,
followed by a mark at the end of the text.

## Main definitions

* `LexicalFront.Token` — kind, text and span.
* `LexicalFront.tokenize` — the tokens of a text.
-/

namespace LexicalFront

/-- A classified piece of a text. -/
structure Token where
  /-- What it is. -/
  kind : Kind
  /-- The characters. -/
  text : String
  /-- The place, in bytes. -/
  span : Span
  deriving DecidableEq, Repr

namespace Token

/-- The mark at the end of a text of some length. -/
def endMarker (offset : Nat) : Token := ⟨.endOfUnit, "", .point offset⟩

/-- The token of a lexeme that starts at some offset. -/
def ofLexeme (start : Nat) (l : Lexeme) : Token :=
  ⟨.ofTag l.tag (String.ofList l.chars), String.ofList l.chars,
    ⟨start, start + utf8Length l.chars⟩⟩

/-- The tokens of lexemes that follow each other from some offset on, and the end marker. -/
def ofLexemes (start : Nat) : List Lexeme → List Token
  | [] => [endMarker start]
  | l :: ls => ofLexeme start l :: ofLexemes (start + utf8Length l.chars) ls

/-- Whitespace, line breaks and comments. -/
def isTrivia (t : Token) : Bool := t.kind.isTrivia

/-- Lexemes that break off or begin nothing. -/
def isMalformed (t : Token) : Bool := t.kind.isMalformed

/-- The mark at the end. -/
def isEnd (t : Token) : Bool := t.kind.isEnd

/-- The token in inspection texts. -/
def inspect (t : Token) : String :=
  "Token \x7b kind: " ++ t.kind.inspect ++ ", text: " ++ quoted t.text ++ ", span: " ++
    t.span.render ++ " \x7d"

end Token

/-- The tokens of a text, whitespace and comments included, with the end marker last. -/
def tokenize (text : String) : List Token :=
  Token.ofLexemes 0 (lexemes text.toList)

end LexicalFront
