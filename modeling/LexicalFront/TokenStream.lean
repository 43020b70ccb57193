import LexicalFront.Search
import LexicalFront.Token.Basic
set_option autoImplicit false
set_option relaxedAutoImplicit false

/-!
# Token streams

A token stream is a text together with its tokens, to be looked up by number or by byte offset.

## Main definitions

* `LexicalFront.TokenStream` — a text and its tokens.
* `LexicalFront.TokenStream.lex` — the stream of a text.
* `LexicalFront.TokenStream.indexAt?` — the number of the token at an offset, by binary search.
-/

namespace LexicalFront

/-- A text and its tokens. -/
structure TokenStream where
  /-- The text. -/
  source : String
  /-- The tokens, the end marker last. -/
  tokens : List Token
  deriving DecidableEq, Repr

namespace TokenStream

/-- The stream of a text. -/
def lex (source : String) : TokenStream := ⟨source, tokenize source⟩

/-- The number of tokens. -/
def length (s : TokenStream) : Nat := s.tokens.length

/-- Whether there are no tokens, which happens for no text. -/
def isEmpty (s : TokenStream) : Bool := s.tokens.isEmpty

/-- The token with a given number. -/
def get? (s : TokenStream) (i : Nat) : Option Token := s.tokens[i]?

/-- The tokens that are not trivia, the end marker among them. -/
def significant (s : TokenStream) : List Token := s.tokens.filter (!·.isTrivia)

/-- The malformed tokens. -/
def malformed (s : TokenStream) : List Token := s.tokens.filter (·.isMalformed)

/-- Whether the token with a given number ends at or before an offset. -/
def endsBy (s : TokenStream) (offset i : Nat) : Bool :=
  (s.tokens[i]?).any (·.span.stop ≤ offset)

/-- The number of the token that contains the byte at an offset; at the end of the text, that of
the end marker. The tokens lie one after the other, so that the search may halve them. -/
def indexAt? (s : TokenStream) (offset : Nat) : Option Nat :=
  if offset = s.source.utf8ByteSize then some (s.length - 1)
  else
    let i := partitionPoint (s.endsBy offset) 0 s.length
    if (s.tokens[i]?).any (·.span.contains offset) then some i else none

/-- The stream in inspection texts. -/
def inspect (s : TokenStream) : String :=
  "[" ++ ", ".intercalate (s.tokens.map Token.inspect) ++ "]"

end TokenStream

end LexicalFront
