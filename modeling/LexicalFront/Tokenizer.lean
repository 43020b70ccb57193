import LexicalFront.Cursor
import LexicalFront.Token.Basic
set_option autoImplicit false
set_option relaxedAutoImplicit false

/-!
# Lazy tokenizing

A tokenizer hands out the tokens of a text one at a time. It is a value: a copy of it goes on
independently from the same point.

## Main definitions

* `LexicalFront.Tokenizer` — a cursor, and whether the end marker has been handed out.
* `LexicalFront.Tokenizer.next` — the next token.
* `LexicalFront.Tokenizer.sizeHint` — bounds on the number of tokens to come.
* `LexicalFront.Tokenizer.toList` — all tokens to come.
-/

namespace LexicalFront

/-- A text of which some tokens have been handed out. -/
structure Tokenizer where
  /-- Where the next token starts. -/
  cursor : Cursor
  /-- Whether the end marker has been handed out. -/
  finished : Bool
  deriving DecidableEq, Repr

namespace Tokenizer

/-- The tokenizer before the first token of a text. -/
def start (text : String) : Tokenizer := ⟨.start text, false⟩

/-- The token at a cursor. -/
def tokenAt (c : Cursor) : Token :=
  let span : Span := ⟨c.pos, c.pos + c.scan.2⟩
  let text := (span.slice? c.source).getD ""
  ⟨.ofTag c.scan.1 text, text, span⟩

/-- The next token, and the tokenizer after it. After the end marker there is none. -/
def next (t : Tokenizer) : Option Token × Tokenizer :=
  if t.finished then (none, t)
  else (some (tokenAt t.cursor), ⟨t.cursor.afterScan, t.cursor.scan.1 == .endOfInput⟩)

/-- A lower and an upper bound on the number of tokens to come: the end marker at least, and at
most one token for each remaining byte besides. -/
def sizeHint (t : Tokenizer) : Nat × Nat :=
  if t.finished then (0, 0) else (1, t.cursor.sourceLength - t.cursor.pos + 1)

/-- All tokens to come. -/
def toList (t : Tokenizer) : List Token :=
  if t.finished then []
  else if _h : t.cursor.atEnd = true then [tokenAt t.cursor]
  else tokenAt t.cursor :: toList ⟨t.cursor.afterScan, false⟩
termination_by t.cursor.sourceLength - t.cursor.pos
decreasing_by
  have hpos := Cursor.scan_length_pos (Bool.eq_false_iff.2 _h)
  have hlt : t.cursor.pos < t.cursor.sourceLength := by
    simpa [Cursor.atEnd] using _h
  show t.cursor.sourceLength - (t.cursor.pos + t.cursor.scan.2) <
    t.cursor.sourceLength - t.cursor.pos
  omega

/-- The tokenizer after all its tokens. -/
def exhaust (t : Tokenizer) : Tokenizer :=
  if t.finished then t else ⟨⟨t.cursor.source, max t.cursor.pos t.cursor.sourceLength⟩, true⟩

end Tokenizer

end LexicalFront
