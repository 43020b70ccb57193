import LexicalFront.Lexeme.Basic
import LexicalFront.Text.Utf8
set_option autoImplicit false
set_option relaxedAutoImplicit false

/-!
# Cursors

A cursor is a byte position in a text. It may be moved anywhere, also inside a character or past
the end; reads past the end give the byte zero. The scanner can be started from every position.

## Main definitions

* `LexicalFront.Cursor` — a text and a position.
* `LexicalFront.Cursor.eatLine`, `LexicalFront.Cursor.skipToStringMark`,
  `LexicalFront.Cursor.eatBlockComment` — the bulk skips, by searching the remaining bytes.
* `LexicalFront.Cursor.scan` — the lexeme at the cursor.

## Main results

* `LexicalFront.Cursor.scan_length_pos` — before the end, every lexeme has a byte.
-/

namespace LexicalFront

/-! ## Searching bytes -/

/-- The index of the first byte that satisfies a test. -/
def findByte? (p : UInt8 → Bool) (bytes : List UInt8) : Option Nat :=
  bytes.findIdx? p

/-- The index of the first place where two given bytes follow each other. -/
def findPair? (a b : UInt8) : List UInt8 → Option Nat
  | x :: y :: bytes => if x == a && y == b then some 0 else (findPair? a b (y :: bytes)).map (1 + ·)
  | _ => none

/-- The earlier of two places, either of which may be missing. -/
def earliest? : Option Nat → Option Nat → Option Nat
  | some i, some j => some (min i j)
  | some i, none => some i
  | none, j => j

/-! ## Positions in a text -/

/-- A text with a byte position. -/
structure Cursor where
  /-- The text. -/
  source : String
  /-- The position. -/
  pos : Nat
  deriving DecidableEq, Repr

namespace Cursor

/-- The cursor at the start of a text. -/
def start (source : String) : Cursor := ⟨source, 0⟩

/-- The number of bytes of the text. -/
def sourceLength (c : Cursor) : Nat := c.source.utf8ByteSize

/-- Whether no byte is left. -/
def atEnd (c : Cursor) : Bool := c.sourceLength ≤ c.pos

/-- The bytes from the position to the end. -/
def rest (c : Cursor) : List UInt8 := (utf8Bytes c.source.toList).drop c.pos

/-- The characters from the position to the end, unless it is inside a character or past the
end. -/
def remaining? (c : Cursor) : Option (List Char) := dropBytes? c.pos c.source.toList

/-- The byte at some distance after the position; zero past the end. -/
def lookahead (c : Cursor) (distance : Nat) : UInt8 :=
  (utf8Bytes c.source.toList).getD (c.pos + distance) 0

/-- The byte at the position. -/
def current (c : Cursor) : UInt8 := c.lookahead 0

/-- The character that starts at the position. -/
def char? (c : Cursor) : Option Char := c.remaining?.bind List.head?

/-- The cursor moved by some bytes. -/
def advance (c : Cursor) (n : Nat) : Cursor := { c with pos := c.pos + n }

/-- The cursor moved past the character at the position, or by one byte if none starts there. -/
def advanceChar (c : Cursor) : Cursor := c.advance (c.char?.elim 1 Char.utf8Size)

/-- The text between two offsets; empty if the offsets fit no text. -/
def slice (c : Cursor) (start stop : Nat) : String := (sliceBytes? c.source start stop).getD ""

/-- The text from an offset up to the position. -/
def sliceFrom (c : Cursor) (start : Nat) : String := c.slice start c.pos

/-! ## Skips -/

/-- The cursor moved past the bytes that satisfy a test, one after the other. -/
def eatWhile (c : Cursor) (p : UInt8 → Bool) : Cursor := c.advance (c.rest.takeWhile p).length

/-- The cursor moved to the end of the text. -/
def toEnd (c : Cursor) : Cursor := { c with pos := c.sourceLength }

/-- The cursor moved to the next line feed or carriage return, or to the end. -/
def eatLine (c : Cursor) : Cursor :=
  match findByte? (fun b => b == 0x0a || b == 0x0d) c.rest with
  | some i => c.advance i
  | none => c.toEnd

/-- The cursor moved to the next byte that matters inside a string, which is returned: a quote, a
backslash, a line feed or a carriage return. Without any, it moves to the end and returns zero. -/
def skipToStringMark (c : Cursor) : Cursor × UInt8 :=
  match earliest? (findByte? (fun b => b == 0x22 || b == 0x5c || b == 0x0a) c.rest)
      (findByte? (· == 0x0d) c.rest) with
  | some i => (c.advance i, (c.advance i).current)
  | none => (c.toEnd, 0)

/-- The cursor moved past the next star and slash, and whether there is one; else to the end. -/
def eatBlockComment (c : Cursor) : Cursor × Bool :=
  match findPair? 0x2a 0x2f c.rest with
  | some i => (c.advance (i + 2), true)
  | none => (c.toEnd, false)

/-! ## Scanning -/

/-- The lexeme at the cursor, as its tag and its length in bytes. At the end it is the end of input,
of no length, as often as it is asked for. Inside a character each byte is a lexeme of its own. -/
def scan (c : Cursor) : Tag × Nat :=
  if c.atEnd then (.endOfInput, 0)
  else
    match c.remaining? with
    | some (x :: cs) =>
      let extent := firstExtent x cs
      (extent.tag, utf8Length (x :: cs.take extent.more))
    | _ => (.invalidChar, 1)

/-- The cursor after the lexeme at the cursor. -/
def afterScan (c : Cursor) : Cursor := c.advance c.scan.2

/-- Before the end, a lexeme has a byte. -/
theorem scan_length_pos {c : Cursor} (h : c.atEnd = false) : 0 < c.scan.2 := by
  unfold scan
  simp only [h, Bool.false_eq_true, if_false]
  split
  · next x cs _ =>
    have := x.utf8Size_pos
    simp only [utf8Length_cons]
    omega
  · exact Nat.zero_lt_one

end Cursor

end LexicalFront
